import TabletRoster.Json.Record
import TabletRoster.Json.Writer

namespace TabletRoster

abbrev Row := Option Bytes

structure Extent where
  table : String
  endRow : Row
  prevRow : Row
  deriving DecidableEq, Repr, Hashable, Inhabited

namespace Extent

def isMetadata (extent : Extent) : Bool :=
  extent.table = "+r" || extent.table = "!0"

def text (extent : Extent) : String :=
  let upTo := match extent.endRow with
    | some row => s!";{Text.Utf8.lossy row}"
    | none => ""
  let after := match extent.prevRow with
    | some row => Text.Utf8.lossy row
    | none => if extent.endRow.isSome then "" else "<"
  s!"{extent.table}{upTo}<{after}"

end Extent

namespace Row

def fromJson : Json.Reader Row := do
  return (← Json.optional (Json.list (Json.natural 8))).map (·.map (·.toUInt8))

def toJson : Row → Bytes :=
  Json.writeOptional fun row => Json.writeList (row.map fun b => Json.digits b.toNat)

end Row

namespace Extent

structure Draft where
  table : Option String := none
  endRow : Option Row := none
  prevRow : Option Row := none

def layout : Json.Record Draft Extent where
  title := "struct KeyExtent"
  arrayTitle := Json.arrayTitle "struct KeyExtent" 3
  closed := false
  empty := {}
  fields := [
    ⟨"table_id", fun draft => draft.table.isSome,
      fun draft => do return { draft with table := ← Json.text }⟩,
    ⟨"end_row", fun draft => draft.endRow.isSome,
      fun draft => do return { draft with endRow := some (← Row.fromJson) }⟩,
    ⟨"prev_end_row", fun draft => draft.prevRow.isSome,
      fun draft => do return { draft with prevRow := some (← Row.fromJson) }⟩]
  finish draft := do
    return ⟨← Json.required "table_id" draft.table, draft.endRow.join, draft.prevRow.join⟩

def toJson (extent : Extent) : Bytes :=
  Json.writeRecord [("table_id", Json.writeString extent.table),
    ("end_row", Row.toJson extent.endRow), ("prev_end_row", Row.toJson extent.prevRow)]

end Extent
end TabletRoster
