import Std.Data.ExtTreeMap
import TabletRoster.Json.Record
import TabletRoster.Json.Writer

namespace TabletRoster.Rpc

structure TableInfo where
  onlineTablets : Nat
  ingestRate : Float
  queryRate : Float
  deriving Inhabited

def TableInfo.empty : TableInfo := ⟨0, 0, 0⟩

abbrev Tables := Std.ExtTreeMap String TableInfo compare

/-- In which order the tables of a status are written down. -/
structure Arrangement where
  list : Tables → List (String × TableInfo)
  perm : ∀ tables, (list tables).Perm tables.toList

def Arrangement.byKey : Arrangement := ⟨fun tables => tables.toList, fun _ => .refl _⟩

structure Status where
  name : String
  version : String
  lastContact : Nat
  holdTime : Nat
  lookups : Nat
  tables : Tables

instance : Inhabited Status := ⟨⟨"", "", 0, 0, 0, ∅⟩⟩

inductive Response where
  | done
  | status (status : Status)
  | failed (message : String)

namespace TableInfo

structure Draft where
  onlineTablets : Option Nat := none
  ingestRate : Option Float := none
  queryRate : Option Float := none

def layout : Json.Record Draft TableInfo where
  title := "struct TableInfo"
  arrayTitle := Json.arrayTitle "struct TableInfo" 3
  closed := false
  empty := {}
  fields := [
    ⟨"online_tablets", fun draft => draft.onlineTablets.isSome,
      fun draft => do return { draft with onlineTablets := ← Json.natural 32 }⟩,
    ⟨"ingest_rate", fun draft => draft.ingestRate.isSome,
      fun draft => do return { draft with ingestRate := ← Json.float }⟩,
    ⟨"query_rate", fun draft => draft.queryRate.isSome,
      fun draft => do return { draft with queryRate := ← Json.float }⟩]
  finish draft := do
    return ⟨← Json.required "online_tablets" draft.onlineTablets,
      ← Json.required "ingest_rate" draft.ingestRate,
      ← Json.required "query_rate" draft.queryRate⟩

def toJson (info : TableInfo) : Bytes :=
  Json.writeRecord [("online_tablets", Json.digits info.onlineTablets),
    ("ingest_rate", Json.writeFloat info.ingestRate),
    ("query_rate", Json.writeFloat info.queryRate)]

def describe (info : TableInfo) : String :=
  "TableInfo \x7b " ++ s!"online_tablets: {info.onlineTablets}, " ++
    s!"ingest_rate: {Text.debugDecimal info.ingestRate}, " ++
    s!"query_rate: {Text.debugDecimal info.queryRate}" ++ " \x7d"

end TableInfo

namespace Status

structure Draft where
  name : Option String := none
  version : Option String := none
  lastContact : Option Nat := none
  holdTime : Option Nat := none
  lookups : Option Nat := none
  tables : Option Tables := none

/-- Reads tables by their ids; of two with one id the later one counts. -/
def tablesFromJson : Json.Reader Tables := do
  let entries ← Json.entries TableInfo.layout.read
  return .ofList entries compare

def layout : Json.Record Draft Status where
  title := "struct TabletServerStatus"
  arrayTitle := Json.arrayTitle "struct TabletServerStatus" 6
  closed := false
  empty := {}
  fields := [
    ⟨"name", fun draft => draft.name.isSome,
      fun draft => do return { draft with name := ← Json.text }⟩,
    ⟨"version", fun draft => draft.version.isSome,
      fun draft => do return { draft with version := ← Json.text }⟩,
    ⟨"last_contact", fun draft => draft.lastContact.isSome,
      fun draft => do return { draft with lastContact := ← Json.natural 64 }⟩,
    ⟨"hold_time", fun draft => draft.holdTime.isSome,
      fun draft => do return { draft with holdTime := ← Json.natural 64 }⟩,
    ⟨"lookups", fun draft => draft.lookups.isSome,
      fun draft => do return { draft with lookups := ← Json.natural 64 }⟩,
    ⟨"table_map", fun draft => draft.tables.isSome,
      fun draft => do return { draft with tables := ← tablesFromJson }⟩]
  finish draft := do
    return ⟨← Json.required "name" draft.name, ← Json.required "version" draft.version,
      ← Json.required "last_contact" draft.lastContact,
      ← Json.required "hold_time" draft.holdTime, ← Json.required "lookups" draft.lookups,
      ← Json.required "table_map" draft.tables⟩

def toJson (order : Arrangement) (status : Status) : Bytes :=
  let tables := (order.list status.tables).map fun (id, info) => (id, info.toJson)
  Json.writeRecord [("name", Json.writeString status.name),
    ("version", Json.writeString status.version),
    ("last_contact", Json.digits status.lastContact),
    ("hold_time", Json.digits status.holdTime),
    ("lookups", Json.digits status.lookups),
    ("table_map", Json.writeRecord tables)]

def describe (order : Arrangement) (status : Status) : String :=
  let tables := (order.list status.tables).map fun (id, info) =>
    s!"{Text.quoted id}: {info.describe}"
  "TabletServerStatus \x7b " ++ s!"name: {Text.quoted status.name}, " ++
    s!"version: {Text.quoted status.version}, last_contact: {status.lastContact}, " ++
    s!"hold_time: {status.holdTime}, lookups: {status.lookups}, " ++
    "table_map: \x7b" ++ String.intercalate ", " tables ++ "\x7d, response_time: 0ns \x7d"

end Status

namespace Response

def kinds : List (String × Json.Payload Response) := [
  ("Done", .unit .done),
  ("Status", .value do return .status (← Status.layout.read)),
  ("Failed", .value do return .failed (← Json.text))]

def decode (data : Bytes) : Except Json.Fault Response :=
  Json.readAll (Json.union kinds) data

def encode (order : Arrangement) : Response → Bytes
  | .done => Json.writeString "Done"
  | .status report => Json.writeRecord [("Status", report.toJson order)]
  | .failed message => Json.writeRecord [("Failed", Json.writeString message)]

def describe (order : Arrangement) : Response → String
  | .done => "Done"
  | .status report => s!"Status({report.describe order})"
  | .failed message => s!"Failed({Text.quoted message})"

end Response
end TabletRoster.Rpc
