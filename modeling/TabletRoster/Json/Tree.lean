import TabletRoster.Json.Record
import TabletRoster.Json.Writer

namespace TabletRoster.Json

inductive Tree where
  | null
  | boolean (b : Bool)
  | number (n : Number)
  | text (s : String)
  | list (items : List Tree)
  | record (members : List (String × Tree))
  deriving Inhabited

namespace Tree

def put {α : Type} (key : String) (value : α) : List (String × α) → List (String × α)
  | [] => [(key, value)]
  | (k, v) :: rest =>
    if key < k then (key, value) :: (k, v) :: rest
    else if key = k then (key, value) :: rest
    else (k, v) :: put key value rest

def ofMembers (members : List (String × Tree)) : Tree :=
  .record (members.foldl (fun sorted (key, value) => put key value sorted) [])

def read (depth : Nat) : Reader Tree := fun text =>
  match dropSpace text with
  | [] => .error .truncated
  | 0x6E :: rest => do return (.null, (← word ull rest).2)
  | 0x74 :: rest => do return (.boolean true, (← word rue rest).2)
  | 0x66 :: rest => do return (.boolean false, (← word alse rest).2)
  | 0x22 :: rest => do
    let (s, rest) ← string rest
    return (.text s, rest)
  | 0x2D :: rest => do
    let (n, rest) ← Json.number false rest
    return (.number n, rest)
  | 0x5B :: rest =>
    match depth with
    | 0 => .error .malformed
    | depth + 1 => do
      let (items, rest) ← Json.list (read depth) (0x5B :: rest)
      return (.list items, rest)
  | 0x7B :: rest =>
    match depth with
    | 0 => .error .malformed
    | depth + 1 => do
      let (members, rest) ← entries (read depth) (0x7B :: rest)
      return (ofMembers members, rest)
  | text =>
    if startsDigit text then do
      let (n, rest) ← Json.number true text
      return (.number n, rest)
    else .error .malformed

def parse (text : Bytes) : Except Fault Tree :=
  readAll (read 127) text

def writeNumber : Number → Bytes
  | .natural n => digits n.toNat
  | .negative n => writeInt n.toInt
  | .decimal x => writeFloat x

mutual

def write : Tree → Bytes
  | .null => writeNull
  | .boolean b => Text.Utf8.encode (if b then "true" else "false")
  | .number n => writeNumber n
  | .text s => writeString s
  | .list items => writeList (writeItems items)
  | .record members => writeRecord (writeEntries members)

def writeItems : List Tree → List Bytes
  | [] => []
  | item :: rest => write item :: writeItems rest

def writeEntries : List (String × Tree) → List (String × Bytes)
  | [] => []
  | (key, value) :: rest => (key, write value) :: writeEntries rest

end

def describe : Tree → String
  | .null => "null"
  | .boolean b => s!"boolean `{b}`"
  | .number n => n.describe
  | .text s => s!"string {Text.quoted s}"
  | .list _ => "sequence"
  | .record _ => "map"

def member? (key : String) : Tree → Option Tree
  | .record members => members.lookup key
  | _ => none

end Tree
end TabletRoster.Json
