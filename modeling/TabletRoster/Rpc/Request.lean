import TabletRoster.Extent

namespace TabletRoster.Rpc

/-- Names the manager lock's key and the session that holds it. -/
structure LockToken where
  path : String
  session : String
  deriving DecidableEq, Repr, Inhabited

inductive UnloadGoal where
  | unknown
  | unassigned
  | suspended
  | deleted
  deriving DecidableEq, Repr

structure Timestamp where
  seconds : Nat
  nanoseconds : Nat
  deriving DecidableEq, Repr

inductive Request where
  | load (lock : LockToken) (extent : Extent)
  | unload (lock : LockToken) (extent : Extent) (goal : UnloadGoal) (time : Timestamp)
  | status (lock : LockToken)
  | halt (lock : LockToken)
  | fastHalt (lock : LockToken)
  | flush (lock : LockToken) (table : String) (startRow endRow : Row)
  deriving DecidableEq, Repr

def Request.lock : Request → LockToken
  | .load lock _ => lock
  | .unload lock _ _ _ => lock
  | .status lock => lock
  | .halt lock => lock
  | .fastHalt lock => lock
  | .flush lock _ _ _ => lock

namespace LockToken

structure Draft where
  path : Option String := none
  session : Option String := none

def layout : Json.Record Draft LockToken where
  title := "struct ManagerLockToken"
  arrayTitle := Json.arrayTitle "struct ManagerLockToken" 2
  closed := false
  empty := {}
  fields := [
    ⟨"path", fun draft => draft.path.isSome,
      fun draft => do return { draft with path := ← Json.text }⟩,
    ⟨"session", fun draft => draft.session.isSome,
      fun draft => do return { draft with session := ← Json.text }⟩]
  finish draft := do
    return ⟨← Json.required "path" draft.path, ← Json.required "session" draft.session⟩

def toJson (token : LockToken) : Bytes :=
  Json.writeRecord [("path", Json.writeString token.path),
    ("session", Json.writeString token.session)]

end LockToken

namespace UnloadGoal

def name : UnloadGoal → String
  | .unknown => "Unknown"
  | .unassigned => "Unassigned"
  | .suspended => "Suspended"
  | .deleted => "Deleted"

def all : List UnloadGoal := [.unknown, .unassigned, .suspended, .deleted]

def fromJson : Json.Reader UnloadGoal :=
  Json.union (all.map fun goal => (goal.name, .unit goal))

def toJson (goal : UnloadGoal) : Bytes :=
  Json.writeString goal.name

end UnloadGoal

namespace Timestamp

structure Draft where
  seconds : Option Nat := none
  nanoseconds : Option Nat := none

/-- Whole seconds among the nanoseconds are carried over. The seconds of a time are below
`2 ^ 63`. -/
def ofParts (seconds nanoseconds : Nat) : Except Json.Fault Timestamp :=
  let whole := seconds + nanoseconds / 1000000000
  if Nat.pow 2 64 ≤ whole then .error (.shape "overflow deserializing SystemTime epoch offset")
  else if Nat.pow 2 63 ≤ whole then .error (.shape "overflow deserializing SystemTime")
  else .ok ⟨whole, nanoseconds % 1000000000⟩

def layout : Json.Record Draft Timestamp where
  title := "struct SystemTime"
  arrayTitle := "struct SystemTime"
  closed := true
  empty := {}
  fields := [
    ⟨"secs_since_epoch", fun draft => draft.seconds.isSome,
      fun draft => do return { draft with seconds := ← Json.natural 64 }⟩,
    ⟨"nanos_since_epoch", fun draft => draft.nanoseconds.isSome,
      fun draft => do return { draft with nanoseconds := ← Json.natural 32 }⟩]
  finish draft := do
    ofParts (← Json.required "secs_since_epoch" draft.seconds)
      (← Json.required "nanos_since_epoch" draft.nanoseconds)

def toJson (time : Timestamp) : Bytes :=
  Json.writeRecord [("secs_since_epoch", Json.digits time.seconds),
    ("nanos_since_epoch", Json.digits time.nanoseconds)]

end Timestamp

namespace Request

structure Draft where
  lock : Option LockToken := none
  extent : Option Extent := none
  goal : Option UnloadGoal := none
  time : Option Timestamp := none
  table : Option String := none
  startRow : Option Row := none
  endRow : Option Row := none

def lockField : Json.Field Draft :=
  ⟨"lock", fun draft => draft.lock.isSome,
    fun draft => do return { draft with lock := ← LockToken.layout.read }⟩

def extentField : Json.Field Draft :=
  ⟨"extent", fun draft => draft.extent.isSome,
    fun draft => do return { draft with extent := ← Extent.layout.read }⟩

def goalField : Json.Field Draft :=
  ⟨"goal", fun draft => draft.goal.isSome,
    fun draft => do return { draft with goal := ← UnloadGoal.fromJson }⟩

def timeField : Json.Field Draft :=
  ⟨"request_time", fun draft => draft.time.isSome,
    fun draft => do return { draft with time := ← Timestamp.layout.read }⟩

def tableField : Json.Field Draft :=
  ⟨"table_id", fun draft => draft.table.isSome,
    fun draft => do return { draft with table := ← Json.text }⟩

def startField : Json.Field Draft :=
  ⟨"start_row", fun draft => draft.startRow.isSome,
    fun draft => do return { draft with startRow := some (← Row.fromJson) }⟩

def endField : Json.Field Draft :=
  ⟨"end_row", fun draft => draft.endRow.isSome,
    fun draft => do return { draft with endRow := some (← Row.fromJson) }⟩

def kindLayout (name : String) (fields : List (Json.Field Draft))
    (finish : Draft → Except Json.Fault Request) : Json.Record Draft Request :=
  let title := s!"struct variant Request::{name}"
  ⟨title, Json.arrayTitle title fields.length, false, {}, fields, finish⟩

def kind (name : String) (fields : List (Json.Field Draft))
    (finish : Draft → Except Json.Fault Request) : String × Json.Payload Request :=
  (name, .record (kindLayout name fields finish).read)

def kinds : List (String × Json.Payload Request) := [
  kind "LoadTablet" [lockField, extentField] fun draft => do
    return .load (← Json.required "lock" draft.lock) (← Json.required "extent" draft.extent),
  kind "UnloadTablet" [lockField, extentField, goalField, timeField] fun draft => do
    return .unload (← Json.required "lock" draft.lock) (← Json.required "extent" draft.extent)
      (← Json.required "goal" draft.goal) (← Json.required "request_time" draft.time),
  kind "GetStatus" [lockField] fun draft => do
    return .status (← Json.required "lock" draft.lock),
  kind "Halt" [lockField] fun draft => do
    return .halt (← Json.required "lock" draft.lock),
  kind "FastHalt" [lockField] fun draft => do
    return .fastHalt (← Json.required "lock" draft.lock),
  kind "Flush" [lockField, tableField, startField, endField] fun draft => do
    return .flush (← Json.required "lock" draft.lock) (← Json.required "table_id" draft.table)
      draft.startRow.join draft.endRow.join]

def decode (data : Bytes) : Except Json.Fault Request :=
  Json.readAll (Json.union kinds) data

def encode : Request → Bytes
  | .load lock extent =>
    Json.writeRecord [("LoadTablet", Json.writeRecord [("lock", lock.toJson),
      ("extent", extent.toJson)])]
  | .unload lock extent goal time =>
    Json.writeRecord [("UnloadTablet", Json.writeRecord [("lock", lock.toJson),
      ("extent", extent.toJson), ("goal", goal.toJson), ("request_time", time.toJson)])]
  | .status lock => Json.writeRecord [("GetStatus", Json.writeRecord [("lock", lock.toJson)])]
  | .halt lock => Json.writeRecord [("Halt", Json.writeRecord [("lock", lock.toJson)])]
  | .fastHalt lock => Json.writeRecord [("FastHalt", Json.writeRecord [("lock", lock.toJson)])]
  | .flush lock table startRow endRow =>
    Json.writeRecord [("Flush", Json.writeRecord [("lock", lock.toJson),
      ("table_id", Json.writeString table), ("start_row", Row.toJson startRow),
      ("end_row", Row.toJson endRow)])]

end Request
end TabletRoster.Rpc
