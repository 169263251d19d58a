import TabletRoster.Instance
import TabletRoster.Json.Record
import TabletRoster.Json.Writer

namespace TabletRoster

def Address.fromJson : Json.Reader Address := do
  match Address.parse (← Json.text) with
  | .ok address => return address
  | .error error => throw (.shape error.message)

def Address.toJson (address : Address) : Bytes :=
  Json.writeString address.text

/-- What a server publishes in its lock entry. -/
structure Ticket where
  address : Address
  group : String
  deriving DecidableEq, Repr, Inhabited

namespace Ticket

structure Draft where
  address : Option Address := none
  group : Option String := none

def layout : Json.Record Draft Ticket where
  title := "struct LockData"
  arrayTitle := Json.arrayTitle "struct LockData" 2
  closed := false
  empty := {}
  fields := [
    ⟨"address", fun draft => draft.address.isSome,
      fun draft => do return { draft with address := ← Address.fromJson }⟩,
    ⟨"group", fun draft => draft.group.isSome,
      fun draft => do return { draft with group := ← Json.text }⟩]
  finish draft := do
    return ⟨← Json.required "address" draft.address, ← Json.required "group" draft.group⟩

def decode (data : Bytes) : Except Json.Fault Ticket :=
  Json.readAll layout.read data

def encode (ticket : Ticket) : Bytes :=
  Json.writeRecord [("address", ticket.address.toJson), ("group", Json.writeString ticket.group)]

end Ticket

/-- The holder of a lock, as one read of the namespace found it. -/
structure Holder where
  address : Address
  group : String
  session : String
  revision : Int
  deriving DecidableEq, Repr

def Holder.of (ticket : Ticket) (session : String) (revision : Int) : Holder :=
  ⟨ticket.address, ticket.group, session, revision⟩

def Holder.instance (holder : Holder) : Instance :=
  ⟨holder.address, holder.session⟩

namespace Instance

structure Draft where
  address : Option Address := none
  session : Option String := none

def layout : Json.Record Draft Instance where
  title := "struct ServerInstance"
  arrayTitle := Json.arrayTitle "struct ServerInstance" 2
  closed := false
  empty := {}
  fields := [
    ⟨"address", fun draft => draft.address.isSome,
      fun draft => do return { draft with address := ← Address.fromJson }⟩,
    ⟨"session", fun draft => draft.session.isSome,
      fun draft => do return { draft with session := ← Json.text }⟩]
  finish draft := do
    return ⟨← Json.required "address" draft.address, ← Json.required "session" draft.session⟩

def decode (data : Bytes) : Except Json.Fault Instance :=
  Json.readAll layout.read data

def encode (i : Instance) : Bytes :=
  Json.writeRecord [("address", i.address.toJson), ("session", Json.writeString i.session)]

end Instance
end TabletRoster
