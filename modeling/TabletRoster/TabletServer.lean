import TabletRoster.Framing.Inbox
import TabletRoster.Keys.Coordinator
import TabletRoster.Rpc.Request
import TabletRoster.Rpc.Response

/-!
A tablet server. It hosts tablets, answers the manager's requests, and refuses those whose
manager lock is not held.
-/
namespace TabletRoster

structure TabletServer where
  address : Address
  tablets : List Extent
  lookups : Nat
  /-- Whether it was told to halt since that was last asked. -/
  halting : Bool
  deriving DecidableEq, Repr

namespace TabletServer

def start (address : Address) : TabletServer := ⟨address, [], 0, false⟩

def load (server : TabletServer) (extent : Extent) : TabletServer :=
  if extent ∈ server.tablets then server
  else { server with tablets := extent :: server.tablets }

def unload (server : TabletServer) (extent : Extent) : TabletServer :=
  { server with tablets := server.tablets.filter (· ≠ extent) }

def countTablet (tables : Rpc.Tables) (extent : Extent) : Rpc.Tables :=
  let info := (tables[extent.table]?).getD .empty
  tables.insert extent.table { info with onlineTablets := info.onlineTablets + 1 }

def status (server : TabletServer) (now : Nat) : Rpc.Status where
  name := server.address.text
  version := "0.1.0"
  lastContact := now
  holdTime := 0
  lookups := server.lookups
  tables := server.tablets.foldl countTablet ∅

inductive Refusal where
  | notHeld (path : String)
  | store (fault : StoreFault)
  deriving DecidableEq, Repr

def Refusal.message : Refusal → String
  | .notHeld path => s!"manager lock {path} is not held"
  | .store fault => fault.fullText

section

variable {σ : Type} [Keys.Engine σ]

/-- Asks the store whether the key of the manager lock is there. -/
def checkLock (service : Keys.Service σ) (lock : Rpc.LockToken) : Except Refusal Unit :=
  if !service.answers then .error (.store service.wording.outage)
  else if service.entries.contains (Text.Utf8.encode lock.path) then .ok ()
  else .error (.notHeld lock.path)

def execute (server : TabletServer) (now : Nat) : Rpc.Request → Rpc.Response × TabletServer
  | .load _ extent => (.done, server.load extent)
  | .unload _ extent _ _ => (.done, server.unload extent)
  | .status _ =>
    let server := { server with lookups := server.lookups + 1 }
    (.status (server.status now), server)
  | .halt _ => (.done, { server with halting := true })
  | .fastHalt _ => (.done, { server with halting := true })
  | .flush _ _ _ _ => (.done, server)

/-- Answers a request; one that is refused changes nothing. -/
def handle (server : TabletServer) (service : Keys.Service σ) (now : Nat)
    (request : Rpc.Request) : Rpc.Response × TabletServer :=
  match checkLock service request.lock with
  | .error refusal => (.failed refusal.message, server)
  | .ok () => server.execute now request

inductive Closing where
  | clean
  | frame (error : Framing.FrameError)
  | request (fault : Json.Fault)
  | reply (error : Framing.FrameError)
  | waiting
  deriving DecidableEq, Repr

/-- Serves one connection: writes a reply to each request in order, until the peer closes it or
sends what is no request. `clock` tells when each request is handled and `order` how the tables of
its reply are arranged, by how many were served before it. The fuel bounds the number of packets. -/
def serveFor (service : Keys.Service σ) (clock : Nat → Nat) (order : Nat → Rpc.Arrangement) :
    (fuel served : Nat) → TabletServer → Framing.Inbox → Framing.Arrivals →
    List ByteArray × TabletServer × Closing
  | 0, _, server, _, _ => ([], server, .waiting)
  | fuel + 1, served, server, inbox, arrivals =>
    match inbox.next arrivals with
    | (.finished, _, _) => ([], server, .clean)
    | (.waiting, _, _) => ([], server, .waiting)
    | (.fault error, _, _) => ([], server, .frame error)
    | (.packet body, inbox, arrivals) =>
      match Rpc.Request.decode body.data.toList with
      | .error fault => ([], server, .request fault)
      | .ok request =>
        let (response, server) := server.handle service (clock served) request
        match Framing.encode ⟨(response.encode (order served)).toArray⟩ .empty with
        | .error error => ([], server, .reply error)
        | .ok written =>
          let (later, server, closing) :=
            serveFor service clock order fuel (served + 1) server inbox arrivals
          (written :: later, server, closing)

/-- Serves a connection from its begin. Every packet takes at least four bytes. -/
def serve (server : TabletServer) (service : Keys.Service σ) (clock : Nat → Nat)
    (order : Nat → Rpc.Arrangement) (arrivals : Framing.Arrivals) :
    List ByteArray × TabletServer × Closing :=
  let bytes := arrivals.pieces.foldl (fun total piece => total + piece.size) 0
  serveFor service clock order (bytes + 1) 0 server .empty arrivals

end

end TabletServer
end TabletRoster
