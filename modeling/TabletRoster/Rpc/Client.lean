import TabletRoster.Framing.Inbox
import TabletRoster.Management

/-!
A client that sends requests as JSON packets over one connection and reads an answer to each.
A client whose connection or whose peer's JSON is broken is closed for good.
-/
namespace TabletRoster.Rpc

/-- A connection as the client sees it: what the peer sends back, and whether packets can still
be sent. -/
structure Line where
  arrivals : Framing.Arrivals
  sendFault : Option String

inductive Link where
  | up (line : Line)
  | refused
  | unreachable

structure Client where
  address : Address
  isOpen : Bool
  inbox : Framing.Inbox
  line : Line

namespace Client

def connect (link : Link) (address : Address) : Except RemoteError Client :=
  match link with
  | .up line => .ok ⟨address, true, .empty, line⟩
  | .refused => .error (.connect address "Connection refused (os error 111)")
  | .unreachable => .error (.connect address "Network is unreachable (os error 101)")

def deliver (client : Client) (piece : ByteArray) : Client :=
  let arrivals := client.line.arrivals
  { client with line := { client.line with
      arrivals := { arrivals with pieces := arrivals.pieces ++ [piece] } } }

def broken (client : Client) (reason : String) : RemoteError × Client :=
  (.transport client.address reason, { client with isOpen := false })

def confused (client : Client) (fault : Json.Fault) : RemoteError × Client :=
  (.protocol client.address fault.text, { client with isOpen := false })

def errorOf {α : Type} : RemoteError × Client → Except RemoteError α × Client
  | (error, client) => (.error error, client)

def receive? (client : Client) : Option (Except RemoteError Response × Client) :=
  let (delivery, inbox, arrivals) := client.inbox.next client.line.arrivals
  let client := { client with inbox := inbox, line := { client.line with arrivals := arrivals } }
  match delivery with
  | .waiting => none
  | .finished => some (errorOf (client.broken "unexpected end of file"))
  | .fault error => some (errorOf (client.broken error.message))
  | .packet body =>
    match Response.decode body.data.toList with
    | .error fault => some (errorOf (client.confused fault))
    | .ok (.failed message) => some (.error (.remote client.address message), client)
    | .ok response => some (.ok response, client)

def call? (client : Client) (request : Request) : Option (Except RemoteError Response × Client) :=
  match Framing.encode ⟨request.encode.toArray⟩ .empty with
  | .error error => some (errorOf (client.broken error.message))
  | .ok _ =>
    match client.line.sendFault with
    | some reason => some (errorOf (client.broken reason))
    | none => client.receive?

/-- Makes a management call: a status call wants a status and any other call wants `Done`. -/
def perform? (order : Arrangement) (client : Client) (lock : LockToken) (call : Call) :
    Option (Except RemoteError Reply × Client) :=
  (client.call? (call.request lock)).map fun
    | (.error error, client) => (.error error, client)
    | (.ok response, client) =>
      let unexpected (expected : String) : Except RemoteError Reply × Client :=
        (.error (.protocol client.address
          s!"expect {expected}, got {response.describe order}"), client)
      match call, response with
      | .status _, .status status => (.ok (.status status 0), client)
      | .status _, _ => unexpected "Status"
      | _, .done => (.ok .done, client)
      | _, _ => unexpected "Done"

def beforeEpoch : Json.Fault :=
  .shape "SystemTime must be later than UNIX_EPOCH"

/-- Asks for an unload as of a time, in nanoseconds after the epoch. A time before the epoch cannot
be written. -/
def unload? (order : Arrangement) (client : Client) (lock : LockToken) (extent : Extent)
    (goal : UnloadGoal) (time : Int) : Option (Except RemoteError Reply × Client) :=
  if time < 0 then some (errorOf (client.confused beforeEpoch))
  else
    let nanoseconds := time.toNat
    client.perform? order lock
      (.unassign extent goal ⟨nanoseconds / 1000000000, nanoseconds % 1000000000⟩)

end Client
end TabletRoster.Rpc
