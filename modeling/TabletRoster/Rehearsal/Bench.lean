import TabletRoster.Management

namespace TabletRoster.Rehearsal

inductive Failure where
  | remote
  | protocol
  | transport
  deriving DecidableEq, Repr

structure Script where
  refuse : Bool
  closeAfter : Bool
  delay : Nat
  failure : Option Failure
  failAt : List Address
  deriving DecidableEq, Repr

def Script.plain : Script := ⟨false, false, 0, none, []⟩

structure Client where
  number : Nat
  address : Address
  isOpen : Bool
  deriving DecidableEq, Repr

/-- The remote side: its script, the connections opened so far and the calls that arrived. -/
structure Network where
  script : Script
  opened : Nat
  calls : Array (Client × String)

namespace Network

def empty : Network := ⟨.plain, 0, #[]⟩

def connect (address : Address) (network : Network) : Except RemoteError Client × Network :=
  if network.script.refuse then (.error (.connect address "connection refused"), network)
  else
    (.ok ⟨network.opened, address, true⟩, { network with opened := network.opened + 1 })

def factory : Factory Network Client := ⟨connect, Client.isOpen⟩

def rowText : Row → String
  | none => "-"
  | some row => "0x" ++ Text.hexBytes row

def requestText (request : Rpc.Request) : String :=
  let what := match request with
    | .load _ extent => s!"load {extent.text}"
    | .unload _ extent goal _ => s!"unload {extent.text} {goal.name}"
    | .status _ => "status"
    | .halt _ => "halt"
    | .fastHalt _ => "fast_halt"
    | .flush _ table startRow endRow => s!"flush {table} {rowText startRow} {rowText endRow}"
  s!"{what} by {request.lock.path}#{request.lock.session}"

def send (client : Client) (request : Rpc.Request) (network : Network) : Network :=
  { network with calls := network.calls.push (client, requestText request) }

def answer (client : Client) (request : Rpc.Request) (network : Network) :
    Except RemoteError Reply × Client × Network :=
  let address := client.address
  let client := { client with isOpen := client.isOpen && !network.script.closeAfter }
  let reply := match request with
    | .status _ => Reply.status { (default : Rpc.Status) with name := address.text } 0
    | _ => .done
  match network.script.failure with
  | some .remote => (.error (.remote address "not today"), client, network)
  | some .protocol => (.error (.protocol address "expect nothing"), client, network)
  | some .transport =>
    (.error (.transport address "pipe burst"), { client with isOpen := false }, network)
  | none =>
    if network.script.failAt.contains address then
      (.error (.remote address "not today"), client, network)
    else (.ok reply, client, network)

def remote : Remote Network Client := { factory with send := send, answer := answer }

end Network

inductive Outcome where
  | reply (reply : Reply)
  | error (error : RemoteError)
  | cancelled

def Outcome.ofReply : Except RemoteError Reply → Outcome
  | .ok answer => .reply answer
  | .error reason => .error reason

structure Bench where
  now : Nat
  pool : Pool Client
  network : Network
  loans : List (String × Loan Client)

namespace Bench

def start (maxIdle timeout : Nat) : Bench :=
  ⟨0, .empty maxIdle timeout, .empty, []⟩

/-- Makes a call and waits for its end, but no longer than `patience`. -/
def call (bench : Bench) (address : Address) (lock : Rpc.LockToken) (call : Call)
    (patience : Option Nat) : Outcome × Bench :=
  let delay := bench.network.script.delay
  let limit := patience.filter (· < delay)
  let fate : Fate Client :=
    ⟨limit.map fun _ => .reply, bench.now + limit.getD delay, fun _ pool => pool⟩
  let (ending, pool, network) :=
    call.make Network.remote fate bench.now ⟨address⟩ lock bench.pool bench.network
  let bench := { bench with pool := pool, network := network }
  match ending with
  | .refused error => (.error error, bench)
  | .cancelled => (.cancelled, { bench with now := fate.ends })
  | .returned _ reply => (.ofReply reply, { bench with now := fate.ends })

def setLoan (bench : Bench) (name : String) (loan : Loan Client) : Bench :=
  { bench with loans := (name, loan) :: bench.loans.filter (·.1 != name) }

def dropLoan (bench : Bench) (name : String) : Bool × Bench :=
  match bench.loans.lookup name with
  | none => (false, bench)
  | some loan =>
    (true, { bench with
      pool := loan.drop Client.isOpen bench.now bench.pool
      loans := bench.loans.filter (·.1 != name) })

def borrow (bench : Bench) (pooled : Bool) (address : Address) (name : String) : Outcome × Bench :=
  let (loan, pool, network) :=
    if pooled then bench.pool.acquire Network.factory bench.now address bench.network
    else bench.pool.transient Network.factory address bench.network
  let bench := { bench with pool := pool, network := network }
  match loan with
  | .error error => (.error error, bench)
  | .ok loan => (.reply .done, (bench.dropLoan name).2.setLoan name loan)

/-- Sends a request over a client that is on loan and waits for its answer. The loan is not
marked. -/
def use? (bench : Bench) (name : String) (request : Rpc.Request) : Option (Outcome × Bench) := do
  let loan ← bench.loans.lookup name
  let delay := bench.network.script.delay
  let network := Network.remote.send loan.client request bench.network
  let (reply, client, network) := Network.remote.answer loan.client request network
  let bench := { bench with now := bench.now + delay, network := network }
  return (.ofReply reply, bench.setLoan name { loan with client := client })

def complete? (bench : Bench) (name : String) : Option Bench := do
  let loan ← bench.loans.lookup name
  return bench.setLoan name loan.complete

end Bench
end TabletRoster.Rehearsal
