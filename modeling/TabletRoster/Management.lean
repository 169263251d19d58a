import TabletRoster.Pool
import TabletRoster.Roster.Snapshot
import TabletRoster.Rpc.Request
import TabletRoster.Rpc.Response

/-!
Management calls to one live server. A call borrows a pooled client; tablets of the root and
metadata tables are loaded over a client of their own, so that they wait behind nothing.
-/
namespace TabletRoster

inductive Call where
  | assign (extent : Extent)
  | unassign (extent : Extent) (goal : Rpc.UnloadGoal) (time : Rpc.Timestamp)
  | status (pooled : Bool)
  | halt
  | fastHalt
  | flush (table : String) (startRow endRow : Row)
  deriving DecidableEq, Repr

inductive Reply where
  | done
  | status (status : Rpc.Status) (elapsed : Nat)

namespace Call

def isPooled : Call → Bool
  | .assign extent => !extent.isMetadata
  | .status pooled => pooled
  | _ => true

def request (lock : Rpc.LockToken) : Call → Rpc.Request
  | .assign extent => .load lock extent
  | .unassign extent goal time => .unload lock extent goal time
  | .status _ => .status lock
  | .halt => .halt lock
  | .fastHalt => .fastHalt lock
  | .flush table startRow endRow => .flush lock table startRow endRow

end Call

def Reply.timed (elapsed : Nat) : Reply → Reply
  | .done => .done
  | .status report _ => .status report elapsed

/-- A call on its way over a borrowed client. -/
structure Trip (κ : Type) where
  call : Call
  lock : Rpc.LockToken
  loan : Loan κ
  began : Nat

namespace Trip

variable {ε κ : Type}

def request (trip : Trip κ) : Rpc.Request :=
  trip.call.request trip.lock

/-- Borrows a client for a call; when none can be had there is no call. -/
def start (factory : Factory ε κ) (now : Nat) (connection : Connection) (lock : Rpc.LockToken)
    (call : Call) (pool : Pool κ) (env : ε) : Except RemoteError (Trip κ) × Pool κ × ε :=
  let (loan, pool, env) :=
    if call.isPooled then pool.acquire factory now connection.address env
    else pool.transient factory connection.address env
  (loan.map fun loan => ⟨call, lock, loan, now⟩, pool, env)

def told (now : Nat) (trip : Trip κ) (reply : Except RemoteError Reply) :
    Except RemoteError Reply :=
  reply.map (·.timed (now - trip.began))

def finish (isOpen : κ → Bool) (now : Nat) (client : κ) (trip : Trip κ) (pool : Pool κ) : Pool κ :=
  ({ trip.loan with client := client }.complete).drop isOpen now pool

def cancel (isOpen : κ → Bool) (now : Nat) (trip : Trip κ) (pool : Pool κ) : Pool κ :=
  trip.loan.drop isOpen now pool

end Trip

/-- How requests go out over clients of type `κ`, and how they are answered. -/
structure Remote (ε κ : Type) extends Factory ε κ where
  send : κ → Rpc.Request → ε → ε
  answer : κ → Rpc.Request → ε → Except RemoteError Reply × κ × ε

inductive Wait where
  | connection
  | reply
  deriving DecidableEq, Repr

/-- What befalls a call. -/
structure Fate (κ : Type) where
  /-- The wait in which the caller gives the call up. -/
  givenUp : Option Wait
  ends : Nat
  /-- What others do to the pool during a wait. -/
  meanwhile : Wait → Pool κ → Pool κ

inductive Ending (κ : Type) where
  | refused (error : RemoteError)
  | cancelled
  | returned (client : κ) (reply : Except RemoteError Reply)

namespace Call

variable {ε κ : Type}

/-- Whether a call asks for a connection: it is not pooled, or there is no idle client for it. -/
def dials (isOpen : κ → Bool) (now : Nat) (connection : Connection) (call : Call)
    (pool : Pool κ) : Bool :=
  !call.isPooled || (pool.take isOpen now connection.address).1.isNone

def make (remote : Remote ε κ) (fate : Fate κ) (now : Nat) (connection : Connection)
    (lock : Rpc.LockToken) (call : Call) (pool : Pool κ) (env : ε) : Ending κ × Pool κ × ε :=
  let dials := call.dials remote.isOpen now connection pool
  let (trip, pool, env) := Trip.start remote.toFactory now connection lock call pool env
  let pool := if dials then fate.meanwhile .connection pool else pool
  if dials && fate.givenUp = some .connection then (.cancelled, pool, env)
  else match trip with
    | .error error => (.refused error, pool, env)
    | .ok trip =>
      let env := remote.send trip.loan.client trip.request env
      let pool := fate.meanwhile .reply pool
      if fate.givenUp = some .reply then
        (.cancelled, trip.cancel remote.isOpen fate.ends pool, env)
      else
        let (reply, client, env) := remote.answer trip.loan.client trip.request env
        (.returned client (trip.told fate.ends reply),
          trip.finish remote.isOpen fate.ends client pool, env)

end Call
end TabletRoster
