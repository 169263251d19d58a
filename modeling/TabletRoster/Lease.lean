import TabletRoster.Keys.Coordinator

/-!
Keeping a lease alive. At every tick a keep-alive is sent and then, for a limited time, one
response is awaited; a response without time to live ends the loop.
-/
namespace TabletRoster

inductive KeepAlive where
  | alive (ttl : Int)
  | ended
  | failed
  deriving DecidableEq, Repr

inductive LeaseError where
  | expired (lease : Int64)
  | sendFailed (lease : Int64)
  | grantFailed
  deriving DecidableEq, Repr

def LeaseError.message : LeaseError → String
  | .expired lease => s!"lease {Text.hexWord lease} expired"
  | .sendFailed lease => s!"lease {Text.hexWord lease} keep alive failed"
  | .grantFailed => "grant lease"

structure Keeper where
  lease : Int64
  interval : Nat
  now : Nat
  due : Nat
  /-- What was not read yet, with the instants at which it arrives. -/
  stream : List (Nat × KeepAlive)
  sent : Nat
  deriving DecidableEq, Repr

def grantLease {σ : Type} (service : Keys.Service σ) (next : Int64) : Except LeaseError Int64 :=
  if service.answers then .ok next else .error .grantFailed

namespace Keeper

def patience : Nat := 3000000000

def start (lease : Int64) (interval now : Nat) (stream : List (Nat × KeepAlive)) : Keeper :=
  ⟨lease, interval, now, now, stream, 0⟩

def send (keeper : Keeper) : Keeper :=
  { keeper with
    now := max keeper.now keeper.due
    due := keeper.due + keeper.interval
    sent := keeper.sent + 1 }

/-- Awaits one response. A response that comes too late stays in the stream, and so does the end
of the stream. -/
def receive (keeper : Keeper) : Except LeaseError Keeper :=
  match keeper.stream with
  | (arrival, response) :: rest =>
    if arrival ≤ keeper.now + patience then
      let keeper := { keeper with now := max keeper.now arrival }
      match response with
      | .alive ttl =>
        if ttl ≤ 0 then .error (.expired keeper.lease) else .ok { keeper with stream := rest }
      | .ended => .ok keeper
      | .failed => .ok { keeper with stream := rest }
    else .ok { keeper with now := keeper.now + patience }
  | [] => .ok { keeper with now := keeper.now + patience }

/-- One round; `sends` tells whether the keep-alive can be sent. -/
def round (sends : Bool) (keeper : Keeper) : Except LeaseError Keeper :=
  if sends then keeper.send.receive else .error (.sendFailed keeper.lease)

def rounds (sends : Nat → Bool) : Nat → Keeper → Except LeaseError Keeper
  | 0, keeper => .ok keeper
  | n + 1, keeper => do rounds sends n (← keeper.round (sends keeper.sent))

end Keeper
end TabletRoster
