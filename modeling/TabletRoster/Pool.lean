import Std.Data.ExtTreeMap
import TabletRoster.Address

/-!
Connections that are kept for reuse. Each address has a stack of idle clients; a loan puts its
client back only when its call has run to the end.
-/
namespace TabletRoster

inductive RemoteError where
  | connect (address : Address) (reason : String)
  | transport (address : Address) (reason : String)
  | remote (address : Address) (message : String)
  | protocol (address : Address) (message : String)
  deriving DecidableEq, Repr

def RemoteError.message : RemoteError → String
  | .connect address reason => s!"cannot connect to {address}: {reason}"
  | .transport address reason => s!"transport to {address} failed: {reason}"
  | .remote address message => s!"{address} rejected the call: {message}"
  | .protocol address message => s!"unexpected response from {address}: {message}"

/-- How clients of type `κ` are opened in an environment `ε`, and whether one can still carry
calls. -/
structure Factory (ε κ : Type) where
  connect : Address → ε → Except RemoteError κ × ε
  isOpen : κ → Bool

structure Idle (κ : Type) where
  client : κ
  since : Nat
  deriving Repr

structure Pool (κ : Type) where
  /-- The idle clients of an address, the one returned last in front. -/
  idle : Std.ExtTreeMap Address (List (Idle κ)) compare
  maxIdle : Nat
  timeout : Nat

structure Loan (κ : Type) where
  address : Address
  client : κ
  /-- Whether the client goes back to the pool when the loan ends well. -/
  pooled : Bool
  /-- Whether a call on the loan has ever run to its end. -/
  completed : Bool
  deriving Repr

namespace Pool

variable {ε κ : Type}

def empty (maxIdle timeout : Nat) : Pool κ := ⟨∅, maxIdle, timeout⟩

def idleOf (pool : Pool κ) (address : Address) : List (Idle κ) :=
  (pool.idle[address]?).getD []

def idleCount (pool : Pool κ) (address : Address) : Nat :=
  (pool.idleOf address).length

def clear (pool : Pool κ) : Pool κ :=
  { pool with idle := ∅ }

def isFresh (isOpen : κ → Bool) (now : Nat) (pool : Pool κ) (entry : Idle κ) : Bool :=
  now - entry.since ≤ pool.timeout && isOpen entry.client

/-- Takes the client that was returned last among the fresh ones; those above it are discarded. -/
def take (isOpen : κ → Bool) (now : Nat) (address : Address) (pool : Pool κ) : Option κ × Pool κ :=
  match (pool.idleOf address).dropWhile fun entry => !pool.isFresh isOpen now entry with
  | [] => (none, { pool with idle := pool.idle.erase address })
  | entry :: rest => (some entry.client, { pool with idle := pool.idle.insert address rest })

def release (isOpen : κ → Bool) (now : Nat) (address : Address) (client : κ) (pool : Pool κ) :
    Pool κ :=
  let idle := pool.idleOf address
  if isOpen client && idle.length < pool.maxIdle then
    { pool with idle := pool.idle.insert address (⟨client, now⟩ :: idle) }
  else pool

def acquire (factory : Factory ε κ) (now : Nat) (address : Address) (pool : Pool κ) (env : ε) :
    Except RemoteError (Loan κ) × Pool κ × ε :=
  match pool.take factory.isOpen now address with
  | (some client, pool) => (.ok ⟨address, client, true, false⟩, pool, env)
  | (none, pool) =>
    let (client, env) := factory.connect address env
    (client.map fun client => ⟨address, client, true, false⟩, pool, env)

def transient (factory : Factory ε κ) (address : Address) (pool : Pool κ) (env : ε) :
    Except RemoteError (Loan κ) × Pool κ × ε :=
  let (client, env) := factory.connect address env
  (client.map fun client => ⟨address, client, false, false⟩, pool, env)

end Pool

namespace Loan

variable {κ : Type}

def complete (loan : Loan κ) : Loan κ :=
  { loan with completed := true }

/-- Ends the loan: the client of an unfinished call is closed. -/
def drop (isOpen : κ → Bool) (now : Nat) (loan : Loan κ) (pool : Pool κ) : Pool κ :=
  if loan.pooled && loan.completed then pool.release isOpen now loan.address loan.client else pool

end Loan
end TabletRoster
