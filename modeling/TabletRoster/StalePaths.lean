import Std.Data.ExtTreeMap
import Std.Data.ExtTreeSet
import TabletRoster.ServerPath

/-!
The server paths that stand without a lock holder, each with the instant at which that was first
seen. A path that has been so for longer than the grace period is due for deletion.
-/
namespace TabletRoster

abbrev PathSet := Std.ExtTreeSet ServerPath compare

structure StalePaths where
  grace : Nat
  firstSeen : Std.ExtTreeMap ServerPath Nat compare

inductive Sight where
  | first
  | pending (elapsed : Nat)
  | expired (elapsed : Nat)
  deriving DecidableEq, Repr

namespace StalePaths

def empty (grace : Nat) : StalePaths :=
  ⟨grace, ∅⟩

/-- Judges the time since a path was first seen. A clock that went back counts as no time. -/
def judge (stale : StalePaths) (since now : Nat) : Sight :=
  if stale.grace < now - since then .expired (now - since) else .pending (now - since)

/-- Looks at a path without a lock holder; the first look starts its clock. -/
def observe (stale : StalePaths) (path : ServerPath) (now : Nat) : Sight × StalePaths :=
  match stale.firstSeen[path]? with
  | none => (.first, { stale with firstSeen := stale.firstSeen.insert path now })
  | some since => (stale.judge since now, stale)

def contains (stale : StalePaths) (path : ServerPath) : Bool :=
  stale.firstSeen.contains path

def forget (stale : StalePaths) (path : ServerPath) : StalePaths :=
  { stale with firstSeen := stale.firstSeen.erase path }

/-- A lock holder appeared at the path. Tells whether it was stale before. -/
def clear (stale : StalePaths) (path : ServerPath) : Bool × StalePaths :=
  (stale.contains path, stale.forget path)

def retain (stale : StalePaths) (present : PathSet) : StalePaths :=
  { stale with firstSeen := stale.firstSeen.filter fun path _ => present.contains path }

def size (stale : StalePaths) : Nat :=
  stale.firstSeen.size

end StalePaths
end TabletRoster
