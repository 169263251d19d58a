import TabletRoster.Coordinator
import TabletRoster.Roster.Snapshot

/-!
Status checks of live servers. A server that fails a number of checks in a row is evicted; one
success, or one round in which it is no member, starts the count again.
-/
namespace TabletRoster

abbrev Failures := Std.ExtTreeMap Instance Nat compare

namespace Failures

def keep (failures : Failures) (snapshot : Snapshot) : Failures :=
  failures.filter fun i _ => snapshot.contains i

def succeed (failures : Failures) (i : Instance) : Failures :=
  failures.erase i

/-- Counts a failed check. At `limit` the instance is due for eviction and its count starts
again. -/
def fail (failures : Failures) (limit : Nat) (i : Instance) : Bool × Failures :=
  let count := (failures[i]?).getD 0 + 1
  if limit ≤ count then (true, failures.erase i) else (false, failures.insert i count)

def note (failures : Failures) (limit : Nat) (i : Instance) (failed : Bool) : Bool × Failures :=
  if failed then failures.fail limit i else (false, failures.succeed i)

/-- One round over the instances of a snapshot in some order: the evictions, in order, and the
counts after it. -/
def round (limit : Nat) (failed : Instance → Bool) :
    List Instance → Failures → List Instance × Failures
  | [], failures => ([], failures)
  | i :: rest, failures =>
    let (evict, failures) := failures.note limit i (failed i)
    let (evictions, failures) := round limit failed rest failures
    (if evict then i :: evictions else evictions, failures)

end Failures

inductive Phase where
  | resting
  | asking
  | checking (snapshot : Snapshot) (i : Instance) (later : List Instance)
  | evicting (snapshot : Snapshot) (i : Instance) (later : List Instance)
  | stopped (fatal : FatalRemove)

/-- Checks all members at every tick. Ticks that are missed during a round are made up for. -/
structure Poller where
  interval : Nat
  limit : Nat
  due : Nat
  failures : Failures
  phase : Phase

namespace Poller

def start (interval limit now : Nat) : Poller :=
  ⟨interval, limit, now, ∅, .resting⟩

def proceed (poller : Poller) (snapshot : Snapshot) : List Instance → Poller
  | [] => { poller with phase := .resting }
  | i :: later => { poller with phase := .checking snapshot i later }

def tick? (poller : Poller) (now : Nat) : Option Poller :=
  match poller.phase with
  | .resting =>
    if poller.due ≤ now then
      some { poller with due := poller.due + poller.interval, phase := .asking }
    else none
  | _ => none

def begin (poller : Poller) (snapshot : Snapshot) : Poller :=
  { poller with failures := poller.failures.keep snapshot }.proceed snapshot
    snapshot.servers.toList

def checked (poller : Poller) (failed : Bool) : Poller :=
  match poller.phase with
  | .checking snapshot i later =>
    let (evict, failures) := poller.failures.note poller.limit i failed
    let poller := { poller with failures := failures }
    if evict then { poller with phase := .evicting snapshot i later }
    else poller.proceed snapshot later
  | _ => poller

/-- The awaited eviction has ended; one that fails stops the poller for good. -/
def evicted (poller : Poller) (outcome : Except FatalRemove Unit) : Poller :=
  match poller.phase, outcome with
  | .evicting snapshot _ later, .ok () => poller.proceed snapshot later
  | .evicting _ _ _, .error fatal => { poller with phase := .stopped fatal }
  | _, _ => poller

end Poller
end TabletRoster
