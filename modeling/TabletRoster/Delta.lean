import Std.Data.ExtTreeSet
import TabletRoster.Instance

namespace TabletRoster

abbrev InstanceSet := Std.ExtTreeSet Instance compare

structure Delta where
  added : InstanceSet
  removed : InstanceSet

namespace Delta

def empty : Delta := ⟨∅, ∅⟩

instance : Inhabited Delta := ⟨empty⟩

def isEmpty (delta : Delta) : Bool :=
  delta.added.isEmpty && delta.removed.isEmpty

def recordAdded (delta : Delta) (i : Instance) : Delta :=
  ⟨delta.added.insert i, delta.removed.erase i⟩

/-- An instance that was added in the same pass is only taken back. -/
def recordRemoved (delta : Delta) (i : Instance) : Delta :=
  if delta.added.contains i then ⟨delta.added.erase i, delta.removed⟩
  else ⟨delta.added, delta.removed.insert i⟩

def apply (delta : Delta) (members : InstanceSet) : InstanceSet :=
  members.filter (fun i => !delta.removed.contains i) ∪ delta.added

end Delta

/-- A listener that puts the deltas that are not empty into a bounded queue. -/
structure Outbox where
  capacity : Nat
  waiting : List Delta
  isOpen : Bool

namespace Outbox

def create? (capacity : Nat) : Option Outbox :=
  if capacity = 0 then none else some ⟨capacity, [], true⟩

/-- Takes a delta in; none when the queue is full and the caller would have to wait. Nothing is
sent to a receiver that has left. -/
def offer (outbox : Outbox) (delta : Delta) : Option Outbox :=
  if delta.isEmpty || !outbox.isOpen then some outbox
  else if outbox.waiting.length < outbox.capacity then
    some { outbox with waiting := outbox.waiting ++ [delta] }
  else none

def receive (outbox : Outbox) : Option Delta × Outbox :=
  match outbox.waiting with
  | [] => (none, outbox)
  | delta :: rest => (some delta, { outbox with waiting := rest })

def close (outbox : Outbox) : Outbox :=
  { outbox with waiting := [], isOpen := false }

end Outbox
end TabletRoster
