import TabletRoster.Roster.Snapshot
import TabletRoster.StalePaths

namespace TabletRoster

structure Roster where
  members : Members
  stale : StalePaths
  /-- The shared snapshot, with the number under which it was built. -/
  cache : Option (Nat × Snapshot)
  built : Nat

namespace Roster

def empty (grace : Nat) : Roster :=
  ⟨∅, .empty grace, none, 0⟩

def snapshot (roster : Roster) : (Nat × Snapshot) × Roster :=
  match roster.cache with
  | some shared => (shared, roster)
  | none =>
    let shared := (roster.built, Snapshot.build roster.members)
    (shared, { roster with cache := some shared, built := roster.built + 1 })

/-- The first member, in the order of paths, that a lookup selects. -/
def find? (roster : Roster) (lookup : Lookup) : Option Instance :=
  (roster.members.values.find? fun member => lookup.selects member.server).map (·.server)

def pathOf? (roster : Roster) (i : Instance) : Option ServerPath :=
  (roster.members.toList.find? fun (_, member) => member.server = i).map (·.1)

def drop (roster : Roster) (path : ServerPath) : Roster :=
  { roster with members := roster.members.erase path, cache := none }

def instances (roster : Roster) : InstanceSet :=
  .ofList (roster.members.values.map (·.server)) compare

/-- The listed paths that an instance may stand for: those in the path's group with the
instance's address. -/
def candidates (listed : PathSet) (path : ServerPath) (i : Instance) : List ServerPath :=
  listed.toList.filter fun candidate =>
    candidate.group = path.group && candidate.address = i.address

end Roster
end TabletRoster
