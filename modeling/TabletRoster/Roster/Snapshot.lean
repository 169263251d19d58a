import TabletRoster.Delta
import Std.Data.ExtTreeMap
import TabletRoster.ServerPath

namespace TabletRoster

structure Connection where
  address : Address
  deriving DecidableEq, Repr

structure Member where
  server : Instance
  connection : Connection
  group : String
  deriving DecidableEq, Repr

abbrev Members := Std.ExtTreeMap ServerPath Member compare

/-- The members at one point in time, by instance and by resource group. -/
structure Snapshot where
  servers : InstanceSet
  groups : Std.ExtTreeMap String InstanceSet compare
  entries : Std.ExtTreeMap Instance (Connection × String) compare

namespace Snapshot

def empty : Snapshot := ⟨∅, ∅, ∅⟩

def add (snapshot : Snapshot) (member : Member) : Snapshot :=
  let others := (snapshot.groups[member.group]?).getD ∅
  ⟨snapshot.servers.insert member.server,
    snapshot.groups.insert member.group (others.insert member.server),
    snapshot.entries.insert member.server (member.connection, member.group)⟩

def build (members : Members) : Snapshot :=
  members.values.foldl add empty

def contains (snapshot : Snapshot) (i : Instance) : Bool :=
  snapshot.servers.contains i

def connection? (snapshot : Snapshot) (i : Instance) : Option Connection :=
  (snapshot.entries[i]?).map (·.1)

def group? (snapshot : Snapshot) (i : Instance) : Option String :=
  (snapshot.entries[i]?).map (·.2)

def inGroup? (snapshot : Snapshot) (group : String) : Option InstanceSet :=
  snapshot.groups[group]?

def size (snapshot : Snapshot) : Nat :=
  snapshot.servers.size

end Snapshot
end TabletRoster
