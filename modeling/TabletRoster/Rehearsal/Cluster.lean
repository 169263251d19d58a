import TabletRoster.Roster.Turns
import TabletRoster.Settings
import TabletRoster.Rpc.Client
import TabletRoster.TabletServer

/-!
A rehearsal with a key-value store: a roster over it, tablet servers that ask it for the manager's
lock, and watches of it. Every step is done to its end before the next one.
-/
namespace TabletRoster.Rehearsal

/-- A tablet server, and the connection to it that is kept for calls. -/
structure Station where
  server : TabletServer
  client : Option Rpc.Client

structure Cluster where
  layout : Layout
  turns : Turns (Keys.Service Keys.Store)
  now : Nat
  watches : List (String × Keys.Watch)
  stations : List (String × Station)

namespace Cluster

def create? (root : String) (settings : Settings) (reachable : Bool) (wording : Keys.Wording) :
    Option Cluster := do
  let _ ← settings.idleTimeout.nanoseconds?
  let grace ← settings.grace.nanoseconds?
  return ⟨.of root, .start (.empty grace) ⟨.empty, reachable, false, wording⟩, 0, [], []⟩

def service (cluster : Cluster) : Keys.Service Keys.Store := cluster.turns.space

def store (cluster : Cluster) : Keys.Store := cluster.service.store

def coordinator (cluster : Cluster) : Coordinator (Keys.Service Keys.Store) :=
  Keys.coordinator cluster.layout

def setService (cluster : Cluster) (service : Keys.Service Keys.Store) : Cluster :=
  { cluster with turns := { cluster.turns with space := service } }

def edit (cluster : Cluster) (change : Keys.Store → Keys.Store) : Cluster :=
  cluster.setService { cluster.service with store := change cluster.store }

def setDown (cluster : Cluster) (down : Bool) : Cluster :=
  cluster.setService { cluster.service with down := down }

def budget (cluster : Cluster) : Nat :=
  8 * cluster.store.entries.size + 8 * cluster.turns.roster.members.size + 64

def perform (cluster : Cluster) (job : Job) : Option Result × Cluster :=
  let (result, turns) :=
    cluster.turns.perform cluster.coordinator cluster.now cluster.budget job
  (result, { cluster with turns := turns })

def setWatch (cluster : Cluster) (name : String) (watch : Keys.Watch) : Cluster :=
  { cluster with watches := (name, watch) :: cluster.watches.filter (·.1 != name) }

def watch (cluster : Cluster) (name : String) : Except CoordinationError Cluster := do
  return cluster.setWatch name (← Keys.Watch.begin cluster.service)

def deliveries (layout : Layout) (store : Keys.Store) : Nat → Keys.Watch →
    List Keys.Delivery × Keys.Watch
  | 0, watch => ([], watch)
  | n + 1, watch =>
    match watch.next? layout store with
    | none => ([], watch)
    | some (delivery, watch) =>
      let (rest, watch) := deliveries layout store n watch
      (delivery :: rest, watch)

def events? (cluster : Cluster) (name : String) (count : Nat) :
    Option (List Keys.Delivery × Cluster) := do
  let watch ← cluster.watches.lookup name
  let (found, watch) := deliveries cluster.layout cluster.store count watch
  return (found, cluster.setWatch name watch)

def stopWatches (cluster : Cluster) (how : Keys.WatchEnd) : Cluster :=
  { cluster with
    watches := cluster.watches.map fun (name, watch) => (name, watch.close cluster.store how) }

def setStation (cluster : Cluster) (name : String) (station : Station) : Cluster :=
  { cluster with stations := (name, station) :: cluster.stations.filter (·.1 != name) }

def serve (cluster : Cluster) (name : String) (address : Address) : Cluster :=
  cluster.setStation name ⟨.start address, none⟩

def halted? (cluster : Cluster) (name : String) : Option (Bool × Cluster) := do
  let station ← cluster.stations.lookup name
  return (station.server.halting, cluster.setStation name
    { station with server := { station.server with halting := false } })

def link (cluster : Cluster) : Rpc.Link :=
  if cluster.service.reachable then .up ⟨⟨[], false⟩, none⟩ else .unreachable

def call? (cluster : Cluster) (name : String) (lock : Rpc.LockToken) (call : Call) :
    Option (Except RemoteError Reply × Bool × Cluster) := do
  let station ← cluster.stations.lookup name
  let client ← match station.client with
    | some client => some client
    | none => (Rpc.Client.connect cluster.link station.server.address).toOption
  let (response, server) :=
    station.server.handle cluster.service cluster.now (call.request lock)
  let piece ← (Framing.encode ⟨(response.encode .byKey).toArray⟩ .empty).toOption
  let (reply, client) ← (client.deliver piece).perform? .byKey lock call
  return (reply, client.isOpen, cluster.setStation name ⟨server, some client⟩)

def raw? (cluster : Cluster) (name : String) (body : ByteArray) :
    Option (Option ByteArray × Cluster) := do
  let station ← cluster.stations.lookup name
  let _ ← (Rpc.Client.connect cluster.link station.server.address).toOption
  let piece ← (Framing.encode body .empty).toOption
  let (replies, server, _) :=
    station.server.serve cluster.service (fun _ => cluster.now) (fun _ => .byKey) ⟨[piece], true⟩
  let reply := replies.head?.bind fun written =>
    (Framing.decode written).toOption.join.map (·.1)
  return (reply, cluster.setStation name { station with server := server })

end Cluster
end TabletRoster.Rehearsal
