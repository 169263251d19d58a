import TabletRoster.Keys.Store

namespace TabletRoster.Keys

/-- What the client of a store says of a request without an answer and of a key that is no text. -/
structure Wording where
  outage : StoreFault
  unreadable : Bytes → StoreFault

/-- A store behind a link: a request is answered only while the store can be reached and runs. -/
structure Service (σ : Type) where
  store : σ
  reachable : Bool
  down : Bool
  wording : Wording

def sessionOf (lease : Int64) : String :=
  Text.hexWord lease

def serversOf (layout : Layout) (wording : Wording) :
    List Bytes → Except CoordinationError PathSet
  | [] => .ok ∅
  | key :: rest =>
    match Text.Utf8.decode? key with
    | none => .error (.store (wording.unreadable key))
    | some key => do
      let servers ← serversOf layout wording rest
      match layout.server? key with
      | some path => return servers.insert path
      | none => return servers

def list (layout : Layout) (wording : Wording) (entries : Entries) :
    Except CoordinationError PathSet :=
  serversOf layout wording ((below (Text.Utf8.encode s!"{layout.root}/") entries).map (·.1))

def readLock (layout : Layout) (wording : Wording) (path : ServerPath) (entries : Entries) :
    Except CoordinationError (Option Holder) :=
  match oldest (below (Text.Utf8.encode (layout.lockStem path)) entries) with
  | none => .ok none
  | some (key, entry) =>
    match Text.Utf8.decode? key, Ticket.decode entry.value with
    | none, _ => .error (.store (wording.unreadable key))
    | some key, .error fault => .error (.malformedLock key fault)
    | some _, .ok ticket => .ok (some (.of ticket (sessionOf entry.lease) entry.modified))

def serverKey (layout : Layout) (path : ServerPath) : Bytes :=
  Text.Utf8.encode (layout.serverKey path)

def stem (layout : Layout) (path : ServerPath) : Bytes :=
  Text.Utf8.encode (layout.below path)

def contains (layout : Layout) (path : ServerPath) (entries : Entries) :
    Except CoordinationError Bool :=
  .ok (entries.contains (serverKey layout path) || !(below (stem layout path) entries).isEmpty)

section

variable {σ : Type}

namespace Service

def answers (service : Service σ) : Bool :=
  service.reachable && !service.down

def outage (service : Service σ) : CoordinationError :=
  .store service.wording.outage

def entries [Engine σ] (service : Service σ) : Entries :=
  Engine.entries service.store

end Service

def writing (change : σ → σ) (service : Service σ) : Answer (Service σ) Unit :=
  if service.answers then (.ok (), { service with store := change service.store })
  else (.error service.outage, service)

variable [Engine σ]

def reading {α : Type} (question : Entries → Except CoordinationError α) (service : Service σ) :
    Answer (Service σ) α :=
  if service.answers then (question service.entries, service) else (.error service.outage, service)

/-- Deletes a node in one step with the check that nothing is below it. -/
def delete (layout : Layout) (path : ServerPath) (service : Service σ) :
    Answer (Service σ) Unit :=
  if !service.answers then (.error service.outage, service)
  else if (below (stem layout path) service.entries).isEmpty then
    (.ok (), { service with store := Engine.remove (serverKey layout path) service.store })
  else (.error (.notEmpty (layout.serverKey path)), service)

/-- Deletes what is below a node with one request, and the node with another. -/
def deleteTree (layout : Layout) (path : ServerPath) (service : Service σ) :
    Answer (Service σ) Unit :=
  match writing (Engine.removeBelow (stem layout path)) service with
  | (.error error, service) => (.error error, service)
  | (.ok (), service) => writing (Engine.remove (serverKey layout path)) service

def coordinator (layout : Layout) : Coordinator (Service σ) where
  layout := layout
  list service := reading (list layout service.wording) service
  readLock path service := reading (readLock layout service.wording path) service
  contains path := reading (contains layout path)
  delete := delete layout
  deleteTree := deleteTree layout

def createServer (layout : Layout) (path : ServerPath) (store : σ) : σ :=
  Engine.put (serverKey layout path) [] 0 store

def acquireLock (layout : Layout) (path : ServerPath) (ticket : Ticket) (lease : Int64)
    (store : σ) : σ :=
  Engine.put (Text.Utf8.encode (layout.lockKey path (sessionOf lease))) ticket.encode lease store

end

inductive WatchEnd where
  | canceled
  | broken (fault : StoreFault)
  | closed
  deriving DecidableEq, Repr

/-- What a watch yields next: the changes of one revision step, an error, or its end. -/
inductive Delivery where
  | changes (changes : List Change)
  | error (error : CoordinationError)
  | ended
  deriving DecidableEq, Repr

structure Watch where
  position : Nat
  /-- Up to which change the watch sees, and how it ended there. -/
  closed : Option (Nat × WatchEnd)
  deriving DecidableEq, Repr

namespace Watch

def begin (service : Service Store) : Except CoordinationError Watch :=
  if service.answers then .ok ⟨service.store.published.size, none⟩ else .error service.outage

def close (watch : Watch) (store : Store) (how : WatchEnd) : Watch :=
  match watch.closed with
  | none => { watch with closed := some (store.published.size, how) }
  | some _ => watch

def batch (key : Bytes) (kind : ChangeKind) : Delivery :=
  .changes ((Text.Utf8.decode? key).toList.map fun key => ⟨key, kind⟩)

def scanFrom (layout : Layout) (watch : Watch) : List (Bytes × ChangeKind) → Option (Delivery × Watch)
  | (key, kind) :: rest =>
    let watch := { watch with position := watch.position + 1 }
    if (Text.Utf8.encode layout.root).isPrefixOf key then some (batch key kind, watch)
    else scanFrom layout watch rest
  | [] =>
    match watch.closed with
    | none => none
    | some (limit, .closed) => some (.ended, { watch with closed := some (limit, .closed) })
    | some (limit, .canceled) =>
      some (.error (.watchCanceled layout.root), { watch with closed := some (limit, .closed) })
    | some (limit, .broken fault) =>
      some (.error (.store fault), { watch with closed := some (limit, .closed) })

def next? (layout : Layout) (store : Store) (watch : Watch) : Option (Delivery × Watch) :=
  let limit := (watch.closed.map (·.1)).getD store.published.size
  scanFrom layout watch (store.published.extract watch.position limit).toList

end Watch
end TabletRoster.Keys
