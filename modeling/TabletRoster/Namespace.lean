import TabletRoster.Coordinator

/-!
A coordination namespace that is kept in memory. Every change of a key is published; a watcher
that falls more than the buffer behind has lost changes and is told so.
-/
namespace TabletRoster

structure Node where
  value : Bytes
  session : Option String
  created : Nat
  deriving DecidableEq, Repr

structure Namespace where
  nodes : Std.ExtTreeMap String Node compare
  revision : Nat
  published : Array Change
  offline : Bool
  failDeletes : Bool

inductive Feed where
  | change (change : Change)
  | lagged
  | nothing
  deriving DecidableEq, Repr

namespace Namespace

def empty : Namespace := ⟨∅, 0, #[], false, false⟩

/-- So many changes wait for a watcher. -/
def buffer : Nat := 1024

def publish (kind : ChangeKind) (key : String) (space : Namespace) : Namespace :=
  { space with published := space.published.push ⟨key, kind⟩ }

/-- Writes a key. What was queued under it before loses its place. -/
def put (key : String) (value : Bytes) (session : Option String) (space : Namespace) : Namespace :=
  let revision := space.revision + 1
  publish .put key
    { space with revision := revision, nodes := space.nodes.insert key ⟨value, session, revision⟩ }

def remove (key : String) (space : Namespace) : Namespace :=
  if space.nodes.contains key then
    publish .delete key { space with nodes := space.nodes.erase key }
  else space

def startsWith (stem key : String) : Bool :=
  (Text.after? stem.toList key.toList).isSome

def below (stem : String) (space : Namespace) : List (String × Node) :=
  space.nodes.toList.filter fun (key, _) => startsWith stem key

def createServer (layout : Layout) (path : ServerPath) (space : Namespace) : Namespace :=
  space.put (layout.serverKey path) [] none

def acquireLock (layout : Layout) (path : ServerPath) (ticket : Ticket) (session : String)
    (space : Namespace) : Namespace :=
  space.put (layout.lockKey path session) ticket.encode (some session)

def releaseLock (layout : Layout) (path : ServerPath) (session : String) (space : Namespace) :
    Namespace :=
  space.remove (layout.lockKey path session)

def containsServer (layout : Layout) (path : ServerPath) (space : Namespace) : Bool :=
  space.nodes.contains (layout.serverKey path) || !(space.below (layout.below path)).isEmpty

def servers (layout : Layout) (space : Namespace) : PathSet :=
  .ofList (space.nodes.keys.filterMap layout.server?) compare

def oldest : List (String × Node) → Option (String × Node)
  | [] => none
  | entry :: rest =>
    match oldest rest with
    | some other => if other.2.created < entry.2.created then some other else some entry
    | none => some entry

/-- The key and node of the entry that holds a server's lock. -/
def holder? (layout : Layout) (path : ServerPath) (space : Namespace) : Option (String × Node) :=
  oldest (space.below (layout.lockStem path))

/-- The session of an entry: its own, or what its key says. -/
def sessionOf (stem key : String) (node : Node) : String :=
  match node.session with
  | some session => session
  | none => String.ofList (key.toList.drop stem.toList.length)

def readLock (layout : Layout) (path : ServerPath) (space : Namespace) :
    Except CoordinationError (Option Holder) :=
  match space.holder? layout path with
  | none => .ok none
  | some (key, node) =>
    match Ticket.decode node.value with
    | .error fault => .error (.malformedLock key fault)
    | .ok ticket =>
      .ok (some (.of ticket (sessionOf (layout.lockStem path) key node) node.created))

def checkOnline (layout : Layout) (space : Namespace) : Except CoordinationError Unit :=
  if space.offline then .error (.unavailable s!"memory namespace {layout.root} is offline")
  else .ok ()

def checkDelete (key : String) (space : Namespace) : Except CoordinationError Unit :=
  if space.failDeletes then .error (.unavailable s!"delete of {key} rejected") else .ok ()

def delete (layout : Layout) (path : ServerPath) (space : Namespace) : Answer Namespace Unit :=
  let key := layout.serverKey path
  match (do checkOnline layout space; checkDelete key space) with
  | .error error => (.error error, space)
  | .ok () =>
    if (space.below (layout.below path)).isEmpty then (.ok (), space.remove key)
    else (.error (.notEmpty key), space)

/-- Deletes what is below a node first, in key order, and then the node. -/
def deleteTree (layout : Layout) (path : ServerPath) (space : Namespace) : Answer Namespace Unit :=
  let key := layout.serverKey path
  match (do checkOnline layout space; checkDelete key space) with
  | .error error => (.error error, space)
  | .ok () =>
    let doomed := (space.below (layout.below path)).map (·.1)
    (.ok (), (doomed ++ [key]).foldl (fun space key => space.remove key) space)

def asking {α : Type} (layout : Layout) (question : Namespace → Except CoordinationError α)
    (space : Namespace) : Answer Namespace α :=
  (do checkOnline layout space; question space, space)

def coordinator (layout : Layout) : Coordinator Namespace where
  layout := layout
  list := asking layout fun space => .ok (space.servers layout)
  readLock path := asking layout (readLock layout path)
  contains path := asking layout fun space => .ok (space.containsServer layout path)
  delete := delete layout
  deleteTree := deleteTree layout

def watch (layout : Layout) (space : Namespace) : Except CoordinationError Nat := do
  checkOnline layout space
  return space.published.size

def feed (position : Nat) (space : Namespace) : Feed :=
  if position + buffer < space.published.size then .lagged
  else match space.published[position]? with
    | some change => .change change
    | none => .nothing

/-- All that a watcher can see from a position on, and where it stands then; a watcher that has
fallen behind stands nowhere. -/
def drainFor (space : Namespace) : (fuel position : Nat) → List Change × Option Nat
  | 0, position => ([], some position)
  | fuel + 1, position =>
    match space.feed position with
    | .nothing => ([], some position)
    | .lagged => ([], none)
    | .change change =>
      let (changes, position) := drainFor space fuel (position + 1)
      (change :: changes, position)

def drain (space : Namespace) (position : Nat) : List Change × Option Nat :=
  space.drainFor (space.published.size + 1) position

end Namespace
end TabletRoster
