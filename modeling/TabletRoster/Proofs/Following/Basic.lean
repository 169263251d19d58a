import TabletRoster.Proofs.Moves
import TabletRoster.Proofs.Namespace
import TabletRoster.Roster.Tracking

/-!
A roster that follows its namespace. Four parties move in any order: those who write to the
namespace or call the roster from outside, the watcher, the ticker, and the reconciler with
whatever is at turn. The questions of a pass are moves of their own, so that writes fall between
them.
-/
namespace TabletRoster

namespace Namespace

inductive Write where
  | create (path : ServerPath)
  | lock (path : ServerPath) (ticket : Ticket) (session : String)
  | unlock (path : ServerPath) (session : String)
  | put (key : String) (value : Bytes)
  | remove (key : String)

def write (layout : Layout) (space : Namespace) : Write → Namespace
  | .create path => space.createServer layout path
  | .lock path ticket session => space.acquireLock layout path ticket session
  | .unlock path session => space.releaseLock layout path session
  | .put key value => space.put key value none
  | .remove key => space.remove key

def Write.key? (layout : Layout) : Write → Option String
  | .create path => some (layout.serverKey path)
  | .lock path _ session => some (layout.lockKey path session)
  | .put key _ => some key
  | _ => none

theorem write_extends (layout : Layout) (space : Namespace) (write : Write) :
    Extends space (space.write layout write) := by
  cases write with
  | create path => exact put_extends _ _ _ space
  | lock path ticket session => exact put_extends _ _ _ space
  | unlock path session => exact remove_extends _ space
  | put key value => exact put_extends _ _ _ space
  | remove key => exact remove_extends key space

theorem Tidy.write {layout : Layout} {space : Namespace} (tidy : space.Tidy layout) {write : Write}
    (admitted : ∀ key, write.key? layout = some key → layout.Admits key) :
    (space.write layout write).Tidy layout := by
  cases write with
  | create path => exact tidy.put (admitted _ rfl) _ _
  | lock path ticket session => exact tidy.put (admitted _ rfl) _ _
  | unlock path session => exact tidy.remove _
  | put key value => exact tidy.put (admitted _ rfl) _ _
  | remove key => exact tidy.remove key

end Namespace

def Watcher.position? : Watcher → Option Nat
  | .sending _ position => some position
  | .reading position => some position
  | _ => none

namespace Turns

variable {σ : Type}

def Passing (turns : Turns σ) : Prop :=
  match turns.current with
  | some (_, .pass _) => True
  | some (_, .telling _ _) => True
  | _ => False

def disturbed (turns : Turns σ) : Move → Bool
  | .come (.evict _) => true
  | .leave =>
    match turns.current with
    | some (_, .telling _ failure) => failure.isSome
    | _ => false
  | _ => false

end Turns

structure Following where
  turns : Turns Namespace
  tracking : Option Tracking
  /-- Since the watch was last established every pass succeeded and no eviction was asked for. -/
  calm : Bool

namespace Following

def start (grace : Nat) : Following :=
  ⟨.start (.empty grace) .empty, none, false⟩

inductive Move where
  | write (change : Namespace.Write)
  | offline (on : Bool)
  | failDeletes (on : Bool)
  | turn (move : Turns.Move)
  | follow (capacity period retryDelay now : Nat)
  | watch (now : Nat)
  | tick (now : Nat)
  | reconcile

def Move.Admissible (layout : Layout) : Move → Prop
  | .write change => ∀ key, change.key? layout = some key → layout.Admits key
  | .turn (.come (.check path)) => path.WellFormed
  | _ => True

def edit (scene : Following) (change : Namespace → Namespace) : Following :=
  { scene with turns := { scene.turns with space := change scene.turns.space } }

def move? (layout : Layout) (scene : Following) : Move → Option Following
  | .write change => some (scene.edit fun space => space.write layout change)
  | .offline on => some (scene.edit fun space => { space with offline := on })
  | .failDeletes on => some (scene.edit fun space => { space with failDeletes := on })
  | .turn move => do
    let turns ← scene.turns.move? (Namespace.coordinator layout) move
    return { scene with turns := turns, calm := scene.calm && !scene.turns.disturbed move }
  | .follow capacity period retryDelay now =>
    if scene.tracking.isNone then
      some { scene with tracking := some (.begin capacity period retryDelay now) }
    else none
  | .watch now => do
    let tracking ← scene.tracking
    let next ← tracking.watch? layout now scene.turns.space
    let established := tracking.watcher = .subscribing && next.watcher.position?.isSome
    return { scene with tracking := some next, calm := scene.calm || established }
  | .tick now => do
    let tracking ← scene.tracking
    let next ← tracking.tick? now
    return { scene with tracking := some next }
  | .reconcile => do
    let tracking ← scene.tracking
    let (next, turns) ← tracking.reconcile? scene.turns
    return { scene with tracking := some next, turns := turns }

/-- Moves in any order; a move that is not possible is left out. -/
def run (layout : Layout) (moves : List Move) (scene : Following) : Following :=
  moves.foldl (fun scene move => (scene.move? layout move).getD scene) scene

/-- The watch is established and has no unread change, no demand waits to be sent or is queued,
and no pass is at work. The reconciler may still have to hear how its last demand ended, but has
none in line. -/
def Quiet (scene : Following) : Prop :=
  ∃ tracking position, scene.tracking = some tracking ∧
    tracking.watcher = .reading position ∧ scene.turns.space.feed position = .nothing ∧
    tracking.queue = [] ∧
    (∀ entry ∈ scene.turns.waiting, tracking.working ≠ some entry.1) ∧ ¬ scene.turns.Passing

end Following
end TabletRoster
