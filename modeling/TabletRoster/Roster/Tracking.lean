import TabletRoster.Namespace
import TabletRoster.Roster.Turns

/-!
Following the namespace. A watcher turns changes into demands and puts them into a bounded
queue, a ticker puts in a full scan at every period if there is room, and a reconciler works the
queue off. A watch that breaks is taken up again after a delay; every new watch asks for a full
scan, so that nothing before it is missed.
-/
namespace TabletRoster

inductive Demand where
  | scan
  | check (path : ServerPath)
  deriving DecidableEq, Repr

def Demand.job : Demand → Job
  | .scan => .scan
  | .check path => .check path

/-- What a change asks for: a change of the root or a group may concern any server. -/
def Demand.of? (layout : Layout) (change : Change) : Option Demand :=
  match layout.place change.key with
  | .root => some .scan
  | .group _ => some .scan
  | .server path => some (.check path)
  | .unrelated => none
  | .malformed _ _ => none

/-- Where the watcher stands. A position is that of the next change to be read. -/
inductive Watcher where
  | subscribing
  | sending (demand : Demand) (position : Nat)
  | reading (position : Nat)
  | pausing (wake : Nat)
  deriving DecidableEq, Repr

structure Tracking where
  capacity : Nat
  period : Nat
  retryDelay : Nat
  queue : List Demand
  watcher : Watcher
  tick : Nat
  working : Option Nat
  deriving DecidableEq, Repr

namespace Tracking

def begin (capacity period retryDelay now : Nat) : Tracking :=
  ⟨max capacity 1, period, retryDelay, [], .subscribing, now + period, none⟩

def hasRoom (tracking : Tracking) : Bool :=
  tracking.queue.length < tracking.capacity

def pause (tracking : Tracking) (now : Nat) : Tracking :=
  { tracking with watcher := .pausing (now + tracking.retryDelay) }

def watch? (layout : Layout) (now : Nat) (space : Namespace) (tracking : Tracking) :
    Option Tracking :=
  match tracking.watcher with
  | .subscribing =>
    match space.watch layout with
    | .ok position => some { tracking with watcher := .sending .scan position }
    | .error _ => some (tracking.pause now)
  | .sending demand position =>
    if tracking.hasRoom then
      some { tracking with queue := tracking.queue ++ [demand], watcher := .reading position }
    else none
  | .reading position =>
    match space.feed position with
    | .change change =>
      match Demand.of? layout change with
      | some demand => some { tracking with watcher := .sending demand (position + 1) }
      | none => some { tracking with watcher := .reading (position + 1) }
    | .lagged => some (tracking.pause now)
    | .nothing => none
  | .pausing wake => if wake ≤ now then some { tracking with watcher := .subscribing } else none

/-- How late a tick may come without counting as missed, in nanoseconds. -/
def slack : Nat := 5000000

/-- When the ticker is due after a tick: a period after that one was due, or after now if it was
missed. -/
def nextTick (now : Nat) (tracking : Tracking) : Nat :=
  if tracking.tick + slack < now then now + tracking.period else tracking.tick + tracking.period

/-- The ticker fires when it is due; a full queue makes it skip its scan. -/
def tick? (now : Nat) (tracking : Tracking) : Option Tracking :=
  if tracking.tick ≤ now then
    let queue := if tracking.hasRoom then tracking.queue ++ [.scan] else tracking.queue
    some { tracking with queue := queue, tick := tracking.nextTick now }
  else none

/-- The reconciler takes the oldest demand when it has none at work, and is done with a demand
when its result is there. -/
def reconcile? {σ : Type} (tracking : Tracking) (turns : Turns σ) :
    Option (Tracking × Turns σ) :=
  match tracking.working, tracking.queue with
  | some ticket, _ =>
    match turns.result? ticket with
    | some _ => some ({ tracking with working := none }, turns.collect ticket)
    | none => none
  | none, demand :: rest =>
    let (ticket, turns) := turns.come demand.job
    some ({ tracking with queue := rest, working := some ticket }, turns)
  | none, [] => none

end Tracking
end TabletRoster
