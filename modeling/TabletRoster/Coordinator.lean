import TabletRoster.Lock
import TabletRoster.StalePaths

/-!
What the roster asks of a coordination service. Every question may fail, and every question may
change what the service answers next.
-/
namespace TabletRoster

/-- What the client of a store says when something goes wrong, without and with the causes. -/
structure StoreFault where
  text : String
  fullText : String
  deriving DecidableEq, Repr

inductive CoordinationError where
  | unavailable (reason : String)
  | notEmpty (key : String)
  | malformedLock (key : String) (fault : Json.Fault)
  | watchLagged (root : String)
  | watchCanceled (root : String)
  | store (fault : StoreFault)
  deriving DecidableEq, Repr

def CoordinationError.message : CoordinationError → String
  | .unavailable reason => s!"coordination service unavailable: {reason}"
  | .notEmpty key => s!"node {key} still has children"
  | .malformedLock key fault => s!"lock data at {key} is malformed: {fault.text}"
  | .watchLagged root => s!"watch on {root} fell behind and dropped events"
  | .watchCanceled root => s!"watch on {root} was canceled by the coordination service"
  | .store fault => fault.text

def CoordinationError.fullMessage : CoordinationError → String
  | .malformedLock key fault => s!"{message (.malformedLock key fault)}: {fault.text}"
  | .store fault => fault.fullText
  | error => error.message

/-- Deleting the keys of an evicted server failed, so its lock may still look held. -/
structure FatalRemove where
  victim : Instance
  key : String
  source : CoordinationError
  deriving DecidableEq, Repr

def FatalRemove.message (fatal : FatalRemove) : String :=
  s!"failed to delete coordination lock {fatal.key} of {fatal.victim}"

def FatalRemove.fullMessage (fatal : FatalRemove) : String :=
  s!"{fatal.message}: {fatal.source.fullMessage}"

inductive ChangeKind where
  | put
  | delete
  deriving DecidableEq, Repr

structure Change where
  key : String
  kind : ChangeKind
  deriving DecidableEq, Repr

abbrev Answer (σ α : Type) := Except CoordinationError α × σ

/-- A coordination service with state `σ`, bound to one root. -/
structure Coordinator (σ : Type) where
  layout : Layout
  list : σ → Answer σ PathSet
  readLock : ServerPath → σ → Answer σ (Option Holder)
  /-- Whether the server's node or anything below it is there. -/
  contains : ServerPath → σ → Answer σ Bool
  delete : ServerPath → σ → Answer σ Unit
  deleteTree : ServerPath → σ → Answer σ Unit

end TabletRoster
