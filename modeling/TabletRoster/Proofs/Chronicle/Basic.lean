import TabletRoster.Proofs.Moves

/-!
A chronicle of what happens at a roster: which turns have changed the members or could have, in
the order in which they ended, and which snapshots readers have got in between. It only looks on.
The coordination service may answer as it likes, and others may change it at any time.
-/
namespace TabletRoster

inductive Deed where
  | pass (visits : List ServerPath) (heard : List Delta)
    (outcome : Except CoordinationError Delta)
  | eviction (victim : Option Instance)

/-- A turn that has ended, with the members before and after it. -/
structure Entry where
  deed : Deed
  before : Members
  after : Members

structure Reading where
  number : Nat
  snapshot : Snapshot
  ended : Nat

structure Opening where
  job : Job
  roster : Roster
  told : Nat
  listing : Option PathSet

structure Chronicle (σ : Type) where
  turns : Turns σ
  opening : Opening
  log : List Entry
  readings : List Reading

namespace Turns

variable {σ : Type}

def fresh? (turns next : Turns σ) : Option Result :=
  if turns.results.length < next.results.length then next.results.head?.map (·.2) else none

def victim? (turns : Turns σ) : Option Instance :=
  match turns.current with
  | some (_, .locating i _) => some i
  | some (_, .clearing i _ _) => some i
  | _ => none

def telling (turns : Turns σ) : List Delta :=
  match turns.current with
  | some (_, .telling delta _) => [delta]
  | _ => []

def opening (turns : Turns σ) : Opening :=
  ⟨(turns.waiting.head?.map (·.2)).getD .read, turns.roster, turns.told.size, none⟩

end Turns

namespace Chronicle

variable {σ : Type}

inductive Move (σ : Type) where
  | turn (move : Turns.Move)
  | outside (change : σ → σ)

def start (grace : Nat) (space : σ) : Chronicle σ :=
  let turns := .start (.empty grace) space
  ⟨turns, turns.opening, [], []⟩

/-- The opening of the turn that goes on after a move, or of the one that the move brings. -/
def reopen (service : Coordinator σ) (move : Turns.Move) (chronicle : Chronicle σ) : Opening :=
  match chronicle.turns.current, move with
  | none, _ => chronicle.turns.opening
  | some (_, .pass pass), .ask _ =>
    let opening := chronicle.opening
    { opening with
      listing := Pass.shown service pass.stage chronicle.turns.space opening.listing }
  | _, _ => chronicle.opening

def note (service : Coordinator σ) (move : Turns.Move) (next : Turns σ) (chronicle : Chronicle σ) :
    Chronicle σ :=
  let ⟨turns, _, log, readings⟩ := chronicle
  let opening := chronicle.reopen service move
  match turns.fresh? next with
  | some (.pass outcome) =>
    let visits := Pass.visits opening.job opening.roster.members opening.listing
    let heard := next.told.toList.drop opening.told
    let entry := ⟨.pass visits heard outcome, opening.roster.members, next.roster.members⟩
    ⟨next, opening, log ++ [entry], readings⟩
  | some (.evicted _) =>
    let entry := ⟨.eviction turns.victim?, opening.roster.members, next.roster.members⟩
    ⟨next, opening, log ++ [entry], readings⟩
  | some (.snapshot number snapshot) =>
    ⟨next, opening, log, readings ++ [⟨number, snapshot, log.length⟩]⟩
  | _ => ⟨next, opening, log, readings⟩

def move? (service : Coordinator σ) (chronicle : Chronicle σ) : Move σ → Option (Chronicle σ)
  | .turn move => do
    let next ← chronicle.turns.move? service move
    return chronicle.note service move next
  | .outside change =>
    let turns := chronicle.turns
    some { chronicle with turns := { turns with space := change turns.space } }

/-- Moves in any order; a move that is not possible is left out. -/
def run (service : Coordinator σ) (moves : List (Move σ)) (chronicle : Chronicle σ) : Chronicle σ :=
  moves.foldl (fun chronicle move => (chronicle.move? service move).getD chronicle) chronicle

def base (chronicle : Chronicle σ) : Roster :=
  match chronicle.turns.current with
  | none => chronicle.turns.roster
  | some _ => chronicle.opening.roster

end Chronicle

def Entry.settled (log : List Entry) : Members :=
  (log.getLast?.map (·.after)).getD ∅

def Entry.isPass (entry : Entry) : Bool :=
  match entry.deed with
  | .pass _ _ _ => true
  | .eviction _ => false

def Entry.visits (entry : Entry) : List ServerPath :=
  match entry.deed with
  | .pass visits _ _ => visits
  | .eviction _ => []

def Entry.heard (entry : Entry) : List Delta :=
  match entry.deed with
  | .pass _ heard _ => heard
  | .eviction _ => []

def Entry.returned? (entry : Entry) : Option Delta :=
  match entry.deed with
  | .pass _ _ (.ok delta) => some delta
  | _ => none

/-- No turn has changed the instance or the group of a path. -/
def Entry.Still (log : List Entry) : Prop :=
  ∀ entry ∈ log, ¬ Members.Differ entry.before entry.after

@[simp] theorem Entry.settled_append (log : List Entry) (entry : Entry) :
    settled (log ++ [entry]) = entry.after := by
  simp [settled]

theorem Entry.still_append (log : List Entry) (entry : Entry) :
    Still (log ++ [entry]) ↔ Still log ∧ ¬ Members.Differ entry.before entry.after := by
  simp [Still, or_imp, forall_and]

end TabletRoster
