import TabletRoster.Proofs.Reachable

/-!
A journal of what the turns at a roster find at the coordination service, with their times, which
never go back. It only looks on. The service may answer as it likes, others may change it at any
time, and everybody may give up his turn.
-/
namespace TabletRoster

/-- What an answer of the coordination service brings to light. A lock whose data nobody can read
has no holder. -/
inductive Finding where
  | listed (paths : PathSet)
  | read (path : ServerPath) (held : Bool)
  | probed (path : ServerPath) (there : Bool)
  | deleted (path : ServerPath) (outcome : Except CoordinationError Unit)
  | cleared (path : ServerPath)

/-- The path is still listed and there, has no holder, and nobody has settled its deletion. -/
def Finding.Keeps (path : ServerPath) : Finding → Prop
  | .listed paths => path ∈ paths
  | .read other held => other = path → held = false
  | .probed other there => other = path → there = true
  | .deleted other outcome =>
    other = path → outcome ≠ .ok () ∧ ∀ key, outcome ≠ .error (.notEmpty key)
  | .cleared other => other ≠ path

structure Report where
  turn : Nat
  time : Nat
  finding : Finding

def Report.of (turn time : Nat) (found : Option Finding) : List Report :=
  (found.map fun finding => ⟨turn, time, finding⟩).toList

variable {σ : Type}

def Pass.finding? (service : Coordinator σ) (space : σ) : Stage → Option Finding
  | .listing => (service.list space).1.toOption.map .listed
  | .reading path _ =>
    match (service.readLock path space).1 with
    | .ok holder => some (.read path holder.isSome)
    | .error (.malformedLock _ _) => some (.read path false)
    | .error _ => none
  | .probing path => (service.contains path space).1.toOption.map (.probed path)
  | .deleting path _ => some (.deleted path (service.delete path space).1)
  | .reporting _ => none

def Turns.finding? (service : Coordinator σ) (turns : Turns σ) : Option Finding :=
  match turns.current with
  | some (_, .pass pass) => Pass.finding? service turns.space pass.stage
  | some (_, .clearing _ _ target) =>
    (service.deleteTree target turns.space).1.toOption.map fun _ => .cleared target
  | _ => none

structure Journal (σ : Type) where
  turns : Turns σ
  now : Nat
  turn : Nat
  log : List Report

namespace Journal

inductive Move (σ : Type) where
  | turn (move : Turns.Move)
  | cancel (ticket : Nat)
  | outside (change : σ → σ)

def start (grace : Nat) (space : σ) : Journal σ :=
  ⟨.start (.empty grace) space, 0, 0, []⟩

/-- Notes a move of those who take turns. Nobody asks before the last answer. -/
def note? (service : Coordinator σ) (next : Turns σ) (journal : Journal σ) :
    Turns.Move → Option (Journal σ)
  | .ask time =>
    let found := Report.of journal.turn time (journal.turns.finding? service)
    if journal.now ≤ time then
      some { journal with turns := next, now := time, log := journal.log ++ found }
    else none
  | .enter => some { journal with turns := next, turn := journal.turn + 1 }
  | _ => some { journal with turns := next }

def move? (service : Coordinator σ) (journal : Journal σ) : Move σ → Option (Journal σ)
  | .turn move => do
    let next ← journal.turns.move? service move
    journal.note? service next move
  | .cancel ticket => some { journal with turns := journal.turns.cancel ticket }
  | .outside change =>
    some { journal with turns := { journal.turns with space := change journal.turns.space } }

def run (service : Coordinator σ) (moves : List (Move σ)) (journal : Journal σ) : Journal σ :=
  moves.foldl (fun journal move => (journal.move? service move).getD journal) journal

end Journal

/-- A turn before a given one has found a path without a holder, not after a given instant, and
nothing has been found since that makes its time begin anew. -/
def Report.Unheld (log : List Report) (path : ServerPath) (since turn : Nat) : Prop :=
  ∃ before first between, log = before ++ first :: between ∧
    first.finding = .read path false ∧ first.time ≤ since ∧ first.turn < turn ∧
      ∀ report ∈ between, report.finding.Keeps path

/-- Whoever asked for the deletion of a path did so in a later turn than one that had found it
without a holder, after more than the grace period, and nothing between them makes that time begin
anew. -/
def Report.Patient (grace : Nat) (log : List Report) : Prop :=
  ∀ earlier report later path outcome, log = earlier ++ report :: later →
    report.finding = .deleted path outcome →
      ∃ since, Unheld earlier path since report.turn ∧ grace < report.time - since

namespace Report

variable {log : List Report} {path : ServerPath} {since turn : Nat} {report : Report}

theorem Unheld.append (unheld : Unheld log path since turn) {found : List Report}
    (keeps : ∀ report ∈ found, report.finding.Keeps path) :
    Unheld (log ++ found) path since turn := by
  obtain ⟨before, first, between, rfl, free, early, prior, kept⟩ := unheld
  refine ⟨before, first, between ++ found, by simp, free, early, prior, ?_⟩
  intro report member
  rcases List.mem_append.mp member with old | new
  · exact kept report old
  · exact keeps report new

theorem Unheld.mono (unheld : Unheld log path since turn) {now later : Nat} (forth : since ≤ now)
    (after : turn ≤ later) : Unheld log path now later := by
  obtain ⟨before, first, between, whole, free, early, prior, kept⟩ := unheld
  exact ⟨before, first, between, whole, free, Nat.le_trans early forth,
    Nat.lt_of_lt_of_le prior after, kept⟩

theorem Unheld.found (log : List Report) (path : ServerPath) (turn time : Nat) :
    Unheld (log ++ [⟨turn, time, .read path false⟩]) path time (turn + 1) :=
  ⟨log, ⟨turn, time, .read path false⟩, [], rfl, rfl, Nat.le_refl _, Nat.lt_succ_self _, by simp⟩

theorem Patient.append {grace : Nat} (patient : Patient grace log) (report : Report)
    (due : ∀ path outcome, report.finding = .deleted path outcome →
      ∃ since, Unheld log path since report.turn ∧ grace < report.time - since) :
    Patient grace (log ++ [report]) := by
  intro earlier other later path outcome whole deletion
  rcases later.eq_nil_or_concat with rfl | ⟨rest, last, rfl⟩
  · obtain ⟨rfl, same⟩ := List.append_inj' whole rfl
    cases same
    exact due path outcome deletion
  · have split : log ++ [report] = (earlier ++ other :: rest) ++ [last] := by simpa using whole
    obtain ⟨old, _⟩ := List.append_inj' split rfl
    exact patient earlier other rest path outcome old deletion

theorem Patient.note {grace time : Nat} (patient : Patient grace log) (found : Option Finding)
    (due : ∀ path outcome, found = some (.deleted path outcome) →
      ∃ since, Unheld log path since turn ∧ grace < time - since) :
    Patient grace (log ++ of turn time found) := by
  cases found with
  | none => simpa [of] using patient
  | some finding =>
    exact patient.append ⟨turn, time, finding⟩ fun path outcome same =>
      due path outcome (congrArg some same)

end Report
end TabletRoster
