import TabletRoster.Proofs.Endings

/-!
Spells at the roster: all that comes to pass while one is at turn. He asks the coordination service
one question after another. Meanwhile others come, give up and take their results away, and the
service changes.
-/
namespace TabletRoster

variable {σ : Type}

inductive Question where
  | list
  | readLock (path : ServerPath)
  | contains (path : ServerPath)
  | delete (path : ServerPath)
  | deleteTree (path : ServerPath)
  deriving DecidableEq, Repr

def Stage.question? : Stage → Option Question
  | .listing => some .list
  | .reading path _ => some (.readLock path)
  | .probing path => some (.contains path)
  | .deleting path _ => some (.delete path)
  | .reporting _ => none

def Turn.question? : Turn → Option Question
  | .pass asking => asking.stage.question?
  | .telling _ _ => none
  | .locating _ _ => some .list
  | .clearing _ _ target => some (.deleteTree target)

structure Asking (σ : Type) where
  time : Nat
  question : Question
  space : σ

namespace Turns

/-- What can come to pass from the begin of a turn on, at the latest until its end, and what is
asked meanwhile. -/
inductive Spell (service : Coordinator σ) (ticket : Nat) (turns : Turns σ) :
    List (Asking σ) → Turns σ → Prop where
  | begun : Spell service ticket turns [] turns
  | asked {trace : List (Asking σ)} {middle next : Turns σ} {turn : Turn} (time : Nat)
      (spell : Spell service ticket turns trace middle)
      (current : middle.current = some (ticket, turn))
      (moved : middle.advance? service time = some next) :
      Spell service ticket turns
        (trace ++ (turn.question?.map (⟨time, ·, middle.space⟩)).toList) next
  | left {trace : List (Asking σ)} {middle next : Turns σ} {turn : Turn}
      (spell : Spell service ticket turns trace middle)
      (current : middle.current = some (ticket, turn)) (moved : middle.leave? = some next) :
      Spell service ticket turns trace next
  | came {trace : List (Asking σ)} {middle : Turns σ} {turn : Turn} (job : Job)
      (spell : Spell service ticket turns trace middle)
      (current : middle.current = some (ticket, turn)) :
      Spell service ticket turns trace (middle.come job).2
  | collected {trace : List (Asking σ)} {middle : Turns σ} {turn : Turn} (owner : Nat)
      (spell : Spell service ticket turns trace middle)
      (current : middle.current = some (ticket, turn)) :
      Spell service ticket turns trace (middle.collect owner)
  | cancelled {trace : List (Asking σ)} {middle : Turns σ} {turn : Turn} (other : Nat)
      (spell : Spell service ticket turns trace middle)
      (current : middle.current = some (ticket, turn)) (apart : other ≠ ticket) :
      Spell service ticket turns trace (middle.cancel other)
  | changed {trace : List (Asking σ)} {middle : Turns σ} {turn : Turn} (change : σ → σ)
      (spell : Spell service ticket turns trace middle)
      (current : middle.current = some (ticket, turn)) :
      Spell service ticket turns trace { middle with space := change middle.space }

variable {service : Coordinator σ} {ticket grace : Nat} {turns last : Turns σ}
  {trace : List (Asking σ)}

theorem Spell.reachable (spell : Spell service ticket turns trace last)
    (reachable : turns.Reachable service grace) : last.Reachable service grace := by
  induction spell with
  | begun => exact reachable
  | @asked trace middle next turn time spell current moved ih =>
    exact @Reachable.moved σ service grace middle next (.ask time) ih moved
  | @left trace middle next turn spell current moved ih =>
    exact @Reachable.moved σ service grace middle next .leave ih moved
  | @came trace middle turn job spell current ih =>
    exact @Reachable.moved σ service grace middle _ (.come job) ih rfl
  | @collected trace middle turn owner spell current ih =>
    exact @Reachable.moved σ service grace middle _ (.collect owner) ih rfl
  | cancelled other spell current apart ih => exact .cancelled other ih
  | changed change spell current ih => exact .changed change ih

theorem Orderly.pending (orderly : turns.Orderly) {turn : Turn}
    (current : turns.current = some (ticket, turn)) : turns.result? ticket = none := by
  refine List.lookup_eq_none_iff.mpr fun entry member => ?_
  have once := orderly.once
  simp only [outstanding, current, Option.toList_some, List.map_cons, List.map_nil,
    List.singleton_append, List.nodup_cons, List.mem_append, not_or] at once
  have apart : ticket ≠ entry.1 := by
    rintro rfl
    exact once.1.2 (List.mem_map_of_mem member)
  simpa using apart

theorem come_beside (job : Job) (turns : Turns σ) : (turns.come job).2.current = turns.current ∧
    (turns.come job).2.roster = turns.roster ∧ (turns.come job).2.told = turns.told ∧
      (turns.come job).2.space = turns.space := by
  unfold come
  dsimp only
  split <;> exact ⟨rfl, rfl, rfl, rfl⟩

theorem current_cancel_other {turn : Turn} {other : Nat}
    (current : turns.current = some (ticket, turn)) (apart : other ≠ ticket) :
    (turns.cancel other).current = some (ticket, turn) := by
  simp [cancel, current, Option.filter_some, apart.symm]

/-- How far the one at turn has come with his pass. -/
inductive Proceeding (ticket : Nat) (told : Array Delta) (holds : Stage → Work → Prop)
    (turns : Turns σ) : Prop where
  | asking (stage : Stage) (delta : Delta)
      (current : turns.current = some (ticket, .pass ⟨stage, delta⟩)) (silent : turns.told = told)
      (held : holds stage ⟨turns.roster, delta⟩)
  | telling (failure : Option CoordinationError) (delta : Delta)
      (current : turns.current = some (ticket, .telling delta failure))
      (told : turns.told = told.push delta)
      (held : holds (.reporting failure) ⟨turns.roster, delta⟩)
  | closed (failure : Option CoordinationError) (delta : Delta) (current : turns.current = none)
      (result : turns.result? ticket = some (.pass (verdict delta failure)))
      (told : turns.told = told.push delta)
      (held : holds (.reporting failure) ⟨turns.roster, delta⟩)

theorem Proceeding.beside {told : Array Delta} {holds : Stage → Work → Prop} {next : Turns σ}
    {turn : Turn} (passing : Proceeding ticket told holds turns)
    (current : turns.current = some (ticket, turn)) (same : next.current = turns.current)
    (roster : next.roster = turns.roster) (silent : next.told = turns.told) :
    Proceeding ticket told holds next := by
  cases passing with
  | asking stage delta pass untold held =>
    exact .asking stage delta (same.trans pass) (silent.trans untold) (roster ▸ held)
  | telling failure delta tells heard held =>
    exact .telling failure delta (same.trans tells) (silent.trans heard) (roster ▸ held)
  | closed failure delta idle result heard held =>
    rw [idle] at current
    cases current

theorem advance_pass {time : Nat} {next : Turns σ} {stage : Stage} {delta : Delta}
    (passes : turns.current = some (ticket, .pass ⟨stage, delta⟩))
    (moved : turns.advance? service time = some next) :
    (∃ failure, stage = .reporting failure ∧ next = { turns with
      told := turns.told.push delta
      current := some (ticket, .telling delta failure) }) ∨
    ∃ question answer after, stage.question? = some question ∧
      Pass.Asked service time ⟨turns.roster, delta⟩ turns.space after stage answer ∧
      next = { turns with
        roster := answer.2.roster
        space := after
        current := some (ticket, .pass ⟨answer.1, answer.2.delta⟩) } := by
  cases step_of_advance moved with
  | told _ _ failure delta tells =>
    cases passes.symm.trans tells
    exact .inl ⟨failure, rfl, rfl⟩
  | asked _ _ stage delta answer after asks asked =>
    cases passes.symm.trans asks
    have busy : ∃ question, stage.question? = some question := by
      cases asked <;> exact ⟨_, rfl⟩
    obtain ⟨question, asks⟩ := busy
    exact .inr ⟨question, answer, after, asks, asked, rfl⟩
  | unlisted _ _ i path error after locates => cases passes.symm.trans locates
  | located _ _ i path target listed after locates => cases passes.symm.trans locates
  | ambiguous _ _ i path listed after locates => cases passes.symm.trans locates
  | uncleared _ _ i path target error after clears => cases passes.symm.trans clears
  | cleared _ _ i path target after clears => cases passes.symm.trans clears

section Pass

variable (holds : List (Asking σ) → Stage → Work → Prop) {pass : Pass}
  (begun : turns.current = some (ticket, .pass pass))
  (start : holds [] pass.stage ⟨turns.roster, pass.delta⟩)
  (step : ∀ {trace : List (Asking σ)} {time : Nat} {question : Question} {stage : Stage}
    {work : Work} {space after : σ} {next : Stage × Work}, holds trace stage work →
      stage.question? = some question → Pass.Asked service time work space after stage next →
        holds (trace ++ [⟨time, question, space⟩]) next.1 next.2)

include begun start step

/-- What each answer keeps that is worked into a pass holds of the pass to its end. -/
theorem Spell.passing (spell : Spell service ticket turns trace last) :
    Proceeding ticket turns.told (holds trace) last := by
  induction spell with
  | begun => exact .asking pass.stage pass.delta begun rfl start
  | @asked trace middle next turn time spell current moved ih =>
    cases ih with
    | asking stage delta passes silent held =>
      cases current.symm.trans passes
      rcases advance_pass passes moved with
        ⟨failure, rfl, rfl⟩ | ⟨question, answer, after, asks, asked, rfl⟩
      · refine .telling failure delta rfl (congrArg (·.push delta) silent) ?_
        simpa [Turn.question?, Stage.question?] using held
      · have further := step held asks asked
        refine .asking answer.1 answer.2.delta rfl silent ?_
        simpa [Turn.question?, asks] using further
    | telling failure delta tells heard held => simp [advance?, tells] at moved
    | closed failure delta idle result heard held =>
      rw [idle] at current
      cases current
  | @left trace middle next turn spell current moved ih =>
    cases @step_of_leave σ service _ _ moved with
    | left owner delta failure tells =>
      cases current.symm.trans tells
      cases ih with
      | asking stage delta passes silent held => cases tells.symm.trans passes
      | telling failure delta tells' heard held =>
        cases tells.symm.trans tells'
        exact .closed failure delta rfl (by simp [finish, result?]) heard held
      | closed failure delta idle result heard held =>
        rw [idle] at tells
        cases tells
  | came job spell current ih =>
    obtain ⟨same, roster, silent, _⟩ := come_beside job _
    exact ih.beside current same roster silent
  | collected owner spell current ih => exact ih.beside current rfl rfl rfl
  | cancelled other spell current apart ih =>
    exact ih.beside current ((current_cancel_other current apart).trans current.symm) rfl rfl
  | changed change spell current ih => exact ih.beside current rfl rfl rfl

theorem Spell.passed {result : Result} (reachable : turns.Reachable service grace)
    (spell : Spell service ticket turns trace last)
    (ended : last.result? ticket = some result) :
    ∃ failure delta, result = .pass (verdict delta failure) ∧ last.told = turns.told.push delta ∧
      holds trace (.reporting failure) ⟨last.roster, delta⟩ := by
  have pending {turn : Turn} (current : last.current = some (ticket, turn)) : False := by
    rw [(spell.reachable reachable).orderly.pending current] at ended
    cases ended
  cases spell.passing holds begun start step with
  | asking stage delta current silent held => exact (pending current).elim
  | telling failure delta current heard held => exact (pending current).elim
  | closed failure delta current returned heard held =>
    rw [ended] at returned
    exact ⟨failure, delta, Option.some.inj returned, heard, held⟩

end Pass

theorem advance_current {time : Nat} {next : Turns σ} {turn : Turn}
    (current : turns.current = some (ticket, turn))
    (moved : turns.advance? service time = some next) :
    (∃ turn, next.current = some (ticket, turn)) ∨ (next.result? ticket).isSome := by
  cases step_of_advance moved with
  | told _ owner failure delta tells =>
    cases current.symm.trans tells
    exact .inl ⟨_, rfl⟩
  | asked _ owner stage delta answer after asks asked =>
    cases current.symm.trans asks
    exact .inl ⟨_, rfl⟩
  | unlisted _ owner i path error after locates answer =>
    cases current.symm.trans locates
    exact .inr (by simp [finish, result?])
  | located _ owner i path target listed after locates answer unique =>
    cases current.symm.trans locates
    exact .inl ⟨_, rfl⟩
  | ambiguous _ owner i path listed after locates answer several =>
    cases current.symm.trans locates
    exact .inr (by simp [finish, result?])
  | uncleared _ owner i path target error after clears answer =>
    cases current.symm.trans clears
    exact .inr (by simp [finish, result?])
  | cleared _ owner i path target after clears answer =>
    cases current.symm.trans clears
    exact .inr (by simp [finish, result?])

/-- A job that is performed without a break is a spell. -/
theorem spell_runFor (service : Coordinator σ) (now fuel : Nat) {turn : Turn}
    (current : turns.current = some (ticket, turn)) :
    ∃ trace, Spell service ticket turns trace (runFor service now ticket fuel turns) := by
  suffices further : ∀ (middle : Turns σ) (trace : List (Asking σ)),
      Spell service ticket turns trace middle → (∃ turn, middle.current = some (ticket, turn)) →
        ∃ trace, Spell service ticket turns trace (runFor service now ticket fuel middle) from
    further turns [] .begun ⟨turn, current⟩
  induction fuel with
  | zero => exact fun middle trace spell _ => ⟨trace, spell⟩
  | succ fuel ih =>
    intro middle trace spell ⟨turn, current⟩
    unfold runFor
    split
    · exact ⟨trace, spell⟩
    · cases left : middle.leave? with
      | some next =>
        have final : ∃ result, next = middle.finish ticket result := by
          cases @step_of_leave σ service _ _ left with
          | left owner delta failure tells =>
            cases current.symm.trans tells
            exact ⟨_, rfl⟩
        obtain ⟨result, rfl⟩ := final
        simp only [step?, left, Option.orElse_eq_orElse, Option.orElse_eq_or, Option.some_or,
          runFor_finish]
        exact ⟨trace, .left spell current left⟩
      | none =>
        cases moved : middle.advance? service now with
        | some next =>
          simp only [step?, left, moved, Option.orElse_eq_orElse, Option.orElse_eq_or,
            Option.none_or, Option.some_or]
          have further := Spell.asked now spell current moved
          rcases advance_current current moved with at_turn | done
          · exact ih next _ further at_turn
          · cases fuel with
            | zero => exact ⟨_, further⟩
            | succ fuel =>
              simp only [runFor, done, if_true]
              exact ⟨_, further⟩
        | none =>
          simp only [step?, left, moved, enter?, current, Option.orElse_eq_orElse,
            Option.orElse_eq_or, Option.none_or]
          exact ⟨trace, spell⟩

end Turns
end TabletRoster
