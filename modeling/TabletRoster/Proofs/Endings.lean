import TabletRoster.Proofs.Reachable

namespace TabletRoster

variable {σ : Type}

namespace Pass

/-- How a pass goes on from a stage when nothing comes in between: the failure with which it ends,
if any, and the work and the coordination service as they are then. -/
inductive Ends (service : Coordinator σ) (now : Nat) :
    Stage → Work → σ → Option CoordinationError → Work → σ → Prop where
  | told (failure : Option CoordinationError) (work : Work) (space : σ) :
      Ends service now (.reporting failure) work space failure work space
  | further {stage : Stage} {work last : Work} {space after final : σ} {next : Stage × Work}
      {failure : Option CoordinationError}
      (asked : Asked service now work space after stage next)
      (ends : Ends service now next.1 next.2 after failure last final) :
      Ends service now stage work space failure last final

variable {service : Coordinator σ} {now : Nat} {stage : Stage} {work last : Work}
  {space after final : σ} {next : Stage × Work} {failure : Option CoordinationError}

theorem Ends.preserves {holds : Stage → Work → σ → Prop}
    (step : ∀ {stage : Stage} {work : Work} {space after : σ} {next : Stage × Work},
      holds stage work space → Asked service now work space after stage next →
        holds next.1 next.2 after)
    (ends : Ends service now stage work space failure last final) (start : holds stage work space) :
    holds (.reporting failure) last final := by
  induction ends with
  | told failure work space => exact start
  | further asked ends ih => exact ih (step start asked)

theorem Ends.connected (ends : Ends service now stage work space failure last final)
    (connected : work.roster.Connected) : last.roster.Connected := by
  induction ends with
  | told failure work space => exact connected
  | further asked ends ih => exact ih (asked_connected connected asked)

def bound (service : Coordinator σ) (space : σ) : Stage → Nat
  | .listing =>
    match (service.list space).1 with
    | .ok listed => 3 * listed.toList.length + 1
    | .error _ => 1
  | .reading _ later => 3 * (later.getD []).length + 3
  | .probing _ => 2
  | .deleting _ later => 3 * (later.getD []).length + 1
  | .reporting _ => 0

theorem bound_proceed (service : Coordinator σ) (space : σ) (later : Option (List ServerPath)) :
    bound service space (proceed later) ≤ 3 * (later.getD []).length := by
  unfold proceed
  split
  · simp only [bound, Option.getD_some, List.length_cons]
    omega
  · exact Nat.zero_le _

theorem bound_asked (asked : Asked service now work space after stage next) :
    bound service after next.1 < bound service space stage := by
  have rest (later : Option (List ServerPath)) := bound_proceed service after later
  cases asked with
  | unlisted error answer => simp [bound, answer]
  | listed listed answer =>
    have questions : bound service space .listing = 3 * listed.toList.length + 1 := by
      simp [bound, answer]
    rw [questions]
    exact Nat.lt_succ_of_le (rest (some listed.toList))
  | unread path later error answer legible => simp [bound]
  | free path later found answer unheld =>
    obtain ⟨_, next⟩ := unlocked_visit now path later work
    rcases next with next | next | ⟨rfl, next⟩ <;> rw [next]
    · simp [bound]
    · exact Nat.lt_of_le_of_lt (rest later) (Nat.lt_add_of_pos_right (by decide))
    · simp [bound]
  | held path later holder answer =>
    exact Nat.lt_of_le_of_lt (rest later) (Nat.lt_add_of_pos_right (by decide))
  | unprobed path error answer => simp [bound]
  | gone path answer => simp [bound]
  | there path answer =>
    obtain ⟨_, next⟩ := reclaim_same now path none work
    rcases next with next | next <;> rw [next] <;> simp [bound, proceed]
  | deleted path later outcome answer settles => exact Nat.lt_succ_of_le (rest later)
  | undeleted path later error answer => simp [bound]

end Pass

namespace Turns

variable {service : Coordinator σ} {now ticket : Nat} {turns : Turns σ}

def passed (turns : Turns σ) (work : Work) (space : σ) : Turns σ :=
  { turns with
    roster := work.roster
    space := space
    told := turns.told.push work.delta
    tickets := turns.tickets + 1 }

def onward (turns : Turns σ) (ticket : Nat) (answer : (Stage × Work) × σ) : Turns σ :=
  { turns with
    roster := answer.1.2.roster
    space := answer.2
    current := some (ticket, .pass ⟨answer.1.1, answer.1.2.delta⟩) }

theorem advance_busy {stage : Stage} {delta : Delta}
    (current : turns.current = some (ticket, .pass ⟨stage, delta⟩))
    (busy : ∀ failure, stage ≠ .reporting failure) :
    turns.advance? service now =
      some (turns.onward ticket
        (Pass.ask service now stage ⟨turns.roster, delta⟩ turns.space)) := by
  cases stage with
  | reporting failure => exact absurd rfl (busy failure)
  | _ => simp [advance?, current, onward]

theorem runFor_step {fuel : Nat} {next : Turns σ} (waits : turns.result? ticket = none)
    (stepped : turns.step? service now = some next) :
    runFor service now ticket (fuel + 1) turns = runFor service now ticket fuel next := by
  simp [runFor, waits, stepped]

theorem runFor_finish (fuel : Nat) (turns : Turns σ) (result : Result) :
    runFor service now ticket fuel (turns.finish ticket result) = turns.finish ticket result := by
  cases fuel <;> simp [runFor, finish, result?]

/-- The pass at turn comes to its end, unless the fuel does not suffice. -/
theorem runFor_pass (fuel : Nat) {stage : Stage} {delta : Delta}
    (current : turns.current = some (ticket, .pass ⟨stage, delta⟩))
    (fresh : turns.result? ticket = none) :
    (∃ failure work space,
      Pass.Ends service now stage ⟨turns.roster, delta⟩ turns.space failure work space ∧
        runFor service now ticket fuel turns = { turns with
          roster := work.roster
          space := space
          current := none
          told := turns.told.push work.delta
          results := (ticket, .pass (verdict work.delta failure)) :: turns.results }) ∨
      ((runFor service now ticket fuel turns).result? ticket = none ∧
        fuel < Pass.bound service turns.space stage + 2) := by
  induction fuel generalizing turns stage delta with
  | zero => exact .inr ⟨fresh, by omega⟩
  | succ fuel ih =>
    by_cases done : ∃ failure, stage = .reporting failure
    · -- after the last question the listener is told, and he returns: two more moves
      obtain ⟨failure, rfl⟩ := done
      have told : turns.step? service now = some { turns with
          told := turns.told.push delta
          current := some (ticket, .telling delta failure) } := by
        simp [step?, leave?, advance?, current]
      rw [runFor_step fresh told]
      cases fuel with
      | zero => exact .inr ⟨fresh, by simp [Pass.bound]⟩
      | succ fuel =>
        refine .inl ⟨failure, ⟨turns.roster, delta⟩, turns.space, .told _ _ _, ?_⟩
        have left : { turns with
            told := turns.told.push delta
            current := some (ticket, .telling delta failure) }.step? service now = some
            ({ turns with
              told := turns.told.push delta
              current := some (ticket, .telling delta failure) }.finish ticket
                (.pass (verdict delta failure))) := by
          cases failure <;> simp [step?, leave?, verdict]
        rw [runFor_step (by exact fresh) left, runFor_finish]
        rfl
    · have busy : ∀ failure, stage ≠ .reporting failure := fun failure same => done ⟨failure, same⟩
      have asked := Pass.asked service now ⟨turns.roster, delta⟩ turns.space busy
      have stepped : turns.advance? service now = some (turns.onward ticket
          (Pass.ask service now stage ⟨turns.roster, delta⟩ turns.space)) :=
        advance_busy current busy
      have step : turns.step? service now = turns.advance? service now := by
        simp [step?, leave?, current, stepped]
      rw [runFor_step fresh (step.trans stepped)]
      rcases @ih (turns.onward ticket _) _ _ rfl fresh with
        ⟨failure, work, space, ends, ran⟩ | ⟨none, short⟩
      · exact .inl ⟨failure, work, space, .further asked ends, ran⟩
      · have fewer := Pass.bound_asked asked
        have short : fuel < Pass.bound service
          (Pass.ask service now stage ⟨turns.roster, delta⟩ turns.space).2
          (Pass.ask service now stage ⟨turns.roster, delta⟩ turns.space).1.1 + 2 := short
        exact .inr ⟨none, by omega⟩

theorem come_waits {job : Job} (turns : Turns σ) (waits : job ≠ .read) :
    turns.come job = (turns.tickets, { turns with
      tickets := turns.tickets + 1
      waiting := turns.waiting ++ [(turns.tickets, job)] }) := by
  cases job with
  | read => exact absurd rfl waits
  | _ => rfl

theorem Orderly.unissued (orderly : turns.Orderly) :
    ∀ entry ∈ turns.results, entry.1 ≠ turns.tickets := by
  intro entry member same
  have held : entry.1 ∈ turns.outstanding := by
    simp only [outstanding, List.mem_append, List.mem_map]
    exact .inr (.inr ⟨entry, member, rfl⟩)
  exact Nat.lt_irrefl _ (same ▸ orderly.issued _ held)

theorem Orderly.fresh_result (orderly : turns.Orderly) :
    turns.results.lookup turns.tickets = none := by
  rw [List.lookup_eq_none_iff]
  intro entry member
  simpa using (orderly.unissued entry member).symm

theorem Orderly.others (orderly : turns.Orderly) :
    turns.results.filter (fun entry => entry.1 != turns.tickets) = turns.results := by
  rw [List.filter_eq_self]
  intro entry member
  simpa using orderly.unissued entry member

theorem perform_succ (resting : turns.Resting) (orderly : turns.Orderly) {job : Job}
    (waits : job ≠ .read) (fuel : Nat) :
    let last := runFor service now turns.tickets fuel
      ({ turns with tickets := turns.tickets + 1 }.begin turns.tickets job)
    turns.perform service now (fuel + 1) job =
      (last.result? turns.tickets, last.collect turns.tickets) := by
  have came := turns.come_waits waits
  rw [resting.alone, List.nil_append] at came
  have began : { turns with
      tickets := turns.tickets + 1
      waiting := [(turns.tickets, job)] }.step? service now =
        some ({ turns with tickets := turns.tickets + 1 }.begin turns.tickets job) := by
    simp [step?, leave?, advance?, enter?, resting.idle, resting.alone]
  simp only [perform, came]
  rw [runFor_step (by exact orderly.fresh_result) began]

/-- A roster at rest performs a pass to its end, unless the fuel does not suffice. -/
theorem perform_pass (resting : turns.Resting) (orderly : turns.Orderly) {job : Job} {pass : Pass}
    (asks : job.pass? = some pass) (fuel : Nat) :
    (∃ failure work space,
      Pass.Ends service now pass.stage ⟨turns.roster, pass.delta⟩ turns.space failure work space ∧
        turns.perform service now fuel job =
          (some (.pass (verdict work.delta failure)), turns.passed work space)) ∨
      ((turns.perform service now fuel job).1 = none ∧
        fuel < Pass.bound service turns.space pass.stage + 3) := by
  have fresh := orderly.fresh_result
  have waits : job ≠ .read := by
    rintro rfl
    cases asks
  cases fuel with
  | zero =>
    refine .inr ⟨?_, by omega⟩
    simp [perform, turns.come_waits waits, runFor, result?, fresh]
  | succ fuel =>
    have begun : { turns with tickets := turns.tickets + 1 }.begin turns.tickets job = { turns with
        tickets := turns.tickets + 1
        current := some (turns.tickets, .pass pass) } := by
      cases job <;> cases asks <;> rfl
    rw [perform_succ resting orderly waits, begun]
    rcases @runFor_pass σ service now turns.tickets { turns with
        tickets := turns.tickets + 1
        current := some (turns.tickets, .pass pass) } fuel pass.stage pass.delta rfl fresh with
      ⟨failure, work, space, ends, same⟩ | ⟨none, short⟩
    · refine .inl ⟨failure, work, space, ends, ?_⟩
      rw [same]
      simp [result?, Turns.collect, passed, orderly.others, resting.idle]
    · exact .inr ⟨none, Nat.succ_lt_succ short⟩

theorem performed_pass (resting : turns.Resting) (orderly : turns.Orderly) {job : Job} {pass : Pass}
    (asks : job.pass? = some pass) {fuel : Nat} {result : Result} {after : Turns σ}
    (performed : turns.perform service now fuel job = (some result, after)) :
    ∃ failure work space,
      Pass.Ends service now pass.stage ⟨turns.roster, pass.delta⟩ turns.space failure work space ∧
        result = .pass (verdict work.delta failure) ∧ after = turns.passed work space := by
  rcases turns.perform_pass resting orderly asks fuel with
    ⟨failure, work, space, ends, same⟩ | ⟨none, _⟩
  · rw [performed] at same
    simp only [Prod.mk.injEq, Option.some.injEq] at same
    exact ⟨failure, work, space, ends, same.1, same.2⟩
  · rw [performed] at none
    cases none

theorem performs_pass (now : Nat) (resting : turns.Resting) (orderly : turns.Orderly) {job : Job}
    {pass : Pass} (asks : job.pass? = some pass) {fuel : Nat}
    (enough : Pass.bound service turns.space pass.stage + 3 ≤ fuel) :
    ∃ failure work space,
      Pass.Ends service now pass.stage ⟨turns.roster, pass.delta⟩ turns.space failure work space ∧
        turns.perform service now fuel job =
          (some (.pass (verdict work.delta failure)), turns.passed work space) := by
  rcases turns.perform_pass resting orderly asks fuel with ended | ⟨_, short⟩
  · exact ended
  · omega

theorem Resting.passed (resting : turns.Resting) (work : Work) (space : σ) :
    (turns.passed work space).Resting :=
  ⟨resting.idle, resting.alone⟩

theorem Orderly.passed (orderly : turns.Orderly) (work : Work) (space : σ) :
    (turns.passed work space).Orderly :=
  ⟨fun held member => Nat.lt_succ_of_lt (orderly.issued held member), orderly.once⟩

end Turns
end TabletRoster
