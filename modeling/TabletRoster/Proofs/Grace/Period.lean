import TabletRoster.Proofs.Grace.Journal

namespace TabletRoster

open Report (Unheld)

/-- If the time of a path runs, a turn before a given one has found it without a holder. -/
def StalePaths.Backed (stale : StalePaths) (log : List Report) (turn : Nat) (path : ServerPath) :
    Prop :=
  ∀ since, stale.firstSeen[path]? = some since → Unheld log path since turn

/-- Whatever time still runs ran before, and nothing found makes it begin anew. -/
def StalePaths.Outlasts (stale after : StalePaths) (found : List Report) : Prop :=
  ∀ (path : ServerPath) (since : Nat), after.firstSeen[path]? = some since →
    stale.firstSeen[path]? = some since ∧ ∀ report ∈ found, report.finding.Keeps path

theorem StalePaths.Backed.append {stale after : StalePaths} {log found : List Report} {turn : Nat}
    {path : ServerPath} (backed : stale.Backed log turn path)
    (outlasts : stale.Outlasts after found) : after.Backed (log ++ found) turn path := by
  intro since running
  obtain ⟨ran, keeps⟩ := outlasts path since running
  exact (backed since ran).append keeps

namespace Pass

/-- What the journal says of the times that a pass goes by. -/
structure Vouched (log : List Report) (turn now : Nat) (stage : Stage) (stale : StalePaths) :
    Prop where
  untimed : ∀ path, stage = .listing ∨ path ∈ stage.unsettled → stale.Backed log turn path
  once : stage.unsettled.Nodup
  free : ∀ path, stage = .probing path → Unheld log path now (turn + 1)
  due : ∀ path later, stage = .deleting path later → stale.Due now path

section Vouched

variable {log : List Report} {turn now time : Nat} {stage : Stage} {stale : StalePaths}
  {path : ServerPath} {later : Option (List ServerPath)} {work : Work}

theorem vouched_proceed (untimed : ∀ path ∈ later.getD [], stale.Backed log turn path)
    (once : (later.getD []).Nodup) : Vouched log turn now (proceed later) stale := by
  unfold proceed
  split
  · exact ⟨fun other place => untimed other (place.resolve_left nofun), once, nofun, nofun⟩
  · exact ⟨by simp [Stage.unsettled], .nil, nofun, nofun⟩

theorem vouched_further {after : StalePaths} {found : List Report}
    (tracked : ∀ path, stale.Backed log (turn + 1) path) (outlasts : stale.Outlasts after found)
    (untimed : ∀ path ∈ later.getD [], stale.Backed log turn path) (once : (later.getD []).Nodup) :
    (∀ path, after.Backed (log ++ found) (turn + 1) path) ∧
      Vouched (log ++ found) turn now (proceed later) after :=
  ⟨fun path => (tracked path).append outlasts,
    vouched_proceed (fun path member => (untimed path member).append outlasts) once⟩

theorem vouched_ended {found : List Report} (failure : Option CoordinationError)
    (tracked : ∀ path, stale.Backed log (turn + 1) path) (outlasts : stale.Outlasts stale found) :
    (∀ path, stale.Backed (log ++ found) (turn + 1) path) ∧
      Vouched (log ++ found) turn now (.reporting failure) stale :=
  ⟨fun path => (tracked path).append outlasts, by simp [Stage.unsettled], .nil, nofun, nofun⟩

theorem vouched_reclaim (tracked : ∀ path, work.roster.stale.Backed log (turn + 1) path)
    (untimed : ∀ other ∈ path :: later.getD [], work.roster.stale.Backed log turn other)
    (once : (path :: later.getD []).Nodup) (free : Unheld log path now (turn + 1)) :
    (∀ other, (reclaim now path later work).2.roster.stale.Backed log (turn + 1) other) ∧
      Vouched log turn now (reclaim now path later work).1
        (reclaim now path later work).2.roster.stale := by
  by_cases due : work.roster.stale.Due now path
  · rw [reclaim_due due]
    refine ⟨tracked, fun other place => untimed other (place.resolve_left nofun), once, nofun, ?_⟩
    intro other rest same
    cases same
    exact due
  · rw [reclaim_undue due]
    obtain ⟨first, rest⟩ := List.nodup_cons.mp once
    constructor
    · intro other since running
      simp only [Work.observe, StalePaths.getElem_observe] at running
      split at running
      · rename_i same
        subst same
        cases ran : work.roster.stale.firstSeen[other]? with
        | none =>
          rw [ran] at running
          cases running
          exact free
        | some begun =>
          rw [ran] at running
          cases running
          exact tracked other begun ran
      · exact tracked other since running
    · apply vouched_proceed _ rest
      intro other member since running
      have different : other ≠ path := fun same => first (same ▸ member)
      simp only [Work.observe, StalePaths.getElem_observe, if_neg different] at running
      exact untimed other (List.mem_cons_of_mem _ member) since running

theorem outlasts_refl {found : List Report} (stale : StalePaths)
    (keeps : ∀ path, ∀ report ∈ found, report.finding.Keeps path) : stale.Outlasts stale found :=
  fun path _ ran => ⟨ran, keeps path⟩

theorem outlasts_forget {found : List Report} (stale : StalePaths)
    (keeps : ∀ other, other ≠ path → ∀ report ∈ found, report.finding.Keeps other) :
    stale.Outlasts (stale.forget path) found := by
  intro other since running
  rw [StalePaths.getElem_forget] at running
  split at running
  · cases running
  · rename_i different
    exact ⟨running, keeps other different⟩

theorem outlasts_retain (turn time : Nat) (stale : StalePaths) (listed : PathSet) :
    stale.Outlasts (stale.retain listed) [⟨turn, time, .listed listed⟩] := by
  intro path since running
  rw [StalePaths.getElem_retain] at running
  split at running
  · rename_i there
    exact ⟨running, by simpa [Finding.Keeps] using there⟩
  · cases running

end Vouched

variable {σ : Type} {service : Coordinator σ} {log : List Report} {turn now time : Nat}
  {stage : Stage} {work : Work} {space after : σ} {next : Stage × Work}

theorem vouched_asked (tracked : ∀ path, work.roster.stale.Backed log (turn + 1) path)
    (vouched : Vouched log turn now stage work.roster.stale) (forth : now ≤ time)
    (asked : Asked service time work space after stage next) :
    (∀ path, next.2.roster.stale.Backed
      (log ++ Report.of turn time (finding? service space stage)) (turn + 1) path) ∧
      Vouched (log ++ Report.of turn time (finding? service space stage)) turn time next.1
        next.2.roster.stale := by
  obtain ⟨untimed, once, free, due⟩ := vouched
  cases asked with
  | unlisted error answer =>
    simp only [finding?, answer]
    exact vouched_ended _ tracked (outlasts_refl _ (by simp [Report.of, Except.toOption]))
  | listed listed answer =>
    have outlasts := outlasts_retain turn time work.roster.stale listed
    rw [← Work.stale_keepListed] at outlasts
    simp only [finding?, answer]
    exact vouched_further tracked outlasts (fun path _ => untimed path (.inl rfl))
      listed.nodup_toList
  | unread path later error answer legible =>
    have nothing : finding? service space (.reading path later) = none := by
      cases error with
      | malformedLock key fault => exact absurd rfl (legible key fault)
      | _ => simp [finding?, answer]
    rw [nothing]
    exact vouched_ended _ tracked (outlasts_refl _ (by simp [Report.of]))
  | free path later found answer unheld =>
    have read : finding? service space (.reading path later) = some (.read path false) := by
      rcases unheld with rfl | ⟨key, fault, rfl⟩ <;> simp [finding?, answer]
    rw [read]
    have outlasts : work.roster.stale.Outlasts (work.lose path).roster.stale
        [⟨turn, time, .read path false⟩] := by
      rw [Work.stale_lose]
      exact outlasts_refl _ (by simp [Finding.Keeps])
    -- this reading is what backs the time that may begin now
    have tracked := fun other => (tracked other).append outlasts
    have untimed := fun other member => (untimed other (.inr member)).append outlasts
    have found := Report.Unheld.found log path turn time
    unfold unlocked
    split
    · exact vouched_reclaim tracked untimed once found
    · refine ⟨tracked, fun other place => ?_, by simp [Stage.unsettled], ?_, by simp⟩
      · rcases place with same | same
        · cases same
        · rw [List.mem_singleton.mp same]
          exact untimed path List.mem_cons_self
      · intro other same
        cases same
        exact found
  | held path later holder answer =>
    have outlasts : work.roster.stale.Outlasts (work.hold path holder).roster.stale
        [⟨turn, time, .read path true⟩] := by
      rw [Work.stale_hold]
      exact outlasts_forget _ (by simp [Finding.Keeps, eq_comm])
    simp only [finding?, answer]
    exact vouched_further tracked outlasts
      (fun other member => untimed other (.inr (List.mem_cons_of_mem _ member))) once.of_cons
  | unprobed path error answer =>
    simp only [finding?, answer]
    exact vouched_ended _ tracked (outlasts_refl _ (by simp [Report.of, Except.toOption]))
  | gone path answer =>
    have outlasts : work.roster.stale.Outlasts (work.forget path).roster.stale
        [⟨turn, time, .probed path false⟩] :=
      outlasts_forget _ (by simp [Finding.Keeps, eq_comm])
    simp only [finding?, answer]
    exact @vouched_further _ _ _ _ none _ _ tracked outlasts (by simp) .nil
  | there path answer =>
    have outlasts : work.roster.stale.Outlasts work.roster.stale
        [⟨turn, time, .probed path true⟩] := outlasts_refl _ (by simp [Finding.Keeps])
    simp only [finding?, answer]
    refine vouched_reclaim (fun other => (tracked other).append outlasts) ?_ (by simp) ?_
    · intro other member
      exact (untimed other (.inr member)).append outlasts
    · exact ((free path rfl).mono forth (Nat.le_refl _)).append
        (by simp [Report.of, Except.toOption, Finding.Keeps])
  | deleted path later outcome answer settles =>
    have outlasts : work.roster.stale.Outlasts (work.forget path).roster.stale
        [⟨turn, time, .deleted path outcome⟩] :=
      outlasts_forget _ (by simp +contextual [Finding.Keeps, eq_comm])
    simp only [finding?, answer]
    exact vouched_further tracked outlasts
      (fun other member => untimed other (.inr (List.mem_cons_of_mem _ member))) once.of_cons
  | undeleted path later error answer unsettled =>
    simp only [finding?, answer]
    exact vouched_ended _ tracked
      (outlasts_refl _ (by simpa [Report.of, Finding.Keeps] using unsettled))

theorem stage_of_deleted {path : ServerPath} {outcome : Except CoordinationError Unit}
    (found : finding? service space stage = some (.deleted path outcome)) :
    ∃ later, stage = .deleting path later := by
  unfold finding? at found
  split at found
  · simp at found
  · split at found <;> cases found
  · simp at found
  · cases found
    exact ⟨_, rfl⟩
  · cases found

end Pass

namespace Journal

variable {σ : Type} {service : Coordinator σ} {grace : Nat} {journal next : Journal σ}

structure Sound (service : Coordinator σ) (grace : Nat) (journal : Journal σ) : Prop where
  reachable : journal.turns.Reachable service grace
  tracked : ∀ path, journal.turns.roster.stale.Backed journal.log (journal.turn + 1) path
  pass : ∀ ticket stage delta, journal.turns.current = some (ticket, .pass ⟨stage, delta⟩) →
    Pass.Vouched journal.log journal.turn journal.now stage journal.turns.roster.stale
  patient : Report.Patient grace journal.log

theorem sound_start (service : Coordinator σ) (grace : Nat) (space : σ) :
    (start grace space).Sound service grace := by
  refine ⟨.started space, ?_, nofun, ?_⟩
  · simp [StalePaths.Backed, start, Turns.start, Roster.empty, StalePaths.empty]
  · simp [Report.Patient, start]

theorem Sound.still (sound : journal.Sound service grace)
    (reachable : next.turns.Reachable service grace)
    (stale : next.turns.roster.stale = journal.turns.roster.stale) (log : next.log = journal.log)
    (turn : journal.turn ≤ next.turn)
    (pass : ∀ ticket pass, next.turns.current = some (ticket, .pass pass) →
      journal.turns.current = some (ticket, .pass pass) ∧ next.turn = journal.turn ∧
        next.now = journal.now) :
    next.Sound service grace := by
  refine ⟨reachable, ?_, ?_, log ▸ sound.patient⟩
  · intro path since running
    rw [stale] at running
    rw [log]
    exact (sound.tracked path since running).mono (Nat.le_refl _) (Nat.succ_le_succ turn)
  · intro ticket stage delta current
    obtain ⟨before, same, clock⟩ := pass ticket _ current
    rw [stale, log, same, clock]
    exact sound.pass ticket stage delta before

theorem sound_enter (sound : journal.Sound service grace) {turns : Turns σ}
    (moved : journal.turns.move? service .enter = some turns) :
    { journal with turns := turns, turn := journal.turn + 1 }.Sound service grace := by
  have reachable := sound.reachable.moved moved
  cases Turns.step_of_move moved with
  | begun ticket job rest pass idle first asks =>
    refine ⟨reachable, ?_, ?_, sound.patient⟩
    · intro path since running
      exact (sound.tracked path since running).mono (Nat.le_refl _) (Nat.le_succ _)
    · intro holder stage delta current
      cases current
      have untimed : ∀ path, journal.turns.roster.stale.Backed journal.log (journal.turn + 1)
          path := sound.tracked
      cases job with
      | scan =>
        cases asks
        exact ⟨fun path _ => untimed path, .nil, by simp, by simp⟩
      | check path =>
        cases asks
        exact ⟨fun path _ => untimed path, by simp [Stage.unsettled], by simp, by simp⟩
      | _ => cases asks
  | read ticket rest idle first =>
    refine sound.still reachable ?_ rfl (Nat.le_succ _) (by simp [Turns.finish])
    show journal.turns.roster.snapshot.2.stale = _
    unfold Roster.snapshot
    split <;> rfl
  | _ => exact sound.still reachable rfl rfl (Nat.le_succ _) (by simp [Turns.finish])

theorem sound_ask (sound : journal.Sound service grace) {time : Nat} {turns : Turns σ}
    (forth : journal.now ≤ time) (moved : journal.turns.move? service (.ask time) = some turns) :
    { journal with
      turns := turns
      now := time
      log := journal.log ++ Report.of journal.turn time (journal.turns.finding? service)
      }.Sound service grace := by
  have reachable := sound.reachable.moved moved
  have silent (found : journal.turns.finding? service = none)
      (stale : turns.roster.stale = journal.turns.roster.stale)
      (pass : ∀ ticket pass, turns.current ≠ some (ticket, .pass pass)) :=
    @Sound.still σ service grace journal ⟨turns, time, journal.turn,
        journal.log ++ Report.of journal.turn time (journal.turns.finding? service)⟩
      sound reachable stale (by simp [found, Report.of]) (Nat.le_refl _)
      fun ticket at_work current => absurd current (pass ticket at_work)
  cases Turns.step_of_move moved with
  | told _ ticket failure delta current =>
    exact silent (by simp [Turns.finding?, current, Pass.finding?]) rfl (by simp)
  | asked _ ticket stage delta next after current asked =>
    have vouched := sound.pass ticket stage delta current
    obtain ⟨tracked, further⟩ := Pass.vouched_asked sound.tracked vouched forth asked
    have same :
        journal.turns.finding? service = Pass.finding? service journal.turns.space stage := by
      simp [Turns.finding?, current]
    rw [same]
    refine ⟨reachable, tracked, ?_, sound.patient.note _ ?_⟩
    · intro holder other changes at_work
      cases at_work
      exact further
    · intro path outcome found
      obtain ⟨later, rfl⟩ := Pass.stage_of_deleted found
      obtain ⟨since, running, long⟩ := vouched.due path later rfl
      refine ⟨since, vouched.untimed path (.inr List.mem_cons_self) since running, ?_⟩
      rw [sound.reachable.same_grace] at long
      omega
  | unlisted _ ticket i path error after current answer =>
    exact silent (by simp [Turns.finding?, current]) rfl (by simp [Turns.finish])
  | located _ ticket i path target listed after current answer unique =>
    exact silent (by simp [Turns.finding?, current]) rfl (by simp)
  | ambiguous _ ticket i path listed after current answer several =>
    exact silent (by simp [Turns.finding?, current]) rfl (by simp [Turns.finish])
  | uncleared _ ticket i path target error after current answer =>
    exact silent (by simp [Turns.finding?, current, answer, Except.toOption]) rfl
      (by simp [Turns.finish])
  | cleared _ ticket i path target after current answer =>
    have found : journal.turns.finding? service = some (.cleared target) := by
      simp [Turns.finding?, current, answer, Except.toOption]
    rw [found]
    have outlasts : journal.turns.roster.stale.Outlasts (journal.turns.roster.stale.forget target)
        [⟨journal.turn, time, .cleared target⟩] :=
      Pass.outlasts_forget _ (by simp [Finding.Keeps, eq_comm])
    exact ⟨reachable, fun other => (sound.tracked other).append outlasts, by simp [Turns.finish],
      sound.patient.note _ (by simp)⟩

theorem sound_move (sound : journal.Sound service grace) {move : Move σ}
    (moved : journal.move? service move = some next) : next.Sound service grace := by
  cases move with
  | turn move =>
    obtain ⟨turns, stepped, noted⟩ := Option.bind_eq_some_iff.mp moved
    have reachable := sound.reachable.moved stepped
    cases move with
    | ask time =>
      simp only [note?, Option.ite_none_right_eq_some, Option.some.injEq] at noted
      obtain ⟨forth, rfl⟩ := noted
      exact sound_ask sound forth stepped
    | enter =>
      cases noted
      exact sound_enter sound stepped
    | come job =>
      cases noted
      cases Turns.step_of_move stepped <;>
        exact sound.still reachable rfl rfl (Nat.le_refl _) fun _ _ current => ⟨current, rfl, rfl⟩
    | leave =>
      cases noted
      cases Turns.step_of_move stepped with
      | left ticket delta failure current =>
        exact sound.still reachable rfl rfl (Nat.le_refl _) nofun
    | collect ticket =>
      cases noted
      cases Turns.step_of_move stepped with
      | collected ticket =>
        exact sound.still reachable rfl rfl (Nat.le_refl _) fun _ _ current => ⟨current, rfl, rfl⟩
  | cancel ticket =>
    cases moved
    exact sound.still (sound.reachable.cancelled ticket) rfl rfl (Nat.le_refl _)
      fun _ _ current => ⟨Turns.current_cancel current, rfl, rfl⟩
  | outside change =>
    cases moved
    exact sound.still (sound.reachable.changed change) rfl rfl (Nat.le_refl _)
      fun _ _ current => ⟨current, rfl, rfl⟩

theorem sound_run (service : Coordinator σ) (grace : Nat) (moves : List (Move σ))
    (sound : journal.Sound service grace) : (journal.run service moves).Sound service grace :=
  kept_by_moves (fun _ sound moved => sound_move sound moved) (fun _ _ => trivial) sound

end Journal
end TabletRoster
