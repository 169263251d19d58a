import TabletRoster.Proofs.Precedence
import TabletRoster.Rehearsal.Cluster
import TabletRoster.Rehearsal.World

namespace TabletRoster

namespace Span

def Fits (span : Span) : Prop :=
  span.total / 1000 < UInt64.size

instance (span : Span) : Decidable span.Fits :=
  inferInstanceAs (Decidable (_ < _))

theorem nanoseconds_of_fits {span : Span} (fits : span.Fits) :
    span.nanoseconds? = some (1000000 * span.total) := by
  rw [nanoseconds_eq]
  exact if_pos fits

theorem nanoseconds_of_unfit {span : Span} (unfit : ¬ span.Fits) : span.nanoseconds? = none := by
  rw [nanoseconds_eq]
  exact if_neg unfit

end Span

namespace Settings

theorem validate_ok {settings : Settings} :
    settings.validate = .ok () ↔ settings.scanInterval.Fits ∧ 0 < settings.scanInterval.total := by
  unfold validate
  by_cases fits : settings.scanInterval.Fits
  · rw [Span.nanoseconds_of_fits fits]
    -- the length is a variable here, since the kernel would count up to it
    cases length : 1000000 * settings.scanInterval.total with
    | zero => exact iff_of_false nofun fun accepted => by omega
    | succ n => exact iff_of_true rfl ⟨fits, by omega⟩
  · rw [Span.nanoseconds_of_unfit fits]
    exact iff_of_false nofun fun told => fits told.1

theorem validate_of_build {sources : List Source} {settings : Settings}
    (built : build sources = .ok settings) : settings.validate = .ok () := by
  unfold build at built
  cases laid : layered sources with
  | error failure =>
    rw [laid] at built
    cases built
  | ok value =>
    simp only [laid, bind, Except.bind] at built
    split at built
    · cases built
    · split at built
      · rename_i valid
        cases built
        exact valid
      · cases built

end Settings

namespace Rehearsal.World

variable {world next : World}

theorem tell_settings (world : World) : world.tell.settings = world.settings := by
  unfold tell
  split
  · split <;> rfl
  · rfl

theorem drive_settings {ticket : Nat} (driven : world.drive? ticket = some next) :
    next.settings = world.settings := by
  unfold drive? at driven
  split at driven
  · split at driven
    · cases driven
    · split at driven
      · split at driven
        · cases driven
        · obtain ⟨turns, _, rfl⟩ := Option.map_eq_some_iff.mp driven
          rfl
      · obtain ⟨turns, _, rfl⟩ := Option.map_eq_some_iff.mp driven
        exact tell_settings _
  · split at driven
    · split at driven
      · obtain ⟨turns, _, rfl⟩ := Option.map_eq_some_iff.mp driven
        rfl
      · cases driven
    · cases driven

theorem run_job_settings (ticket fuel : Nat) (world : World) :
    (run (.job ticket) fuel world).settings = world.settings := by
  induction fuel generalizing world with
  | zero => rfl
  | succ fuel ih =>
    unfold run
    split
    · rename_i next moved
      exact (ih next).trans (drive_settings moved)
    · rfl

theorem perform_settings (world : World) (job : Job) :
    (world.perform job).2.settings = world.settings :=
  run_job_settings _ _ _

def scanned (world : World) : World :=
  ({ world with started := true }.perform .scan).2

def tracked (world : World) : Except StartError World := do
  if largestQueue < world.settings.queueCapacity.toNat then throw .queueTooLarge
  let some period := world.settings.scanInterval.nanoseconds? | throw (.refused .overflow)
  let some retryDelay := world.settings.retryDelay.nanoseconds? | throw (.refused .overflow)
  let tracking := Tracking.begin world.settings.queueCapacity.toNat period retryDelay world.now
  return { world with tracking := some tracking, ready := [.reconciler, .watcher, .ticker] }

theorem begin_accepted (accepted : world.settings.validate = .ok ())
    (unstarted : world.started = false) : world.begin = world.scanned.tracked := by
  unfold begin
  rw [accepted, unstarted]
  rfl

theorem tracked_of_fits (queue : world.settings.queueCapacity.toNat ≤ largestQueue)
    (interval : world.settings.scanInterval.Fits) (delay : world.settings.retryDelay.Fits) :
    world.tracked = .ok { world with
      tracking := some (.begin world.settings.queueCapacity.toNat
        (1000000 * world.settings.scanInterval.total) (1000000 * world.settings.retryDelay.total)
        world.now)
      ready := [.reconciler, .watcher, .ticker] } := by
  simp only [tracked, if_neg (Nat.not_lt.mpr queue), Span.nanoseconds_of_fits interval,
    Span.nanoseconds_of_fits delay]
  rfl

theorem tracked_of_unfit (queue : world.settings.queueCapacity.toNat ≤ largestQueue)
    (delay : ¬ world.settings.retryDelay.Fits) :
    world.tracked = .error (.refused .overflow) := by
  simp only [tracked, if_neg (Nat.not_lt.mpr queue), Span.nanoseconds_of_unfit delay]
  cases world.settings.scanInterval.nanoseconds? <;> rfl

theorem tracked_of_large (queue : largestQueue < world.settings.queueCapacity.toNat) :
    world.tracked = .error .queueTooLarge := by
  simp only [tracked, if_pos queue]
  rfl

theorem create_of_fits {settings : Settings} (grace : settings.grace.Fits)
    (idle : settings.idleTimeout.Fits) (root : String) :
    ∃ world, create? root settings = some world ∧ world.settings = settings ∧
      world.started = false ∧ world.turns.roster.stale.grace = 1000000 * settings.grace.total ∧
      world.bench.pool.timeout = 1000000 * settings.idleTimeout.total := by
  simp only [create?, Span.nanoseconds_of_fits grace, Span.nanoseconds_of_fits idle]
  exact ⟨_, rfl, rfl, rfl, rfl, rfl⟩

theorem create_of_unfit {settings : Settings}
    (unfit : ¬ (settings.grace.Fits ∧ settings.idleTimeout.Fits)) (root : String) :
    create? root settings = none := by
  unfold create?
  by_cases idle : settings.idleTimeout.Fits
  · rw [Span.nanoseconds_of_unfit fun grace => unfit ⟨grace, idle⟩]
    cases settings.idleTimeout.nanoseconds? <;> rfl
  · rw [Span.nanoseconds_of_unfit idle]
    rfl

theorem begin_of_fits (accepted : world.settings.validate = .ok ())
    (unstarted : world.started = false)
    (queue : world.settings.queueCapacity.toNat ≤ largestQueue)
    (delay : world.settings.retryDelay.Fits) :
    ∃ next tracking, world.begin = .ok next ∧ next.tracking = some tracking ∧
      tracking.period = 1000000 * world.settings.scanInterval.total ∧
      tracking.retryDelay = 1000000 * world.settings.retryDelay.total := by
  have kept : world.scanned.settings = world.settings := perform_settings _ _
  obtain ⟨interval, _⟩ := Settings.validate_ok.mp accepted
  rw [← kept] at queue interval delay ⊢
  rw [begin_accepted accepted unstarted, tracked_of_fits queue interval delay]
  exact ⟨_, _, rfl, rfl, rfl, rfl⟩

theorem begin_of_unfit (accepted : world.settings.validate = .ok ())
    (unstarted : world.started = false)
    (queue : world.settings.queueCapacity.toNat ≤ largestQueue)
    (delay : ¬ world.settings.retryDelay.Fits) : world.begin = .error (.refused .overflow) := by
  have kept : world.scanned.settings = world.settings := perform_settings _ _
  rw [← kept] at queue delay
  rw [begin_accepted accepted unstarted, tracked_of_unfit queue delay]

theorem begin_of_large (accepted : world.settings.validate = .ok ())
    (unstarted : world.started = false)
    (queue : largestQueue < world.settings.queueCapacity.toNat) :
    world.begin = .error .queueTooLarge := by
  have kept : world.scanned.settings = world.settings := perform_settings _ _
  rw [← kept] at queue
  rw [begin_accepted accepted unstarted, tracked_of_large queue]

end Rehearsal.World

namespace Settings

open Rehearsal (World)

/-- Settings that are accepted have a scan interval above zero that is as long as its units add up
to. The length of any of their spans is the sum of its units if its whole seconds are a 64-bit
number, and cannot be told if they are not; of the three other spans acceptance asks nothing. A
roster is created just if the grace and the idle timeout fit, and is started just if the retry delay
fits, unless no queue can be as large as is asked for; it then uses their exact lengths. -/
theorem accepted_spans_usable {settings : Settings}
    (accepted : settings.validate = .ok () ∨ ∃ sources, build sources = .ok settings) :
    settings.scanInterval.nanoseconds? = some (1000000 * settings.scanInterval.total) ∧
    0 < settings.scanInterval.total ∧
    (∀ span ∈ spans, ∀ length, (span.2 settings).nanoseconds? = some length ↔
      (span.2 settings).Fits ∧ length = 1000000 * (span.2 settings).total) ∧
    (∀ grace retryDelay idleTimeout,
      { settings with grace, retryDelay, idleTimeout }.validate = .ok ()) ∧
    (∀ root, (settings.grace.Fits ∧ settings.idleTimeout.Fits →
        ∃ world, World.create? root settings = some world ∧ world.settings = settings ∧
          world.started = false ∧ world.turns.roster.stale.grace = 1000000 * settings.grace.total ∧
          world.bench.pool.timeout = 1000000 * settings.idleTimeout.total) ∧
      (¬ (settings.grace.Fits ∧ settings.idleTimeout.Fits) → World.create? root settings = none)) ∧
    ∀ world : World, world.settings = settings → world.started = false →
      (settings.queueCapacity.toNat ≤ World.largestQueue →
        (settings.retryDelay.Fits →
          ∃ next tracking, world.begin = .ok next ∧ next.tracking = some tracking ∧
            tracking.period = 1000000 * settings.scanInterval.total ∧
            tracking.retryDelay = 1000000 * settings.retryDelay.total) ∧
        (¬ settings.retryDelay.Fits → world.begin = .error (.refused .overflow))) ∧
      (World.largestQueue < settings.queueCapacity.toNat →
        world.begin = .error .queueTooLarge) := by
  have valid : settings.validate = .ok () := by
    rcases accepted with valid | ⟨sources, built⟩
    · exact valid
    · exact validate_of_build built
  obtain ⟨fits, positive⟩ := validate_ok.mp valid
  refine ⟨Span.nanoseconds_of_fits fits, positive, ?_, ?_, ?_, ?_⟩
  · intro span _ length
    by_cases told : (span.2 settings).Fits
    · simp [Span.nanoseconds_of_fits told, told, eq_comm]
    · simp [Span.nanoseconds_of_unfit told, told]
  · intro grace retryDelay idleTimeout
    exact validate_ok.mpr ⟨fits, positive⟩
  · intro root
    exact ⟨fun both => World.create_of_fits both.1 both.2 root,
      fun unfit => World.create_of_unfit unfit root⟩
  · rintro world rfl unstarted
    exact ⟨fun queue => ⟨World.begin_of_fits valid unstarted queue,
      World.begin_of_unfit valid unstarted queue⟩, World.begin_of_large valid unstarted⟩

/-- A grace of as many minutes as a source can say. It is irreducible, so that only the kernel reads
the text. -/
@[irreducible] def endless : Source :=
  .file .toml "[stale_grace_period]\nminutes = 9223372036854775807\n"

theorem accepted_spans_usable_endless :
    ∃ settings, build [endless] = .ok settings ∧ 0 < settings.scanInterval.total ∧
      ¬ settings.grace.Fits ∧ World.create? "/t" settings = none := by
  have graces : (build [endless]).toOption.map (·.grace) =
      some ⟨some 9223372036854775807, none, none⟩ := by
    decide +kernel
  cases built : build [endless] with
  | error failure =>
    rw [built] at graces
    cases graces
  | ok settings =>
    have grace : settings.grace = ⟨some 9223372036854775807, none, none⟩ := by
      simpa [built, Except.toOption] using graces
    have unfit : ¬ settings.grace.Fits := by
      rw [grace]
      decide +kernel
    obtain ⟨_, positive, _, _, created, _⟩ := accepted_spans_usable (.inr ⟨[endless], built⟩)
    exact ⟨settings, rfl, positive, unfit, (created "/t").2 fun both => unfit both.1⟩

end Settings

end TabletRoster
