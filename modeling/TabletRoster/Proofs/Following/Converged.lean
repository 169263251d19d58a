import TabletRoster.Proofs.Following.Demands

namespace TabletRoster.Following

structure Sound (layout : Layout) (scene : Following) : Prop where
  formed : scene.turns.Formed layout
  orderly : scene.turns.Orderly
  demands : ∀ tracking, scene.tracking = some tracking → tracking.Formed
  behind : ∀ tracking position, scene.tracking = some tracking →
    tracking.watcher.position? = some position → position ≤ scene.turns.space.published.size
  covered : ∀ tracking position, scene.tracking = some tracking →
    tracking.watcher.position? = some position → scene.calm = true → ¬ scene.turns.Failing →
    Covered layout scene.turns tracking

variable {layout : Layout} {scene next : Following}

theorem sound_start (layout : Layout) (grace : Nat) : (start grace).Sound layout := by
  refine ⟨Turns.formed_start layout grace, Turns.orderly_start _ _, ?_, ?_, ?_⟩ <;> simp [start]

/-- What is changed and published from outside is unread where it makes a member wrong. -/
theorem Sound.edit (sound : scene.Sound layout) {change : Namespace → Namespace}
    (grown : Namespace.Extends scene.turns.space (change scene.turns.space))
    (tidy : (change scene.turns.space).Tidy layout) : (scene.edit change).Sound layout := by
  obtain ⟨formed, orderly, demands, behind, covered⟩ := sound
  refine ⟨⟨tidy, formed.members, formed.waiting, formed.ahead⟩,
    ⟨orderly.issued, orderly.once⟩, demands, ?_, ?_⟩
  · intro tracking position there stands
    exact Nat.le_trans (behind tracking position there stands) grown.longer
  · intro tracking position there stands calm unfailing
    rcases covered tracking position there stands calm unfailing with scheduled | ⟨peaceful, covered⟩
    · exact .inl scheduled
    · refine .inr ⟨⟨peaceful.waiting, peaceful.current⟩, fun path spelt => ?_⟩
      rcases covered path spelt with right | coming
      · exact right_extends stands (behind tracking position there stands) spelt grown rfl right
      · exact coming.through grown.kept (fun _ member _ => .inl member) .inl

theorem Sound.turn (sound : scene.Sound layout) {move : Turns.Move} {turns : Turns Namespace}
    (admitted : ∀ path, move = .come (.check path) → path.WellFormed)
    (step : Turns.Step (Namespace.coordinator layout) scene.turns move turns) :
    Sound layout
      { scene with turns := turns, calm := scene.calm && !scene.turns.disturbed move } := by
  obtain ⟨formed, orderly, demands, behind, covered⟩ := sound
  have longer : scene.turns.space.published.size ≤ turns.space.published.size :=
    (Turns.step_extends step).1.longer
  refine ⟨Turns.formed_step formed admitted step, Turns.orderly_step orderly step, demands, ?_, ?_⟩
  · intro tracking position there stands
    exact Nat.le_trans (behind tracking position there stands) longer
  · intro tracking position there stands calm unfailing
    obtain ⟨calm, undisturbed⟩ := Bool.and_eq_true_iff.mp calm
    have undisturbed : scene.turns.disturbed move = false := by simpa using undisturbed
    have before := covered tracking position there stands calm
      fun failing => unfailing (failing_step step undisturbed failing)
    exact covered_step stands (behind tracking position there stands) formed.members step
      undisturbed unfailing before

theorem Sound.adrift (sound : scene.Sound layout) {tracking : Tracking} (later : Tracking)
    (there : scene.tracking = some tracking) (queue : later.queue = tracking.queue)
    (nowhere : later.watcher.position? = none) (calm : Bool) :
    Sound layout { scene with tracking := some later, calm := calm } := by
  obtain ⟨formed, orderly, demands, behind, covered⟩ := sound
  refine ⟨formed, orderly, ?_, ?_, ?_⟩
  · intro other same
    cases same
    refine ⟨queue ▸ (demands tracking there).queue, ?_⟩
    intro demand position sending
    rw [sending] at nowhere
    cases nowhere
  · intro other position same stands
    cases same
    rw [nowhere] at stands
    cases stands
  · intro other position same stands
    cases same
    rw [nowhere] at stands
    cases stands

theorem Sound.onward (sound : scene.Sound layout) {tracking later : Tracking} {position : Nat}
    (there : scene.tracking = some tracking) (demands : later.Formed)
    (stood : tracking.watcher.position? = some position)
    (behind : ∀ position, later.watcher.position? = some position →
      position ≤ scene.turns.space.published.size)
    (covered : Covered layout scene.turns tracking → Covered layout scene.turns later) :
    Sound layout { scene with tracking := some later } := by
  refine ⟨sound.formed, sound.orderly, ?_, ?_, ?_⟩
  · intro other same
    cases same
    exact demands
  · intro other place same stands
    cases same
    exact behind place stands
  · intro other place same _ calm unfailing
    cases same
    exact covered (sound.covered tracking position there stood calm unfailing)

theorem Sound.watch (sound : scene.Sound layout) {tracking later : Tracking} {now : Nat}
    (there : scene.tracking = some tracking)
    (moved : tracking.watch? layout now scene.turns.space = some later) :
    Sound layout { scene with
      tracking := some later
      calm := scene.calm || (tracking.watcher = .subscribing && later.watcher.position?.isSome) } := by
  have demands := sound.demands tracking there
  have behind := sound.behind tracking
  unfold Tracking.watch? at moved
  split at moved
  · rename_i subscribing
    split at moved <;> cases moved
    · rename_i position established
      have newest : position = scene.turns.space.published.size := by
        unfold Namespace.watch Namespace.checkOnline at established
        split at established <;> cases established
        rfl
      refine ⟨sound.formed, sound.orderly, ?_, ?_, ?_⟩
      · intro other same
        cases same
        refine ⟨demands.queue, ?_⟩
        intro other _ same
        cases same
        trivial
      · intro other _ same stands
        cases same
        cases stands
        exact Nat.le_of_eq newest
      · intro other _ same _ _ _
        cases same
        exact .inl (.held position rfl)
    · exact sound.adrift (tracking.pause now) there rfl rfl _
  · rename_i demand position sending
    split at moved <;> cases moved
    have stood : tracking.watcher.position? = some position := by rw [sending]; rfl
    simp only [sending, reduceCtorEq, decide_false, Bool.false_and, Bool.or_false]
    refine sound.onward there ⟨?_, by simp⟩ stood ?_ fun covered => covered.send sending
    · intro other member
      rcases List.mem_append.mp member with old | new
      · exact demands.queue other old
      · rw [List.mem_singleton.mp new]
        exact demands.held demand position sending
    · intro other same
      cases same
      exact behind position there stood
  · rename_i position reading
    have stood : tracking.watcher.position? = some position := by rw [reading]; rfl
    split at moved
    · rename_i change next
      obtain ⟨found, inside⟩ := Namespace.published_of_feed next
      simp only [reading, reduceCtorEq, decide_false, Bool.false_and, Bool.or_false]
      split at moved <;> cases moved
      · rename_i demand asks
        refine sound.onward there ⟨demands.queue, ?_⟩ stood ?_ fun covered =>
          covered.take reading found rfl ?_
        · intro other _ same
          cases same
          exact Demand.formed_of sound.formed.tidy found asks
        · intro other same
          cases same
          exact inside
        · intro other same
          rw [asks] at same
          cases same
          rfl
      · rename_i silent
        refine sound.onward there ⟨demands.queue, by simp⟩ stood ?_ fun covered =>
          covered.take reading found rfl ?_
        · intro other same
          cases same
          exact inside
        · intro other same
          rw [silent] at same
          cases same
    · cases moved
      exact sound.adrift (tracking.pause now) there rfl rfl _
    · cases moved
  · split at moved <;> cases moved
    exact sound.adrift { tracking with watcher := .subscribing } there rfl rfl _

theorem Sound.tick (sound : scene.Sound layout) {tracking later : Tracking} {now : Nat}
    (there : scene.tracking = some tracking) (moved : tracking.tick? now = some later) :
    Sound layout { scene with tracking := some later } := by
  have demands := sound.demands tracking there
  unfold Tracking.tick? at moved
  split at moved <;> cases moved
  have formed : ∀ demand ∈ if tracking.hasRoom then tracking.queue ++ [.scan] else tracking.queue,
      demand.Formed := by
    intro demand member
    split at member
    · rcases List.mem_append.mp member with old | new
      · exact demands.queue demand old
      · rw [List.mem_singleton.mp new]
        trivial
    · exact demands.queue demand member
  cases stands : tracking.watcher.position? with
  | none =>
    refine ⟨sound.formed, sound.orderly, ?_, ?_, ?_⟩
    · intro other same
      cases same
      exact ⟨formed, demands.held⟩
    · intro other _ same established
      cases same
      cases stands.symm.trans established
    · intro other _ same established
      cases same
      cases stands.symm.trans established
  | some position =>
    refine sound.onward there ⟨formed, demands.held⟩ stands
      (fun position => sound.behind tracking position there) fun covered => ?_
    refine covered.grow rfl rfl fun demand member => ?_
    dsimp only
    split
    · exact List.mem_append_left _ member
    · exact member

theorem Sound.reconcile (sound : scene.Sound layout) {tracking later : Tracking}
    {turns : Turns Namespace} (there : scene.tracking = some tracking)
    (moved : tracking.reconcile? scene.turns = some (later, turns)) :
    Sound layout { scene with tracking := some later, turns := turns } := by
  obtain ⟨formed, orderly, demands, behind, covered⟩ := sound
  have demands := demands tracking there
  unfold Tracking.reconcile? at moved
  split at moved
  · rename_i ticket working
    split at moved <;> cases moved
    rename_i result ended
    have step : Turns.Step (Namespace.coordinator layout) scene.turns (.collect ticket) _ :=
      .collected ticket
    have absent : ∀ job, (ticket, job) ∉ scene.turns.waiting :=
      fun job member => orderly.waits ended (List.mem_map_of_mem member)
    refine ⟨Turns.formed_step formed (by simp) step, orderly.collect ticket, ?_, ?_, ?_⟩
    · intro other same
      cases same
      exact ⟨demands.queue, demands.held⟩
    · intro other position same stands
      cases same
      exact behind tracking position there stands
    · intro other position same stands calm unfailing
      cases same
      exact (covered tracking position there stands calm unfailing).done working absent
  · rename_i demand rest free queue
    rw [Turns.come_demand] at moved
    cases moved
    have spelt : demand.Formed := demands.queue demand (queue ▸ List.mem_cons_self)
    have step : Turns.Step (Namespace.coordinator layout) scene.turns (.come demand.job)
        { scene.turns with
          tickets := scene.turns.tickets + 1
          waiting := scene.turns.waiting ++ [(scene.turns.tickets, demand.job)] } :=
      .queued demand.job (by cases demand <;> simp [Demand.job])
    have admitted : ∀ path, Turns.Move.come demand.job = .come (.check path) → path.WellFormed := by
      intro path same
      cases demand <;> cases same
      exact spelt
    refine ⟨Turns.formed_step formed admitted step, Turns.orderly_step orderly step, ?_, ?_, ?_⟩
    · intro other same
      cases same
      exact ⟨fun other member => demands.queue other (queue ▸ List.mem_cons_of_mem _ member),
        demands.held⟩
    · intro other position same stands
      cases same
      exact behind tracking position there stands
    · intro other position same stands calm unfailing
      cases same
      exact (covered tracking position there stands calm unfailing).come queue free rfl rfl rfl rfl
  · cases moved

theorem Sound.move (sound : scene.Sound layout) {move : Move} (admissible : move.Admissible layout)
    (possible : scene.move? layout move = some next) : next.Sound layout := by
  cases move with
  | write change =>
    cases possible
    exact sound.edit (Namespace.write_extends layout _ change) (sound.formed.tidy.write admissible)
  | offline on =>
    cases possible
    exact sound.edit (.same rfl rfl) (sound.formed.tidy.same rfl rfl)
  | failDeletes on =>
    cases possible
    exact sound.edit (.same rfl rfl) (sound.formed.tidy.same rfl rfl)
  | turn move =>
    obtain ⟨turns, moved, same⟩ := Option.bind_eq_some_iff.mp possible
    cases same
    refine sound.turn ?_ (Turns.step_of_move moved)
    intro path same
    cases same
    exact admissible
  | follow capacity period retryDelay now =>
    simp only [move?] at possible
    split at possible <;> cases possible
    refine ⟨sound.formed, sound.orderly, ?_, ?_, ?_⟩
    · intro other same
      cases same
      refine ⟨by simp [Tracking.begin], by simp [Tracking.begin]⟩
    · intro other _ same stands
      cases same
      cases stands
    · intro other _ same stands
      cases same
      cases stands
  | watch now =>
    obtain ⟨tracking, there, tried⟩ := Option.bind_eq_some_iff.mp possible
    obtain ⟨later, moved, same⟩ := Option.bind_eq_some_iff.mp tried
    cases same
    exact sound.watch there moved
  | tick now =>
    obtain ⟨tracking, there, tried⟩ := Option.bind_eq_some_iff.mp possible
    obtain ⟨later, moved, same⟩ := Option.bind_eq_some_iff.mp tried
    cases same
    exact sound.tick there moved
  | reconcile =>
    obtain ⟨tracking, there, tried⟩ := Option.bind_eq_some_iff.mp possible
    obtain ⟨⟨later, turns⟩, moved, same⟩ := Option.bind_eq_some_iff.mp tried
    cases same
    exact sound.reconcile there moved

theorem sound_run (moves : List Move) (admissible : ∀ move ∈ moves, move.Admissible layout)
    (sound : scene.Sound layout) : (run layout moves scene).Sound layout :=
  kept_by_moves (fun admitted sound moved => sound.move admitted moved) admissible sound

/-- When all is quiet, every path is right. -/
theorem Sound.right (sound : scene.Sound layout) (quiet : scene.Quiet) (calm : scene.calm = true)
    {path : ServerPath} (formed : path.WellFormed) : scene.turns.Right layout path := by
  obtain ⟨tracking, position, there, reading, nothing, queue, line, idle⟩ := quiet
  have stands : tracking.watcher.position? = some position := by rw [reading]; rfl
  have unfailing : ¬ scene.turns.Failing := by
    intro failing
    obtain ⟨ticket, error, delta, at_work | at_work⟩ := failing <;>
      simp [Turns.Passing, at_work] at idle
  rcases sound.covered tracking position there stands calm unfailing with
    scheduled | ⟨peaceful, covered⟩
  · cases scheduled with
    | held place sending =>
      rw [reading] at sending
      cases sending
    | queued member =>
      rw [queue] at member
      cases member
    | waiting ticket before after working order last =>
      exact absurd working (line (ticket, .scan) (by simp [order]))
  · rcases covered path formed with right | coming
    · exact right
    · cases coming with
      | unread place index change demand stood late found asks covers =>
        rw [reading] at stood
        cases stood
        obtain ⟨inside, _⟩ := Array.getElem?_eq_some_iff.mp found
        have read := Namespace.size_of_feed nothing
        omega
      | held demand place sending covers =>
        rw [reading] at sending
        cases sending
      | queued demand member covers =>
        rw [queue] at member
        cases member
      | waiting ticket job working member covers => exact absurd working (line _ member)
      | visiting visits =>
        obtain ⟨ticket, stage, delta, at_work, covers⟩ := visits
        simp [Turns.Passing, at_work] at idle

/-- No update is lost: once all is quiet, the members are the holders of the locks. A path that
is not well formed is no member, though a session with slashes may make its keys look like those
of a lock of such a path. -/
theorem no_lost_update (layout : Layout) (grace : Nat) (moves : List Move)
    (admissible : ∀ move ∈ moves, move.Admissible layout)
    (calm : (run layout moves (start grace)).calm = true)
    (quiet : (run layout moves (start grace)).Quiet) (path : ServerPath) (member : Member) :
    (run layout moves (start grace)).turns.roster.members[path]? = some member ↔
      path.WellFormed ∧ ∃ holder, member = .of holder ∧
        (run layout moves (start grace)).turns.space.readLock layout path = .ok (some holder) := by
  have sound := sound_run moves admissible (sound_start layout grace)
  constructor
  · intro found
    have formed := (sound.formed.members path member found).1
    have right := sound.right quiet calm formed
    exact ⟨formed, Namespace.member_eq_some.mp (right.symm.trans found)⟩
  · intro locked
    obtain ⟨formed, held⟩ := locked
    have right := sound.right quiet calm formed
    exact right.trans (Namespace.member_eq_some.mpr held)

def twoLocks : List Move := [
  .write (.lock (.sample "a") ⟨⟨"a", 1⟩, "g"⟩ "s"), .follow 1 1000 1000 0, .watch 0, .watch 0,
  .write (.lock (.sample "b") ⟨⟨"b", 1⟩, "g"⟩ "s"), .watch 0, .reconcile, .watch 0,
  .turn .enter, .turn (.ask 0), .turn (.ask 0), .turn (.ask 0), .turn (.ask 0), .turn .leave,
  .reconcile, .reconcile, .turn .enter, .turn (.ask 0), .turn (.ask 0), .turn .leave]

theorem two_locks_quiet : (run ⟨"/t"⟩ twoLocks (start 0)).Quiet := by
  refine ⟨⟨1, 1000, 1000, [], .reading 2, 1000, some 1⟩, 2, by decide +kernel, rfl,
    by decide +kernel, rfl, by decide +kernel, ?_⟩
  have idle : (run ⟨"/t"⟩ twoLocks (start 0)).turns.current = none :=
    Option.isNone_iff_eq_none.mp (by decide +kernel)
  simp [Turns.Passing, idle]

theorem no_lost_update_two_locks :
    (run ⟨"/t"⟩ twoLocks (start 0)).calm = true ∧ (run ⟨"/t"⟩ twoLocks (start 0)).Quiet ∧
      (run ⟨"/t"⟩ twoLocks (start 0)).turns.roster.members[ServerPath.sample "b"]? =
        some (.of (.of ⟨⟨"b", 1⟩, "g"⟩ "s" 2)) := by
  have one : (ServerPath.sample "a").WellFormed := ServerPath.sample_formed (by decide) (by decide)
  have other : (ServerPath.sample "b").WellFormed := ServerPath.sample_formed (by decide) (by decide)
  have admissible : ∀ move ∈ twoLocks, move.Admissible ⟨"/t"⟩ := by
    simp [twoLocks, Move.Admissible, Namespace.Write.key?, Layout.admits_lockKey, one, other]
  have calm : (run ⟨"/t"⟩ twoLocks (start 0)).calm = true := by decide +kernel
  have held : (run ⟨"/t"⟩ twoLocks (start 0)).turns.space.member? ⟨"/t"⟩ (.sample "b") =
      some (.of (.of ⟨⟨"b", 1⟩, "g"⟩ "s" 2)) := by
    decide +kernel
  refine ⟨calm, two_locks_quiet, ?_⟩
  exact (no_lost_update ⟨"/t"⟩ 0 twoLocks admissible calm two_locks_quiet _ _).mpr
    ⟨other, Namespace.member_eq_some.mp held⟩

end TabletRoster.Following
