import TabletRoster.Proofs.Following.Converged
import TabletRoster.Rehearsal.World

/-!
The rehearsal fixes an order in which tasks move. Whatever it does to the roster, its namespace
and its tracking is done by admissible moves of a roster that follows its namespace, so what is
proved for every order of those holds in a rehearsal.
-/
namespace TabletRoster
namespace Following

def Leads (layout : Layout) (scene next : Following) : Prop :=
  ∃ moves : List Move, (∀ move ∈ moves, move.Admissible layout) ∧ run layout moves scene = next

variable {layout : Layout} {scene middle next : Following}

theorem Leads.refl (layout : Layout) (scene : Following) : Leads layout scene scene := by
  refine ⟨[], ?_, rfl⟩
  simp

theorem Leads.trans (before : Leads layout scene middle) (after : Leads layout middle next) :
    Leads layout scene next := by
  obtain ⟨first, first_admissible, rfl⟩ := before
  obtain ⟨second, second_admissible, rfl⟩ := after
  refine ⟨first ++ second, ?_, List.foldl_append⟩
  intro move member
  rcases List.mem_append.mp member with early | late
  · exact first_admissible move early
  · exact second_admissible move late

theorem leads_of_move {move : Move} (admissible : move.Admissible layout)
    (moved : scene.move? layout move = some next) : Leads layout scene next := by
  refine ⟨[move], ?_, ?_⟩
  · simpa using admissible
  · simp [run, moved]

end Following

namespace Rehearsal.World

variable {world middle next : World}

/-- What a rehearsal has in common with a roster that follows its namespace. -/
def scene (world : World) (calm : Bool) : Following :=
  ⟨world.turns, world.tracking, calm⟩

/-- One rehearsal becomes the other by moves of a roster that follows its namespace. -/
def Follows (world next : World) : Prop :=
  next.layout = world.layout ∧
    ∀ calm, ∃ after, Following.Leads world.layout (world.scene calm) (next.scene after)

theorem Follows.refl (world : World) : world.Follows world :=
  ⟨rfl, fun calm => ⟨calm, .refl _ _⟩⟩

theorem Follows.trans (first : world.Follows middle) (second : middle.Follows next) :
    world.Follows next := by
  obtain ⟨first_layout, first⟩ := first
  obtain ⟨second_layout, second⟩ := second
  constructor
  · exact second_layout.trans first_layout
  · intro calm
    obtain ⟨between, before⟩ := first calm
    obtain ⟨after, behind⟩ := second between
    rw [first_layout] at behind
    exact ⟨after, before.trans behind⟩

theorem follows_of_same (layout : next.layout = world.layout) (turns : next.turns = world.turns)
    (tracking : next.tracking = world.tracking) : world.Follows next := by
  refine ⟨layout, fun calm => ⟨calm, ?_⟩⟩
  have same : next.scene calm = world.scene calm := by simp [scene, turns, tracking]
  rw [same]
  exact .refl _ _

theorem follows_of_move (move : Following.Move) (admissible : move.Admissible world.layout)
    (layout : next.layout = world.layout)
    (moved : ∀ calm, ∃ after,
      (world.scene calm).move? world.layout move = some (next.scene after)) :
    world.Follows next := by
  refine ⟨layout, fun calm => ?_⟩
  obtain ⟨after, moved⟩ := moved calm
  exact ⟨after, Following.leads_of_move admissible moved⟩

theorem follows_of_turn (move : Turns.Move)
    (admissible : (Following.Move.turn move).Admissible world.layout)
    (layout : next.layout = world.layout) (tracking : next.tracking = world.tracking)
    (moved : world.turns.move? world.service move = some next.turns) : world.Follows next := by
  apply follows_of_move _ admissible layout
  intro calm
  refine ⟨calm && !world.turns.disturbed move, ?_⟩
  have moved : world.turns.move? (Namespace.coordinator world.layout) move = some next.turns := moved
  simp [Following.move?, scene, moved, tracking]

theorem come_follows {job : Job} (formed : ∀ path, job = .check path → path.WellFormed)
    (layout : next.layout = world.layout) (tracking : next.tracking = world.tracking)
    (turns : next.turns = (world.turns.come job).2) : world.Follows next := by
  refine follows_of_turn (.come job) ?_ layout tracking ?_
  · cases job with
    | check path => exact formed path rfl
    | _ => trivial
  · rw [turns]
    rfl

theorem collect_follows {ticket : Nat} (layout : next.layout = world.layout)
    (tracking : next.tracking = world.tracking)
    (turns : next.turns = world.turns.collect ticket) : world.Follows next := by
  refine follows_of_turn (.collect ticket) trivial layout tracking ?_
  rw [turns]
  rfl

theorem tell_keeps (world : World) : world.tell.layout = world.layout ∧
    world.tell.turns = world.turns ∧ world.tell.tracking = world.tracking := by
  unfold tell
  split
  · split <;> exact ⟨rfl, rfl, rfl⟩
  · exact ⟨rfl, rfl, rfl⟩

theorem drive_moves {ticket : Nat} (driven : world.drive? ticket = some next) :
    next.layout = world.layout ∧ next.tracking = world.tracking ∧
      ∃ move, (Following.Move.turn move).Admissible world.layout ∧
        world.turns.move? world.service move = some next.turns := by
  unfold drive? at driven
  split at driven
  · split at driven
    · cases driven
    · split at driven
      · split at driven
        · cases driven
        · obtain ⟨turns, left, rfl⟩ := Option.map_eq_some_iff.mp driven
          exact ⟨rfl, rfl, .leave, trivial, left⟩
      · obtain ⟨turns, asked, rfl⟩ := Option.map_eq_some_iff.mp driven
        obtain ⟨layout, same, tracking⟩ := tell_keeps { world with turns := turns }
        exact ⟨layout, tracking, .ask world.now, trivial, asked.trans (congrArg some same.symm)⟩
  · split at driven
    · split at driven
      · obtain ⟨turns, entered, rfl⟩ := Option.map_eq_some_iff.mp driven
        exact ⟨rfl, rfl, .enter, trivial, entered⟩
      · cases driven
    · cases driven

theorem drive_follows {ticket : Nat} (driven : world.drive? ticket = some next) :
    world.Follows next := by
  obtain ⟨layout, tracking, move, admissible, moved⟩ := drive_moves driven
  exact follows_of_turn _ admissible layout tracking moved

theorem await_follows {polling : Polling} {job : Job} {use : Result → Poller}
    (formed : ∀ path, job = .check path → path.WellFormed)
    (awaited : world.await? polling job use = some next) : world.Follows next := by
  unfold await? at awaited
  split at awaited
  · cases awaited
    exact come_follows formed rfl rfl rfl
  · rename_i ticket there
    split at awaited
    · cases awaited
      exact collect_follows rfl rfl rfl
    · exact drive_follows awaited

theorem checkStatus_follows {polling : Polling} {connection : Connection}
    (checked : world.checkStatus? polling connection = some next) : world.Follows next := by
  unfold checkStatus? at checked
  split at checked
  · dsimp only at checked
    split at checked <;> cases checked <;> exact follows_of_same rfl rfl rfl
  · split at checked
    · cases checked
      exact follows_of_same rfl rfl rfl
    · cases checked

theorem poll_follows {polling : Polling} (polled : world.poll? polling = some next) :
    world.Follows next := by
  unfold poll? at polled
  split at polled
  · obtain ⟨poller, ticked, rfl⟩ := Option.map_eq_some_iff.mp polled
    exact follows_of_same rfl rfl rfl
  · exact await_follows (fun path same => by cases same) polled
  · split at polled
    · exact checkStatus_follows polled
    · cases polled
      exact follows_of_same rfl rfl rfl
  · exact await_follows (fun path same => by cases same) polled
  · cases polled

theorem move_follows {task : Task} (moved : world.move? task = some next) :
    world.Follows next := by
  cases task with
  | watcher =>
    obtain ⟨tracking, there, moved⟩ := Option.bind_eq_some_iff.mp moved
    obtain ⟨later, watched, same⟩ := Option.bind_eq_some_iff.mp moved
    cases same
    refine follows_of_move (.watch world.now) trivial rfl fun calm => ?_
    simp [Following.move?, scene, there, watched]
  | ticker =>
    obtain ⟨tracking, there, moved⟩ := Option.bind_eq_some_iff.mp moved
    obtain ⟨later, ticked, same⟩ := Option.bind_eq_some_iff.mp moved
    cases same
    refine follows_of_move (.tick world.now) trivial rfl fun calm => ?_
    simp [Following.move?, scene, there, ticked]
  | reconciler =>
    obtain ⟨tracking, there, moved⟩ := Option.bind_eq_some_iff.mp moved
    split at moved
    · rename_i later turns reconciled
      cases moved
      refine follows_of_move .reconcile trivial rfl fun calm => ?_
      simp [Following.move?, scene, there, reconciled]
    · obtain ⟨ticket, working, driven⟩ := Option.bind_eq_some_iff.mp moved
      exact drive_follows driven
  | poller =>
    obtain ⟨polling, there, polled⟩ := Option.bind_eq_some_iff.mp moved
    exact poll_follows polled
  | job ticket => exact drive_follows moved

theorem run_follows (task : Task) (fuel : Nat) (world : World) :
    world.Follows (run task fuel world) := by
  induction fuel generalizing world with
  | zero => exact .refl world
  | succ fuel ih =>
    unfold run
    split
    · rename_i next moved
      exact (move_follows moved).trans (ih next)
    · exact .refl world

theorem settleFor_follows (fuel : Nat) (world : World) : world.Follows (settleFor fuel world) := by
  induction fuel generalizing world with
  | zero => exact .refl world
  | succ fuel ih =>
    unfold settleFor
    split
    · exact .refl world
    · rename_i task rest ready
      have popped : world.Follows { world with ready := rest } := follows_of_same rfl rfl rfl
      have ran := run_follows task world.budget { world with ready := rest }
      have lined : (run task world.budget { world with ready := rest }).Follows
          (run task world.budget { world with ready := rest }).lineUp :=
        follows_of_same rfl rfl rfl
      exact ((popped.trans ran).trans lined).trans (ih _)

theorem settle_follows (world : World) : world.Follows world.settle := by
  have lined : world.Follows world.lineUp := follows_of_same rfl rfl rfl
  exact lined.trans (settleFor_follows world.budget world.lineUp)

theorem sleepUntil_follows (target fuel : Nat) (world : World) :
    world.Follows (sleepUntil target fuel world) := by
  induction fuel generalizing world with
  | zero => exact .refl world
  | succ fuel ih =>
    unfold sleepUntil
    dsimp only
    split
    · exact follows_of_same rfl rfl rfl
    · refine Follows.trans ?_ (ih _)
      refine Follows.trans ?_ (settle_follows _)
      exact follows_of_same rfl rfl rfl

/-- However long a rehearsal sleeps, what happens meanwhile is a run of its following roster. -/
theorem sleep_follows (world : World) (time : Nat) : world.Follows (world.sleep time) :=
  sleepUntil_follows _ _ world

theorem perform_follows {job : Job} (formed : ∀ path, job = .check path → path.WellFormed)
    (world : World) : world.Follows (world.perform job).2 := by
  have came : world.Follows { world with turns := (world.turns.come job).2 } :=
    come_follows formed rfl rfl rfl
  exact (came.trans (run_follows _ _ _)).trans (collect_follows rfl rfl rfl)

theorem spawn_follows {job : Job} (formed : ∀ path, job = .check path → path.WellFormed)
    (name : String) (world : World) : world.Follows (world.spawn name job) :=
  come_follows formed rfl rfl rfl

theorem write_follows (world : World) {change : Namespace.Write}
    (admitted : ∀ key, change.key? world.layout = some key → world.layout.Admits key) :
    world.Follows (world.edit fun space => space.write world.layout change) := by
  refine follows_of_move (.write change) admitted rfl fun calm => ?_
  exact ⟨calm, rfl⟩

theorem run_job_tracking (ticket fuel : Nat) (world : World) :
    (run (.job ticket) fuel world).tracking = world.tracking := by
  induction fuel generalizing world with
  | zero => rfl
  | succ fuel ih =>
    unfold run
    split
    · rename_i next moved
      exact (ih next).trans (drive_moves moved).2.1
    · rfl

theorem perform_tracking (world : World) (job : Job) :
    (world.perform job).2.tracking = world.tracking :=
  run_job_tracking _ _ _

theorem track_follows {capacity period retryDelay now : Nat} (unstarted : world.tracking = none)
    (layout : next.layout = world.layout) (turns : next.turns = world.turns)
    (tracking : next.tracking = some (.begin capacity period retryDelay now)) :
    world.Follows next := by
  refine follows_of_move (.follow capacity period retryDelay now) trivial layout
    fun calm => ⟨calm, ?_⟩
  simp [Following.move?, scene, unstarted, turns, tracking]

theorem begin_follows (unstarted : world.tracking = none) (begun : world.begin = .ok next) :
    world.Follows next := by
  have marked : world.Follows { world with started := true } := follows_of_same rfl rfl rfl
  have scanned : world.Follows ({ world with started := true }.perform .scan).2 :=
    marked.trans (perform_follows (fun path same => by cases same) _)
  have untracked : ({ world with started := true }.perform .scan).2.tracking = none :=
    (perform_tracking _ _).trans unstarted
  simp only [World.begin, bind, Except.bind, pure, Except.pure] at begun
  repeat' split at begun
  all_goals first
    | (cases begun; done)
    | cases begun
      exact scanned.trans (track_follows untracked rfl rfl rfl)

/-- What holds in every order of moves holds in a rehearsal. -/
theorem Follows.sound (follows : world.Follows next) {calm : Bool}
    (sound : (world.scene calm).Sound world.layout) :
    ∃ after, (next.scene after).Sound next.layout := by
  obtain ⟨layout, leads⟩ := follows
  obtain ⟨after, moves, admissible, reached⟩ := leads calm
  refine ⟨after, ?_⟩
  rw [layout, ← reached]
  exact Following.sound_run moves admissible sound

theorem created_sound {root : String} {settings : Settings}
    (created : create? root settings = some world) : (world.scene false).Sound world.layout := by
  obtain ⟨timeout, _, created⟩ := Option.bind_eq_some_iff.mp created
  obtain ⟨grace, _, same⟩ := Option.bind_eq_some_iff.mp created
  cases same
  exact Following.sound_start _ grace

/-- What a rehearsal can come to until the following ends. -/
inductive Rehearsed : World → Prop
  | created {root : String} {settings : Settings} {world : World}
      (created : create? root settings = some world) : Rehearsed world
  | begun {world next : World} (before : Rehearsed world) (unstarted : world.tracking = none)
      (begun : world.begin = .ok next) : Rehearsed next
  | written {world : World} {change : Namespace.Write} (before : Rehearsed world)
      (admitted : ∀ key, change.key? world.layout = some key → world.layout.Admits key) :
      Rehearsed (world.edit fun space => space.write world.layout change)
  | settled {world : World} (before : Rehearsed world) : Rehearsed world.settle
  | slept {world : World} (time : Nat) (before : Rehearsed world) : Rehearsed (world.sleep time)
  | performed {world : World} {job : Job} (before : Rehearsed world)
      (formed : ∀ path, job = .check path → path.WellFormed) : Rehearsed (world.perform job).2
  | spawned {world : World} {job : Job} (name : String) (before : Rehearsed world)
      (formed : ∀ path, job = .check path → path.WellFormed) : Rehearsed (world.spawn name job)
  | aside {world next : World} (before : Rehearsed world) (layout : next.layout = world.layout)
      (turns : next.turns = world.turns) (tracking : next.tracking = world.tracking) :
      Rehearsed next

/-- Every rehearsal is sound for some account of how calm it has been. -/
theorem Rehearsed.sound (rehearsed : Rehearsed world) :
    ∃ calm, (world.scene calm).Sound world.layout := by
  induction rehearsed with
  | created created => exact ⟨false, created_sound created⟩
  | begun before unstarted begun ih =>
    obtain ⟨calm, sound⟩ := ih
    exact (begin_follows unstarted begun).sound sound
  | written before admitted ih =>
    obtain ⟨calm, sound⟩ := ih
    exact (write_follows _ admitted).sound sound
  | settled before ih =>
    obtain ⟨calm, sound⟩ := ih
    exact (settle_follows _).sound sound
  | slept time before ih =>
    obtain ⟨calm, sound⟩ := ih
    exact (sleep_follows _ time).sound sound
  | performed before formed ih =>
    obtain ⟨calm, sound⟩ := ih
    exact (perform_follows formed _).sound sound
  | spawned name before formed ih =>
    obtain ⟨calm, sound⟩ := ih
    exact (spawn_follows formed name _).sound sound
  | aside before layout turns tracking ih =>
    obtain ⟨calm, sound⟩ := ih
    exact (follows_of_same layout turns tracking).sound sound

end Rehearsal.World
end TabletRoster
