import TabletRoster.Proofs.Tours

/-!
Evictions. An instance that is evicted is taken off its path, and its keys are looked for under the
group of that path and the address of the instance itself: those keys go, and no others.
-/
namespace TabletRoster

/-- Where the keys of an instance are looked for: in the group of its path, at its own address. -/
def ServerPath.home (path : ServerPath) (i : Instance) : ServerPath :=
  ⟨path.group, i.address⟩

theorem ServerPath.home_eq {path : ServerPath} {i : Instance} :
    path.home i = path ↔ path.address = i.address := by
  cases path
  simp [home, eq_comm]

namespace Roster

theorem candidates_eq (listed : PathSet) (path : ServerPath) (i : Instance) :
    candidates listed path i = if path.home i ∈ listed then [path.home i] else [] := by
  have same (other : ServerPath) :
      (other.group = path.group && other.address = i.address) = (other == path.home i) := by
    rw [Bool.eq_iff_iff, beq_iff_eq]
    cases other
    simp [ServerPath.home]
  simp only [candidates, same, List.filter_beq, listed.nodup_toList.count,
    Std.ExtTreeSet.mem_toList]
  split <;> rfl

theorem pathOf_of_only {roster : Roster} {i : Instance} {path : ServerPath}
    (only : ∀ other, roster.members.server? other = some i ↔ other = path) :
    roster.pathOf? i = some path := by
  cases found : roster.pathOf? i with
  | some other =>
    obtain ⟨member, there, same⟩ := member_of_pathOf found
    rw [(only other).mp (by simp [Members.server?, there, same])]
  | none =>
    obtain ⟨member, there, same⟩ := Option.map_eq_some_iff.mp ((only path).mpr rfl)
    have absent := List.find?_eq_none.mp (Option.map_eq_none_iff.mp found) (path, member)
      (Std.ExtTreeMap.mem_toList_iff_getElem?_eq_some.mpr there)
    exact absurd same (by simpa using absent)

end Roster

namespace Pass

variable {layout : Layout} {now : Nat} {roster : Roster} {space current after final : Namespace}
  {stage : Stage} {work last : Work} {next : Stage × Work}

structure Arriving (layout : Layout) (roster : Roster) (space : Namespace) (stage : Stage)
    (work : Work) (current : Namespace) : Prop where
  plain : ∀ path ∈ stage.unsettled, path.Unslashed
  locks : ∀ path, current.held? layout path = space.held? layout path
  members : ∀ path i, work.roster.members.server? path = some i →
    roster.members.server? path = some i ∨
      ∃ holder, space.held? layout path = some holder ∧ holder.instance = i

theorem arriving_asked (arriving : Arriving layout roster space stage work current)
    (asked : Asked (Namespace.coordinator layout) now work current after stage next) :
    Arriving layout roster space next.1 next.2 after := by
  obtain ⟨plain, locks, members⟩ := arriving
  have left := unsettled_asked plain (fun _ listed answer path member => by
    rw [(Namespace.list_coordinator answer).2 listed rfl] at member
    exact Namespace.unslashed_of_listed member) asked
  have locked := fun path => (held_asked plain asked path).trans (locks path)
  cases asked with
  | listed listed answer =>
    refine ⟨left, locked, ?_⟩
    intro path i found
    unfold Members.server? at found
    rw [Work.keepListed_at] at found
    split at found
    · exact members path i found
    · cases found
  | free path later found answer unheld =>
    obtain ⟨same, _⟩ := unlocked_visit now path later work
    refine ⟨left, locked, ?_⟩
    intro other i found
    unfold Members.server? at found
    rw [same.members] at found
    by_cases own : other = path
    · rw [own, Work.lose_at] at found
      cases found
    · rw [(work.lose_visit path).others own] at found
      exact members other i found
  | held path later holder answer =>
    have held := (Namespace.held_of_read answer).2
    refine ⟨left, locked, ?_⟩
    intro other i found
    unfold Members.server? at found
    by_cases own : other = path
    · subst own
      rw [Work.hold_next, Option.map_some, Option.some.injEq, Member.next_server] at found
      exact .inr ⟨holder, (locks other).symm.trans held, found⟩
    · rw [(work.hold_visit path holder).others own] at found
      exact members other i found
  | there path answer =>
    obtain ⟨same, _⟩ := reclaim_same now path none work
    exact ⟨left, locked, same.members ▸ members⟩
  | _ => exact ⟨left, locked, members⟩

theorem Ends.arrivals {failure : Option CoordinationError} {path : ServerPath} {i : Instance}
    (ends : Ends (Namespace.coordinator layout) now .listing work space failure last final)
    (stands : last.roster.members.server? path = some i) :
    work.roster.members.server? path = some i ∨
      ∃ holder, space.held? layout path = some holder ∧ holder.instance = i := by
  have start : Arriving layout work.roster space .listing work space :=
    ⟨by simp [Stage.unsettled], fun _ => rfl, fun _ _ stands => .inl stands⟩
  exact (ends.preserves arriving_asked start).members path i stands

end Pass

namespace Turns

variable {σ : Type} {service : Coordinator σ} {now ticket fuel : Nat} {turns next : Turns σ}
  {i : Instance} {path : ServerPath}

/-- How an eviction of an instance from a path ends: its outcome, and the roster and the
coordination service as they are then. -/
inductive Evicts (service : Coordinator σ) (roster : Roster) (space : σ) (i : Instance)
    (path : ServerPath) : Except FatalRemove Unit → Roster → σ → Prop where
  | unlisted (error : CoordinationError) (after : σ)
      (answer : service.list space = (.error error, after)) :
      Evicts service roster space i path (.error ⟨i, service.layout.serverKey path, error⟩)
        (roster.drop path) after
  | skipped (listed : PathSet) (after : σ) (answer : service.list space = (.ok listed, after))
      (absent : path.home i ∉ listed) :
      Evicts service roster space i path (.ok ()) (roster.drop path) after
  | uncleared (listed : PathSet) (between after : σ) (error : CoordinationError)
      (answer : service.list space = (.ok listed, between)) (there : path.home i ∈ listed)
      (refused : service.deleteTree (path.home i) between = (.error error, after)) :
      Evicts service roster space i path (.error ⟨i, service.layout.serverKey path, error⟩)
        (roster.drop path) after
  | cleared (listed : PathSet) (between after : σ)
      (answer : service.list space = (.ok listed, between)) (there : path.home i ∈ listed)
      (deleted : service.deleteTree (path.home i) between = (.ok (), after)) :
      Evicts service roster space i path (.ok ())
        { roster.drop path with stale := roster.stale.forget (path.home i) } after

def evicting (turns : Turns σ) (path : ServerPath) (turn : Turn) (space : σ) : Turns σ :=
  { turns with
    roster := turns.roster.drop path
    space := space
    current := some (turns.tickets, turn)
    tickets := turns.tickets + 1 }

def evicted (turns : Turns σ) (roster : Roster) (space : σ) : Turns σ :=
  { turns with roster := roster, space := space, tickets := turns.tickets + 1 }

theorem evicting_ends (resting : turns.Resting) (orderly : turns.Orderly) {turn : Turn}
    {space after : σ} {roster : Roster} {outcome : Except FatalRemove Unit}
    (stepped : (turns.evicting path turn space).step? service now =
      some ({ turns.evicting path turn space with roster := roster, space := after }.finish
        turns.tickets (.evicted outcome))) (fuel : Nat) :
    let last := runFor service now turns.tickets (fuel + 1) (turns.evicting path turn space)
    (last.result? turns.tickets, last.collect turns.tickets) =
      (some (.evicted outcome), turns.evicted roster after) := by
  have waits : (turns.evicting path turn space).result? turns.tickets = none := orderly.fresh_result
  rw [runFor_step waits stepped, runFor_finish]
  simp [finish, result?, collect, evicted, evicting, orderly.others, resting.idle]

/-- A roster at rest performs an eviction with two questions at most. -/
theorem perform_evict (service : Coordinator σ) (now : Nat) (resting : turns.Resting)
    (orderly : turns.Orderly) (found : turns.roster.pathOf? i = some path) (enough : 3 ≤ fuel) :
    ∃ outcome roster space, Evicts service turns.roster turns.space i path outcome roster space ∧
      turns.perform service now fuel (.evict i) =
        (some (.evicted outcome), turns.evicted roster space) := by
  obtain ⟨rest, rfl⟩ := Nat.exists_eq_add_of_le' enough
  have begun : { turns with tickets := turns.tickets + 1 }.begin turns.tickets (.evict i) =
      turns.evicting path (.locating i path) turns.space := by
    simp [begin, found, evicting]
  rw [perform_succ resting orderly (by simp), begun]
  rcases answer : service.list turns.space with ⟨error | listed, between⟩
  · refine ⟨_, _, _, .unlisted error between answer, evicting_ends resting orderly ?_ _⟩
    simp [step?, leave?, advance?, evicting, answer]
  · by_cases there : path.home i ∈ listed
    · have located : (turns.evicting path (.locating i path) turns.space).step? service now =
          some (turns.evicting path (.clearing i path (path.home i)) between) := by
        simp [step?, leave?, advance?, evicting, answer, Roster.candidates_eq, there]
      rw [runFor_step (by exact orderly.fresh_result) located]
      rcases deletion : service.deleteTree (path.home i) between with ⟨error | _, after⟩
      · refine ⟨_, _, _, .uncleared listed between after error answer there deletion,
          evicting_ends resting orderly ?_ _⟩
        simp [step?, leave?, advance?, evicting, deletion]
      · refine ⟨_, _, _, .cleared listed between after answer there deletion,
          evicting_ends resting orderly ?_ _⟩
        simp [step?, leave?, advance?, evicting, deletion, Roster.drop]
    · refine ⟨_, _, _, .skipped listed between answer there, evicting_ends resting orderly ?_ _⟩
      simp [step?, leave?, advance?, evicting, answer, Roster.candidates_eq, there]

end Turns

section Namespace

open Namespace (coordinator)

variable {layout : Layout} {now : Nat} {i : Instance} {path : ServerPath}

def Namespace.Unqueued (layout : Layout) (earlier later : Namespace) : Prop :=
  ∀ path key node, Namespace.startsWith (layout.lockStem path) key →
    later.nodes[key]? = some node → earlier.nodes[key]? = some node

structure Namespace.Retained (layout : Layout) (earlier later : Namespace) (path : ServerPath)
    (i : Instance) (key : String) : Prop where
  entry : ∃ node, later.holder? layout path = some (key, node) ∧ earlier.nodes[key]? = some node
  names : ∃ holder, later.held? layout path = some holder ∧ holder.instance = i

namespace Turns

/-- What an eviction of an instance from a path makes of a roster and its namespace. -/
structure Evicted (layout : Layout) (i : Instance) (path : ServerPath) (turns : Turns Namespace)
    (outcome : Except FatalRemove Unit) (after : Turns Namespace) : Prop where
  members : ∀ other, after.roster.members[other]? =
    if other = path then none else turns.roster.members[other]?
  succeeds : outcome = .ok () ↔ turns.space.offline = false ∧
    (path.home i ∈ turns.space.servers layout → turns.space.failDeletes = false)
  blames : ∀ fatal, outcome = .error fatal → fatal.victim = i ∧ fatal.key = layout.serverKey path
  kept : ∀ key, ¬ layout.Owns (path.home i) key → after.space.nodes[key]? = turns.space.nodes[key]?
  cleared : outcome = .ok () → path.home i ∈ turns.space.servers layout →
    ∀ key, layout.Owns (path.home i) key → after.space.nodes[key]? = none
  skipped : ¬ (outcome = .ok () ∧ path.home i ∈ turns.space.servers layout) →
    after.space = turns.space

theorem drop_at (roster : Roster) (path other : ServerPath) :
    (roster.drop path).members[other]? = if other = path then none else roster.members[other]? := by
  simp only [Roster.drop, Std.ExtTreeMap.getElem?_erase, Std.compare_eq_iff_eq,
    eq_comm (a := other)]

theorem evicted_still {turns : Turns Namespace} {outcome : Except FatalRemove Unit}
    (succeeds : outcome = .ok () ↔ turns.space.offline = false ∧
      (path.home i ∈ turns.space.servers layout → turns.space.failDeletes = false))
    (blames : ∀ fatal, outcome = .error fatal →
      fatal.victim = i ∧ fatal.key = layout.serverKey path)
    (spared : outcome = .ok () → path.home i ∉ turns.space.servers layout) :
    Evicted layout i path turns outcome
      (turns.evicted (turns.roster.drop path) turns.space) where
  members := drop_at turns.roster path
  succeeds := succeeds
  blames := blames
  kept := fun _ _ => rfl
  cleared := fun done there => absurd there (spared done)
  skipped := fun _ => rfl

theorem Evicts.evicted {turns : Turns Namespace} {outcome : Except FatalRemove Unit}
    {roster : Roster} {space : Namespace}
    (evicts : Evicts (coordinator layout) turns.roster turns.space i path outcome roster space) :
    Evicted layout i path turns outcome (turns.evicted roster space) := by
  have blames (error : CoordinationError) (fatal : FatalRemove) (failed : (Except.error
      ⟨i, layout.serverKey path, error⟩ : Except FatalRemove Unit) = .error fatal) :
      fatal.victim = i ∧ fatal.key = layout.serverKey path := by
    cases failed
    exact ⟨rfl, rfl⟩
  have felled := Namespace.felled layout (path.home i) turns.space
  cases evicts with
  | unlisted error after answer =>
    rcases Namespace.list_answer answer with ⟨rfl, ⟨offline, _⟩ | ⟨_, answered⟩⟩
    · exact evicted_still (by simp [offline]) (blames error) nofun
    · cases answered
  | skipped listed after answer absent =>
    rcases Namespace.list_answer answer with ⟨rfl, ⟨_, error, refused⟩ | ⟨online, answered⟩⟩
    · cases refused
    · cases answered
      exact evicted_still (by simp [online, absent]) nofun fun _ => absent
  | uncleared listed between after error answer there refused =>
    rcases Namespace.list_answer answer with ⟨rfl, ⟨_, error, unlisted⟩ | ⟨online, answered⟩⟩
    · cases unlisted
    · cases answered
      rw [show turns.space.deleteTree layout (path.home i) = _ from refused] at felled
      cases felled with
      | refused reason switch =>
        exact evicted_still (by simpa [online, there] using switch) (blames _) nofun
  | cleared listed between after answer there deleted =>
    rcases Namespace.list_answer answer with ⟨rfl, ⟨_, error, unlisted⟩ | ⟨online, answered⟩⟩
    · cases unlisted
    · cases answered
      rw [show turns.space.deleteTree layout (path.home i) = _ from deleted] at felled
      cases felled with
      | felled after online obliging nodes =>
        refine ⟨drop_at turns.roster path, by simp [online, obliging], nofun, ?_, ?_, ?_⟩
        · exact fun key foreign => (nodes key).trans (if_neg foreign)
        · exact fun _ _ key owned => (nodes key).trans (if_pos owned)
        · exact fun different => absurd ⟨rfl, there⟩ different

theorem Evicted.older {turns after : Turns Namespace} {outcome : Except FatalRemove Unit}
    (evicted : Evicted layout i path turns outcome after) {key : String} {node : Node}
    (found : after.space.nodes[key]? = some node) :
    turns.space.nodes[key]? = some node ∧ (outcome = .ok () →
      path.home i ∈ turns.space.servers layout → ¬ layout.Owns (path.home i) key) := by
  by_cases went : outcome = .ok () ∧ path.home i ∈ turns.space.servers layout
  · have foreign : ¬ layout.Owns (path.home i) key := by
      intro owned
      rw [evicted.cleared went.1 went.2 key owned] at found
      cases found
    exact ⟨evicted.kept key foreign ▸ found, fun _ _ => foreign⟩
  · rw [evicted.skipped went] at found
    exact ⟨found, fun done there => absurd ⟨done, there⟩ went⟩

/-- A full scan finds an instance after its eviction where an older entry names it, and nowhere
else as long as nobody queues for a lock. -/
theorem Evicted.returns {grace fuel : Nat} {turns after last : Turns Namespace}
    {outcome : Except FatalRemove Unit} (evicted : Evicted layout i path turns outcome after)
    (only : ∀ other, turns.roster.members.server? other = some i ↔ other = path)
    (reachable : after.Reachable (coordinator layout) grace) (resting : after.Resting)
    {space : Namespace} (unqueued : after.space.Unqueued layout space) {result : Result}
    (scanned : { after with space := space }.perform (coordinator layout) now fuel .scan =
      (some result, last)) {other : ServerPath}
    (stands : last.roster.members.server? other = some i) :
    ∃ key, turns.space.Retained layout space other i key ∧ (outcome = .ok () →
      path.home i ∈ turns.space.servers layout → ¬ layout.Owns (path.home i) key) := by
  have orderly := (reachable.changed fun _ => space).orderly
  have rested : ({ after with space := space } : Turns Namespace).Resting :=
    ⟨resting.idle, resting.alone⟩
  obtain ⟨failure, work, final, ends, _, rfl⟩ := performed_pass rested orderly
    (show Job.pass? .scan = some .scan from rfl) scanned
  rcases ends.arrivals stands with stood | ⟨holder, held, named⟩
  · -- the eviction has left the instance nowhere
    have stood : after.roster.members.server? other = some i := stood
    unfold Members.server? at stood
    rw [evicted.members] at stood
    split at stood
    · cases stood
    · rename_i away
      exact absurd ((only other).mp stood) away
  · obtain ⟨key, node, first, found, starts⟩ := Namespace.entry_of_held held
    obtain ⟨older, left⟩ := evicted.older (unqueued other key node starts found)
    exact ⟨key, ⟨⟨node, first, older⟩, holder, held, named⟩, left⟩

/-- The eviction of an instance that is a member at one path only deletes the keys of the path of
that group at the address of the instance, if that path is listed, and no others. So it deletes the
keys of its own path just if the instance stands at its own address. As long as nobody queues for a
lock, a full scan finds the instance again only where an entry that has been left names it. -/
theorem eviction_deletes_subtree {grace fuel : Nat} {turns : Turns Namespace}
    (reachable : turns.Reachable (coordinator layout) grace) (resting : turns.Resting)
    (only : ∀ other, turns.roster.members.server? other = some i ↔ other = path) (now : Nat)
    (enough : 3 ≤ fuel) :
    ∃ outcome after, turns.perform (coordinator layout) now fuel (.evict i) =
        (some (.evicted outcome), after) ∧
      Evicted layout i path turns outcome after ∧
      (path.address = i.address →
        (∀ key, ¬ layout.Owns path key → after.space.nodes[key]? = turns.space.nodes[key]?) ∧
        (outcome = .ok () → path ∈ turns.space.servers layout →
          ∀ key, layout.Owns path key → after.space.nodes[key]? = none)) ∧
      (path.address ≠ i.address → path ∈ turns.space.servers layout →
        ∀ key, layout.Owns path key → after.space.nodes[key]? = turns.space.nodes[key]?) ∧
      ∀ space, after.space.Unqueued layout space → ∀ later enough result last,
        { after with space := space }.perform (coordinator layout) later enough .scan =
          (some result, last) →
        ∀ other, last.roster.members.server? other = some i →
          (path.address = i.address → outcome = .ok () → path ∈ turns.space.servers layout →
            other ≠ path) ∧
          ∃ key, turns.space.Retained layout space other i key ∧ (outcome = .ok () →
            path.home i ∈ turns.space.servers layout → ¬ layout.Owns (path.home i) key) := by
  obtain ⟨outcome, roster, space, evicts, performed⟩ :=
    perform_evict (coordinator layout) now resting reachable.orderly (Roster.pathOf_of_only only)
      enough
  have evicted := evicts.evicted
  have reached := reachable.performed now fuel (.evict i)
  rw [performed] at reached
  refine ⟨outcome, _, performed, evicted, ?_, ?_, ?_⟩
  · intro own
    rw [← ServerPath.home_eq] at own
    have kept := evicted.kept
    have cleared := evicted.cleared
    rw [own] at kept cleared
    exact ⟨kept, cleared⟩
  · intro different listed key owned
    by_cases there : path.home i ∈ turns.space.servers layout
    · -- no key belongs to both of two listed paths
      apply evicted.kept
      intro also
      have same := Layout.owner_unique (Namespace.unslashed_of_listed there)
        (Namespace.unslashed_of_listed listed) also owned
      exact different (ServerPath.home_eq.mp same)
    · rw [evicted.skipped fun both => there both.2]
  · intro space unqueued later enough result last scanned other stands
    obtain ⟨key, retained, left⟩ :=
      evicted.returns only reached ⟨resting.idle, resting.alone⟩ unqueued scanned stands
    refine ⟨?_, key, retained, left⟩
    rintro own done listed rfl
    rw [ServerPath.home_eq.mpr own] at left
    obtain ⟨node, first, _⟩ := retained.entry
    obtain ⟨_, starts⟩ := Namespace.mem_below.mp (Namespace.oldest_mem first)
    exact left done listed (.inr (Layout.below_of_lockStem starts))

def misnamed : Turns Namespace :=
  let first := Namespace.empty.acquireLock ⟨"/t"⟩ (.sample "a") ⟨⟨"b", 1⟩, "g"⟩ "s"
  let second := first.acquireLock ⟨"/t"⟩ (.sample "b") ⟨⟨"b", 1⟩, "g"⟩ "t"
  ((start (.empty 3) second).perform (coordinator ⟨"/t"⟩) 0 20 .scan).2

theorem misnamed_reachable : misnamed.Reachable (coordinator ⟨"/t"⟩) 3 :=
  (Reachable.started _).performed 0 20 .scan

theorem misnamed_resting : misnamed.Resting :=
  ⟨Option.isNone_iff_eq_none.mp (by decide +kernel), by decide +kernel⟩

theorem misnamed_members (path : ServerPath) : misnamed.roster.members.server? path =
    if path = .sample "a" then some ⟨⟨"b", 1⟩, "s"⟩
    else if path = .sample "b" then some ⟨⟨"b", 1⟩, "t"⟩ else none := by
  have members : misnamed.roster.members.keys = [.sample "a", .sample "b"] := by decide +kernel
  split
  · rename_i first
    rw [first]
    decide +kernel
  · rename_i other
    split
    · rename_i second
      rw [second]
      decide +kernel
    · rename_i further
      have absent : path ∉ misnamed.roster.members := by
        rw [← Std.ExtTreeMap.mem_keys, members]
        simp [other, further]
      rw [Members.server?, Std.ExtTreeMap.getElem?_eq_none absent]
      rfl

theorem eviction_deletes_subtree_misnamed :
    (∃ after, misnamed.perform (coordinator ⟨"/t"⟩) 5 20 (.evict ⟨⟨"b", 1⟩, "s"⟩) =
        (some (.evicted (.ok ())), after) ∧
      after.space.nodes[(Layout.mk "/t").lockKey (.sample "b") "t"]? = none ∧
      (after.space.nodes[(Layout.mk "/t").lockKey (.sample "a") "s"]?).isSome) ∧
    ∃ after, misnamed.perform (coordinator ⟨"/t"⟩) 5 20 (.evict ⟨⟨"b", 1⟩, "t"⟩) =
        (some (.evicted (.ok ())), after) ∧
      after.space.nodes[(Layout.mk "/t").lockKey (.sample "b") "t"]? = none ∧
      (after.space.nodes[(Layout.mk "/t").lockKey (.sample "a") "s"]?).isSome ∧
      ∀ later enough result last,
        after.perform (coordinator ⟨"/t"⟩) later enough .scan = (some result, last) →
        last.roster.members.server? (.sample "b") ≠ some ⟨⟨"b", 1⟩, "t"⟩ := by
  have two : ServerPath.sample "a" ≠ .sample "b" := by decide
  have first (other : ServerPath) : misnamed.roster.members.server? other =
      some ⟨⟨"b", 1⟩, "s"⟩ ↔ other = .sample "a" := by
    rw [misnamed_members]
    split
    · simp [*]
    · split <;> simp [*, two.symm]
  have second (other : ServerPath) : misnamed.roster.members.server? other =
      some ⟨⟨"b", 1⟩, "t"⟩ ↔ other = .sample "b" := by
    rw [misnamed_members]
    split
    · simp [*]
    · split <;> simp [*]
  have listed : ServerPath.sample "b" ∈ misnamed.space.servers ⟨"/t"⟩ := by decide +kernel
  constructor
  · obtain ⟨outcome, after, performed, evicted, _, apart, _⟩ :=
      eviction_deletes_subtree misnamed_reachable misnamed_resting first 5 (show 3 ≤ 20 by decide)
    have done : outcome = .ok () :=
      evicted.succeeds.mpr ⟨by decide +kernel, fun _ => by decide +kernel⟩
    rw [done] at performed
    refine ⟨after, performed, evicted.cleared done listed _ (by decide +kernel), ?_⟩
    rw [apart (by decide) (by decide +kernel) _ (by decide +kernel)]
    decide +kernel
  · obtain ⟨outcome, after, performed, evicted, own, _, again⟩ :=
      eviction_deletes_subtree misnamed_reachable misnamed_resting second 5 (show 3 ≤ 20 by decide)
    have done : outcome = .ok () :=
      evicted.succeeds.mpr ⟨by decide +kernel, fun _ => by decide +kernel⟩
    rw [done] at performed
    obtain ⟨kept, cleared⟩ := own rfl
    refine ⟨after, performed, cleared done listed _ (by decide +kernel), ?_, ?_⟩
    · rw [kept _ (by decide +kernel)]
      decide +kernel
    · intro later enough result last scanned stands
      have unqueued : after.space.Unqueued ⟨"/t"⟩ after.space := fun _ _ _ _ found => found
      exact (again _ unqueued later enough result last scanned _ stands).1 rfl done listed rfl

end Turns

end Namespace
end TabletRoster
