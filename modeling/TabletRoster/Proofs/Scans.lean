import TabletRoster.Proofs.Tours
import TabletRoster.Proofs.Turnovers

/-!
Full scans of a namespace. A scan that succeeds leaves behind what the listing and the locks say,
whatever the roster was before; another scan then only misses members whose paths the first one has
taken out of the listing together with an expired node.
-/
namespace TabletRoster

theorem Delta.turnovers_losses {before after : Members} {i : Instance}
    (losses : ∀ path, after.server? path = some i → before.server? path = some i)
    (visits : List ServerPath) :
    i ∉ (turnovers before after visits .empty).added ∧
      (i ∈ (turnovers before after visits .empty).removed ↔
        ∃ path ∈ visits, before.server? path = some i ∧ after.server? path ≠ some i) := by
  have tells := (tells_empty i).turnovers before after visits
  -- where nothing comes, the history is of goings only
  have never : .came ∉ Members.history before after i visits := by
    rw [Members.came_mem_history]
    intro came
    obtain ⟨path, _, found, new⟩ := came
    exact new (losses path found)
  rw [← Members.went_mem_history]
  by_cases went : .went ∈ Members.history before after i visits
  · have told := tells.leaving never went
    exact ⟨told.1, iff_of_true told.2 went⟩
  · have nothing : Members.history before after i visits = [] := by
      apply List.eq_nil_iff_forall_not_mem.mpr
      intro swing
      cases swing with
      | came => exact never
      | went => exact went
    have silent := tells.silent_iff.mpr (.inl nothing)
    exact ⟨silent.1, iff_of_false silent.2 went⟩

theorem Delta.eq_empty {delta : Delta} (silent : ∀ i, i ∉ delta.added ∧ i ∉ delta.removed) :
    delta = .empty := by
  have added : delta.added = ∅ := Std.ExtTreeSet.ext_mem fun i => by simp [(silent i).1]
  have removed : delta.removed = ∅ := Std.ExtTreeSet.ext_mem fun i => by simp [(silent i).2]
  cases delta
  simp_all [empty]

namespace Roster

variable {layout : Layout} {now : Nat} {roster last : Roster} {space final : Namespace}

structure Scanned (layout : Layout) (now : Nat) (roster : Roster) (space : Namespace)
    (last : Roster) (final : Namespace) : Prop where
  listed : ∀ path, path ∈ space.servers layout →
    Settled layout now (path ∈ space.servers layout) path roster space last final
  unlisted : ∀ path, path ∉ space.servers layout →
    last.members[path]? = none ∧ last.stale.firstSeen[path]? = none
  grace : last.stale.grace = roster.stale.grace
  nodes : ∀ key, (∀ path, path ∈ space.servers layout → key ≠ layout.serverKey path) →
    final.nodes[key]? = space.nodes[key]?
  locks : ∀ path, final.readLock layout path = space.readLock layout path
  switches : final.offline = space.offline ∧ final.failDeletes = space.failDeletes ∧
    final.revision = space.revision

end Roster

namespace Pass

open Roster (Tour Scanned Obstructed)

variable {layout : Layout} {now : Nat} {work last : Work} {space final : Namespace}
  {failure : Option CoordinationError}

theorem keepListed_agree {path : ServerPath} {listed : PathSet} (shown : path ∈ listed)
    (work : Work) (space : Namespace) :
    Roster.Agree layout path work.roster space (work.keepListed listed).roster space := by
  refine ⟨?_, ?_, ?_, fun _ _ => rfl⟩
  · rw [Work.keepListed_at, if_pos (Std.ExtTreeSet.contains_iff_mem.mpr shown)]
  · rw [Work.stale_keepListed, StalePaths.getElem_retain, if_pos shown]
  · rw [Work.stale_keepListed]
    rfl

theorem plain_servers (layout : Layout) (space : Namespace) :
    ∀ path ∈ (space.servers layout).toList, path.Unslashed :=
  fun _ member => Namespace.unslashed_of_listed (Std.ExtTreeSet.mem_toList.mp member)

theorem Ends.listed
    (ends : Ends (Namespace.coordinator layout) now .listing work space failure last final) :
    (space.offline = true ∧ failure.isSome) ∨
      (space.offline = false ∧ Ends (Namespace.coordinator layout) now
        (proceed (some (space.servers layout).toList)) (work.keepListed (space.servers layout)) space
        failure last final) := by
  cases ends with
  | further asked ends =>
    cases asked with
    | unlisted error answer =>
      obtain ⟨rfl, _, _⟩ := ends.failed
      rcases Namespace.list_answer answer with ⟨_, ⟨offline, _⟩ | ⟨_, answered⟩⟩
      · exact .inl ⟨offline, rfl⟩
      · cases answered
    | listed listed answer =>
      rcases Namespace.list_answer answer with ⟨rfl, ⟨_, error, refused⟩ | ⟨online, answered⟩⟩
      · cases refused
      · cases answered
        exact .inr ⟨online, ends⟩

theorem Ends.scanned
    (ends : Ends (Namespace.coordinator layout) now .listing work space failure last final) :
    (failure = none ∧ Scanned layout now work.roster space last.roster final) ∨
      (failure.isSome ∧ Obstructed layout now (· ∈ space.servers layout)
        (space.servers layout).toList work.roster space) := by
  rcases ends.listed with ⟨offline, failed⟩ | ⟨online, ends⟩
  · exact .inr ⟨failed, .inl offline⟩
  · have plain := plain_servers layout space
    have once := (space.servers layout).nodup_toList
    have shown : ∀ path ∈ (space.servers layout).toList, path ∈ space.servers layout :=
      fun path member => Std.ExtTreeSet.mem_toList.mp member
    rcases ends.tour plain once shown with ⟨rfl, tour⟩ | ⟨failed, obstructed⟩
    · refine .inl ⟨rfl, ?_, ?_, ?_, ?_, tour.readLock plain, tour.switches⟩
      · intro path shown
        have settled := tour.settled plain once (Std.ExtTreeSet.mem_toList.mpr shown)
        exact (keepListed_agree shown work space).settled settled
      · intro path hidden
        have unvisited : path ∉ (space.servers layout).toList :=
          fun member => hidden (Std.ExtTreeSet.mem_toList.mp member)
        rw [tour.members unvisited, tour.clocks unvisited, Work.keepListed_at,
          Work.stale_keepListed, StalePaths.getElem_retain, if_neg hidden, if_neg]
        · exact ⟨rfl, rfl⟩
        · exact fun shown => hidden (Std.ExtTreeSet.contains_iff_mem.mp shown)
      · rw [tour.grace, Work.stale_keepListed]
        rfl
      · intro key kept
        exact tour.nodes fun path member => kept path (Std.ExtTreeSet.mem_toList.mp member)
    · refine .inr ⟨failed, obstructed.imp id fun failing => ⟨failing.1, ?_⟩⟩
      obtain ⟨_, path, member, doomed⟩ := failing
      have agree := @keepListed_agree layout _ _ (Std.ExtTreeSet.mem_toList.mp member) work space
      exact ⟨path, member, agree.doomed.mp doomed⟩

structure Unmoved (layout : Layout) (roster : Roster) (space : Namespace) (stage : Stage)
    (work : Work) (current : Namespace) : Prop where
  way : Underway .scan roster (some (space.servers layout)) stage work
  members : ∀ path, work.roster.members[path]? =
    if path ∈ space.servers layout then roster.members[path]? else none
  connected : work.roster.Connected
  locks : ∀ path, current.held? layout path = space.held? layout path
  shown : ∀ path ∈ stage.unsettled, path ∈ space.servers layout

theorem unmoved_asked {roster : Roster} {stage : Stage} {current after : Namespace}
    {next : Stage × Work} (right : ∀ path, path ∈ space.servers layout →
      roster.members[path]? = space.member? layout path)
    (unmoved : Unmoved layout roster space stage work current)
    (asked : Asked (Namespace.coordinator layout) now work current after stage next) :
    Unmoved layout roster space next.1 next.2 after := by
  have way := underway_asked unmoved.way asked
  have connected := asked_connected unmoved.connected asked
  obtain ⟨begun, members, former, locks, shown⟩ := unmoved
  have begun : stage ≠ .listing := by
    rintro rfl
    cases (begun.unlisted rfl).2
  have left := unsettled_asked shown (fun same => absurd same begun) asked
  have plain := fun path member => Namespace.unslashed_of_listed (shown path member)
  have locked := fun path => (held_asked plain asked path).trans (locks path)
  cases asked with
  | unlisted error answer => exact absurd rfl begun
  | listed listed answer => exact absurd rfl begun
  | free path later found answer unheld =>
    have free := (Namespace.held_of_unheld answer unheld).2
    obtain ⟨same, _⟩ := unlocked_visit now path later work
    refine ⟨way, ?_, connected, locked, left⟩
    intro other
    rw [same.members]
    by_cases own : other = path
    · subst own
      have listed := shown other List.mem_cons_self
      rw [Work.lose_at, if_pos listed, right other listed, Namespace.member_eq_held, ← locks, free]
      rfl
    · rw [(work.lose_visit path).others own]
      exact members other
  | held path later holder answer =>
    have held := (Namespace.held_of_read answer).2
    refine ⟨way, ?_, connected, locked, left⟩
    intro other
    by_cases own : other = path
    · subst own
      have listed := shown other List.mem_cons_self
      rw [Work.hold_next, Member.next_connected former, if_pos listed, right other listed,
        Namespace.member_eq_held, ← locks, held]
      rfl
    · rw [(work.hold_visit path holder).others own]
      exact members other
  | there path answer =>
    obtain ⟨same, _⟩ := reclaim_same now path none work
    exact ⟨way, same.members ▸ members, connected, locked, left⟩
  | _ => exact ⟨way, members, connected, locked, left⟩

theorem Ends.rescanned {roster : Roster} (connected : roster.Connected)
    (right : ∀ path, path ∈ space.servers layout →
      roster.members[path]? = space.member? layout path) (online : space.offline = false)
    (ends : Ends (Namespace.coordinator layout) now .listing ⟨roster, .empty⟩ space failure last
      final) : Unmoved layout roster space (.reporting failure) last final := by
  have answer : (Namespace.coordinator layout).list space =
      (.ok (space.servers layout), space) := by
    simp [Namespace.coordinator, Namespace.asking, Namespace.checkOnline, online, bind, Except.bind]
  have asked : Asked (Namespace.coordinator layout) now ⟨roster, .empty⟩ space space .listing _ :=
    .listed (space.servers layout) answer
  have way := underway_asked (underway_scan roster) asked
  rw [show shown (Namespace.coordinator layout) .listing space none = some (space.servers layout) by
    simp [shown, answer]] at way
  rcases ends.listed with ⟨offline, _⟩ | ⟨_, ends⟩
  · rw [online] at offline
    cases offline
  · refine ends.preserves (unmoved_asked right) ⟨way, ?_, ?_, fun _ => rfl, ?_⟩
    · intro path
      rw [Work.keepListed_at]
      simp only [Std.ExtTreeSet.contains_iff_mem]
    · exact asked_connected connected asked
    · rw [unsettled_proceed]
      exact fun path member => Std.ExtTreeSet.mem_toList.mp member

section Unmoved

variable {roster : Roster} (unmoved : Unmoved layout roster space (.reporting failure) last final)

include unmoved

theorem Unmoved.told (i : Instance) : i ∉ last.delta.added ∧ (i ∈ last.delta.removed ↔
    ∃ (path : ServerPath) (member : Member), roster.members[path]? = some member ∧
      member.server = i ∧ path ∉ space.servers layout) := by
  have kept (path : ServerPath) : last.roster.members.server? path =
      if path ∈ space.servers layout then roster.members.server? path else none := by
    unfold Members.server?
    rw [unmoved.members]
    split <;> rfl
  have losses : ∀ path, last.roster.members.server? path = some i →
      roster.members.server? path = some i := by
    intro path found
    rw [kept] at found
    split at found
    · exact found
    · cases found
  obtain ⟨silent, told⟩ :=
    Delta.turnovers_losses losses (visits .scan roster.members (some (space.servers layout)))
  rw [unmoved.way.delta]
  refine ⟨silent, told.trans ⟨?_, ?_⟩⟩
  · intro went
    obtain ⟨path, _, found, gone⟩ := went
    obtain ⟨member, there, same⟩ := Option.map_eq_some_iff.mp found
    refine ⟨path, member, there, same, fun listed => gone ?_⟩
    rw [kept, if_pos listed]
    exact found
  · intro unlisted
    obtain ⟨path, member, there, same, hidden⟩ := unlisted
    refine ⟨path, ?_, ?_, ?_⟩
    · apply List.mem_append_left
      rw [Work.vanished, List.mem_filter, Std.ExtTreeMap.mem_keys,
        Std.ExtTreeMap.mem_iff_isSome_getElem?, there, Bool.not_eq_true', ← Bool.not_eq_true,
        Std.ExtTreeSet.contains_iff_mem]
      exact ⟨rfl, hidden⟩
    · simp [Members.server?, there, same]
    · rw [kept, if_neg hidden]
      simp

theorem Unmoved.cache (listed : ∀ path, path ∈ roster.members → path ∈ space.servers layout) :
    last.roster.cache = roster.cache := by
  rcases unmoved.way.cache with ⟨_, cache⟩ | ⟨⟨path, differs⟩, _⟩
  · exact cache
  · rw [unmoved.members] at differs
    split at differs
    · exact absurd rfl differs
    · rename_i hidden
      have absent : roster.members[path]? = none :=
        Std.ExtTreeMap.getElem?_eq_none fun there => hidden (listed path there)
      rw [absent] at differs
      exact absurd rfl differs

end Unmoved

end Pass

namespace Namespace

variable {layout : Layout} {space after : Namespace}

theorem servers_of_fewer (fewer : ∀ key, key ∈ after.nodes → key ∈ space.nodes) {path : ServerPath}
    (listed : path ∈ after.servers layout) : path ∈ space.servers layout := by
  obtain ⟨key, there, placed⟩ := mem_servers.mp listed
  exact mem_servers.mpr ⟨key, fewer key there, placed⟩

theorem bound_listing (online : space.offline = false) :
    Pass.bound (coordinator layout) space .listing = 3 * (space.servers layout).size + 1 := by
  simp [Pass.bound, coordinator, asking, checkOnline, online, bind, Except.bind]

end Namespace

section Scanned

open Roster (Doomed)

variable {layout : Layout} {now : Nat} {roster last : Roster} {space final : Namespace}
  (scanned : Roster.Scanned layout now roster space last final)

include scanned

/-- A full scan removes nothing but childless nodes of expired paths. -/
theorem Roster.Scanned.node (key : String) : final.nodes[key]? = space.nodes[key]? ∨
    (final.nodes[key]? = none ∧ ∃ path, path ∈ space.servers layout ∧
      Doomed layout now (path ∈ space.servers layout) path roster space ∧
      space.below (layout.below path) = [] ∧ key = layout.serverKey path) := by
  by_cases owner : ∃ path, path ∈ space.servers layout ∧ key = layout.serverKey path
  · obtain ⟨path, listed, rfl⟩ := owner
    have settled := scanned.listed path listed
    by_cases gone : Doomed layout now (path ∈ space.servers layout) path roster space ∧
        space.below (layout.below path) = []
    · exact .inr ⟨settled.removed gone.1 gone.2, path, listed, gone.1, gone.2, rfl⟩
    · exact .inl (settled.kept gone)
  · exact .inl (scanned.nodes key fun path listed same => owner ⟨path, listed, same⟩)

theorem Roster.Scanned.fewer (key : String) (there : key ∈ final.nodes) : key ∈ space.nodes := by
  rw [Std.ExtTreeMap.mem_iff_isSome_getElem?] at there ⊢
  rcases scanned.node key with same | ⟨gone, _⟩
  · rwa [same] at there
  · simp [gone] at there

theorem Roster.Scanned.entry (path : ServerPath) (session : String) :
    final.nodes[layout.lockKey path session]? = space.nodes[layout.lockKey path session]? := by
  rcases scanned.node (layout.lockKey path session) with same | ⟨_, other, listed, _, _, spelt⟩
  · exact same
  · have below := Layout.below_of_lockStem (layout.lockStem_lockKey path session)
    have plain := Namespace.unslashed_of_listed listed
    exact absurd (spelt ▸ below) (Layout.serverKey_outside plain path)

theorem Roster.Scanned.member (connected : roster.Connected) (path : ServerPath) :
    last.members[path]? =
      if path ∈ space.servers layout then space.member? layout path else none := by
  split
  · rename_i listed
    rw [(scanned.listed path listed).member, Namespace.member_eq_held]
    cases space.held? layout path with
    | none => rfl
    | some holder => exact congrArg some (Member.next_connected connected path holder)
  · rename_i hidden
    exact (scanned.unlisted path hidden).1

theorem Roster.Scanned.clock (path : ServerPath) (since : Nat) :
    last.stale.firstSeen[path]? = some since ↔
      path ∈ space.servers layout ∧ space.member? layout path = none ∧
        ¬ roster.stale.Due now path ∧ since = (roster.stale.firstSeen[path]?).getD now := by
  rw [Namespace.member_eq_held, Option.map_eq_none_iff]
  by_cases listed : path ∈ space.servers layout
  · rw [(scanned.listed path listed).since]
    simp [listed]
  · simp [(scanned.unlisted path listed).2, listed]

end Scanned

def Result.delta? : Result → Option Delta
  | .pass (.ok delta) => some delta
  | _ => none

namespace Turns

theorem performed_of_delta {answer : Option Result × Turns Namespace}
    (succeeded : (answer.1.bind Result.delta?).isSome) :
    ∃ delta after, answer = (some (.pass (.ok delta)), after) := by
  obtain ⟨delta, found⟩ := Option.isSome_iff_exists.mp succeeded
  obtain ⟨result, first, told⟩ := Option.bind_eq_some_iff.mp found
  unfold Result.delta? at told
  split at told
  · exact ⟨_, answer.2, by rw [← first]⟩
  · cases told

/-- What a full scan at an instant makes of a roster and its namespace. -/
structure Converged (layout : Layout) (now : Nat) (turns after : Turns Namespace) : Prop where
  members : ∀ path, after.roster.members[path]? =
    if path ∈ turns.space.servers layout then turns.space.member? layout path else none
  clocks : ∀ path since, after.roster.stale.firstSeen[path]? = some since ↔
    path ∈ turns.space.servers layout ∧ turns.space.member? layout path = none ∧
      ¬ turns.roster.stale.Due now path ∧ since = (turns.roster.stale.firstSeen[path]?).getD now
  locks : ∀ path, after.space.readLock layout path = turns.space.readLock layout path
  entries : ∀ path session, after.space.nodes[layout.lockKey path session]? =
    turns.space.nodes[layout.lockKey path session]?
  nodes : ∀ key, after.space.nodes[key]? = turns.space.nodes[key]? ∨
    (after.space.nodes[key]? = none ∧ ∃ path, path ∈ turns.space.servers layout ∧
      Roster.Doomed layout now (path ∈ turns.space.servers layout) path turns.roster turns.space ∧
      turns.space.below (layout.below path) = [] ∧ key = layout.serverKey path)

/-- What another full scan makes of it, which may fail only at deletions. -/
structure Rescanned (layout : Layout) (turns : Turns Namespace) (told : Delta)
    (failure : Option CoordinationError) (after : Turns Namespace) : Prop where
  heard : after.told = turns.told.push told
  succeeds : turns.space.failDeletes = false → failure = none
  losses : ∀ i, i ∉ told.added ∧ (i ∈ told.removed ↔ ∃ (path : ServerPath) (member : Member),
    turns.roster.members[path]? = some member ∧ member.server = i ∧
      path ∉ turns.space.servers layout)
  quiet : (∀ path, path ∈ turns.roster.members → path ∈ turns.space.servers layout) →
    told = .empty ∧ after.roster.cache = turns.roster.cache

/-- A full scan of a namespace that answers comes to its end, at three questions a listed path. -/
theorem performs_scan {layout : Layout} {turns : Turns Namespace} (resting : turns.Resting)
    (orderly : turns.Orderly) (online : turns.space.offline = false) (now fuel : Nat)
    (enough : 3 * (turns.space.servers layout).size + 4 ≤ fuel) :
    ∃ failure work space, Pass.Ends (Namespace.coordinator layout) now .listing
        ⟨turns.roster, .empty⟩ turns.space failure work space ∧
      turns.perform (Namespace.coordinator layout) now fuel .scan =
        (some (.pass (verdict work.delta failure)), turns.passed work space) := by
  have bound : Pass.bound (Namespace.coordinator layout) turns.space Pass.scan.stage + 3 ≤ fuel := by
    rw [show Pass.scan.stage = .listing from rfl, Namespace.bound_listing online]
    exact enough
  exact performs_pass now resting orderly (show Job.pass? .scan = some .scan from rfl) bound

theorem rescanned {layout : Layout} {turns : Turns Namespace} (resting : turns.Resting)
    (orderly : turns.Orderly) (connected : turns.roster.Connected)
    (right : ∀ path, path ∈ turns.space.servers layout →
      turns.roster.members[path]? = turns.space.member? layout path)
    (online : turns.space.offline = false) (now fuel : Nat)
    (enough : 3 * (turns.space.servers layout).size + 4 ≤ fuel) :
    ∃ failure told after, turns.perform (Namespace.coordinator layout) now fuel .scan =
        (some (.pass (verdict told failure)), after) ∧
      Rescanned layout turns told failure after := by
  obtain ⟨failure, work, space, ends, performed⟩ :=
    performs_scan resting orderly online now fuel enough
  have unmoved := ends.rescanned connected right online
  refine ⟨failure, work.delta, _, performed, rfl, ?_, unmoved.told, ?_⟩
  · intro obliging
    rcases ends.scanned with ⟨rfl, _⟩ | ⟨_, offline | ⟨failing, _⟩⟩
    · rfl
    · rw [online] at offline
      cases offline
    · rw [obliging] at failing
      cases failing
  · intro listed
    refine ⟨Delta.eq_empty fun i => ⟨(unmoved.told i).1, fun lost => ?_⟩, unmoved.cache listed⟩
    obtain ⟨path, member, there, _, hidden⟩ := (unmoved.told i).2.mp lost
    refine hidden (listed path ?_)
    rw [Std.ExtTreeMap.mem_iff_isSome_getElem?, there]
    rfl

/-- A full scan that succeeds leaves behind what the listing and the locks say, and leaves the locks
as they are. Another one misses nobody but members at paths that the first one has taken out of the
listing; no well-formed path is such a path. -/
theorem scan_converges {layout : Layout} {grace now fuel : Nat} {turns after : Turns Namespace}
    {delta : Delta} (reachable : turns.Reachable (Namespace.coordinator layout) grace)
    (resting : turns.Resting) (scanned : turns.perform (Namespace.coordinator layout) now fuel .scan =
      (some (.pass (.ok delta)), after)) :
    Converged layout now turns after ∧
      (∀ path, path ∈ after.roster.members → path.WellFormed → path ∈ after.space.servers layout) ∧
      ∀ later enough, 3 * (after.space.servers layout).size + 4 ≤ enough →
        ∃ failure told last, after.perform (Namespace.coordinator layout) later enough .scan =
            (some (.pass (verdict told failure)), last) ∧
          Rescanned layout after told failure last := by
  have connected := reachable.connected
  obtain ⟨failure, work, space, ends, same, rfl⟩ := performed_pass resting reachable.orderly
    (show Job.pass? .scan = some .scan from rfl) scanned
  have failure : failure = none := by
    cases failure with
    | none => rfl
    | some error => cases same
  subst failure
  rcases ends.scanned with ⟨_, scanned⟩ | ⟨failed, _⟩
  · have members := scanned.member connected
    have locks (path : ServerPath) :
        space.member? layout path = turns.space.member? layout path := by
      unfold Namespace.member?
      rw [scanned.locks]
    have right : ∀ path, path ∈ space.servers layout →
        work.roster.members[path]? = space.member? layout path := by
      intro path listed
      rw [members, if_pos (Namespace.servers_of_fewer scanned.fewer listed), locks]
    have online : space.offline = false := by
      rw [scanned.switches.1]
      rcases ends.listed with ⟨_, failed⟩ | ⟨online, _⟩
      · cases failed
      · exact online
    refine ⟨⟨members, scanned.clock, scanned.locks, scanned.entry, scanned.node⟩, ?_, ?_⟩
    · intro path there formed
      obtain ⟨member, found⟩ :=
        Option.isSome_iff_exists.mp (Std.ExtTreeMap.mem_iff_isSome_getElem?.mp there)
      have found : work.roster.members[path]? = some member := found
      rw [members] at found
      split at found
      · obtain ⟨holder, _, held⟩ := Namespace.member_eq_some.mp found
        exact Namespace.listed_of_held formed ((scanned.locks path).trans held)
      · cases found
    · exact rescanned (resting.passed work space) (reachable.orderly.passed work space)
        (ends.connected connected) right online
  · cases failed

def surveyed : Turns Namespace :=
  let locked := Namespace.empty.acquireLock ⟨"/t"⟩ (.sample "a") ⟨⟨"a", 1⟩, "g"⟩ "s"
  let turns := start (.empty 3) (locked.createServer ⟨"/t"⟩ (.sample "b"))
  (turns.perform (Namespace.coordinator ⟨"/t"⟩) 0 20 .scan).2

def relock (space : Namespace) : Namespace :=
  (space.releaseLock ⟨"/t"⟩ (.sample "a") "s").acquireLock ⟨"/t"⟩ (.sample "a")
    ⟨⟨"a", 1⟩, "h"⟩ "t"

def shifted : Turns Namespace :=
  { surveyed with space := relock surveyed.space }

theorem shifted_reachable : shifted.Reachable (Namespace.coordinator ⟨"/t"⟩) 3 := by
  have surveyed : surveyed.Reachable (Namespace.coordinator ⟨"/t"⟩) 3 :=
    (Reachable.started _).performed 0 20 .scan
  exact surveyed.changed relock

theorem shifted_resting : shifted.Resting :=
  ⟨Option.isNone_iff_eq_none.mp (by decide +kernel), by decide +kernel⟩

theorem scan_converges_shifted :
    ∃ delta after last, shifted.perform (Namespace.coordinator ⟨"/t"⟩) 5 20 .scan =
        (some (.pass (.ok delta)), after) ∧
      after.roster.members[ServerPath.sample "a"]? = some (.of (.of ⟨⟨"a", 1⟩, "h"⟩ "t" 3)) ∧
      after.roster.stale.firstSeen[ServerPath.sample "b"]? = none ∧
      after.perform (Namespace.coordinator ⟨"/t"⟩) 9 20 .scan =
        (some (.pass (.ok .empty)), last) ∧
      last.roster.cache = after.roster.cache := by
  have succeeded : ((shifted.perform (Namespace.coordinator ⟨"/t"⟩) 5 20 .scan).1.bind
      Result.delta?).isSome := by
    decide +kernel
  obtain ⟨delta, after, scanned⟩ := performed_of_delta succeeded
  have same : (shifted.perform (Namespace.coordinator ⟨"/t"⟩) 5 20 .scan).2 = after :=
    congrArg Prod.snd scanned
  obtain ⟨converged, _, again⟩ := scan_converges shifted_reachable shifted_resting scanned
  have small : 3 * (after.space.servers ⟨"/t"⟩).size + 4 ≤ 20 := by
    rw [← same]
    decide +kernel
  have listed : ∀ path ∈ after.roster.members.keys, path ∈ after.space.servers ⟨"/t"⟩ := by
    rw [← same]
    decide +kernel
  have obliging : after.space.failDeletes = false := by
    rw [← same]
    decide +kernel
  obtain ⟨failure, told, last, performed, further⟩ := again 9 20 small
  obtain ⟨rfl, cache⟩ := further.quiet fun path there =>
    listed path (Std.ExtTreeMap.mem_keys.mpr there)
  rw [further.succeeds obliging] at performed
  refine ⟨delta, after, last, scanned, ?_, ?_, performed, cache⟩
  · rw [converged.members]
    decide +kernel
  · rw [← same]
    decide +kernel

/-- The node of an expired path is what lists another path, whose lock is held. -/
def bracketed : Turns Namespace :=
  let nodes := (Namespace.empty.put "/t/g/[[[x]]]:1" [] none).put "/t/g/[[x]]:1" [] none
  let space := nodes.acquireLock ⟨"/t"⟩ ⟨"g", ⟨"[x]", 1⟩⟩ ⟨⟨"x", 1⟩, "g"⟩ "s"
  ((start (.empty 3) space).perform (Namespace.coordinator ⟨"/t"⟩) 0 20 .scan).2

example :
    let after := (bracketed.perform (Namespace.coordinator ⟨"/t"⟩) 5 20 .scan).2
    let last := (after.perform (Namespace.coordinator ⟨"/t"⟩) 5 20 .scan).2
    (after.told.back?.map (·.isEmpty), last.told.back?.map (·.removed.toList)) =
      (some true, some [⟨⟨"x", 1⟩, "s"⟩]) := by
  decide +kernel

end Turns
end TabletRoster
