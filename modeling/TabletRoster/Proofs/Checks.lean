import TabletRoster.Proofs.Scans

namespace TabletRoster

namespace Namespace

variable {layout : Layout} {space : Namespace} {path : ServerPath}

theorem formed_of_listed (admitted : ∀ key ∈ space.nodes, layout.Admits key)
    (listed : path ∈ space.servers layout) : path.WellFormed := by
  obtain ⟨key, there, placed⟩ := mem_servers.mp listed
  exact Layout.wellFormed_of_place (admitted key there) placed

theorem listed_iff_owns (admitted : ∀ key ∈ space.nodes, layout.Admits key)
    (formed : path.WellFormed) :
    path ∈ space.servers layout ↔ ∃ key ∈ space.nodes, layout.Owns path key := by
  rw [mem_servers]
  constructor
  · intro listed
    obtain ⟨key, there, placed⟩ := listed
    obtain ⟨owner, spelt, owned⟩ := admitted key there (Layout.startsWith_of_place placed)
    refine ⟨key, there, ?_⟩
    rcases owned with rfl | ⟨session, rfl⟩
    · rw [Layout.place_serverKey layout spelt] at placed
      cases placed
      exact .inl rfl
    · rw [Layout.place_lockKey layout spelt] at placed
      cases placed
      exact .inr (Layout.below_of_lockStem (layout.lockStem_lockKey _ session))
  · intro owned
    obtain ⟨key, there, owns⟩ := owned
    obtain ⟨tail, ends, spelt⟩ := Layout.owns_iff.mp owns
    exact ⟨key, there, Layout.place_server layout formed ends spelt⟩

theorem contains_iff_owns :
    space.containsServer layout path = true ↔ ∃ key ∈ space.nodes, layout.Owns path key := by
  unfold containsServer
  simp only [Bool.or_eq_true, Std.ExtTreeMap.contains_iff_mem, Bool.not_eq_true',
    List.isEmpty_eq_false_iff_exists_mem]
  constructor
  · intro present
    rcases present with node | ⟨⟨key, node⟩, member⟩
    · exact ⟨_, node, .inl rfl⟩
    · obtain ⟨found, starts⟩ := mem_below.mp member
      refine ⟨key, ?_, .inr starts⟩
      simp [Std.ExtTreeMap.mem_iff_isSome_getElem?, found]
  · intro owned
    obtain ⟨key, there, rfl | starts⟩ := owned
    · exact .inl there
    · rw [Std.ExtTreeMap.mem_iff_isSome_getElem?] at there
      obtain ⟨node, found⟩ := Option.isSome_iff_exists.mp there
      exact .inr ⟨(key, node), mem_below.mpr ⟨found, starts⟩⟩

theorem listed_iff_contains (admitted : ∀ key ∈ space.nodes, layout.Admits key)
    (formed : path.WellFormed) :
    path ∈ space.servers layout ↔ space.containsServer layout path = true :=
  (listed_iff_owns admitted formed).trans contains_iff_owns.symm

theorem held_of_unlisted (formed : path.WellFormed) (unlisted : path ∉ space.servers layout) :
    space.held? layout path = none := by
  have absent := member_of_unlisted formed unlisted
  rwa [member_eq_held, Option.map_eq_none_iff] at absent

end Namespace

namespace Turns

variable {σ : Type}

def checkAll (service : Coordinator σ) (now fuel : Nat) :
    List ServerPath → Turns σ → List (Option Result) × Turns σ
  | [], turns => ([], turns)
  | path :: later, turns =>
    let (result, turns) := turns.perform service now fuel (.check path)
    let (results, turns) := checkAll service now fuel later turns
    (result :: results, turns)

variable {layout : Layout} {now fuel : Nat} {turns : Turns Namespace} {path : ServerPath}
  {present : ServerPath → Prop} {order : List ServerPath}

open Roster (Visited Tour Obstructed)

/-- Two rosters have the same members and the same clocks over the same namespace. -/
structure Agrees (one other : Turns Namespace) : Prop where
  members : one.roster.members = other.roster.members
  stale : one.roster.stale = other.roster.stale
  nodes : one.space.nodes = other.space.nodes
  revision : one.space.revision = other.space.revision
  offline : one.space.offline = other.space.offline
  failDeletes : one.space.failDeletes = other.space.failDeletes

theorem performs_check (resting : turns.Resting) (orderly : turns.Orderly)
    (probed : present path ↔ turns.space.containsServer layout path = true)
    (clear : ¬ Obstructed layout now present [path] turns.roster turns.space)
    (enough : 6 ≤ fuel) : ∃ work space,
      turns.perform (Namespace.coordinator layout) now fuel (.check path) =
        (some (.pass (.ok work.delta)), turns.passed work space) ∧
      Visited layout now (present path) path turns.roster turns.space work.roster space := by
  obtain ⟨failure, work, space, ends, performed⟩ : ∃ failure work space,
      Pass.Ends (Namespace.coordinator layout) now (.reading path none) ⟨turns.roster, .empty⟩
        turns.space failure work space ∧
      turns.perform (Namespace.coordinator layout) now fuel (.check path) =
        (some (.pass (verdict work.delta failure)), turns.passed work space) :=
    @performs_pass _ _ _ now resting orderly _ (.check path) rfl _ enough
  rcases Pass.Ends.checked probed ends with ⟨rfl, visited⟩ | ⟨_, obstructed⟩
  · exact ⟨work, space, performed, visited⟩
  · exact absurd obstructed clear

theorem checkAll_tour (resting : turns.Resting) (orderly : turns.Orderly)
    (plain : ∀ path ∈ order, path.Unslashed) (once : order.Nodup)
    (probed : ∀ path ∈ order, present path ↔ turns.space.containsServer layout path = true)
    (clear : ¬ Obstructed layout now present order turns.roster turns.space)
    (enough : 6 ≤ fuel) :
    (∀ result ∈ (turns.checkAll (Namespace.coordinator layout) now fuel order).1,
        ∃ delta, result = some (.pass (.ok delta))) ∧
      Tour layout now present order turns.roster turns.space
        (turns.checkAll (Namespace.coordinator layout) now fuel order).2.roster
        (turns.checkAll (Namespace.coordinator layout) now fuel order).2.space := by
  induction order generalizing turns with
  | nil => exact ⟨by simp [checkAll], .ended _ _⟩
  | cons path later ih =>
    obtain ⟨apart, once⟩ := List.nodup_cons.mp once
    have own := plain path List.mem_cons_self
    have first : ¬ Obstructed layout now present [path] turns.roster turns.space := by
      intro obstructed
      refine clear (obstructed.imp id fun failing => ⟨failing.1, ?_⟩)
      obtain ⟨_, other, member, doomed⟩ := failing
      exact ⟨other, List.mem_cons.mpr (.inl (List.mem_singleton.mp member)), doomed⟩
    obtain ⟨work, space, performed, visited⟩ :=
      performs_check resting orderly (probed path List.mem_cons_self) first enough
    have rest := @ih (turns.passed work space) (resting.passed work space)
      (orderly.passed work space) (fun other member => plain other (List.mem_cons_of_mem _ member))
      once ?_ fun obstructed => clear (visited.obstructed plain apart obstructed)
    · simp only [checkAll, performed]
      refine ⟨?_, .visit visited rest.2⟩
      intro result member
      rcases List.mem_cons.mp member with rfl | further
      · exact ⟨_, rfl⟩
      · exact rest.1 result further
    · intro other member
      have different : other ≠ path := fun same => apart (same ▸ member)
      have agree := visited.others own different (plain other (List.mem_cons_of_mem _ member))
      rw [probed other (List.mem_cons_of_mem _ member), ← agree.contains]
      rfl

end Turns

namespace Roster

variable {layout : Layout} {now : Nat} {roster scanned checked : Roster}
  {space left kept : Namespace} {order : List ServerPath}

theorem Settled.same {there : Prop} {path : ServerPath}
    (one : Settled layout now there path roster space scanned left)
    (other : Settled layout now there path roster space checked kept) :
    checked.members[path]? = scanned.members[path]? ∧
      checked.stale.firstSeen[path]? = scanned.stale.firstSeen[path]? ∧
      kept.nodes[layout.serverKey path]? = left.nodes[layout.serverKey path]? := by
  refine ⟨other.member.trans one.member.symm, ?_, ?_⟩
  · exact Option.ext fun since => (other.since since).trans (one.since since).symm
  · by_cases gone : Doomed layout now there path roster space ∧
        space.below (layout.below path) = []
    · exact (other.removed gone.1 gone.2).trans (one.removed gone.1 gone.2).symm
    · exact (other.kept gone).trans (one.kept gone).symm

section Toured

variable (formed : ∀ path ∈ order, path.WellFormed) (once : order.Nodup)
  (whole : ∀ path, path ∈ order ↔ path ∈ space.servers layout ∨ path ∈ roster.members ∨
    path ∈ roster.stale.firstSeen)
  (tour : Tour layout now (· ∈ space.servers layout) order roster space checked kept)

include formed once tour

theorem Tour.unlisted {path : ServerPath} (member : path ∈ order)
    (hidden : path ∉ space.servers layout) :
    checked.members[path]? = none ∧ checked.stale.firstSeen[path]? = none ∧
      kept.nodes[layout.serverKey path]? = space.nodes[layout.serverKey path]? := by
  have settled := tour.settled (fun path member => (formed path member).plain) once member
  refine ⟨?_, ?_, settled.kept fun gone => hidden gone.1.there⟩
  · rw [settled.member, Namespace.held_of_unlisted (formed path member) hidden]
    rfl
  · exact Option.eq_none_iff_forall_ne_some.mpr fun since found =>
      hidden ((settled.since since).mp found).2.1

include whole

/-- A tour of all paths that matter comes to the same as a full scan. -/
theorem Scanned.toured (scan : Scanned layout now roster space scanned left) :
    checked.members = scanned.members ∧ checked.stale = scanned.stale ∧
      kept.nodes = left.nodes := by
  have plain : ∀ path ∈ order, path.Unslashed := fun path member => (formed path member).plain
  have listed (path : ServerPath) (shown : path ∈ space.servers layout) :=
    (scan.listed path shown).same (tour.settled plain once ((whole path).mpr (.inl shown)))
  have unlisted (path : ServerPath) (hidden : path ∉ space.servers layout) :
      checked.members[path]? = none ∧ checked.stale.firstSeen[path]? = none := by
    by_cases member : path ∈ order
    · have left := tour.unlisted formed once member hidden
      exact ⟨left.1, left.2.1⟩
    · rw [tour.members member, tour.clocks member]
      have stranger := mt (whole path).mpr member
      simp only [not_or] at stranger
      exact ⟨Std.ExtTreeMap.getElem?_eq_none stranger.2.1,
        Std.ExtTreeMap.getElem?_eq_none stranger.2.2⟩
  refine ⟨?_, ?_, ?_⟩
  · apply Std.ExtTreeMap.ext_getElem?
    intro path
    by_cases shown : path ∈ space.servers layout
    · exact (listed path shown).1
    · rw [(unlisted path shown).1, (scan.unlisted path shown).1]
  · have clocks : checked.stale.firstSeen = scanned.stale.firstSeen := by
      apply Std.ExtTreeMap.ext_getElem?
      intro path
      by_cases shown : path ∈ space.servers layout
      · exact (listed path shown).2.1
      · rw [(unlisted path shown).2, (scan.unlisted path shown).2]
    have grace := tour.grace.trans scan.grace.symm
    cases one : checked.stale
    cases other : scanned.stale
    simp_all
  · apply Std.ExtTreeMap.ext_getElem?
    intro key
    by_cases owner : ∃ path, path ∈ space.servers layout ∧ key = layout.serverKey path
    · obtain ⟨path, shown, rfl⟩ := owner
      exact (listed path shown).2.2
    · have unowned : ∀ path, path ∈ space.servers layout → key ≠ layout.serverKey path :=
        fun path shown same => owner ⟨path, shown, same⟩
      rw [scan.nodes key unowned]
      by_cases visited : ∃ path ∈ order, key = layout.serverKey path
      · obtain ⟨path, member, rfl⟩ := visited
        have hidden : path ∉ space.servers layout := fun shown => unowned path shown rfl
        exact (tour.unlisted formed once member hidden).2.2
      · exact tour.nodes fun path member same => visited ⟨path, member, same⟩

end Toured

end Roster

namespace Turns

open Roster (Obstructed)

variable {layout : Layout} {now fuel : Nat} {turns : Turns Namespace} {order : List ServerPath}

theorem check_others {after : Turns Namespace} {path : ServerPath} {delta : Delta}
    (resting : turns.Resting) (orderly : turns.Orderly) (formed : path.WellFormed)
    (performed : turns.perform (Namespace.coordinator layout) now fuel (.check path) =
      (some (.pass (.ok delta)), after)) {other : ServerPath} (different : other ≠ path) :
    after.roster.members[other]? = turns.roster.members[other]? ∧
      after.roster.stale.firstSeen[other]? = turns.roster.stale.firstSeen[other]? ∧
      (other.WellFormed → ∀ key, layout.Owns other key →
        after.space.nodes[key]? = turns.space.nodes[key]?) := by
  obtain ⟨failure, work, space, ends, same, rfl⟩ := performed_pass resting orderly
    (show Job.pass? (.check path) = some (.check path) from rfl) performed
  have probed : turns.space.containsServer layout path = true ↔
    turns.space.containsServer layout path = true := .rfl
  rcases @Pass.Ends.checked _ _ _ _ _ _ _ _ (turns.space.containsServer layout · = true) probed
    ends with ⟨rfl, visited⟩ | ⟨failed, _⟩
  · refine ⟨visited.members other different, visited.clocks other different, fun spelt => ?_⟩
    exact (visited.others formed.plain different spelt.plain).nodes
  · obtain ⟨error, rfl⟩ := Option.isSome_iff_exists.mp failed
    cases same

/-- Checks of all paths that are listed, have a member or have a clock, in any order, bring the
members, the clocks and the namespace that a full scan brings, and no check changes anything about
another path. -/
theorem checks_agree_with_scan (resting : turns.Resting) (orderly : turns.Orderly)
    (admitted : ∀ key ∈ turns.space.nodes, layout.Admits key)
    (members : ∀ path, path ∈ turns.roster.members → path.WellFormed)
    (tracked : ∀ path, path ∈ turns.roster.stale.firstSeen → path.WellFormed)
    (once : order.Nodup)
    (whole : ∀ path, path ∈ order ↔ path ∈ turns.space.servers layout ∨
      path ∈ turns.roster.members ∨ path ∈ turns.roster.stale.firstSeen)
    (online : turns.space.offline = false)
    (obliging : turns.space.failDeletes = true → ∀ path, path ∈ turns.space.servers layout →
      turns.space.held? layout path = none → ¬ turns.roster.stale.Due now path)
    (enough : 3 * (turns.space.servers layout).size + 6 ≤ fuel) :
    ∃ delta scanned, turns.perform (Namespace.coordinator layout) now fuel .scan =
        (some (.pass (.ok delta)), scanned) ∧
      (∀ result ∈ (turns.checkAll (Namespace.coordinator layout) now fuel order).1,
        ∃ delta, result = some (.pass (.ok delta))) ∧
      (turns.checkAll (Namespace.coordinator layout) now fuel order).2.Agrees scanned ∧
      ∀ (before after : Turns Namespace) (path : ServerPath) (delta : Delta),
        before.Resting → before.Orderly → path.WellFormed →
        before.perform (Namespace.coordinator layout) now fuel (.check path) =
          (some (.pass (.ok delta)), after) →
        ∀ other, other ≠ path →
          after.roster.members[other]? = before.roster.members[other]? ∧
          after.roster.stale.firstSeen[other]? = before.roster.stale.firstSeen[other]? ∧
          (other.WellFormed → ∀ key, layout.Owns other key →
            after.space.nodes[key]? = before.space.nodes[key]?) := by
  have formed : ∀ path ∈ order, path.WellFormed := by
    intro path member
    rcases (whole path).mp member with listed | there | timed
    · exact Namespace.formed_of_listed admitted listed
    · exact members path there
    · exact tracked path timed
  have plain : ∀ path ∈ order, path.Unslashed := fun path member => (formed path member).plain
  have clear (paths : List ServerPath) : ¬ Obstructed layout now (· ∈ turns.space.servers layout)
      paths turns.roster turns.space := by
    intro obstructed
    rcases obstructed with offline | ⟨failing, path, _, doomed⟩
    · rw [online] at offline
      cases offline
    · exact obliging failing path doomed.there doomed.free doomed.due
  have bound : Pass.bound (Namespace.coordinator layout) turns.space Pass.scan.stage + 3 ≤ fuel := by
    rw [show Pass.scan.stage = .listing from rfl, Namespace.bound_listing online]
    omega
  obtain ⟨failure, work, space, ends, performed⟩ :=
    performs_pass now resting orderly (show Job.pass? .scan = some .scan from rfl) bound
  have probed : ∀ path ∈ order, path ∈ turns.space.servers layout ↔
      turns.space.containsServer layout path = true :=
    fun path member => Namespace.listed_iff_contains admitted (formed path member)
  obtain ⟨succeeded, tour⟩ :=
    checkAll_tour resting orderly plain once probed (clear order) (show 6 ≤ fuel by omega)
  rcases ends.scanned with ⟨rfl, scan⟩ | ⟨_, obstructed⟩
  · obtain ⟨same, clocks, nodes⟩ := scan.toured formed once whole tour
    obtain ⟨offline, failing, revision⟩ := tour.switches
    refine ⟨work.delta, _, performed, succeeded, ⟨same, clocks, nodes, ?_, ?_, ?_⟩, ?_⟩
    · exact revision.trans scan.switches.2.2.symm
    · exact offline.trans scan.switches.1.symm
    · exact failing.trans scan.switches.2.1.symm
    · intro before after path delta resting orderly formed performed other different
      exact check_others resting orderly formed performed different
  · exact absurd obstructed (clear _)

def unsettled : Turns Namespace :=
  let former (host session : String) : Member :=
    ⟨⟨⟨host, 1⟩, session⟩, ⟨⟨host, 1⟩⟩, "g"⟩
  let members : Members := ((∅ : Members).insert (.sample "a") (former "a" "s")).insert
    (.sample "c") (former "c" "u")
  let stale : StalePaths := ⟨3, ((∅ : Std.ExtTreeMap ServerPath Nat compare).insert
    (.sample "b") 0).insert (.sample "d") 0⟩
  let space := ((Namespace.empty.acquireLock ⟨"/t"⟩ (.sample "a") ⟨⟨"a", 1⟩, "g"⟩ "t").createServer
    ⟨"/t"⟩ (.sample "b")).createServer ⟨"/t"⟩ (.sample "e")
  start ⟨members, stale, none, 0⟩ space

theorem checks_agree_with_scan_unsettled :
    ∃ delta, (unsettled.perform (Namespace.coordinator ⟨"/t"⟩) 5 20 .scan).1 =
        some (.pass (.ok delta)) ∧
      (unsettled.checkAll (Namespace.coordinator ⟨"/t"⟩) 5 20
        [.sample "c", .sample "e", .sample "b", .sample "d", .sample "a"]).2.Agrees
          (unsettled.perform (Namespace.coordinator ⟨"/t"⟩) 5 20 .scan).2 := by
  have formed (host : String) (member : host ∈ ["a", "b", "c", "d", "e"]) :
      (ServerPath.sample host).WellFormed :=
    ServerPath.sample_formed (by rintro rfl; simp at member) (by revert host; decide)
  have admitted : ∀ key ∈ unsettled.space.nodes, (Layout.mk "/t").Admits key := by
    have tidy : unsettled.space.Tidy ⟨"/t"⟩ := by
      refine ((Namespace.tidy_empty _).put (Layout.admits_lockKey _ (formed "a" (by simp)) "t") _ _
        |>.put ?_ _ _).put ?_ _ _
      · exact fun _ => ⟨.sample "b", formed "b" (by simp), .inl rfl⟩
      · exact fun _ => ⟨.sample "e", formed "e" (by simp), .inl rfl⟩
    exact tidy.nodes
  have listed : (unsettled.space.servers ⟨"/t"⟩).toList =
      [.sample "a", .sample "b", .sample "e"] := by decide +kernel
  have members : unsettled.roster.members.keys = [.sample "a", .sample "c"] := by decide +kernel
  have tracked : unsettled.roster.stale.firstSeen.keys = [.sample "b", .sample "d"] := by
    decide +kernel
  have shown (path : ServerPath) : path ∈ unsettled.space.servers ⟨"/t"⟩ ↔
      path ∈ [ServerPath.sample "a", .sample "b", .sample "e"] := by
    rw [← listed, Std.ExtTreeSet.mem_toList]
  have joined (path : ServerPath) : path ∈ unsettled.roster.members ↔
      path ∈ [ServerPath.sample "a", .sample "c"] := by
    rw [← members, Std.ExtTreeMap.mem_keys]
  have timed (path : ServerPath) : path ∈ unsettled.roster.stale.firstSeen ↔
      path ∈ [ServerPath.sample "b", .sample "d"] := by
    rw [← tracked, Std.ExtTreeMap.mem_keys]
  have spelt : ∀ path, path ∈ unsettled.roster.members → path.WellFormed := by
    intro path there
    have there := (joined path).mp there
    simp only [List.mem_cons, List.not_mem_nil, or_false] at there
    rcases there with rfl | rfl
    · exact formed "a" (by simp)
    · exact formed "c" (by simp)
  have stale : ∀ path, path ∈ unsettled.roster.stale.firstSeen → path.WellFormed := by
    intro path there
    have there := (timed path).mp there
    simp only [List.mem_cons, List.not_mem_nil, or_false] at there
    rcases there with rfl | rfl
    · exact formed "b" (by simp)
    · exact formed "d" (by simp)
  have whole : ∀ path, path ∈ [ServerPath.sample "c", .sample "e", .sample "b", .sample "d",
      .sample "a"] ↔ path ∈ unsettled.space.servers ⟨"/t"⟩ ∨ path ∈ unsettled.roster.members ∨
        path ∈ unsettled.roster.stale.firstSeen := by
    intro path
    rw [shown, joined, timed]
    simp only [List.mem_cons, List.not_mem_nil, or_false]
    grind
  have resting : unsettled.Resting := ⟨rfl, rfl⟩
  have orderly : unsettled.Orderly := orderly_start _ _
  have obliging : unsettled.space.failDeletes = true →
      ∀ path, path ∈ unsettled.space.servers ⟨"/t"⟩ →
        unsettled.space.held? ⟨"/t"⟩ path = none → ¬ unsettled.roster.stale.Due 5 path :=
    fun failing => absurd failing (by decide +kernel)
  have enough : 3 * (unsettled.space.servers ⟨"/t"⟩).size + 6 ≤ 20 := by decide +kernel
  obtain ⟨delta, scanned, performed, _, agrees, _⟩ :=
    checks_agree_with_scan resting orderly admitted spelt stale (by decide +kernel) whole
      (by decide +kernel) obliging enough
  rw [performed]
  exact ⟨delta, rfl, agrees⟩

end Turns
end TabletRoster
