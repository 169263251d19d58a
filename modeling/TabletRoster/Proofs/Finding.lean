import TabletRoster.Proofs.Leftovers
import TabletRoster.Proofs.Readers

/-!
Looking for an instance by text. Members stand in the order of their server paths, and the first
one that the text names is found. Its resource group is that of the holder of the lock, which need
not be the group of its path: so what is found need not be in the least group.
-/
namespace TabletRoster

/-- Readers are told of an instance the group of one of its members. -/
theorem Snapshot.group_build {members : Members} {i : Instance} {group : String}
    (told : (build members).group? i = some group) :
    ∃ (path : ServerPath) (member : Member), members[path]? = some member ∧ member.server = i ∧
      member.group = group := by
  have run (seen : List Member) (snapshot : Snapshot)
      (told : (seen.foldl add snapshot).group? i = some group) :
      snapshot.group? i = some group ∨
        ∃ member ∈ seen, member.server = i ∧ member.group = group := by
    induction seen generalizing snapshot with
    | nil => exact .inl told
    | cons first rest ih =>
      rcases ih (snapshot.add first) told with before | ⟨member, later, same⟩
      · rw [group_add] at before
        split at before
        · rename_i own
          exact .inr ⟨first, List.mem_cons_self, own, Option.some.inj before⟩
        · exact .inl before
      · exact .inr ⟨member, List.mem_cons_of_mem _ later, same⟩
  rcases run members.values empty told with nothing | ⟨member, seen, same⟩
  · simp [empty, group?] at nothing
  · obtain ⟨path, there⟩ := Members.mem_values.mp seen
    exact ⟨path, member, there, same⟩

namespace Roster

variable {roster : Roster} {lookup : Lookup} {path : ServerPath} {i : Instance}

def groupOf? (roster : Roster) (i : Instance) : Option String :=
  roster.snapshot.1.2.group? i

structure Matches (roster : Roster) (lookup : Lookup) (path : ServerPath) (i : Instance) :
    Prop where
  stands : roster.members.server? path = some i
  address : i.address = lookup.address
  session : ∀ session, lookup.session = some session → i.session = session

/-- Of all the members that a lookup names, one is in the least resource group. Within a group the
order is that of the paths. -/
def Foremost (roster : Roster) (lookup : Lookup) (i : Instance) : Prop :=
  ∃ path group, roster.Matches lookup path i ∧ roster.groupOf? i = some group ∧
    ∀ other rival further, roster.Matches lookup other rival →
      roster.groupOf? rival = some further →
        (compare group further).then (compare path other) ≠ .gt

theorem matches_iff : roster.Matches lookup path i ↔
    ∃ member, roster.members[path]? = some member ∧ member.server = i ∧
      lookup.selects member.server = true := by
  constructor
  · rintro ⟨stands, address, session⟩
    obtain ⟨member, there, rfl⟩ := Option.map_eq_some_iff.mp stands
    refine ⟨member, there, rfl, ?_⟩
    cases wanted : lookup.session with
    | none => simp [Lookup.selects, address, wanted]
    | some wished => simp [Lookup.selects, address, wanted, session wished wanted]
  · rintro ⟨member, there, rfl, selected⟩
    simp only [Lookup.selects, Bool.and_eq_true, decide_eq_true_eq] at selected
    refine ⟨by simp [Members.server?, there], selected.1, fun wished wanted => ?_⟩
    simpa [wanted, eq_comm] using selected.2

theorem find_some (found : roster.find? lookup = some i) :
    ∃ path, roster.Matches lookup path i ∧
      ∀ other rival, roster.Matches lookup other rival → compare path other ≠ .gt := by
  obtain ⟨member, first, rfl⟩ := Option.map_eq_some_iff.mp found
  rw [Members.values_eq, List.find?_map] at first
  obtain ⟨⟨path, _⟩, entry, rfl⟩ := Option.map_eq_some_iff.mp first
  obtain ⟨there, selected, least⟩ := Members.find_first entry
  refine ⟨path, matches_iff.mpr ⟨_, there, rfl, selected⟩, fun other rival also => ?_⟩
  obtain ⟨member, here, -, named⟩ := matches_iff.mp also
  exact least other member here named

theorem find_isSome :
    (roster.find? lookup).isSome ↔ ∃ path i, roster.Matches lookup path i := by
  constructor
  · intro somebody
    obtain ⟨i, found⟩ := Option.isSome_iff_exists.mp somebody
    obtain ⟨path, named, _⟩ := find_some found
    exact ⟨path, i, named⟩
  · rintro ⟨path, i, named⟩
    obtain ⟨member, there, -, selected⟩ := matches_iff.mp named
    rw [find?, Option.isSome_map, List.find?_isSome]
    exact ⟨member, Members.mem_values.mpr ⟨path, there⟩, selected⟩

def Faithful (roster : Roster) : Prop :=
  ∀ number snapshot, roster.cache = some (number, snapshot) → snapshot = .build roster.members

theorem Faithful.snapshot_eq (faithful : roster.Faithful) :
    roster.snapshot.1.2 = .build roster.members := by
  unfold snapshot
  split
  · rename_i shared cached
    exact faithful shared.1 shared.2 cached
  · rfl

theorem Faithful.snapshot (faithful : roster.Faithful) : roster.snapshot.2.Faithful := by
  unfold Roster.snapshot
  split
  · exact faithful
  · intro number snapshot cached
    cases cached
    rfl

theorem Faithful.grouped (faithful : roster.Faithful)
    (stands : roster.members.server? path = some i) :
    ∃ (place : ServerPath) (member : Member), roster.members[place]? = some member ∧
      member.server = i ∧ roster.groupOf? i = some member.group := by
  have known := (Snapshot.known_build roster.members i).2.mpr ⟨path, stands⟩
  rw [Snapshot.connection?, Option.isSome_map] at known
  have told : ((Snapshot.build roster.members).group? i).isSome := by
    rwa [Snapshot.group?, Option.isSome_map]
  obtain ⟨group, told⟩ := Option.isSome_iff_exists.mp told
  obtain ⟨place, member, there, same, rfl⟩ := Snapshot.group_build told
  exact ⟨place, member, there, same, by rw [groupOf?, faithful.snapshot_eq, told]⟩

/-- Among those that a lookup names, the first by path is foremost just if none is in a lesser
group. -/
theorem foremost_iff {group : String} (named : roster.Matches lookup path i)
    (least : ∀ other rival, roster.Matches lookup other rival → compare path other ≠ .gt)
    (grouped : roster.groupOf? i = some group) :
    roster.Foremost lookup i ↔ ∀ other rival further, roster.Matches lookup other rival →
      roster.groupOf? rival = some further → compare group further ≠ .gt := by
  constructor
  · rintro ⟨place, own, -, known, foremost⟩ other rival further also told greater
    cases grouped.symm.trans known
    exact foremost other rival further also told (by rw [greater]; rfl)
  · intro lesser
    refine ⟨path, group, named, grouped, fun other rival further also told => ?_⟩
    have here := least other rival also
    have there := lesser other rival further also told
    cases order : compare group further with
    | lt => simp
    | eq => simpa using here
    | gt => exact absurd order there

/-- Where every instance is in the group of its path, the first by path is foremost. -/
theorem foremost_of_placed (placed : ∀ place rival, roster.Matches lookup place rival →
      roster.groupOf? rival = some place.group)
    (named : roster.Matches lookup path i)
    (least : ∀ other rival, roster.Matches lookup other rival → compare path other ≠ .gt) :
    roster.Foremost lookup i := by
  refine (foremost_iff named least (placed path i named)).mpr ?_
  -- a rival in a lesser group would stand at a lesser path
  intro other rival further also told greater
  cases (placed other rival also).symm.trans told
  have less : compare path other ≠ .gt := least other rival also
  exact less (show (compare path.group other.group).then _ = .gt by rw [greater]; rfl)

end Roster

namespace Work

variable {work after : Work} {path : ServerPath} {visited : List ServerPath}

theorem Same.faithful (same : Same work after) (faithful : work.roster.Faithful) :
    after.roster.Faithful := by
  intro number snapshot cached
  rw [same.cache] at cached
  rw [same.members]
  exact faithful number snapshot cached

theorem Visit.faithful (visit : Visit path work after) (faithful : work.roster.Faithful) :
    after.roster.Faithful := by
  rcases visit with same | moved
  · exact same.faithful faithful
  · intro number snapshot cached
    rw [moved.cache] at cached
    cases cached

theorem Course.faithful (course : Course work visited after) (faithful : work.roster.Faithful) :
    after.roster.Faithful := by
  induction course with
  | rest same => exact same.faithful faithful
  | visit earlier visit ih => exact visit.faithful ih

end Work

theorem Pass.asked_faithful {σ : Type} {service : Coordinator σ} {now : Nat} {work : Work}
    {space after : σ} {stage : Stage} {next : Stage × Work} (faithful : work.roster.Faithful)
    (asked : Asked service now work space after stage next) : next.2.roster.Faithful := by
  cases asked with
  | listed listed answer => exact (work.keepListed_course listed).faithful faithful
  | free path later found answer unheld =>
    exact (unlocked_visit now path later work).1.faithful
      ((work.lose_visit path).faithful faithful)
  | held path later holder answer => exact (work.hold_visit path holder).faithful faithful
  | there path answer => exact (reclaim_same now path none work).1.faithful faithful
  | _ => exact faithful

namespace Turns

variable {σ : Type} {service : Coordinator σ} {grace : Nat} {turns next : Turns σ} {move : Move}

theorem faithful_step (faithful : turns.roster.Faithful) (step : Step service turns move next) :
    next.roster.Faithful := by
  cases step with
  | evicting ticket i path rest idle first found => exact fun _ _ cached => by cases cached
  | read ticket rest idle first => exact faithful.snapshot
  | asked now ticket stage delta next after current asked =>
    exact Pass.asked_faithful faithful asked
  | _ => exact faithful

theorem Reachable.faithful (reachable : turns.Reachable service grace) :
    turns.roster.Faithful := by
  induction reachable with
  | started space => exact fun _ _ cached => by cases cached
  | moved before moved ih => exact faithful_step ih (step_of_move moved)
  | cancelled ticket before ih => exact ih
  | changed change before ih => exact ih

/-- A text is refused just if it is no lookup. Whoever comes with a lookup waits in line, and when
his turn comes he finds somebody just if a member has that address, and that session if one is
given. He finds the first by path among those named. Readers are told a resource group of each of
them, that of one of its members; the one found is foremost just if none of the others is in a
lesser group, and so where all are in the groups of their paths. -/
theorem find_takes_first_path (reachable : turns.Reachable service grace) (text : String) :
    (∀ error, Job.seek text = .error error ↔ Lookup.parse text = .error error) ∧
    ∀ job, Job.seek text = .ok job → ∃ lookup, Lookup.parse text = .ok lookup ∧
      (turns.come job = (turns.tickets, { turns with
        tickets := turns.tickets + 1
        waiting := turns.waiting ++ [(turns.tickets, job)] })) ∧
      (∀ path i, turns.roster.Matches lookup path i →
        ∃ (place : ServerPath) (member : Member), turns.roster.members[place]? = some member ∧
          member.server = i ∧ turns.roster.groupOf? i = some member.group) ∧
      ∀ ticket rest, turns.current = none → turns.waiting = (ticket, job) :: rest →
        ∃ after found, turns.enter? = some after ∧ after.roster = turns.roster ∧
          after.result? ticket = some (.found found) ∧
          (found.isSome ↔ ∃ path i, turns.roster.Matches lookup path i) ∧
          ∀ i, found = some i →
            (∃ path, turns.roster.Matches lookup path i ∧
              ∀ other rival, turns.roster.Matches lookup other rival → compare path other ≠ .gt) ∧
            (turns.roster.Foremost lookup i ↔ ∀ group other rival further,
              turns.roster.groupOf? i = some group → turns.roster.Matches lookup other rival →
                turns.roster.groupOf? rival = some further → compare group further ≠ .gt) ∧
            ((∀ place rival, turns.roster.Matches lookup place rival →
              turns.roster.groupOf? rival = some place.group) →
                turns.roster.Foremost lookup i) := by
  cases parsed : Lookup.parse text with
  | error fault =>
    have refused : Job.seek text = .error fault := by
      rw [Job.seek, parsed]
      rfl
    rw [refused]
    exact ⟨fun error => by simp, nofun⟩
  | ok lookup =>
    have sought : Job.seek text = .ok (.find lookup) := by
      rw [Job.seek, parsed]
      rfl
    rw [sought]
    refine ⟨fun error => by simp, ?_⟩
    rintro job ⟨⟩
    refine ⟨lookup, rfl, turns.come_waits (by simp),
      fun path i named => reachable.faithful.grouped named.stands, fun ticket rest idle first => ?_⟩
    refine ⟨{ turns with waiting := rest }.finish ticket (.found (turns.roster.find? lookup)),
      turns.roster.find? lookup, ?_, rfl, ?_, Roster.find_isSome, fun i found => ?_⟩
    · simp [enter?, idle, first, begin]
    · simp [finish, result?]
    · obtain ⟨path, named, least⟩ := Roster.find_some found
      obtain ⟨_, member, _, _, grouped⟩ := reachable.faithful.grouped named.stands
      refine ⟨⟨path, named, least⟩, ?_, fun placed => Roster.foremost_of_placed placed named least⟩
      rw [Roster.foremost_iff named least grouped]
      constructor
      · intro lesser own other rival further mine
        cases grouped.symm.trans mine
        exact lesser other rival further
      · intro lesser other rival further
        exact lesser member.group other rival further grouped

def regrouped : Turns Namespace :=
  let first := Namespace.empty.acquireLock ⟨"/t"⟩ (.sample "a") ⟨⟨"x", 1⟩, "z"⟩ "s"
  let second := first.acquireLock ⟨"/t"⟩ (.sample "b") ⟨⟨"x", 1⟩, "g"⟩ "t"
  ((start (.empty 3) second).perform (Namespace.coordinator ⟨"/t"⟩) 0 20 .scan).2

theorem find_takes_first_path_regrouped :
    ∃ job after found, Job.seek "x:1" = .ok job ∧ (regrouped.come job).2.enter? = some after ∧
      after.result? regrouped.tickets = some (.found (some found)) ∧
      regrouped.roster.Matches ⟨⟨"x", 1⟩, none⟩ (.sample "b") ⟨⟨"x", 1⟩, "t"⟩ ∧
      regrouped.roster.groupOf? ⟨⟨"x", 1⟩, "s"⟩ = some "z" ∧
      regrouped.roster.groupOf? ⟨⟨"x", 1⟩, "t"⟩ = some "g" ∧
      ¬ regrouped.roster.Foremost ⟨⟨"x", 1⟩, none⟩ found := by
  let lookup : Lookup := ⟨⟨"x", 1⟩, none⟩
  have one : regrouped.roster.members.server? (.sample "a") = some ⟨⟨"x", 1⟩, "s"⟩ := by
    decide +kernel
  have two : regrouped.roster.members.server? (.sample "b") = some ⟨⟨"x", 1⟩, "t"⟩ := by
    decide +kernel
  have later : regrouped.roster.groupOf? ⟨⟨"x", 1⟩, "s"⟩ = some "z" := by decide +kernel
  have lesser : regrouped.roster.groupOf? ⟨⟨"x", 1⟩, "t"⟩ = some "g" := by decide +kernel
  have idle : regrouped.current = none := Option.isNone_iff_eq_none.mp (by decide +kernel)
  have alone : regrouped.waiting = [] := by decide +kernel
  have keys : regrouped.roster.members.keys = [.sample "a", .sample "b"] := by decide +kernel
  have parsed : Lookup.parse "x:1" = .ok lookup := by rfl
  have sought : Job.seek "x:1" = .ok (.find lookup) := by rw [Job.seek, parsed]; rfl
  have reachable : regrouped.Reachable (Namespace.coordinator ⟨"/t"⟩) 3 :=
    (Reachable.started _).performed 0 20 .scan
  have here : regrouped.roster.Matches lookup (.sample "a") ⟨⟨"x", 1⟩, "s"⟩ := ⟨one, rfl, nofun⟩
  have there : regrouped.roster.Matches lookup (.sample "b") ⟨⟨"x", 1⟩, "t"⟩ := ⟨two, rfl, nofun⟩
  have waits := regrouped.come_waits (by simp : Job.find lookup ≠ .read)
  have came := @Reachable.moved _ _ _ _ _ (.come (.find lookup)) reachable rfl
  rw [alone, List.nil_append] at waits
  rw [waits] at came
  obtain ⟨_, finds⟩ := find_takes_first_path came "x:1"
  obtain ⟨_, read, _, _, turn⟩ := finds _ sought
  cases parsed.symm.trans read
  obtain ⟨after, found, entered, _, returned, somebody, which⟩ := turn _ _ idle rfl
  obtain ⟨found, rfl⟩ := Option.isSome_iff_exists.mp (somebody.mpr ⟨_, _, here⟩)
  obtain ⟨⟨path, named, least⟩, foremost, _⟩ := which found rfl
  have own : found = ⟨⟨"x", 1⟩, "s"⟩ := by
    have held : path ∈ regrouped.roster.members.keys := by
      obtain ⟨member, stands, _⟩ := Roster.matches_iff.mp named
      rw [Std.ExtTreeMap.mem_keys, Std.ExtTreeMap.mem_iff_isSome_getElem?, stands]
      rfl
    rw [keys, List.mem_cons, List.mem_singleton] at held
    rcases held with rfl | rfl
    · exact Option.some.inj (named.stands.symm.trans one)
    · exact absurd (by decide) (least _ _ here)
  subst own
  refine ⟨_, after, _, sought, by rw [waits]; exact entered, returned, there, later, lesser, ?_⟩
  exact fun best => foremost.mp best "z" _ _ "g" later there lesser (by decide)

end Turns
end TabletRoster
