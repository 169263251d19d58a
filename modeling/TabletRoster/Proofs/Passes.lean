import TabletRoster.Roster.Pass

/-!
What a pass does to the roster. It visits paths one after another, no path twice, and a visit
leaves all other paths alone. So the delta of a pass is made of one turnover for each visit.
-/
namespace TabletRoster

def Member.face (member : Member) : Instance × String :=
  (member.server, member.group)

/-- Some path has got another instance or another group. -/
def Members.Differ (before after : Members) : Prop :=
  ∃ path : ServerPath, (before[path]?).map Member.face ≠ (after[path]?).map Member.face

def Members.server? (members : Members) (path : ServerPath) : Option Instance :=
  (members[path]?).map (·.server)

theorem Members.server_congr {a b : Members} {path : ServerPath} (same : a[path]? = b[path]?) :
    a.server? path = b.server? path := by
  unfold server?
  rw [same]

def Delta.turnover (delta : Delta) (former latter : Option Instance) : Delta :=
  if former = latter then delta
  else
    let rid := match former with
      | some i => delta.recordRemoved i
      | none => delta
    match latter with
    | some i => rid.recordAdded i
    | none => rid

theorem Delta.turnover_same (delta : Delta) (i : Option Instance) : delta.turnover i i = delta := by
  simp [turnover]

/-- The delta of visits to paths that had other members before than after. -/
def Delta.turnovers (before after : Members) (visits : List ServerPath) (delta : Delta) : Delta :=
  visits.foldl (fun delta path =>
    delta.turnover (before.server? path) (after.server? path)) delta

theorem Delta.turnovers_congr {before a b : Members} {visits : List ServerPath}
    (same : ∀ path ∈ visits, a[path]? = b[path]?) (delta : Delta) :
    turnovers before a visits delta = turnovers before b visits delta := by
  induction visits generalizing delta with
  | nil => rfl
  | cons path rest ih =>
    simp only [turnovers, List.foldl_cons]
    rw [Members.server_congr (same path List.mem_cons_self)]
    exact ih (fun other member => same other (List.mem_cons_of_mem _ member)) _

theorem Delta.turnovers_still {before after : Members} {visits : List ServerPath}
    (same : ∀ path ∈ visits, after[path]? = before[path]?) (delta : Delta) :
    turnovers before after visits delta = delta := by
  induction visits generalizing delta with
  | nil => rfl
  | cons path rest ih =>
    simp only [turnovers, List.foldl_cons]
    rw [Members.server_congr (same path List.mem_cons_self), turnover_same]
    exact ih (fun other member => same other (List.mem_cons_of_mem _ member)) _

namespace Roster

theorem snapshot_members (roster : Roster) : roster.snapshot.2.members = roster.members := by
  unfold snapshot
  split <;> rfl

theorem member_of_pathOf {roster : Roster} {i : Instance} {path : ServerPath}
    (found : roster.pathOf? i = some path) :
    ∃ member, roster.members[path]? = some member ∧ member.server = i := by
  obtain ⟨⟨place, member⟩, first, rfl⟩ := Option.map_eq_some_iff.mp found
  have there := List.mem_of_find?_eq_some first
  have same := List.find?_some first
  exact ⟨member, Std.ExtTreeMap.mem_toList_iff_getElem?_eq_some.mp there, by simpa using same⟩

end Roster

namespace Work

structure Same (work after : Work) : Prop where
  members : after.roster.members = work.roster.members
  cache : after.roster.cache = work.roster.cache
  built : after.roster.built = work.roster.built
  delta : after.delta = work.delta

theorem Same.refl (work : Work) : Same work work := ⟨rfl, rfl, rfl, rfl⟩

theorem Same.trans {a b c : Work} (first : Same a b) (second : Same b c) : Same a c :=
  ⟨second.members.trans first.members, second.cache.trans first.cache,
    second.built.trans first.built, second.delta.trans first.delta⟩

structure Moved (path : ServerPath) (work after : Work) : Prop where
  face : (work.roster.members[path]?).map Member.face ≠ (after.roster.members[path]?).map Member.face
  others : ∀ other, other ≠ path → after.roster.members[other]? = work.roster.members[other]?
  cache : after.roster.cache = none
  built : after.roster.built = work.roster.built
  delta : after.delta = work.delta.turnover
    (work.roster.members.server? path) (after.roster.members.server? path)

def Visit (path : ServerPath) (work after : Work) : Prop :=
  Same work after ∨ Moved path work after

theorem Visit.same {path : ServerPath} {a b c : Work} (visit : Visit path a b) (same : Same b c) :
    Visit path a c := by
  rcases visit with still | moved
  · exact .inl (still.trans same)
  · refine .inr ⟨?_, ?_, same.cache.trans moved.cache, same.built.trans moved.built, ?_⟩
    · rw [same.members]
      exact moved.face
    · intro other different
      rw [same.members]
      exact moved.others other different
    · rw [same.delta, same.members]
      exact moved.delta

theorem Moved.since {path : ServerPath} {a b c : Work} (same : Same a b) (moved : Moved path b c) :
    Moved path a c := by
  obtain ⟨face, others, cache, built, delta⟩ := moved
  rw [same.members] at face others delta
  rw [same.delta] at delta
  exact ⟨face, others, cache, built.trans same.built, delta⟩

theorem forget_same (work : Work) (path : ServerPath) : Same work (work.forget path) :=
  ⟨rfl, rfl, rfl, rfl⟩

theorem lose_visit (work : Work) (path : ServerPath) : Visit path work (work.lose path) := by
  unfold lose
  split
  · exact .inl (.refl work)
  · rename_i member found
    refine .inr ⟨?_, ?_, rfl, rfl, ?_⟩
    · simp [Roster.drop, found]
    · intro other different
      simp only [Roster.drop]
      rw [Std.ExtTreeMap.getElem?_erase]
      simp [Ne.symm different]
    · simp [Roster.drop, Members.server?, found, Delta.turnover]

theorem join_moved {work after : Work} {path : ServerPath} {member : Member}
    (roster : after.roster = (work.join path member).roster)
    (face : (work.roster.members[path]?).map Member.face ≠ some member.face)
    (delta : after.delta = work.delta.turnover
      (work.roster.members.server? path) (some member.server)) :
    Moved path work after := by
  have stands : after.roster.members[path]? = some member := by
    rw [roster]
    exact Std.ExtTreeMap.getElem?_insert_self
  constructor
  · rw [stands]
    exact face
  · intro other different
    rw [roster]
    simp only [join]
    rw [Std.ExtTreeMap.getElem?_insert]
    simp [Ne.symm different]
  · rw [roster]
    rfl
  · rw [roster]
    rfl
  · have there : after.roster.members.server? path = some member.server := by
      simp [Members.server?, stands]
    rw [there]
    exact delta

theorem hold_visit (work : Work) (path : ServerPath) (holder : Holder) :
    Visit path work (work.hold path holder) := by
  have forgotten := work.forget_same path
  simp only [hold]
  split
  · rename_i absent
    refine .inr (.since forgotten (join_moved rfl ?_ ?_))
    · simp [absent]
    · simp [Members.server?, absent, Delta.turnover, join]
  · rename_i former found
    split
    · rename_i same
      split
      · exact .inl forgotten
      · rename_i regrouped
        refine .inr (.since forgotten (join_moved rfl ?_ ?_))
        · simp [found, Member.face, regrouped]
        · simp [Members.server?, found, Delta.turnover, join]
    · rename_i replaced
      refine .inr (.since forgotten (join_moved rfl ?_ ?_))
      · simp [found, Member.face, replaced]
      · simp [Members.server?, found, Delta.turnover, join, replaced]

inductive Course (work : Work) : List ServerPath → Work → Prop where
  | rest {after : Work} (same : Same work after) : Course work [] after
  | visit {visited : List ServerPath} {path : ServerPath} {middle after : Work}
      (course : Course work visited middle) (visit : Visit path middle after) :
      Course work (visited ++ [path]) after

variable {work after : Work} {visited : List ServerPath}

theorem Course.same {further : Work} (course : Course work visited after) (same : Same after further) :
    Course work visited further := by
  cases course with
  | rest still => exact .rest (still.trans same)
  | visit earlier visit => exact .visit earlier (visit.same same)

theorem Course.since {earlier : Work} (same : Same earlier work) (course : Course work visited after) :
    Course earlier visited after := by
  induction course with
  | rest still => exact .rest (same.trans still)
  | visit _ visit ih => exact .visit ih visit

theorem Course.others (course : Course work visited after) {path : ServerPath}
    (unvisited : path ∉ visited) : after.roster.members[path]? = work.roster.members[path]? := by
  induction course with
  | rest same => rw [same.members]
  | visit earlier visit ih =>
    rw [List.mem_append, List.mem_singleton, not_or] at unvisited
    rw [← ih unvisited.1]
    rcases visit with same | moved
    · rw [same.members]
    · exact moved.others path unvisited.2

theorem Course.built (course : Course work visited after) :
    after.roster.built = work.roster.built := by
  induction course with
  | rest same => exact same.built
  | visit earlier visit ih =>
    rcases visit with same | moved
    · exact same.built.trans ih
    · exact moved.built.trans ih

theorem Course.delta (course : Course work visited after) (once : visited.Nodup) :
    after.delta = Delta.turnovers work.roster.members after.roster.members visited work.delta := by
  induction course with
  | rest same => exact same.delta
  | @visit visited path middle after earlier visit ih =>
    obtain ⟨before, _, apart⟩ := List.nodup_append.mp once
    have unvisited : path ∉ visited := fun member => apart path member path (by simp) rfl
    have former := earlier.others unvisited
    have ih := ih before
    rw [Delta.turnovers, List.foldl_append, List.foldl_cons, List.foldl_nil,
      ← Members.server_congr former]
    rcases visit with same | moved
    · rw [same.members, Delta.turnover_same, same.delta, ih]
      rfl
    · have unmoved : ∀ other ∈ visited,
          after.roster.members[other]? = middle.roster.members[other]? := by
        intro other member
        exact moved.others other fun equal => unvisited (equal ▸ member)
      rw [moved.delta, ih, ← Delta.turnovers_congr unmoved]
      rfl

/-- The shared snapshot stays exactly as long as every path keeps its instance and group. -/
theorem Course.cache (course : Course work visited after) (once : visited.Nodup) :
    (after.roster.members = work.roster.members ∧ after.roster.cache = work.roster.cache) ∨
      (Members.Differ work.roster.members after.roster.members ∧ after.roster.cache = none) := by
  induction course with
  | rest same => exact .inl ⟨same.members, same.cache⟩
  | @visit visited path middle after earlier visit ih =>
    obtain ⟨before, _, apart⟩ := List.nodup_append.mp once
    have unvisited : path ∉ visited := fun member => apart path member path (by simp) rfl
    rcases visit with same | moved
    · rw [same.members, same.cache]
      exact ih before
    · refine .inr ⟨⟨path, ?_⟩, moved.cache⟩
      rw [← earlier.others unvisited]
      exact moved.face

def vanished (members : Members) (listed : PathSet) : List ServerPath :=
  members.keys.filter fun path => !listed.contains path

theorem lose_course {paths : List ServerPath} (course : Course work visited after) :
    Course work (visited ++ paths) (paths.foldl lose after) := by
  induction paths generalizing visited after with
  | nil => simpa using course
  | cons path rest ih =>
    have next := ih (.visit course (lose_visit after path))
    simpa using next

theorem keepListed_course (work : Work) (listed : PathSet) :
    Course work (vanished work.roster.members listed) (work.keepListed listed) := by
  have start : Course work []
      ⟨{ work.roster with stale := work.roster.stale.retain listed }, work.delta⟩ :=
    .rest ⟨rfl, rfl, rfl, rfl⟩
  exact lose_course start

end Work
end TabletRoster
