import TabletRoster.Proofs.Passes

/-!
What a delta says of an instance, from what the instance went through in the course of a pass: it
comes to a path when it takes the place of another instance or of none, and goes from a path when
another instance or none takes its place.
-/
namespace TabletRoster

inductive Swing where
  | came
  | went
  deriving DecidableEq, Repr

def Swing.of? (i : Instance) (former latter : Option Instance) : Option Swing :=
  if former = latter then none
  else if former = some i then some .went
  else if latter = some i then some .came
  else none

def Swing.Undone (history : List Swing) : Prop :=
  history = [] ∨ ∃ earlier, history = earlier ++ [.came, .went]

/-- What happened to an instance, visit by visit. -/
def Members.history (before after : Members) (i : Instance) (visits : List ServerPath) :
    List Swing :=
  visits.filterMap fun path =>
    Swing.of? i (before.server? path) (after.server? path)

namespace Delta

variable {delta : Delta} {i j : Instance} {history : List Swing}

/-- A delta says of an instance what its history comes to: it was added if it came last, and
removed if it went last and had not come just before. -/
structure Tells (delta : Delta) (i : Instance) (history : List Swing) : Prop where
  added : i ∈ delta.added ↔ history.getLast? = some .came
  removed : i ∈ delta.removed ↔
    ∃ earlier, history = earlier ++ [.went] ∧ earlier.getLast? ≠ some .came

theorem tells_empty (i : Instance) : empty.Tells i [] := by
  constructor <;> simp [empty]

theorem tells_came (delta : Delta) (i : Instance) (history : List Swing) :
    (delta.recordAdded i).Tells i (history ++ [.came]) := by
  constructor <;> simp [recordAdded]

theorem Tells.went (tells : delta.Tells i history) :
    (delta.recordRemoved i).Tells i (history ++ [.went]) := by
  obtain ⟨added, removed⟩ := tells
  unfold recordRemoved
  split
  · rename_i there
    have last := added.mp there
    refine ⟨by simp, ?_⟩
    have unremoved : i ∉ delta.removed := by
      intro gone
      obtain ⟨earlier, rfl, _⟩ := removed.mp gone
      simp at last
    simp [unremoved, last]
  · rename_i absent
    have absent : i ∉ delta.added := absent
    refine ⟨by simp [absent], ?_⟩
    simp [← added, absent]

theorem Tells.added_other (tells : delta.Tells i history) (other : j ≠ i) :
    (delta.recordAdded j).Tells i history := by
  obtain ⟨added, removed⟩ := tells
  constructor
  · simp [recordAdded, Std.ExtTreeSet.mem_insert, other, added]
  · simp [recordAdded, Std.ExtTreeSet.mem_erase, other, removed]

theorem Tells.removed_other (tells : delta.Tells i history) (other : j ≠ i) :
    (delta.recordRemoved j).Tells i history := by
  obtain ⟨added, removed⟩ := tells
  unfold recordRemoved
  split
  · exact ⟨by simp [Std.ExtTreeSet.mem_erase, other, added], removed⟩
  · exact ⟨added, by simp [Std.ExtTreeSet.mem_insert, other, removed]⟩

theorem Tells.turnover (tells : delta.Tells i history) (former latter : Option Instance) :
    (delta.turnover former latter).Tells i (history ++ (Swing.of? i former latter).toList) := by
  unfold Delta.turnover Swing.of?
  by_cases same : former = latter
  · simpa [same] using tells
  · simp only [same, if_false]
    cases former with
    | none =>
      cases latter with
      | none => exact absurd rfl same
      | some new =>
        by_cases here : new = i
        · subst here
          simpa using tells_came delta new history
        · simpa [here] using tells.added_other here
    | some old =>
      by_cases mine : old = i
      · subst mine
        cases latter with
        | none => simpa using tells.went
        | some new =>
          have other : new ≠ old := fun equal => same (by rw [equal])
          simpa using tells.went.added_other other
      · cases latter with
        | none => simpa [mine] using tells.removed_other mine
        | some new =>
          by_cases here : new = i
          · subst here
            simpa [mine] using tells_came (delta.recordRemoved old) new history
          · simpa [mine, here] using (tells.removed_other mine).added_other here

theorem Tells.turnovers (tells : delta.Tells i history) (before after : Members)
    (visits : List ServerPath) :
    (Delta.turnovers before after visits delta).Tells i
      (history ++ Members.history before after i visits) := by
  induction visits generalizing delta history with
  | nil => simpa [Delta.turnovers, Members.history] using tells
  | cons path rest ih =>
    have next := ih (tells.turnover (before.server? path) (after.server? path))
    rw [List.append_assoc] at next
    have split : Members.history before after i (path :: rest) =
        (Swing.of? i (before.server? path) (after.server? path)).toList ++
          Members.history before after i rest := by
      simp only [Members.history, List.filterMap_cons]
      split <;> simp [*]
    rw [split]
    exact next

theorem Tells.leaving (tells : delta.Tells i history) (never : .came ∉ history)
    (went : .went ∈ history) : i ∉ delta.added ∧ i ∈ delta.removed := by
  refine ⟨fun there => never (List.mem_of_getLast? (tells.added.mp there)), ?_⟩
  rcases List.eq_nil_or_concat history with rfl | ⟨earlier, last, whole⟩
  · cases went
  · rw [List.concat_eq_append] at whole
    subst whole
    rw [List.mem_append] at never
    cases last with
    | came => simp at never
    | went =>
      exact tells.removed.mpr ⟨earlier, rfl, fun came => never (.inl (List.mem_of_getLast? came))⟩

theorem Tells.joining (tells : delta.Tells i history) (never : .went ∉ history)
    (came : .came ∈ history) : i ∈ delta.added ∧ i ∉ delta.removed := by
  constructor
  · rcases List.eq_nil_or_concat history with rfl | ⟨earlier, last, whole⟩
    · cases came
    · rw [List.concat_eq_append] at whole
      subst whole
      cases last with
      | came => exact tells.added.mpr (by simp)
      | went => simp at never
  · rw [tells.removed]
    intro undone
    obtain ⟨earlier, rfl, _⟩ := undone
    simp at never

theorem Tells.silent_iff (tells : delta.Tells i history) :
    (i ∉ delta.added ∧ i ∉ delta.removed) ↔ Swing.Undone history := by
  rw [tells.added, tells.removed]
  constructor
  · intro absent
    obtain ⟨uncame, unwent⟩ := absent
    rcases List.eq_nil_or_concat history with rfl | ⟨earlier, last, whole⟩
    · exact .inl rfl
    · rw [List.concat_eq_append] at whole
      subst whole
      cases last with
      | came => simp at uncame
      | went =>
        have before : earlier.getLast? = some .came :=
          Decidable.byContradiction fun other => unwent ⟨earlier, rfl, other⟩
        obtain ⟨first, rfl⟩ := List.getLast?_eq_some_iff.mp before
        exact .inr ⟨first, by simp⟩
  · intro trace
    rcases trace with rfl | ⟨earlier, rfl⟩
    · simp
    · refine ⟨by simp, ?_⟩
      intro later
      obtain ⟨first, same, other⟩ := later
      have same : earlier ++ [.came] = first := by
        have halves : (earlier ++ [.came]) ++ [.went] = first ++ [.went] := by simpa using same
        exact (List.append_inj_left' halves rfl)
      simp [← same] at other

theorem mem_apply {members : InstanceSet} :
    i ∈ delta.apply members ↔ (i ∈ members ∧ i ∉ delta.removed) ∨ i ∈ delta.added := by
  simp [apply, Std.ExtTreeSet.mem_union_iff, Bool.eq_false_iff]

end Delta

namespace Members

theorem values_eq (members : Members) : members.values = members.toList.map (·.2) := by
  obtain ⟨inner⟩ := members
  induction inner using Std.ExtDTreeMap.inductionOn with
  | mk tree =>
    show tree.inner.values = (Std.DTreeMap.Internal.Impl.Const.toList tree.inner).map (·.2)
    rw [Std.DTreeMap.Internal.Impl.values_eq_map_snd,
      Std.DTreeMap.Internal.Impl.Const.toList_eq_toListModel_map]
    simp

def instances (members : Members) : InstanceSet :=
  .ofList (members.values.map (·.server)) compare

def Distinct (members : Members) : Prop :=
  ∀ (a b : ServerPath) (i : Instance), members.server? a = some i → members.server? b = some i →
    a = b

variable {before after : Members} {i : Instance} {visits : List ServerPath}

theorem mem_values {members : Members} {member : Member} :
    member ∈ members.values ↔ ∃ path : ServerPath, members[path]? = some member := by
  rw [values_eq, List.mem_map]
  constructor
  · intro listed
    obtain ⟨⟨path, _⟩, entry, rfl⟩ := listed
    exact ⟨path, Std.ExtTreeMap.mem_toList_iff_getElem?_eq_some.mp entry⟩
  · intro held
    obtain ⟨path, found⟩ := held
    exact ⟨(path, member), Std.ExtTreeMap.mem_toList_iff_getElem?_eq_some.mpr found, rfl⟩

theorem find_first {members : Members} {wanted : ServerPath × Member → Bool} {path : ServerPath}
    {member : Member} (found : members.toList.find? wanted = some (path, member)) :
    members[path]? = some member ∧ wanted (path, member) = true ∧
      ∀ (other : ServerPath) (rival : Member), members[other]? = some rival →
        wanted (other, rival) = true → compare path other ≠ .gt := by
  refine ⟨Std.ExtTreeMap.mem_toList_iff_getElem?_eq_some.mp (List.mem_of_find?_eq_some found),
    List.find?_some found, fun other rival there also => ?_⟩
  have listed := Std.ExtTreeMap.mem_toList_iff_getElem?_eq_some.mpr there
  obtain ⟨_, before, after, split, unwanted⟩ := List.find?_eq_some_iff_append.mp found
  have sorted := split ▸ members.ordered_keys_toList
  rw [split] at listed
  rcases List.mem_append.mp listed with earlier | later
  · exact absurd also (by simpa using unwanted _ earlier)
  · rcases List.mem_cons.mp later with own | behind
    · cases own
      simp
    · have less := (List.pairwise_cons.mp (List.pairwise_append.mp sorted).2.1).1 _ behind
      simp only at less
      simp [less]

theorem mem_instances {members : Members} :
    i ∈ members.instances ↔ ∃ path, members.server? path = some i := by
  unfold instances server?
  rw [Std.ExtTreeSet.mem_ofList, List.contains_iff_mem, List.mem_map]
  constructor
  · intro listed
    obtain ⟨member, there, rfl⟩ := listed
    obtain ⟨path, found⟩ := mem_values.mp there
    exact ⟨path, by rw [found]; rfl⟩
  · intro held
    obtain ⟨path, found⟩ := held
    obtain ⟨member, there, same⟩ := Option.map_eq_some_iff.mp found
    exact ⟨member, mem_values.mpr ⟨path, there⟩, same⟩

theorem distinct_empty : Distinct ∅ := by
  simp [Distinct, server?]

theorem distinct_iff_nodup {members : Members} :
    members.Distinct ↔ (members.values.map (·.server)).Nodup := by
  have entries : members.toList.Pairwise fun a b => a.1 ≠ b.1 :=
    members.distinct_keys_toList.imp fun apart same => apart (by rw [same]; exact Std.ReflCmp.compare_self)
  have found {entry : ServerPath × Member} (member : entry ∈ members.toList) :
      members.server? entry.1 = some entry.2.server := by
    rw [server?, Std.ExtTreeMap.mem_toList_iff_getElem?_eq_some.mp member]
    rfl
  rw [values_eq, List.map_map, List.Nodup, List.pairwise_map]
  constructor
  · intro distinct
    apply entries.imp_of_mem
    intro one other first second apart same
    apply apart
    exact distinct _ _ _ (found first) (by rw [found second]; exact congrArg some same.symm)
  · intro nodup a b i at_a at_b
    obtain ⟨one, there, rfl⟩ := Option.map_eq_some_iff.mp at_a
    obtain ⟨other, here, same⟩ := Option.map_eq_some_iff.mp at_b
    have first := Std.ExtTreeMap.mem_toList_iff_getElem?_eq_some.mpr there
    have second := Std.ExtTreeMap.mem_toList_iff_getElem?_eq_some.mpr here
    have alike : ∀ ⦃x⦄, x ∈ members.toList → ∀ ⦃y⦄, y ∈ members.toList →
        x.2.server = y.2.server → x.1 = y.1 :=
      List.Pairwise.forall_of_forall_of_flip (fun _ _ _ => rfl)
        (nodup.imp fun apart same => absurd same apart)
        (nodup.imp fun apart same => absurd same.symm apart)
    exact alike first second same.symm

instance (members : Members) : Decidable members.Distinct :=
  decidable_of_iff _ distinct_iff_nodup.symm

theorem instances_erase {members : Members} (distinct : members.Distinct) {path : ServerPath}
    (found : members.server? path = some i) :
    instances (members.erase path) = members.instances.erase i := by
  have other {place : ServerPath} (different : place ≠ path) :
      server? (members.erase path) place = members.server? place := by
    simp [server?, Std.ExtTreeMap.getElem?_erase, Ne.symm different]
  have here : server? (members.erase path) path = none := by simp [server?]
  apply Std.ExtTreeSet.ext_mem
  intro j
  rw [Std.ExtTreeSet.mem_erase, mem_instances, mem_instances]
  constructor
  · intro held
    obtain ⟨place, there⟩ := held
    have different : place ≠ path := by
      intro same
      rw [same, here] at there
      cases there
    rw [other different] at there
    refine ⟨?_, place, there⟩
    intro same
    rw [Std.compare_eq_iff_eq] at same
    subst same
    exact different (distinct place path _ there found)
  · intro held
    obtain ⟨apart, place, there⟩ := held
    refine ⟨place, ?_⟩
    rw [other]
    · exact there
    · intro same
      rw [same, found] at there
      cases there
      exact apart Std.ReflCmp.compare_self

theorem Distinct.erase {members : Members} (distinct : members.Distinct) (path : ServerPath) :
    Distinct (members.erase path) := by
  have sub {place : ServerPath} {i : Instance}
      (there : server? (members.erase path) place = some i) : members.server? place = some i := by
    by_cases same : place = path
    · subst same
      simp [server?] at there
    · simpa [server?, Std.ExtTreeMap.getElem?_erase, Ne.symm same] using there
  exact fun a b i at_a at_b => distinct a b i (sub at_a) (sub at_b)

theorem swing_went {former latter : Option Instance} :
    Swing.of? i former latter = some .went ↔ former = some i ∧ latter ≠ some i := by
  unfold Swing.of?
  grind

theorem swing_came {former latter : Option Instance} :
    Swing.of? i former latter = some .came ↔ latter = some i ∧ former ≠ some i := by
  unfold Swing.of?
  grind

theorem went_mem_history : .went ∈ history before after i visits ↔
    ∃ path ∈ visits, before.server? path = some i ∧ after.server? path ≠ some i := by
  simp [history, List.mem_filterMap, swing_went]

theorem came_mem_history : .came ∈ history before after i visits ↔
    ∃ path ∈ visits, after.server? path = some i ∧ before.server? path ≠ some i := by
  simp [history, List.mem_filterMap, swing_came]

theorem history_went_once (once : visits.Nodup) (distinct : before.Distinct) (after : Members)
    (i : Instance) : (history before after i visits).Pairwise fun a b => a = .went → b ≠ .went := by
  refine List.pairwise_filterMap.mpr (List.Pairwise.imp ?_ once)
  intro path other apart swing happened next followed went
  subst went
  intro same
  subst same
  exact apart (distinct path other i (swing_went.mp happened).1 (swing_went.mp followed).1)

section Pass

variable (others : ∀ path, path ∉ visits → after[path]? = before[path]?)

include others

theorem visited_of_swing {path : ServerPath}
    (differs : after.server? path ≠ before.server? path) : path ∈ visits :=
  Decidable.byContradiction fun unvisited => differs (server_congr (others path unvisited))

theorem history_of_leaving (member : i ∈ before.instances) (gone : i ∉ after.instances) :
    .came ∉ history before after i visits ∧ .went ∈ history before after i visits := by
  rw [mem_instances] at member gone
  have absent : ∀ path, after.server? path ≠ some i := fun path found => gone ⟨path, found⟩
  constructor
  · rw [came_mem_history]
    intro changed
    obtain ⟨path, _, found, _⟩ := changed
    exact absent path found
  · obtain ⟨path, found⟩ := member
    rw [went_mem_history]
    refine ⟨path, visited_of_swing others ?_, found, absent path⟩
    rw [found]
    exact absent path

theorem history_of_joining (new : i ∉ before.instances) (member : i ∈ after.instances) :
    .went ∉ history before after i visits ∧ .came ∈ history before after i visits := by
  rw [mem_instances] at member new
  have absent : ∀ path, before.server? path ≠ some i := fun path found => new ⟨path, found⟩
  constructor
  · rw [went_mem_history]
    intro changed
    obtain ⟨path, _, found, _⟩ := changed
    exact absent path found
  · obtain ⟨path, found⟩ := member
    rw [came_mem_history]
    refine ⟨path, visited_of_swing others ?_, found, absent path⟩
    rw [found]
    exact (absent path).symm

theorem history_of_moving (distinct : before.Distinct) (still : i ∈ after.instances)
    (went : .went ∈ history before after i visits) : .came ∈ history before after i visits := by
  obtain ⟨old, _, left, lost⟩ := went_mem_history.mp went
  obtain ⟨new, found⟩ := mem_instances.mp still
  have fresh : before.server? new ≠ some i := by
    intro held
    rw [distinct old new i left held] at lost
    exact lost found
  refine came_mem_history.mpr ⟨new, visited_of_swing others ?_, found, fresh⟩
  rw [found]
  exact fresh.symm

omit others in
theorem history_of_stranger (never : i ∉ before.instances) (still : i ∉ after.instances) :
    history before after i visits = [] := by
  apply List.eq_nil_iff_forall_not_mem.mpr
  intro swing member
  cases swing with
  | came =>
    obtain ⟨path, _, found, _⟩ := came_mem_history.mp member
    exact still (mem_instances.mpr ⟨path, found⟩)
  | went =>
    obtain ⟨path, _, found, _⟩ := went_mem_history.mp member
    exact never (mem_instances.mpr ⟨path, found⟩)

/-- A delta is the net change exactly if no instance that stays has left a trace in it. -/
theorem net_iff : (∀ i,
      (i ∈ (Delta.turnovers before after visits .empty).added ↔
        i ∈ after.instances ∧ i ∉ before.instances) ∧
      (i ∈ (Delta.turnovers before after visits .empty).removed ↔
        i ∈ before.instances ∧ i ∉ after.instances)) ↔
    ∀ i, i ∈ before.instances → i ∈ after.instances →
      Swing.Undone (history before after i visits) := by
  have tells (i : Instance) : (Delta.turnovers before after visits .empty).Tells i
      (history before after i visits) := (Delta.tells_empty i).turnovers before after visits
  constructor
  · intro net i member still
    obtain ⟨added, removed⟩ := net i
    refine (tells i).silent_iff.mp ⟨?_, ?_⟩
    · rw [added]
      exact fun new => new.2 member
    · rw [removed]
      exact fun gone => gone.2 still
  · intro undone i
    by_cases member : i ∈ before.instances
    · by_cases still : i ∈ after.instances
      · obtain ⟨unadded, unremoved⟩ := (tells i).silent_iff.mpr (undone i member still)
        simp [member, still, unadded, unremoved]
      · obtain ⟨never, went⟩ := history_of_leaving others member still
        obtain ⟨unadded, removed⟩ := (tells i).leaving never went
        simp [member, still, unadded, removed]
    · by_cases new : i ∈ after.instances
      · obtain ⟨never, came⟩ := history_of_joining others member new
        obtain ⟨added, unremoved⟩ := (tells i).joining never came
        simp [member, new, added, unremoved]
      · obtain ⟨unadded, unremoved⟩ := (tells i).silent_iff.mpr (.inl (history_of_stranger member new))
        simp [member, new, unadded, unremoved]

/-- From members without doubles a delta leads to the instances after the pass. -/
theorem apply_turnovers (once : visits.Nodup) (distinct : before.Distinct) :
    (Delta.turnovers before after visits .empty).apply before.instances = after.instances := by
  apply Std.ExtTreeSet.ext_mem
  intro i
  have tells : (Delta.turnovers before after visits .empty).Tells i
      (history before after i visits) := (Delta.tells_empty i).turnovers before after visits
  rw [Delta.mem_apply]
  constructor
  · intro told
    rcases told with ⟨member, unremoved⟩ | added
    · apply Decidable.byContradiction
      intro gone
      obtain ⟨never, went⟩ := history_of_leaving others member gone
      exact unremoved (tells.leaving never went).2
    · have came := List.mem_of_getLast? (tells.added.mp added)
      obtain ⟨path, _, found, _⟩ := came_mem_history.mp came
      exact mem_instances.mpr ⟨path, found⟩
  · intro still
    by_cases member : i ∈ before.instances
    · refine .inl ⟨member, fun removed => ?_⟩
      obtain ⟨earlier, whole, last⟩ := tells.removed.mp removed
      -- of a single going nothing can be before it but a coming
      have single : ∀ swing ∈ earlier, swing ≠ .went := by
        have pairs := history_went_once once distinct after i
        rw [whole] at pairs
        intro swing there same
        exact (List.pairwise_append.mp pairs).2.2 swing there .went (by simp) same rfl
      have alone : earlier = [] := by
        rcases List.eq_nil_or_concat earlier with rfl | ⟨first, swing, rfl⟩
        · rfl
        · cases swing with
          | came => simp at last
          | went => exact absurd rfl (single .went (by simp))
      have came := history_of_moving others distinct still (whole ▸ by simp)
      simp [whole, alone] at came
    · obtain ⟨never, came⟩ := history_of_joining others member still
      exact .inr (tells.joining never came).1

end Pass

end Members
end TabletRoster
