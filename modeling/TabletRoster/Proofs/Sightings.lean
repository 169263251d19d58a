import Mathlib.Data.List.Induction
import TabletRoster.Proofs.Visits

namespace TabletRoster.StalePaths

inductive Deed where
  | observe (path : ServerPath) (now : Nat)
  | clear (path : ServerPath)
  | forget (path : ServerPath)
  | retain (present : PathSet)

inductive Told where
  | sight (sight : Sight)
  | tracked (tracked : Bool)
  | nothing
  deriving DecidableEq, Repr

namespace Deed

def apply (stale : StalePaths) : Deed → Told × StalePaths
  | .observe path now => ((stale.observe path now).map .sight id)
  | .clear path => ((stale.clear path).map .tracked id)
  | .forget path => (.nothing, stale.forget path)
  | .retain present => (.nothing, stale.retain present)

def drops (path : ServerPath) : Deed → Bool
  | .observe _ _ => false
  | .clear other | .forget other => other = path
  | .retain present => !present.contains path

def concerns (path : ServerPath) : Deed → Bool
  | .observe other _ | .clear other | .forget other => other = path
  | .retain _ => true

end Deed

def after (grace : Nat) (deeds : List Deed) : StalePaths :=
  deeds.foldl (fun stale deed => (deed.apply stale).2) (.empty grace)

def Unseen (deeds : List Deed) (path : ServerPath) : Prop :=
  ∀ before now later, deeds = before ++ .observe path now :: later →
    ∃ deed ∈ later, deed.drops path = true

/-- The first look at the path since it was dropped last. -/
def SeenSince (deeds : List Deed) (path : ServerPath) (since : Nat) : Prop :=
  ∃ before later, deeds = before ++ .observe path since :: later ∧ Unseen before path ∧
    ∀ deed ∈ later, deed.drops path = false

variable {grace since : Nat} {deeds : List Deed} {deed : Deed} {path : ServerPath}

theorem split_append {before later : List Deed} {other : Deed} :
    deeds ++ [deed] = before ++ other :: later ↔
      (deeds = before ∧ deed = other ∧ later = []) ∨
        ∃ between, deeds = before ++ other :: between ∧ later = between ++ [deed] := by
  constructor
  · intro whole
    obtain rfl | ⟨between, last, rfl⟩ := List.eq_nil_or_concat later
    · have same := List.append_inj' whole rfl
      exact .inl ⟨same.1, (List.cons.inj same.2).1, rfl⟩
    · rw [List.concat_eq_append, ← List.cons_append, ← List.append_assoc] at whole
      have same := List.append_inj' whole rfl
      exact .inr ⟨between, same.1, by rw [List.concat_eq_append, (List.cons.inj same.2).1]⟩
  · rintro (⟨rfl, rfl, rfl⟩ | ⟨between, rfl, rfl⟩)
    · rfl
    · simp

theorem unseen_nil (path : ServerPath) : Unseen [] path := by
  intro before now later whole
  simp at whole

theorem unseen_append : Unseen (deeds ++ [deed]) path ↔
    deed.drops path = true ∨ Unseen deeds path ∧ ∀ now, deed ≠ .observe path now := by
  constructor
  · intro unseen
    refine or_iff_not_imp_left.mpr fun keeps => ⟨?_, ?_⟩
    · rintro before now later whole
      obtain ⟨other, member, drops⟩ :=
        unseen before now (later ++ [deed]) (split_append.mpr (.inr ⟨later, whole, rfl⟩))
      obtain earlier | last := List.mem_append.mp member
      · exact ⟨other, earlier, drops⟩
      · exact absurd (List.mem_singleton.mp last ▸ drops) keeps
    · rintro now look
      obtain ⟨_, none, _⟩ := unseen deeds now [] (by rw [look])
      cases none
  · rintro unseen before now later whole
    obtain ⟨_, look, _⟩ | ⟨between, earlier, rfl⟩ := split_append.mp whole
    · rw [look] at unseen
      obtain drops | ⟨_, other⟩ := unseen
      · cases drops
      · exact absurd rfl (other now)
    · obtain drops | ⟨unseen, _⟩ := unseen
      · exact ⟨deed, by simp, drops⟩
      · obtain ⟨other, member, drops⟩ := unseen before now between earlier
        exact ⟨other, List.mem_append_left _ member, drops⟩

theorem seenSince_append : SeenSince (deeds ++ [deed]) path since ↔
    SeenSince deeds path since ∧ deed.drops path = false ∨
      Unseen deeds path ∧ deed = .observe path since := by
  constructor
  · rintro ⟨before, later, whole, unseen, kept⟩
    obtain ⟨rfl, look, _⟩ | ⟨between, earlier, rfl⟩ := split_append.mp whole
    · exact .inr ⟨unseen, look⟩
    · refine .inl ⟨⟨before, between, earlier, unseen, ?_⟩, kept deed (by simp)⟩
      intro other member
      exact kept other (List.mem_append_left _ member)
  · rintro (⟨⟨before, later, rfl, unseen, kept⟩, keeps⟩ | ⟨unseen, rfl⟩)
    · refine ⟨before, later ++ [deed], by simp, unseen, ?_⟩
      intro other member
      obtain earlier | last := List.mem_append.mp member
      · exact kept other earlier
      · exact List.mem_singleton.mp last ▸ keeps
    · exact ⟨deeds, [], rfl, unseen, nofun⟩

theorem getElem_apply (stale : StalePaths) (deed : Deed) (path : ServerPath) :
    (deed.apply stale).2.firstSeen[path]? =
      if deed.drops path then none
      else match deed with
        | .observe other now =>
          if path = other then some ((stale.firstSeen[path]?).getD now)
          else stale.firstSeen[path]?
        | _ => stale.firstSeen[path]? := by
  cases deed with
  | observe other now =>
    have observed := stale.getElem_observe other now path
    by_cases same : path = other
    · subst same
      simpa [Deed.apply, Deed.drops] using observed
    · simpa [Deed.apply, Deed.drops, same] using observed
  | clear other =>
    simpa [Deed.apply, Deed.drops, clear, eq_comm] using stale.getElem_forget other path
  | forget other =>
    simpa [Deed.apply, Deed.drops, eq_comm] using stale.getElem_forget other path
  | retain present =>
    have retained := stale.getElem_retain present path
    cases there : present.contains path with
    | true =>
      rw [if_pos (Std.ExtTreeSet.mem_iff_contains.mpr there)] at retained
      simpa [Deed.apply, Deed.drops, there] using retained
    | false =>
      rw [if_neg (by simp [Std.ExtTreeSet.mem_iff_contains, there])] at retained
      simpa [Deed.apply, Deed.drops, there] using retained

theorem grace_apply (stale : StalePaths) (deed : Deed) :
    (deed.apply stale).2.grace = stale.grace := by
  cases deed with
  | observe path now => exact grace_observe stale path now
  | _ => rfl

theorem after_append (grace : Nat) (deeds : List Deed) (deed : Deed) :
    after grace (deeds ++ [deed]) = (deed.apply (after grace deeds)).2 := by
  simp [after]

theorem grace_after (grace : Nat) (deeds : List Deed) : (after grace deeds).grace = grace := by
  induction deeds using List.reverseRecOn with
  | nil => rfl
  | append_singleton deeds deed ih => rw [after_append, grace_apply, ih]

/-- The clock of a path started at the first look since it was dropped last. -/
theorem firstSeen_after (grace : Nat) (deeds : List Deed) (path : ServerPath) :
    ((after grace deeds).firstSeen[path]? = none ↔ Unseen deeds path) ∧
      ∀ since, (after grace deeds).firstSeen[path]? = some since ↔ SeenSince deeds path since := by
  induction deeds using List.reverseRecOn with
  | nil =>
    have absent : (after grace []).firstSeen[path]? = none := by simp [after, empty]
    refine ⟨iff_of_true absent (unseen_nil path), fun since => ?_⟩
    rw [absent]
    refine iff_of_false nofun ?_
    rintro ⟨before, later, whole, _⟩
    simp at whole
  | append_singleton deeds deed ih =>
    obtain ⟨unseen, seen⟩ := ih
    rw [after_append, getElem_apply, unseen_append]
    simp only [seenSince_append]
    cases drops : deed.drops path with
    | true =>
      have look (since : Nat) : deed ≠ .observe path since := by
        rintro rfl
        cases drops
      simp [look]
    | false =>
      simp only [if_false, Bool.false_eq_true, false_or, and_true, ← unseen, ← seen]
      cases deed with
      | observe other now =>
        by_cases same : path = other
        · subst same
          cases (after grace deeds).firstSeen[path]? <;> simp
        · simp [same, eq_comm (a := other)]
      | _ => simp

theorem firstSeen_concerning (grace : Nat) (deeds : List Deed) (path : ServerPath) :
    (after grace (deeds.filter (·.concerns path))).firstSeen[path]? =
      (after grace deeds).firstSeen[path]? := by
  induction deeds using List.reverseRecOn with
  | nil => rfl
  | append_singleton deeds deed ih =>
    rw [List.filter_append]
    cases own : deed.concerns path with
    | true =>
      rw [List.filter_cons_of_pos (by simpa using own), List.filter_nil, after_append, after_append,
        getElem_apply, getElem_apply, ih]
    | false =>
      rw [List.filter_cons_of_neg (by simp [own]), List.filter_nil, List.append_nil, ih,
        after_append, getElem_apply]
      cases deed with
      | retain present => cases own
      | observe other now => simp_all [Deed.concerns, Deed.drops, eq_comm (a := path)]
      | _ => simp_all [Deed.concerns, Deed.drops]

theorem observe_first (stale : StalePaths) (path : ServerPath) (now : Nat) :
    (stale.observe path now).1 = .first ↔ stale.firstSeen[path]? = none := by
  unfold observe
  split
  · rename_i absent
    exact iff_of_true rfl absent
  · rename_i since found
    refine iff_of_false ?_ (by simp [found])
    unfold judge
    split <;> nofun

theorem observe_seen {stale : StalePaths} (found : stale.firstSeen[path]? = some since)
    (now : Nat) : (stale.observe path now).1 = stale.judge since now := by
  simp [observe, found]

theorem clear_tracked (stale : StalePaths) (path : ServerPath) :
    (stale.clear path).1 = true ↔ stale.firstSeen[path]? ≠ none := by
  simp [clear, contains]

/-- What a deed answers about a path hangs only on the clock of the path and the grace period. -/
theorem told_apply {stale other : StalePaths} (own : deed.concerns path = true)
    (grace : stale.grace = other.grace)
    (clock : stale.firstSeen[path]? = other.firstSeen[path]?) :
    (deed.apply stale).1 = (deed.apply other).1 := by
  cases deed with
  | observe other' now =>
    obtain rfl : other' = path := by simpa [Deed.concerns] using own
    simp only [Deed.apply, observe, ← clock]
    split <;> simp [judge, grace]
  | clear other' =>
    obtain rfl : other' = path := by simpa [Deed.concerns] using own
    have same := (stale.clear_tracked other').trans (clock ▸ (other.clear_tracked other').symm)
    simpa [Deed.apply] using Bool.eq_iff_iff.mpr same
  | _ => rfl

/-- A path is judged by the first look at it since it was dropped last: the look after a drop is
the first one again, and any other tells the time since then, none if the clock went back, and
whether that is more than the grace period. As many paths are tracked as were seen since they were
dropped, and what was done to other paths makes no difference to a path. -/
theorem judged_since_first_look (grace : Nat) (deeds : List Deed) :
    let stale := after grace deeds
    (∀ path now, (stale.observe path now).1 = .first ↔ Unseen deeds path) ∧
    (∀ path, ¬ Unseen deeds path → ∃ since, SeenSince deeds path since) ∧
    (∀ path since now, SeenSince deeds path since → (stale.observe path now).1 =
      if grace < now - since then .expired (now - since) else .pending (now - since)) ∧
    (∀ path, (stale.clear path).1 = true ↔ ¬ Unseen deeds path) ∧
    (∃ tracked : List ServerPath, tracked.Nodup ∧
      (∀ path, path ∈ tracked ↔ ¬ Unseen deeds path) ∧ stale.size = tracked.length) ∧
    ∀ path (deed : Deed), deed.concerns path = true →
      (deed.apply stale).1 = (deed.apply (after grace (deeds.filter (·.concerns path)))).1 := by
  intro stale
  have unseen (path : ServerPath) := (firstSeen_after grace deeds path).1
  have seen (path : ServerPath) := (firstSeen_after grace deeds path).2
  refine ⟨?_, ?_, ?_, ?_, ?_, ?_⟩
  · intro path now
    exact (stale.observe_first path now).trans (unseen path)
  · intro path looked
    obtain ⟨since, found⟩ := Option.ne_none_iff_exists'.mp (mt (unseen path).mp looked)
    exact ⟨since, (seen path since).mp found⟩
  · intro path since now first
    rw [observe_seen ((seen path since).mpr first), judge, grace_after]
  · intro path
    exact (stale.clear_tracked path).trans (not_congr (unseen path))
  · refine ⟨stale.firstSeen.keys, ?_, ?_, ?_⟩
    · exact Std.ExtTreeMap.nodup_keys
    · intro path
      rw [Std.ExtTreeMap.mem_keys, ← not_congr (unseen path)]
      simp [stale]
    · exact Std.ExtTreeMap.length_keys.symm
  · intro path deed own
    refine told_apply own ?_ (firstSeen_concerning grace deeds path).symm
    rw [grace_after, grace_after]

example :
    let a : ServerPath := ⟨"g", ⟨"a", 1⟩⟩
    let b : ServerPath := ⟨"g", ⟨"b", 1⟩⟩
    let stale := after 5 [.observe a 10, .observe b 0, .observe a 3, .retain {a}]
    [(stale.observe a 15).1, (stale.observe a 16).1, (stale.observe a 3).1,
      (stale.observe b 9).1] = [.pending 5, .expired 6, .pending 0, .first] := by
  decide +kernel

end TabletRoster.StalePaths
