import TabletRoster.Settings.Layers

/-!
What stands at a place once layers are laid over one another. Tables are merged, so a place that
tables lead to, and where no layer has a table itself, has what the last layer says that says
anything about it. The other members of those tables have no part in it.
-/
namespace TabletRoster.Settings

theorem lookup_member {α : Type} (member : String × α) (rest : List (String × α)) (key : String) :
    (member :: rest).lookup key = if key = member.1 then some member.2 else rest.lookup key := by
  by_cases same : key = member.1
  · rw [if_pos same, List.lookup_cons, beq_iff_eq.mpr same]
  · rw [if_neg same, List.lookup_cons, beq_eq_false_iff_ne.mpr same]

theorem lookup_assign {α : Type} (key other : String) (value : α) (members : List (String × α)) :
    (assign key value members).lookup other =
      if other = key then some value else members.lookup other := by
  induction members with
  | nil => exact lookup_member (key, value) [] other
  | cons member rest ih =>
    obtain ⟨first, former⟩ := member
    rw [lookup_member]
    by_cases placed : first = key
    · rw [assign, if_pos placed, lookup_member]
      by_cases same : other = key <;> simp [placed, same]
    · rw [assign, if_neg placed, lookup_member, ih]
      by_cases same : other = key
      · subst same
        simp [Ne.symm placed]
      · simp [same]

theorem findSome_last {α β : Type} (f : α → Option β) (first : α) (rest : List α) :
    (first :: rest).reverse.findSome? f = (rest.reverse.findSome? f).or (f first) := by
  rw [List.reverse_cons, List.findSome?_append, List.findSome?_singleton]

namespace Value

def isTable : Value → Bool
  | .table _ => true
  | _ => false

def at? : List String → Value → Option Value
  | [], value => some value
  | name :: rest, value => (value.member? name).bind (at? rest)

/-- What a value says about a place when it is laid over another one: of the members of a table
whose keys come to one name, the last one that says something counts. -/
def told? : List String → Value → Option Value
  | [], value => some value
  | name :: rest, value =>
    value.members.reverse.findSome? fun (key, member) =>
      if key.toLower = name then told? rest member else none

def suits : List String → Value → Bool
  | [], value => !value.isTable
  | name :: rest, value =>
    value.isTable && value.members.all fun (key, member) => key.toLower ≠ name || suits rest member

/-- What a value says about a place when it is laid over the part that a path leads to. -/
def toldAlong? (value : Value) : List Step → List String → Option Value
  | [.key key], name :: rest => if key.toLower = name then value.told? rest else none
  | .key key :: steps, name :: rest =>
    if key.toLower = name then toldAlong? value steps rest else none
  | _, _ => none

def suitsAlong (value : Value) : List Step → List String → Bool
  | [.key key], name :: rest => key.toLower ≠ name || value.suits rest
  | .key key :: steps, name :: rest => key.toLower ≠ name || suitsAlong value steps rest
  | _, _ => false

def shaped : List String → Value → Bool
  | [], _ => true
  | name :: rest, value => value.isTable && (value.member? name).all (shaped rest)

variable {key name : String} {value root : Value} {place : List String}

theorem members_of_table (table : value.isTable) : ∃ members, value = .table members := by
  cases value with
  | table members => exact ⟨members, rfl⟩
  | _ => cases table

theorem member_put (root : Value) (key : String) (member : Value) (name : String) :
    (root.put key member).member? name = if name = key then some member else root.member? name :=
  lookup_assign key name member root.members

theorem at_put (root : Value) (key : String) (member : Value) (name : String)
    (place : List String) :
    (root.put key member).at? (name :: place) =
      if name = key then member.at? place else root.at? (name :: place) := by
  simp only [at?, member_put]
  split <;> rfl

theorem shaped_put {member : Value} (below : (root.member? name).all (shaped place))
    (fits : name = key → member.shaped place) : (root.put key member).shaped (name :: place) := by
  simp only [shaped, member_put, Bool.and_eq_true]
  refine ⟨rfl, ?_⟩
  split
  · rename_i same
    exact fits same
  · exact below

def child (root : Value) (name : String) : Value :=
  (root.member? name).getD empty

theorem at_child (root : Value) (name next : String) (rest : List String) :
    (root.child name).at? (next :: rest) = root.at? (name :: next :: rest) := by
  rw [at?.eq_2 _ name, child]
  cases root.member? name <;> rfl

theorem shaped_child {next : String} {rest : List String}
    (below : (root.member? name).all (shaped (next :: rest))) :
    (root.child name).shaped (next :: rest) := by
  unfold child
  cases found : root.member? name with
  | none => rfl
  | some member => simpa [found] using below

theorem cover_plain (plain : value.isTable = false) :
    cover key value root = root.put key.toLower value := by
  cases value with
  | table members => cases plain
  | _ => rfl

theorem cover_table (key : String) (members : List (String × Value)) (root : Value) :
    cover key (.table members) root =
      root.put key.toLower (coverAll members (root.child key.toLower)) := by
  rw [cover.eq_1]
  rfl

theorem suits_cons {first : String × Value} {rest : List (String × Value)}
    (suits : (table (first :: rest)).suits (name :: place)) :
    (first.1.toLower = name → first.2.suits place) ∧ (table rest).suits (name :: place) := by
  simp only [Value.suits, isTable, members, List.all_cons, Bool.true_and, Bool.and_eq_true,
    Bool.or_eq_true, decide_eq_true_eq] at suits ⊢
  exact ⟨fun same => suits.1.resolve_left (absurd same), suits.2⟩

theorem told_cons (first : String × Value) (rest : List (String × Value)) (name : String)
    (place : List String) :
    (table (first :: rest)).told? (name :: place) =
      ((table rest).told? (name :: place)).or
        (if first.1.toLower = name then first.2.told? place else none) :=
  findSome_last _ first rest

theorem at_cover (suits : key.toLower = name → value.suits place) :
    (cover key value root).at? (name :: place) =
      (if key.toLower = name then value.told? place else none).or (root.at? (name :: place)) := by
  induction place generalizing key name value root with
  | nil =>
    by_cases same : key.toLower = name
    · have plain : value.isTable = false := by simpa [Value.suits] using suits same
      rw [cover_plain plain, at_put, if_pos same.symm, if_pos same]
      rfl
    · rw [if_neg same, Option.none_or]
      cases value with
      | table members => rw [cover_table, at_put, if_neg (Ne.symm same)]
      | _ => rw [cover_plain rfl, at_put, if_neg (Ne.symm same)]
  | cons next rest ih =>
    -- one member after another is laid over what the place was before
    have whole (members : List (String × Value)) (target : Value)
        (suits : (table members).suits (next :: rest)) :
        (coverAll members target).at? (next :: rest) =
          ((table members).told? (next :: rest)).or (target.at? (next :: rest)) := by
      induction members generalizing target with
      | nil => rfl
      | cons first others further =>
        obtain ⟨here, behind⟩ := suits_cons suits
        rw [coverAll.eq_2, further _ behind, ih here, told_cons, Option.or_assoc]
    by_cases same : key.toLower = name
    · obtain ⟨members, rfl⟩ : ∃ members, value = .table members := by
        have fits := suits same
        rw [Value.suits, Bool.and_eq_true] at fits
        exact members_of_table fits.1
      rw [cover_table, at_put, if_pos same.symm, if_pos same, whole _ _ (suits same), at_child, same]
    · rw [if_neg same, Option.none_or]
      cases value with
      | table members => rw [cover_table, at_put, if_neg (Ne.symm same)]
      | _ => rw [cover_plain rfl, at_put, if_neg (Ne.symm same)]

theorem shaped_cover (suits : key.toLower = name → value.suits place)
    (below : (root.member? name).all (shaped place)) :
    (cover key value root).shaped (name :: place) := by
  induction place generalizing key name value root with
  | nil =>
    cases value with
    | table members =>
      rw [cover_table]
      exact shaped_put below fun _ => rfl
    | _ => exact shaped_put below fun _ => rfl
  | cons next rest ih =>
    have whole (members : List (String × Value)) (target : Value)
        (suits : (table members).suits (next :: rest)) (ready : target.shaped (next :: rest)) :
        (coverAll members target).shaped (next :: rest) := by
      induction members generalizing target with
      | nil => exact ready
      | cons first others further =>
        obtain ⟨here, behind⟩ := suits_cons suits
        rw [coverAll.eq_2]
        rw [shaped, Bool.and_eq_true] at ready
        exact further _ behind (ih here ready.2)
    cases value with
    | table members =>
      rw [cover_table]
      refine shaped_put below fun same => ?_
      subst same
      exact whole _ _ (suits rfl) (shaped_child below)
    | _ => exact shaped_put below fun same => absurd (suits same.symm) (by simp [Value.suits, isTable])

theorem suitsAlong_nil (value : Value) (steps : List Step) : value.suitsAlong steps [] = false := by
  cases steps with
  | nil => rfl
  | cons step rest => cases step <;> cases rest <;> rfl

theorem laid_coverPath {steps : List Step} {after : Value}
    (covered : coverPath value steps root = some after)
    (suits : value.suitsAlong steps (name :: place)) :
    after.at? (name :: place) =
        (value.toldAlong? steps (name :: place)).or (root.at? (name :: place)) ∧
      ((root.member? name).all (shaped place) → after.shaped (name :: place)) := by
  induction steps generalizing name place root after with
  | nil => cases suits
  | cons step rest ih =>
    cases step with
    | index n => cases rest <;> cases suits
    | key key =>
      cases rest with
      | nil =>
        cases covered
        have fits : key.toLower = name → value.suits place := by
          rw [suitsAlong, Bool.or_eq_true, decide_eq_true_eq] at suits
          exact fun same => suits.resolve_left (absurd same)
        exact ⟨at_cover fits, shaped_cover fits⟩
      | cons next others =>
        obtain ⟨part, inner, same⟩ := Option.bind_eq_some_iff.mp covered
        cases same
        rw [at_put, toldAlong?.eq_2 _ _ _ _ _ (by simp)]
        by_cases same : key.toLower = name
        · subst same
          rw [if_pos rfl, if_pos rfl]
          have fits : value.suitsAlong (next :: others) place := by
            simpa [suitsAlong] using suits
          cases place with
          | nil =>
            rw [suitsAlong_nil] at fits
            cases fits
          | cons second beyond =>
            obtain ⟨there, further⟩ := ih inner fits
            constructor
            · rw [there, at?.eq_2 _ key.toLower]
              cases root.member? key.toLower <;> rfl
            · intro below
              refine shaped_put below fun _ => further ?_
              cases found : root.member? key.toLower with
              | none => rfl
              | some member =>
                rw [found, Option.all_some, shaped, Bool.and_eq_true] at below
                exact below.2
        · rw [if_neg (Ne.symm same), if_neg same, Option.none_or]
          exact ⟨rfl, fun below => shaped_put below fun equal => absurd equal.symm same⟩

end Value

/-- What the assignments of a source say about a place; the later ones count. -/
def says? (members : List (String × Value)) (place : List String) : Option Value :=
  members.reverse.findSome? fun (key, value) => value.toldAlong? (Step.parse key) place

theorem lay_cons (below : Value) (key : String) (value : Value) (rest : List (String × Value)) :
    lay below ((key, value) :: rest) =
      match value.coverPath (Step.parse key) below with
      | some after => lay after rest
      | none => .error .outside := by
  simp only [lay, List.foldlM_cons]
  cases value.coverPath (Step.parse key) below <;> rfl

theorem laid_lay {members : List (String × Value)} {below after : Value} {name : String}
    {place : List String} (laid : lay below members = .ok after)
    (suits : ∀ member ∈ members, member.2.suitsAlong (Step.parse member.1) (name :: place))
    (ready : below.shaped (name :: place)) :
    after.at? (name :: place) =
        (says? members (name :: place)).or (below.at? (name :: place)) ∧
      after.shaped (name :: place) := by
  induction members generalizing below with
  | nil =>
    cases laid
    exact ⟨rfl, ready⟩
  | cons first rest ih =>
    obtain ⟨key, value⟩ := first
    rw [lay_cons] at laid
    cases covered : value.coverPath (Step.parse key) below with
    | none =>
      rw [covered] at laid
      cases laid
    | some part =>
      rw [covered] at laid
      rw [Value.shaped, Bool.and_eq_true] at ready
      obtain ⟨there, further⟩ := Value.laid_coverPath covered (suits _ List.mem_cons_self)
      obtain ⟨behind, shaped⟩ := ih laid (fun member later =>
        suits member (List.mem_cons_of_mem _ later)) (further ready.2)
      refine ⟨?_, shaped⟩
      rw [behind, there, ← Option.or_assoc, says?, says?, findSome_last]

namespace Source

def says? (source : Source) (place : List String) : Option Value :=
  match source.members with
  | .ok members => Settings.says? members place
  | .error _ => none

def suits (source : Source) (place : List String) : Bool :=
  match source.members with
  | .ok members => members.all fun (key, value) => value.suitsAlong (Step.parse key) place
  | .error _ => false

end Source

/-- What the last source says that says anything about a place, or else the standard settings. -/
def last? (sources : List Source) (place : List String) : Option Value :=
  (sources.reverse.findSome? (·.says? place)).or (standard.toValue.at? place)

theorem laid_sources {sources : List Source} {below after : Value} {name : String}
    {place : List String}
    (laid : sources.foldlM (fun below source => do lay below (← source.members)) below = .ok after)
    (suits : ∀ source ∈ sources, source.suits (name :: place))
    (ready : below.shaped (name :: place)) :
    after.at? (name :: place) =
        (sources.reverse.findSome? (·.says? (name :: place))).or (below.at? (name :: place)) ∧
      after.shaped (name :: place) := by
  induction sources generalizing below with
  | nil =>
    cases laid
    exact ⟨rfl, ready⟩
  | cons first rest ih =>
    have fits := suits first List.mem_cons_self
    rw [List.foldlM_cons] at laid
    cases read : first.members with
    | error failure =>
      rw [read] at laid
      cases laid
    | ok members =>
      simp only [Source.suits, read, List.all_eq_true] at fits
      rw [read] at laid
      cases here : lay below members with
      | error failure =>
        simp only [bind, Except.bind, here] at laid
        cases laid
      | ok value =>
        simp only [bind, Except.bind, here] at laid
        obtain ⟨there, shaped⟩ := laid_lay here fits ready
        obtain ⟨behind, shaped⟩ := ih laid (fun source later =>
          suits source (List.mem_cons_of_mem _ later)) shaped
        refine ⟨?_, shaped⟩
        rw [behind, there, ← Option.or_assoc, findSome_last, Source.says?, read]

/-- A place that the standard settings lead to by tables has what the last source says about it. -/
theorem at_layered {sources : List Source} {value : Value} {name : String} {place : List String}
    (laid : layered sources = .ok value) (suits : ∀ source ∈ sources, source.suits (name :: place))
    (ready : standard.toValue.shaped (name :: place)) :
    value.at? (name :: place) = last? sources (name :: place) ∧ value.shaped (name :: place) :=
  laid_sources laid suits ready

end TabletRoster.Settings
