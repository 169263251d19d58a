import TabletRoster.Proofs.Passes
import TabletRoster.Roster.Turns

namespace TabletRoster.Pass

variable {σ : Type}

inductive Asked (service : Coordinator σ) (now : Nat) (work : Work) (space after : σ) :
    Stage → Stage × Work → Prop where
  | unlisted (error : CoordinationError) (answer : service.list space = (.error error, after)) :
      Asked service now work space after .listing (.reporting (some error), work)
  | listed (listed : PathSet) (answer : service.list space = (.ok listed, after)) :
      Asked service now work space after .listing
        (proceed (some listed.toList), work.keepListed listed)
  | unread (path : ServerPath) (later : Option (List ServerPath)) (error : CoordinationError)
      (answer : service.readLock path space = (.error error, after))
      (legible : ∀ key fault, error ≠ .malformedLock key fault) :
      Asked service now work space after (.reading path later) (.reporting (some error), work)
  | free (path : ServerPath) (later : Option (List ServerPath))
      (found : Except CoordinationError (Option Holder))
      (answer : service.readLock path space = (found, after))
      (unheld : found = .ok none ∨ ∃ key fault, found = .error (.malformedLock key fault)) :
      Asked service now work space after (.reading path later) (unlocked now path later work)
  | held (path : ServerPath) (later : Option (List ServerPath)) (holder : Holder)
      (answer : service.readLock path space = (.ok (some holder), after)) :
      Asked service now work space after (.reading path later)
        (proceed later, work.hold path holder)
  | unprobed (path : ServerPath) (error : CoordinationError)
      (answer : service.contains path space = (.error error, after)) :
      Asked service now work space after (.probing path) (.reporting (some error), work)
  | gone (path : ServerPath) (answer : service.contains path space = (.ok false, after)) :
      Asked service now work space after (.probing path) (.reporting none, work.forget path)
  | there (path : ServerPath) (answer : service.contains path space = (.ok true, after)) :
      Asked service now work space after (.probing path) (reclaim now path none work)
  | deleted (path : ServerPath) (later : Option (List ServerPath))
      (outcome : Except CoordinationError Unit)
      (answer : service.delete path space = (outcome, after))
      (settles : outcome = .ok () ∨ ∃ key, outcome = .error (.notEmpty key)) :
      Asked service now work space after (.deleting path later) (proceed later, work.forget path)
  | undeleted (path : ServerPath) (later : Option (List ServerPath)) (error : CoordinationError)
      (answer : service.delete path space = (.error error, after))
      (unsettled : ∀ key, error ≠ .notEmpty key) :
      Asked service now work space after (.deleting path later) (.reporting (some error), work)

theorem asked (service : Coordinator σ) (now : Nat) {stage : Stage} (work : Work) (space : σ)
    (busy : ∀ failure, stage ≠ .reporting failure) :
    Asked service now work space (ask service now stage work space).2 stage
      (ask service now stage work space).1 := by
  cases stage with
  | listing =>
    simp only [ask]
    split
    · rename_i error after answer
      exact .unlisted error answer
    · rename_i listed after answer
      exact .listed listed answer
  | reading path later =>
    simp only [ask]
    split
    · rename_i key fault after answer
      exact .free path later _ answer (.inr ⟨key, fault, rfl⟩)
    · rename_i error after legible answer
      exact .unread path later error answer fun key fault same => legible key fault same
    · rename_i after answer
      exact .free path later _ answer (.inl rfl)
    · rename_i holder after answer
      exact .held path later holder answer
  | probing path =>
    simp only [ask]
    split
    · rename_i error after answer
      exact .unprobed path error answer
    · rename_i after answer
      exact .gone path answer
    · rename_i after answer
      exact .there path answer
  | deleting path later =>
    simp only [ask]
    split
    · rename_i after answer
      exact .deleted path later _ answer (.inl rfl)
    · rename_i key after answer
      exact .deleted path later _ answer (.inr ⟨key, rfl⟩)
    · rename_i error after unsettled answer
      exact .undeleted path later error answer fun key same => unsettled key same
  | reporting failure => exact absurd rfl (busy failure)

theorem reclaim_same (now : Nat) (path : ServerPath) (later : Option (List ServerPath))
    (work : Work) : Work.Same work (reclaim now path later work).2 ∧
      ((reclaim now path later work).1 = .deleting path later ∨
        (reclaim now path later work).1 = proceed later) := by
  simp only [reclaim]
  split
  · exact ⟨⟨rfl, rfl, rfl, rfl⟩, .inl rfl⟩
  · exact ⟨⟨rfl, rfl, rfl, rfl⟩, .inr rfl⟩

theorem unlocked_visit (now : Nat) (path : ServerPath) (later : Option (List ServerPath))
    (work : Work) : Work.Same (work.lose path) (unlocked now path later work).2 ∧
      ((unlocked now path later work).1 = .deleting path later ∨
        (unlocked now path later work).1 = proceed later ∨
          later = none ∧ (unlocked now path later work).1 = .probing path) := by
  simp only [unlocked]
  split
  · obtain ⟨same, next⟩ := reclaim_same now path later (work.lose path)
    exact ⟨same, next.imp id .inl⟩
  · rename_i alone
    exact ⟨.refl _, .inr (.inr ⟨by simpa using alone, rfl⟩)⟩

def Ahead : Stage → List ServerPath → Prop
  | .listing, ahead => ahead = []
  | .reading path later, ahead => ahead = path :: later.getD []
  | .probing _, ahead => ahead = []
  | .deleting _ later, ahead => ahead = later.getD []
  | .reporting none, ahead => ahead = []
  | .reporting (some _), _ => True

theorem ahead_proceed (later : Option (List ServerPath)) : Ahead (proceed later) (later.getD []) := by
  unfold proceed
  split
  · rfl
  · rename_i done
    cases later with
    | none => rfl
    | some later =>
      cases later with
      | nil => rfl
      | cons path rest => exact absurd rfl (done path rest)

/-- The paths that a job visits among given members, in order. The listing is what a full scan was
shown. -/
def visits (job : Job) (members : Members) (listing : Option PathSet) : List ServerPath :=
  match job, listing with
  | .check path, _ => [path]
  | .scan, some listed => Work.vanished members listed ++ listed.toList
  | _, _ => []

theorem visits_nodup (job : Job) (members : Members) (listing : Option PathSet) :
    (visits job members listing).Nodup := by
  unfold visits
  split
  · simp
  · rename_i listed
    refine List.nodup_append.mpr ⟨?_, ?_, ?_⟩
    · exact Std.ExtTreeMap.nodup_keys.filter _
    · refine List.Pairwise.imp ?_ listed.distinct_toList
      intro path other apart same
      exact apart (by rw [same]; exact Std.ReflCmp.compare_self)
    · intro path gone other shown same
      subst same
      have unlisted := (List.mem_filter.mp gone).2
      rw [Std.ExtTreeSet.mem_toList, ← Std.ExtTreeSet.contains_iff_mem] at shown
      simp [shown] at unlisted
  · simp

/-- How far the pass of a job has come that began with a roster. -/
structure Underway (job : Job) (roster : Roster) (listing : Option PathSet) (stage : Stage)
    (work : Work) : Prop where
  course : ∃ visited ahead, Work.Course ⟨roster, .empty⟩ visited work ∧ Ahead stage ahead ∧
    visited ++ ahead = visits job roster.members listing
  unlisted : stage = .listing → job = .scan ∧ listing = none

section Underway

variable {job : Job} {roster : Roster} {listing : Option PathSet} {stage : Stage} {work : Work}

theorem Underway.cache (way : Underway job roster listing stage work) :
    (work.roster.members = roster.members ∧ work.roster.cache = roster.cache) ∨
      (Members.Differ roster.members work.roster.members ∧ work.roster.cache = none) := by
  obtain ⟨visited, ahead, course, _, whole⟩ := way.course
  exact course.cache (List.nodup_append.mp (whole ▸ visits_nodup job roster.members listing)).1

theorem Underway.built (way : Underway job roster listing stage work) :
    work.roster.built = roster.built := by
  obtain ⟨visited, ahead, course, _, _⟩ := way.course
  exact course.built

theorem Underway.others (way : Underway job roster listing stage work) {path : ServerPath}
    (unvisited : path ∉ visits job roster.members listing) :
    work.roster.members[path]? = roster.members[path]? := by
  obtain ⟨visited, ahead, course, _, whole⟩ := way.course
  exact course.others fun member => unvisited (whole ▸ List.mem_append_left _ member)

/-- At any time the delta of a pass is that of all its visits; those ahead have changed nothing. -/
theorem Underway.delta (way : Underway job roster listing stage work) :
    work.delta = Delta.turnovers roster.members work.roster.members
      (visits job roster.members listing) .empty := by
  obtain ⟨visited, ahead, course, _, whole⟩ := way.course
  obtain ⟨once, _, apart⟩ := List.nodup_append.mp (whole ▸ visits_nodup job roster.members listing)
  have still : ∀ path ∈ ahead, work.roster.members[path]? = roster.members[path]? :=
    fun path member => course.others fun earlier => apart path earlier path member rfl
  rw [← whole, Delta.turnovers, List.foldl_append, course.delta once]
  exact (Delta.turnovers_still still _).symm

end Underway

def shown (service : Coordinator σ) (stage : Stage) (space : σ) (listing : Option PathSet) :
    Option PathSet :=
  match stage, (service.list space).1 with
  | .listing, .ok listed => some listed
  | _, _ => listing

theorem underway_scan (roster : Roster) : Underway .scan roster none .listing ⟨roster, .empty⟩ :=
  ⟨⟨[], [], .rest (.refl _), rfl, rfl⟩, fun _ => ⟨rfl, rfl⟩⟩

theorem underway_check (roster : Roster) (path : ServerPath) :
    Underway (.check path) roster none (.reading path none) ⟨roster, .empty⟩ :=
  ⟨⟨[], [path], .rest (.refl _), rfl, rfl⟩, nofun⟩

variable {service : Coordinator σ} {now : Nat} {job : Job} {roster : Roster}
  {listing : Option PathSet} {work : Work} {space after : σ}

theorem proceed_listed (later : Option (List ServerPath)) : proceed later ≠ .listing := by
  unfold proceed
  split <;> simp

theorem underway_visited {stage : Stage} {path : ServerPath} {later : Option (List ServerPath)}
    {next : Work} (way : Underway job roster listing (.reading path later) work)
    (visit : Work.Visit path work next) (ahead : Ahead stage (later.getD []))
    (listed : stage ≠ .listing) : Underway job roster listing stage next := by
  obtain ⟨⟨visited, rest, course, first, whole⟩, _⟩ := way
  refine ⟨⟨visited ++ [path], later.getD [], .visit course visit, ahead, ?_⟩, fun same => absurd same listed⟩
  rw [← whole, show rest = path :: later.getD [] from first]
  simp

theorem underway_same {before stage : Stage} {next : Work}
    (way : Underway job roster listing before work) (same : Work.Same work next)
    (ahead : ∀ ahead, Ahead before ahead → Ahead stage ahead) (listed : stage ≠ .listing) :
    Underway job roster listing stage next := by
  obtain ⟨⟨visited, rest, course, first, whole⟩, _⟩ := way
  exact ⟨⟨visited, rest, course.same same, ahead rest first, whole⟩, fun same => absurd same listed⟩

theorem underway_asked {stage : Stage} {next : Stage × Work}
    (way : Underway job roster listing stage work)
    (asked : Asked service now work space after stage next) :
    Underway job roster (shown service stage space listing) next.1 next.2 := by
  cases asked with
  | unlisted error answer =>
    rw [show shown service .listing space listing = listing by simp [shown, answer]]
    exact underway_same way (.refl work) (fun _ _ => trivial) (by simp)
  | listed listed answer =>
    obtain ⟨⟨visited, ahead, course, first, whole⟩, begun⟩ := way
    obtain ⟨rfl, rfl⟩ := begun rfl
    have still : Work.Same ⟨roster, .empty⟩ work := by
      cases course with
      | rest same => exact same
      | visit earlier visit => simp [visits] at whole
    have further := Work.keepListed_course work listed
    rw [still.members] at further
    rw [show shown service .listing space none = some listed by simp [shown, answer]]
    exact ⟨⟨Work.vanished roster.members listed, listed.toList, further.since still,
      ahead_proceed _, rfl⟩, fun same => absurd same (proceed_listed _)⟩
  | unread path later error answer legible =>
    exact underway_same way (.refl work) (fun _ _ => trivial) (by simp)
  | free path later found answer unheld =>
    obtain ⟨same, next⟩ := unlocked_visit now path later work
    have visit := (Work.lose_visit work path).same same
    rcases next with next | next | ⟨rfl, next⟩ <;> rw [next]
    · exact underway_visited way visit rfl (by simp)
    · exact underway_visited way visit (ahead_proceed later) (proceed_listed later)
    · exact underway_visited way visit rfl (by simp)
  | held path later holder answer =>
    exact underway_visited way (Work.hold_visit work path holder) (ahead_proceed later)
      (proceed_listed later)
  | unprobed path error answer =>
    exact underway_same way (.refl work) (fun _ _ => trivial) (by simp)
  | gone path answer =>
    exact underway_same way (work.forget_same path) (fun _ first => first) (by simp)
  | there path answer =>
    obtain ⟨same, next⟩ := reclaim_same now path none work
    rcases next with next | next <;> rw [next]
    · exact underway_same way same (fun _ first => first) (by simp)
    · exact underway_same way same (fun _ first => first) (by simp [proceed])
  | deleted path later outcome answer settles =>
    refine underway_same way (work.forget_same path) ?_ (proceed_listed later)
    intro ahead first
    rw [show ahead = later.getD [] from first]
    exact ahead_proceed later
  | undeleted path later error answer unsettled =>
    exact underway_same way (.refl work) (fun _ _ => trivial) (by simp)

end TabletRoster.Pass
