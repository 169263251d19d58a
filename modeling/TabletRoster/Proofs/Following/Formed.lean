import TabletRoster.Proofs.Following.Basic

namespace TabletRoster

def Stage.toRead : Stage → List ServerPath
  | .reading path later => path :: later.getD []
  | .deleting _ later => later.getD []
  | _ => []

def Job.Formed : Job → Prop
  | .check path => path.WellFormed
  | _ => True

def Member.of (holder : Holder) : Member :=
  ⟨holder.instance, ⟨holder.instance.address⟩, holder.group⟩

def Roster.Formed (roster : Roster) : Prop :=
  ∀ (path : ServerPath) (member : Member), roster.members[path]? = some member →
    path.WellFormed ∧ member.connection = ⟨member.server.address⟩

namespace Pass

theorem toRead_proceed (later : Option (List ServerPath)) :
    (proceed later).toRead = later.getD [] := by
  unfold proceed
  split
  · rfl
  · rename_i done
    cases later with
    | none => rfl
    | some later =>
      cases later with
      | nil => rfl
      | cons path rest => exact absurd rfl (done path rest)

end Pass

namespace Work

theorem lose_at (work : Work) (path : ServerPath) : (work.lose path).roster.members[path]? = none := by
  unfold lose
  split
  · assumption
  · exact Std.ExtTreeMap.getElem?_erase_self

theorem Visit.others {path : ServerPath} {work after : Work} (visit : Visit path work after)
    {other : ServerPath} (different : other ≠ path) :
    after.roster.members[other]? = work.roster.members[other]? := by
  rcases visit with same | moved
  · rw [same.members]
  · exact moved.others other different

theorem hold_at {work : Work} (formed : work.roster.Formed) (path : ServerPath) (holder : Holder) :
    (work.hold path holder).roster.members[path]? = some (.of holder) := by
  simp only [hold]
  split
  · exact Std.ExtTreeMap.getElem?_insert_self
  · rename_i former found
    have found : work.roster.members[path]? = some former := found
    have connected := (formed path former found).2
    split
    · rename_i same
      have member : Member.of holder = { former with group := holder.group } := by
        rw [Member.of, ← same, ← connected]
      split
      · rename_i group
        rw [member, ← group]
        exact found
      · rw [member]
        exact Std.ExtTreeMap.getElem?_insert_self
    · exact Std.ExtTreeMap.getElem?_insert_self

theorem loseAll_at (paths : List ServerPath) (work : Work) (path : ServerPath) :
    (paths.foldl lose work).roster.members[path]? =
      if path ∈ paths then none else work.roster.members[path]? := by
  induction paths generalizing work with
  | nil => simp
  | cons first rest ih =>
    rw [List.foldl_cons, ih]
    by_cases same : path = first
    · subst same
      simp [lose_at]
    · simp [same, (lose_visit work first).others same]

theorem keepListed_at (work : Work) (listed : PathSet) (path : ServerPath) :
    (work.keepListed listed).roster.members[path]? =
      if listed.contains path then work.roster.members[path]? else none := by
  simp only [keepListed]
  rw [loseAll_at]
  simp only [List.mem_filter, Std.ExtTreeMap.mem_keys]
  cases found : work.roster.members[path]? with
  | none => simp
  | some member =>
    have there : path ∈ work.roster.members := by
      rw [Std.ExtTreeMap.mem_iff_isSome_getElem?, found]
      rfl
    cases shown : listed.contains path <;> simp [there]

theorem lose_formed {work : Work} (formed : work.roster.Formed) (path : ServerPath) :
    (work.lose path).roster.Formed := by
  intro other member found
  by_cases same : other = path
  · rw [same, lose_at] at found
    cases found
  · rw [(lose_visit work path).others same] at found
    exact formed other member found

theorem hold_formed {work : Work} (formed : work.roster.Formed) {path : ServerPath}
    (spelt : path.WellFormed) (holder : Holder) : (work.hold path holder).roster.Formed := by
  intro other member found
  by_cases same : other = path
  · rw [same, hold_at formed] at found
    cases found
    exact ⟨same ▸ spelt, rfl⟩
  · rw [(hold_visit work path holder).others same] at found
    exact formed other member found

theorem keepListed_formed {work : Work} (formed : work.roster.Formed) (listed : PathSet) :
    (work.keepListed listed).roster.Formed := by
  intro path member found
  rw [keepListed_at] at found
  split at found
  · exact formed path member found
  · cases found

theorem Same.formed {work after : Work} (same : Same work after) (formed : work.roster.Formed) :
    after.roster.Formed := by
  intro path member found
  rw [same.members] at found
  exact formed path member found

end Work

namespace Namespace

variable {layout : Layout} {space after : Namespace}

theorem list_coordinator {answer : Except CoordinationError PathSet}
    (listed : (coordinator layout).list space = (answer, after)) :
    after = space ∧ ∀ paths, answer = .ok paths → paths = space.servers layout := by
  simp only [coordinator, asking, Prod.mk.injEq] at listed
  refine ⟨listed.2.symm, fun paths same => ?_⟩
  rw [← listed.1] at same
  unfold checkOnline at same
  split at same <;> cases same
  rfl

theorem readLock_coordinator {path : ServerPath} {answer : Except CoordinationError (Option Holder)}
    (read : (coordinator layout).readLock path space = (answer, after)) :
    after = space ∧ ((∃ reason, answer = .error (.unavailable reason)) ∨
      answer = space.readLock layout path) := by
  simp only [coordinator, asking, Prod.mk.injEq] at read
  refine ⟨read.2.symm, ?_⟩
  rw [← read.1]
  unfold checkOnline
  split
  · exact .inl ⟨_, rfl⟩
  · exact .inr rfl

theorem contains_coordinator {path : ServerPath} {answer : Except CoordinationError Bool}
    (probed : (coordinator layout).contains path space = (answer, after)) : after = space := by
  simp only [coordinator, asking, Prod.mk.injEq] at probed
  exact probed.2.symm

theorem deleteTree_coordinator {path : ServerPath} {answer : Except CoordinationError Unit}
    (deleted : (coordinator layout).deleteTree path space = (answer, after)) :
    Extends space after ∧ (space.Tidy layout → after.Tidy layout) := by
  rw [show after = (space.deleteTree layout path).2 from congrArg Prod.snd deleted.symm]
  exact ⟨deleteTree_extends layout path space, fun tidy => tidy.deleteTree path⟩

/-- Whatever a pass asks of the namespace, it leaves it tidy and changes nothing unpublished. -/
theorem asked_extends {now : Nat} {work : Work} {stage : Stage} {next : Stage × Work}
    (asked : Pass.Asked (coordinator layout) now work space after stage next) :
    Extends space after ∧ (space.Tidy layout → after.Tidy layout) := by
  cases asked with
  | unlisted error answer =>
    rw [(list_coordinator answer).1]
    exact ⟨.refl space, id⟩
  | listed listed answer =>
    rw [(list_coordinator answer).1]
    exact ⟨.refl space, id⟩
  | unread path later error answer legible =>
    rw [(readLock_coordinator answer).1]
    exact ⟨.refl space, id⟩
  | free path later found answer unheld =>
    rw [(readLock_coordinator answer).1]
    exact ⟨.refl space, id⟩
  | held path later holder answer =>
    rw [(readLock_coordinator answer).1]
    exact ⟨.refl space, id⟩
  | unprobed path error answer =>
    rw [contains_coordinator answer]
    exact ⟨.refl space, id⟩
  | gone path answer =>
    rw [contains_coordinator answer]
    exact ⟨.refl space, id⟩
  | there path answer =>
    rw [contains_coordinator answer]
    exact ⟨.refl space, id⟩
  | deleted path later outcome answer settles =>
    rw [show after = (space.delete layout path).2 from congrArg Prod.snd answer.symm]
    exact ⟨delete_extends layout path space, fun tidy => tidy.delete path⟩
  | undeleted path later error answer =>
    rw [show after = (space.delete layout path).2 from congrArg Prod.snd answer.symm]
    exact ⟨delete_extends layout path space, fun tidy => tidy.delete path⟩

end Namespace

namespace Turns

/-- All that the roster has to do is about well-formed paths. -/
structure Formed (layout : Layout) (turns : Turns Namespace) : Prop where
  tidy : turns.space.Tidy layout
  members : turns.roster.Formed
  waiting : ∀ entry ∈ turns.waiting, entry.2.Formed
  ahead : ∀ ticket stage delta, turns.current = some (ticket, .pass ⟨stage, delta⟩) →
    ∀ path ∈ stage.toRead, path.WellFormed

theorem formed_start (layout : Layout) (grace : Nat) :
    (start (.empty grace) .empty).Formed layout := by
  refine ⟨Namespace.tidy_empty layout, ?_, ?_, ?_⟩
  · simp [Roster.Formed, start, Roster.empty]
  · simp [start]
  · simp [start]

theorem asked_formed {layout : Layout} {now : Nat} {work : Work} {space after : Namespace}
    {stage : Stage} {next : Stage × Work} (tidy : space.Tidy layout)
    (members : work.roster.Formed) (ahead : ∀ path ∈ stage.toRead, path.WellFormed)
    (asked : Pass.Asked (Namespace.coordinator layout) now work space after stage next) :
    next.2.roster.Formed ∧ ∀ path ∈ next.1.toRead, path.WellFormed := by
  cases asked with
  | unlisted error answer => exact ⟨members, by simp [Stage.toRead]⟩
  | listed listed answer =>
    refine ⟨Work.keepListed_formed members listed, ?_⟩
    intro path member
    rw [Pass.toRead_proceed] at member
    rw [(Namespace.list_coordinator answer).2 listed rfl] at member
    exact tidy.listed (Std.ExtTreeSet.mem_toList.mp member)
  | unread path later error answer legible => exact ⟨members, by simp [Stage.toRead]⟩
  | free path later found answer unheld =>
    obtain ⟨same, next⟩ := Pass.unlocked_visit now path later work
    refine ⟨same.formed (Work.lose_formed members path), ?_⟩
    have rest : ∀ other ∈ later.getD [], other.WellFormed :=
      fun other member => ahead other (List.mem_cons_of_mem _ member)
    rcases next with next | next | ⟨rfl, next⟩ <;> rw [next]
    · exact rest
    · rw [Pass.toRead_proceed]
      exact rest
    · simp [Stage.toRead]
  | held path later holder answer =>
    refine ⟨Work.hold_formed members (ahead path List.mem_cons_self) holder, ?_⟩
    rw [Pass.toRead_proceed]
    exact fun other member => ahead other (List.mem_cons_of_mem _ member)
  | unprobed path error answer => exact ⟨members, by simp [Stage.toRead]⟩
  | gone path answer => exact ⟨members, by simp [Stage.toRead]⟩
  | there path answer =>
    obtain ⟨same, next⟩ := Pass.reclaim_same now path none work
    refine ⟨same.formed members, ?_⟩
    rcases next with next | next <;> rw [next] <;> simp [Stage.toRead, Pass.proceed]
  | deleted path later outcome answer settles =>
    refine ⟨members, ?_⟩
    rw [Pass.toRead_proceed]
    exact ahead
  | undeleted path later error answer => exact ⟨members, by simp [Stage.toRead]⟩

theorem drop_formed {roster : Roster} (formed : roster.Formed) (path : ServerPath) :
    (roster.drop path).Formed := by
  intro other member found
  simp only [Roster.drop] at found
  rw [Std.ExtTreeMap.getElem?_erase] at found
  split at found
  · cases found
  · exact formed other member found

theorem step_extends {layout : Layout} {turns next : Turns Namespace} {move : Move}
    (step : Step (Namespace.coordinator layout) turns move next) :
    Namespace.Extends turns.space next.space ∧
      (turns.space.Tidy layout → next.space.Tidy layout) := by
  cases step with
  | asked now ticket stage delta next after current asked => exact Namespace.asked_extends asked
  | unlisted now ticket i path error after current answer =>
    rw [(Namespace.list_coordinator answer).1]
    exact ⟨.refl _, id⟩
  | located now ticket i path target listed after current answer unique =>
    rw [(Namespace.list_coordinator answer).1]
    exact ⟨.refl _, id⟩
  | ambiguous now ticket i path listed after current answer several =>
    rw [(Namespace.list_coordinator answer).1]
    exact ⟨.refl _, id⟩
  | uncleared now ticket i path target error after current answer =>
    exact Namespace.deleteTree_coordinator answer
  | cleared now ticket i path target after current answer =>
    exact Namespace.deleteTree_coordinator answer
  | _ => exact ⟨.refl _, id⟩

theorem formed_step {layout : Layout} {turns next : Turns Namespace} {move : Move}
    (formed : turns.Formed layout) (admitted : ∀ path, move = .come (.check path) → path.WellFormed)
    (step : Step (Namespace.coordinator layout) turns move next) : next.Formed layout := by
  obtain ⟨tidy, members, waiting, ahead⟩ := formed
  have tidied := (step_extends step).2 tidy
  have later : ∀ {entry rest}, turns.waiting = entry :: rest → ∀ other ∈ rest, other.2.Formed :=
    fun first other member => waiting other (first ▸ List.mem_cons_of_mem _ member)
  cases step with
  | served number snapshot cached => exact ⟨tidied, members, waiting, ahead⟩
  | queued job waits =>
    refine ⟨tidied, members, ?_, ahead⟩
    intro entry member
    rcases List.mem_append.mp member with old | new
    · exact waiting entry old
    · rw [List.mem_singleton.mp new]
      cases job with
      | check path => exact admitted path rfl
      | _ => trivial
  | begun ticket job rest pass idle first asks =>
    have spelt : job.Formed := waiting (ticket, job) (first ▸ List.mem_cons_self)
    refine ⟨tidied, members, later first, ?_⟩
    intro holder stage delta same
    cases job with
    | scan =>
      cases asks
      cases same
      simp [Stage.toRead]
    | check path =>
      cases asks
      cases same
      simpa [Stage.toRead, Job.Formed] using spelt
    | evict i => cases asks
    | read => cases asks
    | find lookup => cases asks
  | evicting ticket i path rest idle first found =>
    exact ⟨tidied, drop_formed members path, later first, by simp⟩
  | unknown ticket i rest idle first absent =>
    exact ⟨tidied, members, later first, by simp [finish]⟩
  | read ticket rest idle first =>
    refine ⟨tidied, ?_, later first, by simp [finish]⟩
    intro path member found
    have found : turns.roster.snapshot.2.members[path]? = some member := found
    rw [Roster.snapshot_members] at found
    exact members path member found
  | sought ticket lookup rest idle first =>
    exact ⟨tidied, members, later first, by simp [finish]⟩
  | told now ticket failure delta current => exact ⟨tidied, members, waiting, by simp⟩
  | asked now ticket stage delta next after current asked =>
    obtain ⟨kept, further⟩ := asked_formed tidy members (ahead ticket stage delta current) asked
    refine ⟨tidied, kept, waiting, ?_⟩
    intro holder other changes same
    cases same
    exact further
  | unlisted now ticket i path error after current answer =>
    exact ⟨tidied, members, waiting, by simp [finish]⟩
  | located now ticket i path target listed after current answer unique =>
    exact ⟨tidied, members, waiting, by simp⟩
  | ambiguous now ticket i path listed after current answer several =>
    exact ⟨tidied, members, waiting, by simp [finish]⟩
  | uncleared now ticket i path target error after current answer =>
    exact ⟨tidied, members, waiting, by simp [finish]⟩
  | cleared now ticket i path target after current answer =>
    exact ⟨tidied, members, waiting, by simp [finish]⟩
  | left ticket delta failure current => exact ⟨tidied, members, waiting, by simp [finish]⟩
  | collected ticket => exact ⟨tidied, members, waiting, ahead⟩

end Turns
end TabletRoster
