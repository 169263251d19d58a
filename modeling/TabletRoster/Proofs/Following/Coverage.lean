import TabletRoster.Proofs.Following.Formed

namespace TabletRoster

def Job.Covers (path : ServerPath) : Job → Prop
  | .scan => True
  | .check other => other = path
  | _ => False

def Job.Evicts : Job → Prop
  | .evict _ => True
  | _ => False

def Demand.Covers (path : ServerPath) (demand : Demand) : Prop :=
  demand.job.Covers path

def Stage.Covers (path : ServerPath) (stage : Stage) : Prop :=
  stage = .listing ∨ path ∈ stage.toRead

def Turn.Evicts : Turn → Prop
  | .locating _ _ => True
  | .clearing _ _ _ => True
  | _ => False

def Namespace.member? (layout : Layout) (path : ServerPath) (space : Namespace) : Option Member :=
  match space.readLock layout path with
  | .ok (some holder) => some (.of holder)
  | _ => none

namespace Namespace

variable {layout : Layout} {path : ServerPath} {space after : Namespace}

theorem member_eq_some {member : Member} : space.member? layout path = some member ↔
    ∃ holder, member = .of holder ∧ space.readLock layout path = .ok (some holder) := by
  unfold member?
  split
  · rename_i holder held
    simp [held, eq_comm]
  · rename_i unheld
    simp only [reduceCtorEq, false_iff, not_exists, not_and]
    exact fun holder _ => unheld holder

theorem member_of_held {holder : Holder} (held : space.readLock layout path = .ok (some holder)) :
    space.member? layout path = some (.of holder) := by
  simp [member?, held]

theorem member_of_unheld (unheld : space.readLock layout path = .ok none ∨
    ∃ key fault, space.readLock layout path = .error (.malformedLock key fault)) :
    space.member? layout path = none := by
  rcases unheld with free | ⟨key, fault, illegible⟩
  · simp [member?, free]
  · simp [member?, illegible]

theorem member_of_unlisted (formed : path.WellFormed) (unlisted : path ∉ space.servers layout) :
    space.member? layout path = none := by
  unfold member?
  split
  · rename_i holder held
    exact absurd (listed_of_held formed held) unlisted
  · rfl

theorem Extends.member (grown : Extends space after) (formed : path.WellFormed)
    (differs : space.member? layout path ≠ after.member? layout path) :
    ∃ (index : Nat) (change : Change), space.published.size ≤ index ∧
      after.published[index]? = some change ∧ Demand.of? layout change = some (.check path) := by
  have edited : ¬ ∀ key, layout.place key = .server path → space.nodes[key]? = after.nodes[key]? := by
    intro same
    apply differs
    unfold member?
    rw [readLock_congr formed same]
  obtain ⟨key, edited⟩ := Classical.not_forall.mp edited
  obtain ⟨placed, edited⟩ := Classical.not_imp.mp edited
  obtain ⟨index, change, late, found, spelt⟩ := grown.told key edited
  refine ⟨index, change, late, found, ?_⟩
  simp [Demand.of?, spelt, placed]

end Namespace

namespace Turns

def Visits (path : ServerPath) (turns : Turns Namespace) : Prop :=
  ∃ ticket stage delta, turns.current = some (ticket, .pass ⟨stage, delta⟩) ∧ stage.Covers path

def Failing (turns : Turns Namespace) : Prop :=
  ∃ ticket error delta, turns.current = some (ticket, .pass ⟨.reporting (some error), delta⟩) ∨
    turns.current = some (ticket, .telling delta (some error))

structure Peaceful (turns : Turns Namespace) : Prop where
  waiting : ∀ entry ∈ turns.waiting, ¬ entry.2.Evicts
  current : ∀ ticket turn, turns.current = some (ticket, turn) → ¬ turn.Evicts

def Right (layout : Layout) (path : ServerPath) (turns : Turns Namespace) : Prop :=
  turns.roster.members[path]? = turns.space.member? layout path

theorem reporting_covers {path : ServerPath} {failure : Option CoordinationError} :
    ¬ (Stage.reporting failure).Covers path := by
  simp [Stage.Covers, Stage.toRead]

end Turns

namespace Following

/-- A look at a path is on its way. -/
inductive Coming (layout : Layout) (turns : Turns Namespace) (tracking : Tracking)
    (path : ServerPath) : Prop where
  | unread (position index : Nat) (change : Change) (demand : Demand)
      (stands : tracking.watcher.position? = some position) (late : position ≤ index)
      (found : turns.space.published[index]? = some change)
      (asks : Demand.of? layout change = some demand) (covers : demand.Covers path)
  | held (demand : Demand) (position : Nat) (sending : tracking.watcher = .sending demand position)
      (covers : demand.Covers path)
  | queued (demand : Demand) (member : demand ∈ tracking.queue) (covers : demand.Covers path)
  | waiting (ticket : Nat) (job : Job) (working : tracking.working = some ticket)
      (member : (ticket, job) ∈ turns.waiting) (covers : job.Covers path)
  | visiting (visits : turns.Visits path)

/-- A full scan is on its way, and no eviction comes after it. -/
inductive Scheduled (line : List (Nat × Job)) (tracking : Tracking) : Prop where
  | held (position : Nat) (sending : tracking.watcher = .sending .scan position)
  | queued (member : .scan ∈ tracking.queue)
  | waiting (ticket : Nat) (before after : List (Nat × Job))
      (working : tracking.working = some ticket) (order : line = before ++ (ticket, .scan) :: after)
      (last : ∀ entry ∈ after, ¬ entry.2.Evicts)

def Covered (layout : Layout) (turns : Turns Namespace) (tracking : Tracking) : Prop :=
  Scheduled turns.waiting tracking ∨ (turns.Peaceful ∧ ∀ path : ServerPath, path.WellFormed →
    turns.Right layout path ∨ Coming layout turns tracking path)

variable {layout : Layout} {turns next : Turns Namespace} {tracking : Tracking}
  {path : ServerPath}

theorem Coming.through (coming : Coming layout turns tracking path)
    (kept : ∀ (index : Nat) (change : Change), turns.space.published[index]? = some change →
      next.space.published[index]? = some change)
    (waiting : ∀ entry ∈ turns.waiting, entry.2.Covers path →
      entry ∈ next.waiting ∨ next.Visits path)
    (visiting : turns.Visits path → next.Visits path ∨ next.Right layout path) :
    next.Right layout path ∨ Coming layout next tracking path := by
  cases coming with
  | unread position index change demand stands late found asks covers =>
    exact .inr (.unread position index change demand stands late (kept index change found) asks covers)
  | held demand position sending covers => exact .inr (.held demand position sending covers)
  | queued demand member covers => exact .inr (.queued demand member covers)
  | waiting ticket job working member covers =>
    rcases waiting (ticket, job) member covers with still | begun
    · exact .inr (.waiting ticket job working still covers)
    · exact .inr (.visiting begun)
  | visiting visits =>
    rcases visiting visits with still | right
    · exact .inr (.visiting still)
    · exact .inl right

theorem right_extends {position : Nat} (stands : tracking.watcher.position? = some position)
    (seen : position ≤ turns.space.published.size) (formed : path.WellFormed)
    (grown : Namespace.Extends turns.space next.space)
    (members : next.roster.members[path]? = turns.roster.members[path]?)
    (right : turns.Right layout path) :
    next.Right layout path ∨ Coming layout next tracking path := by
  by_cases same : turns.space.member? layout path = next.space.member? layout path
  · apply Or.inl
    unfold Turns.Right at right ⊢
    rw [members, right, same]
  · obtain ⟨index, change, late, found, asks⟩ := grown.member formed same
    exact .inr (.unread position index change _ stands (Nat.le_trans seen late) found asks rfl)

theorem Scheduled.append {line : List (Nat × Job)} (scheduled : Scheduled line tracking)
    {entry : Nat × Job} (harmless : ¬ entry.2.Evicts) : Scheduled (line ++ [entry]) tracking := by
  cases scheduled with
  | held position sending => exact .held position sending
  | queued member => exact .queued member
  | waiting ticket before after working order last =>
    refine .waiting ticket before (after ++ [entry]) working (by simp [order]) ?_
    intro other member
    rcases List.mem_append.mp member with old | new
    · exact last other old
    · rw [List.mem_singleton.mp new]
      exact harmless

theorem Scheduled.pop {ticket : Nat} {job : Job} {rest : List (Nat × Job)}
    (scheduled : Scheduled ((ticket, job) :: rest) tracking) :
    Scheduled rest tracking ∨ (job = .scan ∧ ∀ entry ∈ rest, ¬ entry.2.Evicts) := by
  cases scheduled with
  | held position sending => exact .inl (.held position sending)
  | queued member => exact .inl (.queued member)
  | waiting holder before after working order last =>
    cases before with
    | nil =>
      cases order
      exact .inr ⟨rfl, last⟩
    | cons first before =>
      cases order
      exact .inl (.waiting holder before after working rfl last)

/-- An answer to the pass at work leaves every path right or covered, unless the pass fails. -/
theorem covered_asked {now ticket position : Nat} {stage : Stage} {delta : Delta}
    {result : Stage × Work} (stands : tracking.watcher.position? = some position)
    (seen : position ≤ turns.space.published.size) (members : turns.roster.Formed)
    (current : turns.current = some (ticket, .pass ⟨stage, delta⟩))
    (asked : Pass.Asked (Namespace.coordinator layout) now ⟨turns.roster, delta⟩ turns.space
      next.space stage result)
    (sound : ∀ error, result.1 ≠ .reporting (some error))
    (roster : next.roster = result.2.roster) (line : next.waiting = turns.waiting)
    (further : next.current = some (ticket, .pass ⟨result.1, result.2.delta⟩))
    (formed : path.WellFormed)
    (before : turns.Right layout path ∨ Coming layout turns tracking path) :
    next.Right layout path ∨ Coming layout next tracking path := by
  have grown := (Namespace.asked_extends asked).1
  -- what holds of a path that this answer is not about
  have aside (same : result.2.roster.members[path]? = turns.roster.members[path]?)
      (covers : stage.Covers path → result.1.Covers path) :
      next.Right layout path ∨ Coming layout next tracking path := by
    rcases before with right | coming
    · exact right_extends stands seen formed grown (roster ▸ same) right
    · apply coming.through grown.kept (fun entry member _ => .inl (line ▸ member))
      intro other_pass
      obtain ⟨holder, other, changes, at_work, ahead⟩ := other_pass
      rw [current] at at_work
      cases at_work
      exact .inl ⟨ticket, _, _, further, covers ahead⟩
  cases asked with
  | unlisted error answer => exact absurd rfl (sound error)
  | listed listed answer =>
    obtain ⟨still, shown⟩ := Namespace.list_coordinator answer
    have shown := shown listed rfl
    by_cases there : path ∈ listed
    · refine .inr (.visiting ⟨ticket, _, _, further, .inr ?_⟩)
      rw [Pass.toRead_proceed]
      exact Std.ExtTreeSet.mem_toList.mpr there
    · apply Or.inl
      have gone : next.roster.members[path]? = none := by
        rw [roster, Work.keepListed_at]
        simp [there]
      rw [Turns.Right, gone, still, Namespace.member_of_unlisted formed (shown ▸ there)]
  | unread other later error answer legible => exact absurd rfl (sound error)
  | free other later found answer unheld =>
    obtain ⟨still, reason⟩ := Namespace.readLock_coordinator answer
    obtain ⟨same, ahead⟩ := Pass.unlocked_visit now other later ⟨turns.roster, delta⟩
    by_cases here : path = other
    · subst here
      apply Or.inl
      have gone : next.roster.members[path]? = none := by
        rw [roster, same.members]
        exact Work.lose_at _ path
      have free : next.space.member? layout path = none := by
        rw [still]
        rcases reason with ⟨reason, offline⟩ | read
        · rcases unheld with free | ⟨key, fault, illegible⟩
          · rw [offline] at free
            cases free
          · rw [offline] at illegible
            cases illegible
        · exact Namespace.member_of_unheld (read ▸ unheld)
      rw [Turns.Right, gone, free]
    · refine aside ?_ ?_
      · rw [same.members]
        exact (Work.lose_visit _ other).others here
      · intro awaited
        rcases awaited with listing | member
        · cases listing
        · have rest : path ∈ later.getD [] := (List.mem_cons.mp member).resolve_left here
          rcases ahead with next | next | ⟨rfl, next⟩ <;> rw [next]
          · exact .inr rest
          · exact .inr ((Pass.toRead_proceed later).symm ▸ rest)
          · cases rest
  | held other later holder answer =>
    obtain ⟨still, reason⟩ := Namespace.readLock_coordinator answer
    by_cases here : path = other
    · subst here
      apply Or.inl
      have held : turns.space.readLock layout path = .ok (some holder) := by
        rcases reason with ⟨reason, offline⟩ | read
        · cases offline
        · exact read.symm
      rw [Turns.Right, roster, Work.hold_at members, still, Namespace.member_of_held held]
    · apply aside ((Work.hold_visit _ other holder).others here)
      intro ahead
      rcases ahead with listing | member
      · cases listing
      · have rest : path ∈ later.getD [] := (List.mem_cons.mp member).resolve_left here
        exact .inr ((Pass.toRead_proceed later).symm ▸ rest)
  | unprobed other error answer => exact absurd rfl (sound error)
  | gone other answer =>
    apply aside rfl
    intro ahead
    rcases ahead with listing | member <;> contradiction
  | there other answer =>
    obtain ⟨same, _⟩ := Pass.reclaim_same now other none ⟨turns.roster, delta⟩
    apply aside (by rw [same.members])
    intro ahead
    rcases ahead with listing | member <;> contradiction
  | deleted other later outcome answer settles =>
    apply aside rfl
    intro ahead
    rcases ahead with listing | member
    · cases listing
    · exact .inr ((Pass.toRead_proceed later).symm ▸ member)
  | undeleted other later error answer => exact absurd rfl (sound error)

theorem failing_step {move : Turns.Move}
    (step : Turns.Step (Namespace.coordinator layout) turns move next)
    (calm : turns.disturbed move = false) (failing : turns.Failing) : next.Failing := by
  obtain ⟨holder, failure, changes, at_work⟩ := failing
  have busy : turns.current ≠ none := by
    rcases at_work with at_work | at_work <;> simp [at_work]
  have passing {ticket : Nat} {turn : Turn} (current : turns.current = some (ticket, turn)) :
      turn = .pass ⟨.reporting (some failure), changes⟩ ∨ turn = .telling changes (some failure) := by
    rcases at_work with at_work | at_work
    · rw [current] at at_work
      cases at_work
      exact .inl rfl
    · rw [current] at at_work
      cases at_work
      exact .inr rfl
  cases step with
  | served number snapshot cached => exact ⟨holder, failure, changes, at_work⟩
  | queued job waits => exact ⟨holder, failure, changes, at_work⟩
  | begun ticket job rest pass idle first asks => exact absurd idle busy
  | evicting ticket i path rest idle first found => exact absurd idle busy
  | unknown ticket i rest idle first absent => exact absurd idle busy
  | read ticket rest idle first => exact absurd idle busy
  | sought ticket lookup rest idle first => exact absurd idle busy
  | told now ticket reason delta current =>
    rcases passing current with same | same <;> cases same
    exact ⟨ticket, failure, changes, .inr rfl⟩
  | asked now ticket stage delta result after current asked =>
    rcases passing current with same | same <;> cases same
    cases asked
  | unlisted now ticket i path error after current answer =>
    rcases passing current with same | same <;> cases same
  | located now ticket i path target listed after current answer unique =>
    rcases passing current with same | same <;> cases same
  | ambiguous now ticket i path listed after current answer several =>
    rcases passing current with same | same <;> cases same
  | uncleared now ticket i path target error after current answer =>
    rcases passing current with same | same <;> cases same
  | cleared now ticket i path target after current answer =>
    rcases passing current with same | same <;> cases same
  | left ticket delta reason current =>
    rcases passing current with same | same <;> cases same
    simp [Turns.disturbed, current] at calm
  | collected ticket => exact ⟨holder, failure, changes, at_work⟩

theorem harmless_of_calm {job : Job} (calm : turns.disturbed (.come job) = false) :
    ¬ job.Evicts := by
  cases job <;> simp_all [Turns.disturbed, Job.Evicts]

theorem scheduled_step {move : Turns.Move}
    (step : Turns.Step (Namespace.coordinator layout) turns move next)
    (calm : turns.disturbed move = false) (scheduled : Scheduled turns.waiting tracking) :
    Covered layout next tracking := by
  -- a job that is no scan leaves the scan behind it in line
  have past {ticket : Nat} {job : Job} {rest : List (Nat × Job)}
      (first : turns.waiting = (ticket, job) :: rest) (other : job ≠ .scan) :
      Scheduled rest tracking := by
    rw [first] at scheduled
    exact scheduled.pop.resolve_right fun same => other same.1
  cases step with
  | served number snapshot cached => exact .inl scheduled
  | queued job waits => exact .inl (scheduled.append (harmless_of_calm calm))
  | begun ticket job rest pass idle first asks =>
    rw [first] at scheduled
    rcases scheduled.pop with later | ⟨rfl, harmless⟩
    · exact .inl later
    · cases asks
      refine .inr ⟨⟨harmless, ?_⟩, fun path formed => .inr (.visiting ?_)⟩
      · intro holder turn same
        cases same
        exact id
      · exact ⟨ticket, .listing, .empty, rfl, .inl rfl⟩
  | evicting ticket i path rest idle first found => exact .inl (past first (by simp))
  | unknown ticket i rest idle first absent => exact .inl (past first (by simp))
  | read ticket rest idle first => exact .inl (past first (by simp))
  | sought ticket lookup rest idle first => exact .inl (past first (by simp))
  | told now ticket failure delta current => exact .inl scheduled
  | asked now ticket stage delta result after current asked => exact .inl scheduled
  | unlisted now ticket i path error after current answer => exact .inl scheduled
  | located now ticket i path target listed after current answer unique => exact .inl scheduled
  | ambiguous now ticket i path listed after current answer several => exact .inl scheduled
  | uncleared now ticket i path target error after current answer => exact .inl scheduled
  | cleared now ticket i path target after current answer => exact .inl scheduled
  | left ticket delta failure current => exact .inl scheduled
  | collected ticket => exact .inl scheduled

/-- Without evictions, a move leaves every path right or covered. -/
theorem peaceful_step {move : Turns.Move} {position : Nat}
    (stands : tracking.watcher.position? = some position)
    (seen : position ≤ turns.space.published.size) (members : turns.roster.Formed)
    (step : Turns.Step (Namespace.coordinator layout) turns move next)
    (calm : turns.disturbed move = false) (sound : ¬ next.Failing) (peaceful : turns.Peaceful)
    (covered : ∀ path : ServerPath, path.WellFormed →
      turns.Right layout path ∨ Coming layout turns tracking path) :
    next.Peaceful ∧ ∀ path : ServerPath, path.WellFormed →
      next.Right layout path ∨ Coming layout next tracking path := by
  obtain ⟨waiting, current⟩ := peaceful
  -- a move that asks nothing and leaves the members alone
  have aside (space : next.space = turns.space)
      (members : next.roster.members = turns.roster.members)
      (line : ∀ entry ∈ turns.waiting, ∀ path : ServerPath, entry.2.Covers path →
        entry ∈ next.waiting ∨ next.Visits path)
      (visiting : ∀ path, turns.Visits path → next.Visits path) :
      ∀ path : ServerPath, path.WellFormed →
        next.Right layout path ∨ Coming layout next tracking path := by
    intro path formed
    rcases covered path formed with right | coming
    · apply Or.inl
      rw [Turns.Right, members, space]
      exact right
    · refine coming.through ?_ (fun entry member => line entry member path)
        fun visits => .inl (visiting path visits)
      rw [space]
      exact fun _ _ found => found
  -- a job that covers nothing leaves the line
  have past {ticket : Nat} {job : Job} {rest : List (Nat × Job)}
      (first : turns.waiting = (ticket, job) :: rest) (idle : ∀ path, ¬ job.Covers path) :
      ∀ entry ∈ turns.waiting, ∀ path : ServerPath, entry.2.Covers path → entry ∈ rest := by
    intro entry member path covers
    rw [first] at member
    rcases List.mem_cons.mp member with rfl | later
    · exact absurd covers (idle path)
    · exact later
  have rest {ticket : Nat} {job : Job} {rest : List (Nat × Job)}
      (first : turns.waiting = (ticket, job) :: rest) : ∀ entry ∈ rest, ¬ entry.2.Evicts :=
    fun entry member => waiting entry (first ▸ List.mem_cons_of_mem _ member)
  have unvisited (idle : turns.current = none) (path : ServerPath) : ¬ turns.Visits path := by
    intro visited
    obtain ⟨ticket, stage, delta, at_work, _⟩ := visited
    rw [idle] at at_work
    cases at_work
  cases step with
  | served number snapshot cached =>
    exact ⟨⟨waiting, current⟩, aside rfl rfl (fun _ member _ _ => .inl member) fun _ => id⟩
  | queued job waits =>
    refine ⟨⟨?_, current⟩, aside rfl rfl ?_ fun _ => id⟩
    · intro entry member
      rcases List.mem_append.mp member with old | new
      · exact waiting entry old
      · rw [List.mem_singleton.mp new]
        exact harmless_of_calm calm
    · exact fun entry member _ _ => .inl (List.mem_append_left _ member)
  | begun ticket job later pass idle first asks =>
    refine ⟨⟨rest first, ?_⟩, aside rfl rfl ?_ fun path visits => absurd visits (unvisited idle path)⟩
    · intro holder turn same
      cases same
      exact id
    · intro entry member path covers
      rw [first] at member
      rcases List.mem_cons.mp member with rfl | member
      · refine .inr ⟨ticket, pass.stage, pass.delta, rfl, ?_⟩
        cases job with
        | scan =>
          cases asks
          exact .inl rfl
        | check other =>
          cases asks
          cases covers
          exact .inr List.mem_cons_self
        | _ => cases asks
      · exact .inl member
  | evicting ticket i path later idle first found =>
    exact absurd trivial (waiting (ticket, .evict i) (first ▸ List.mem_cons_self))
  | unknown ticket i later idle first absent =>
    exact absurd trivial (waiting (ticket, .evict i) (first ▸ List.mem_cons_self))
  | read ticket later idle first =>
    refine ⟨⟨rest first, by simp [Turns.finish]⟩, aside rfl (Roster.snapshot_members _) ?_ ?_⟩
    · exact fun entry member path covers => .inl (past first (fun _ => id) entry member path covers)
    · exact fun path visits => absurd visits (unvisited idle path)
  | sought ticket lookup later idle first =>
    refine ⟨⟨rest first, by simp [Turns.finish]⟩, aside rfl rfl ?_ ?_⟩
    · exact fun entry member path covers => .inl (past first (fun _ => id) entry member path covers)
    · exact fun path visits => absurd visits (unvisited idle path)
  | told now ticket failure delta at_work =>
    refine ⟨⟨waiting, ?_⟩, aside rfl rfl (fun _ member _ _ => .inl member) ?_⟩
    · intro holder turn same
      cases same
      exact id
    · intro path visited
      obtain ⟨holder, stage, changes, same, covers⟩ := visited
      rw [at_work] at same
      cases same
      exact absurd covers Turns.reporting_covers
  | asked now ticket stage delta result after at_work asked =>
    refine ⟨⟨waiting, ?_⟩, ?_⟩
    · intro holder turn same
      cases same
      exact id
    · intro path formed
      refine covered_asked stands seen members at_work asked ?_ rfl rfl rfl formed
        (covered path formed)
      intro error failed
      exact sound ⟨ticket, error, result.2.delta, .inl (failed ▸ rfl)⟩
  | unlisted now ticket i path error after at_work answer => exact absurd trivial (current _ _ at_work)
  | located now ticket i path target listed after at_work answer unique =>
    exact absurd trivial (current _ _ at_work)
  | ambiguous now ticket i path listed after at_work answer several =>
    exact absurd trivial (current _ _ at_work)
  | uncleared now ticket i path target error after at_work answer =>
    exact absurd trivial (current _ _ at_work)
  | cleared now ticket i path target after at_work answer => exact absurd trivial (current _ _ at_work)
  | left ticket delta failure at_work =>
    refine ⟨⟨waiting, by simp [Turns.finish]⟩, aside rfl rfl (fun _ member _ _ => .inl member) ?_⟩
    intro path visited
    obtain ⟨holder, stage, changes, same, covers⟩ := visited
    rw [at_work] at same
    cases same
  | collected ticket =>
    exact ⟨⟨waiting, current⟩, aside rfl rfl (fun _ member _ _ => .inl member) fun _ => id⟩

/-- Every move at the roster leaves the paths covered that it does not put right. -/
theorem covered_step {move : Turns.Move} {position : Nat}
    (stands : tracking.watcher.position? = some position)
    (seen : position ≤ turns.space.published.size) (members : turns.roster.Formed)
    (step : Turns.Step (Namespace.coordinator layout) turns move next)
    (calm : turns.disturbed move = false) (sound : ¬ next.Failing)
    (covered : Covered layout turns tracking) : Covered layout next tracking := by
  rcases covered with scheduled | ⟨peaceful, covered⟩
  · exact scheduled_step step calm scheduled
  · exact .inr (peaceful_step stands seen members step calm sound peaceful covered)

end Following
end TabletRoster
