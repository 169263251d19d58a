import TabletRoster.Proofs.Following.Formed

namespace TabletRoster

theorem PathSet.nodup_toList (paths : PathSet) : paths.toList.Nodup := by
  refine List.Pairwise.imp ?_ paths.distinct_toList
  intro path other apart same
  exact apart (by rw [same]; exact Std.ReflCmp.compare_self)

/-- The member that stands at a path once its lock is held: the former one with the group of the
lock if it is the same instance, else the holder. -/
def Member.next (former : Option Member) (holder : Holder) : Member :=
  match former with
  | none => .of holder
  | some former =>
    if former.server = holder.instance then { former with group := holder.group } else .of holder

theorem Member.next_server (former : Option Member) (holder : Holder) :
    (Member.next former holder).server = holder.instance := by
  cases former with
  | none => rfl
  | some former =>
    simp only [Member.next]
    split
    · assumption
    · rfl

def Roster.Connected (roster : Roster) : Prop :=
  ∀ (path : ServerPath) (member : Member), roster.members[path]? = some member →
    member.connection = ⟨member.server.address⟩

theorem Member.next_connected {roster : Roster} (connected : roster.Connected) (path : ServerPath)
    (holder : Holder) : Member.next roster.members[path]? holder = .of holder := by
  cases found : roster.members[path]? with
  | none => rfl
  | some former =>
    simp only [Member.next]
    split
    · rename_i same
      rw [Member.of, ← same, ← connected path former found]
    · rfl

namespace StalePaths

variable {stale : StalePaths} {path other : ServerPath} {now : Nat}

def Due (stale : StalePaths) (now : Nat) (path : ServerPath) : Prop :=
  ∃ since, stale.firstSeen[path]? = some since ∧ stale.grace < now - since

theorem getElem_forget (stale : StalePaths) (path other : ServerPath) :
    (stale.forget path).firstSeen[other]? =
      if other = path then none else stale.firstSeen[other]? := by
  simp only [forget, Std.ExtTreeMap.getElem?_erase, Std.compare_eq_iff_eq, eq_comm (a := other)]

theorem getElem_retain (stale : StalePaths) (present : PathSet) (path : ServerPath) :
    (stale.retain present).firstSeen[path]? =
      if path ∈ present then stale.firstSeen[path]? else none := by
  simp only [retain, Std.ExtTreeMap.getElem?_filter']
  by_cases there : path ∈ present <;> cases stale.firstSeen[path]? <;> simp [there]

theorem getElem_observe (stale : StalePaths) (path : ServerPath) (now : Nat) (other : ServerPath) :
    (stale.observe path now).2.firstSeen[other]? =
      if other = path then some ((stale.firstSeen[path]?).getD now)
      else stale.firstSeen[other]? := by
  unfold observe
  split
  · rename_i absent
    simp only [absent, Option.getD_none, Std.ExtTreeMap.getElem?_insert, Std.compare_eq_iff_eq,
      eq_comm (a := other)]
  · rename_i since found
    by_cases same : other = path <;> simp [same, found]

@[simp] theorem grace_observe (stale : StalePaths) (path : ServerPath) (now : Nat) :
    (stale.observe path now).2.grace = stale.grace := by
  unfold observe
  split <;> rfl

end StalePaths

namespace Work

variable {work : Work} {path : ServerPath}

def observe (work : Work) (path : ServerPath) (now : Nat) : Work :=
  { work with roster := { work.roster with stale := (work.roster.stale.observe path now).2 } }

theorem stale_lose (work : Work) (path : ServerPath) :
    (work.lose path).roster.stale = work.roster.stale := by
  unfold lose
  split <;> rfl

theorem stale_hold (work : Work) (path : ServerPath) (holder : Holder) :
    (work.hold path holder).roster.stale = work.roster.stale.forget path := by
  simp only [hold]
  split
  · rfl
  · split
    · split <;> rfl
    · rfl

theorem stale_keepListed (work : Work) (listed : PathSet) :
    (work.keepListed listed).roster.stale = work.roster.stale.retain listed := by
  have kept (paths : List ServerPath) (work : Work) :
      (paths.foldl lose work).roster.stale = work.roster.stale := by
    induction paths generalizing work with
    | nil => rfl
    | cons path rest ih => rw [List.foldl_cons, ih, stale_lose]
  exact kept _ _

theorem hold_next (work : Work) (path : ServerPath) (holder : Holder) :
    (work.hold path holder).roster.members[path]? =
      some (Member.next work.roster.members[path]? holder) := by
  simp only [hold]
  split
  · rename_i absent
    have absent : work.roster.members[path]? = none := absent
    rw [absent]
    exact Std.ExtTreeMap.getElem?_insert_self
  · rename_i former found
    have found : work.roster.members[path]? = some former := found
    simp only [Member.next, found]
    split
    · rename_i same
      split
      · rename_i group
        rw [← group]
        exact found
      · exact Std.ExtTreeMap.getElem?_insert_self
    · exact Std.ExtTreeMap.getElem?_insert_self

end Work

def Stage.unsettled : Stage → List ServerPath
  | .reading path later => path :: later.getD []
  | .probing path => [path]
  | .deleting path later => path :: later.getD []
  | _ => []

namespace Pass

theorem unsettled_proceed (later : Option (List ServerPath)) :
    (proceed later).unsettled = later.getD [] := by
  unfold proceed
  split
  · rfl
  · rename_i done
    cases later with
    | none => rfl
    | some later =>
      cases later with
      | nil => rfl
      | cons path rest => exact absurd rfl (done path rest)

variable {now : Nat} {path : ServerPath} {later : Option (List ServerPath)} {work : Work}

/-- What holds of the paths that a pass is not done with holds of those that an answer leaves, if
it holds of those that a listing brings. -/
theorem unsettled_asked {σ : Type} {service : Coordinator σ} {space after : σ} {stage : Stage}
    {next : Stage × Work} {holds : ServerPath → Prop}
    (before : ∀ path ∈ stage.unsettled, holds path)
    (brought : stage = .listing → ∀ listed, service.list space = (.ok listed, after) →
      ∀ path ∈ listed, holds path)
    (asked : Asked service now work space after stage next) :
    ∀ path ∈ next.1.unsettled, holds path := by
  cases asked with
  | listed listed answer =>
    rw [unsettled_proceed]
    intro path member
    exact brought rfl listed answer path (Std.ExtTreeSet.mem_toList.mp member)
  | free path later found answer unheld =>
    obtain ⟨_, next⟩ := unlocked_visit now path later work
    rcases next with next | next | ⟨rfl, next⟩ <;> rw [next]
    · exact before
    · rw [unsettled_proceed]
      exact fun other member => before other (List.mem_cons_of_mem _ member)
    · exact fun other member => before other (by simpa [Stage.unsettled] using member)
  | held path later holder answer =>
    rw [unsettled_proceed]
    exact fun other member => before other (List.mem_cons_of_mem _ member)
  | there path answer =>
    obtain ⟨_, next⟩ := reclaim_same now path none work
    rcases next with next | next <;> rw [next]
    · exact before
    · simp [proceed, Stage.unsettled]
  | deleted path later outcome answer settles =>
    rw [unsettled_proceed]
    exact fun other member => before other (List.mem_cons_of_mem _ member)
  | _ => simp [Stage.unsettled]

theorem reclaim_due (due : work.roster.stale.Due now path) :
    reclaim now path later work = (.deleting path later, work) := by
  obtain ⟨since, found, long⟩ := due
  simp [reclaim, StalePaths.observe, found, StalePaths.judge, long]

theorem reclaim_undue (undue : ¬ work.roster.stale.Due now path) :
    reclaim now path later work = (proceed later, work.observe path now) := by
  unfold StalePaths.Due at undue
  cases found : work.roster.stale.firstSeen[path]? with
  | none => simp [reclaim, Work.observe, StalePaths.observe, found]
  | some since =>
    have short : ¬ work.roster.stale.grace < now - since := fun long => undue ⟨since, found, long⟩
    simp [reclaim, Work.observe, StalePaths.observe, found, StalePaths.judge, short]

end Pass
end TabletRoster
