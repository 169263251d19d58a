import TabletRoster.Proofs.Subtrees
import TabletRoster.Proofs.Visits

namespace TabletRoster

variable {σ : Type}

namespace Turns

inductive Reachable (service : Coordinator σ) (grace : Nat) : Turns σ → Prop where
  | started (space : σ) : Reachable service grace (start (.empty grace) space)
  | moved {turns next : Turns σ} {move : Move} (before : Reachable service grace turns)
      (moved : turns.move? service move = some next) : Reachable service grace next
  | cancelled {turns : Turns σ} (ticket : Nat) (before : Reachable service grace turns) :
      Reachable service grace (turns.cancel ticket)
  | changed {turns : Turns σ} (change : σ → σ) (before : Reachable service grace turns) :
      Reachable service grace { turns with space := change turns.space }

structure Resting (turns : Turns σ) : Prop where
  idle : turns.current = none
  alone : turns.waiting = []

variable {service : Coordinator σ} {grace : Nat} {turns next : Turns σ}

theorem current_cancel {ticket holder : Nat} {turn : Turn}
    (current : (turns.cancel ticket).current = some (holder, turn)) :
    turns.current = some (holder, turn) := by
  simp only [cancel, Option.filter_eq_some_iff] at current
  exact current.1

theorem Orderly.cancel (orderly : turns.Orderly) (ticket : Nat) :
    (turns.cancel ticket).Orderly := by
  have current : (turns.cancel ticket).current.toList.Sublist turns.current.toList := by
    simp only [Turns.cancel]
    cases turns.current with
    | none => exact .refl _
    | some holder =>
      rw [Option.filter_some]
      split
      · exact .refl _
      · exact List.nil_sublist _
  have fewer : (turns.cancel ticket).outstanding.Sublist turns.outstanding :=
    .append (current.map _) (.append (List.filter_sublist.map _) (List.filter_sublist.map _))
  exact ⟨fun held member => orderly.issued held (fewer.subset member), orderly.once.sublist fewer⟩

theorem Reachable.orderly (reachable : turns.Reachable service grace) : turns.Orderly := by
  induction reachable with
  | started space => exact orderly_start _ space
  | moved before moved ih => exact orderly_step ih (step_of_move moved)
  | cancelled ticket before ih => exact ih.cancel ticket
  | changed change before ih => exact ⟨ih.issued, ih.once⟩

end Turns

namespace Work

variable {work after : Work} {path : ServerPath}

theorem Same.connected (same : Same work after) (connected : work.roster.Connected) :
    after.roster.Connected := by
  intro path member found
  rw [same.members] at found
  exact connected path member found

theorem lose_connected (connected : work.roster.Connected) (path : ServerPath) :
    (work.lose path).roster.Connected := by
  intro other member found
  by_cases same : other = path
  · rw [same, lose_at] at found
    cases found
  · rw [(lose_visit work path).others same] at found
    exact connected other member found

theorem hold_connected (connected : work.roster.Connected) (path : ServerPath) (holder : Holder) :
    (work.hold path holder).roster.Connected := by
  intro other member found
  by_cases same : other = path
  · rw [same, hold_next, Member.next_connected connected] at found
    cases found
    rfl
  · rw [(hold_visit work path holder).others same] at found
    exact connected other member found

end Work

theorem Roster.Connected.drop {roster : Roster} (connected : roster.Connected) (path : ServerPath) :
    (roster.drop path).Connected := by
  intro other member found
  simp only [Roster.drop, Std.ExtTreeMap.getElem?_erase] at found
  split at found
  · cases found
  · exact connected other member found

namespace Pass

variable {service : Coordinator σ} {now : Nat} {work : Work} {space after : σ} {stage : Stage}
  {next : Stage × Work}

theorem asked_connected (connected : work.roster.Connected)
    (asked : Asked service now work space after stage next) : next.2.roster.Connected := by
  cases asked with
  | listed listed answer =>
    intro path member found
    rw [Work.keepListed_at] at found
    split at found
    · exact connected path member found
    · cases found
  | free path later found answer unheld =>
    exact (unlocked_visit now path later work).1.connected (Work.lose_connected connected path)
  | held path later holder answer => exact Work.hold_connected connected path holder
  | there path answer => exact (reclaim_same now path none work).1.connected connected
  | _ => exact connected

theorem asked_grace (asked : Asked service now work space after stage next) :
    next.2.roster.stale.grace = work.roster.stale.grace := by
  have reclaimed (path : ServerPath) (later : Option (List ServerPath)) (work : Work) :
      (reclaim now path later work).2.roster.stale.grace = work.roster.stale.grace := by
    by_cases due : work.roster.stale.Due now path
    · rw [reclaim_due due]
    · rw [reclaim_undue due]
      exact StalePaths.grace_observe _ path now
  cases asked with
  | listed listed answer => simp [Work.stale_keepListed, StalePaths.retain]
  | free path later found answer unheld =>
    unfold unlocked
    split
    · rw [reclaimed, Work.stale_lose]
    · rw [Work.stale_lose]
  | held path later holder answer => simp [Work.stale_hold, StalePaths.forget]
  | there path answer => exact reclaimed path none work
  | _ => rfl

end Pass

namespace Turns

variable {service : Coordinator σ} {grace : Nat} {turns next : Turns σ} {move : Move}

theorem connected_step (connected : turns.roster.Connected) (step : Step service turns move next) :
    next.roster.Connected := by
  cases step with
  | evicting ticket i path rest idle first found => exact connected.drop path
  | read ticket rest idle first =>
    intro path member found
    have found : turns.roster.snapshot.2.members[path]? = some member := found
    rw [Roster.snapshot_members] at found
    exact connected path member found
  | asked now ticket stage delta next after current asked =>
    exact Pass.asked_connected connected asked
  | _ => exact connected

theorem Reachable.connected (reachable : turns.Reachable service grace) :
    turns.roster.Connected := by
  induction reachable with
  | started space => simp [Roster.Connected, start, Roster.empty]
  | moved before moved ih => exact connected_step ih (step_of_move moved)
  | cancelled ticket before ih => exact ih
  | changed change before ih => exact ih

theorem Reachable.stepped (reachable : turns.Reachable service grace) {now : Nat}
    (stepped : turns.step? service now = some next) : next.Reachable service grace := by
  simp only [step?, Option.orElse_eq_orElse, Option.orElse_eq_or, Option.or_eq_some_iff] at stepped
  rcases stepped with left | ⟨_, asked | ⟨_, entered⟩⟩
  · exact @moved σ service grace turns next .leave reachable left
  · exact @moved σ service grace turns next (.ask now) reachable asked
  · exact @moved σ service grace turns next .enter reachable entered

theorem Reachable.performed (reachable : turns.Reachable service grace) (now fuel : Nat)
    (job : Job) : (turns.perform service now fuel job).2.Reachable service grace := by
  have ran (ticket fuel : Nat) {turns : Turns σ} (reachable : turns.Reachable service grace) :
      (runFor service now ticket fuel turns).Reachable service grace := by
    induction fuel generalizing turns with
    | zero => exact reachable
    | succ fuel ih =>
      unfold runFor
      split
      · exact reachable
      · split
        · rename_i next stepped
          exact ih (reachable.stepped stepped)
        · exact reachable
  have came := @moved σ service grace turns _ (.come job) reachable rfl
  have ended := ran (turns.come job).1 fuel came
  exact @moved σ service grace _ _ (.collect (turns.come job).1) ended rfl

theorem grace_step (step : Step service turns move next) :
    next.roster.stale.grace = turns.roster.stale.grace := by
  cases step with
  | read ticket rest idle first =>
    show turns.roster.snapshot.2.stale.grace = _
    unfold Roster.snapshot
    split <;> rfl
  | asked now ticket stage delta next after current asked => exact Pass.asked_grace asked
  | _ => rfl

theorem Reachable.same_grace (reachable : turns.Reachable service grace) :
    turns.roster.stale.grace = grace := by
  induction reachable with
  | started space => rfl
  | moved before moved ih => exact (grace_step (step_of_move moved)).trans ih
  | cancelled ticket before ih => exact ih
  | changed change before ih => exact ih

end Turns

def Stage.Plain : Stage → Prop
  | .reading path (some later) | .deleting path (some later) =>
    ∀ other ∈ path :: later, other.Unslashed
  | _ => True

namespace Pass

theorem plain_proceed {later : Option (List ServerPath)}
    (plain : ∀ rest, later = some rest → ∀ other ∈ rest, other.Unslashed) :
    (proceed later).Plain := by
  unfold proceed
  split
  · exact plain _ rfl
  · trivial

theorem asked_space {layout : Layout} {now : Nat} {work : Work} {space after : Namespace}
    {stage : Stage} {next : Stage × Work}
    (asked : Asked (Namespace.coordinator layout) now work space after stage next) :
    after = space ∨ ∃ path later, stage = .deleting path later ∧
      after = (space.delete layout path).2 := by
  cases asked with
  | unlisted error answer => exact .inl (Namespace.list_coordinator answer).1
  | listed listed answer => exact .inl (Namespace.list_coordinator answer).1
  | unread path later error answer legible => exact .inl (Namespace.readLock_coordinator answer).1
  | free path later found answer unheld => exact .inl (Namespace.readLock_coordinator answer).1
  | held path later holder answer => exact .inl (Namespace.readLock_coordinator answer).1
  | unprobed path error answer => exact .inl (Namespace.contains_coordinator answer)
  | gone path answer => exact .inl (Namespace.contains_coordinator answer)
  | there path answer => exact .inl (Namespace.contains_coordinator answer)
  | deleted path later outcome answer settles =>
    exact .inr ⟨path, later, rfl, (congrArg Prod.snd answer).symm⟩
  | undeleted path later error answer unsettled =>
    exact .inr ⟨path, later, rfl, (congrArg Prod.snd answer).symm⟩

theorem asked_plain {layout : Layout} {now : Nat} {work : Work} {space after : Namespace}
    {stage : Stage} {next : Stage × Work} (plain : stage.Plain)
    (asked : Asked (Namespace.coordinator layout) now work space after stage next) :
    next.1.Plain := by
  cases asked with
  | listed listed answer =>
    refine plain_proceed fun rest same other member => ?_
    cases same
    rw [(Namespace.list_coordinator answer).2 listed rfl] at member
    exact Namespace.unslashed_of_listed (Std.ExtTreeSet.mem_toList.mp member)
  | free path later found answer unheld =>
    have rest : ∀ rest, later = some rest → ∀ other ∈ rest, other.Unslashed := by
      rintro rest rfl other member
      exact plain other (List.mem_cons_of_mem _ member)
    obtain ⟨_, next⟩ := unlocked_visit now path later work
    rcases next with next | next | ⟨rfl, next⟩ <;> rw [next]
    · cases later with
      | none => trivial
      | some later => exact plain
    · exact plain_proceed rest
    · trivial
  | held path later holder answer =>
    refine plain_proceed ?_
    rintro rest rfl other member
    exact plain other (List.mem_cons_of_mem _ member)
  | there path answer =>
    obtain ⟨_, next⟩ := reclaim_same now path none work
    rcases next with next | next <;> rw [next] <;> trivial
  | deleted path later outcome answer settles =>
    refine plain_proceed ?_
    rintro rest rfl other member
    exact plain other (List.mem_cons_of_mem _ member)
  | _ => trivial

end Pass

namespace Turns

theorem Reachable.plain {layout : Layout} {grace : Nat} {turns : Turns Namespace}
    (reachable : turns.Reachable (Namespace.coordinator layout) grace) :
    ∀ ticket stage delta, turns.current = some (ticket, .pass ⟨stage, delta⟩) → stage.Plain := by
  induction reachable with
  | started space => nofun
  | @moved turns next move before moved ih =>
    intro ticket stage delta current
    cases step_of_move moved with
    | served number snapshot cached => exact ih ticket stage delta current
    | queued job waits => exact ih ticket stage delta current
    | begun holder job rest pass idle first asks =>
      cases current
      cases job <;> cases asks <;> trivial
    | asked now holder before changes next after was asked =>
      cases current
      exact Pass.asked_plain (ih _ _ _ was) asked
    | collected owner => exact ih ticket stage delta current
    | _ => cases current
  | cancelled owner before ih =>
    exact fun ticket stage delta current => ih ticket stage delta (current_cancel current)
  | changed change before ih => exact ih

end Turns
end TabletRoster
