import TabletRoster.Proofs.Endings
import TabletRoster.Proofs.Following.Coverage

/-!
The visits of a pass over a namespace. A visit goes by the member, the clock and the keys of its
own path and leaves those of the others alone. So a tour brings each of its paths what a visit of
that path alone would have brought it at the outset.
-/
namespace TabletRoster

namespace Namespace

variable {layout : Layout} {path : ServerPath} {space after : Namespace}

def held? (layout : Layout) (path : ServerPath) (space : Namespace) : Option Holder :=
  match space.readLock layout path with
  | .ok holder => holder
  | .error _ => none

theorem member_eq_held : space.member? layout path = (space.held? layout path).map .of := by
  unfold member? held?
  split
  · rename_i holder held
    simp [held]
  · rename_i unheld
    split
    · rename_i holder read
      cases holder with
      | none => rfl
      | some holder => exact absurd read (unheld holder)
    · rfl

theorem held_of_read {holder : Option Holder}
    (read : (coordinator layout).readLock path space = (.ok holder, after)) :
    after = space ∧ space.held? layout path = holder := by
  obtain ⟨still, refused | answer⟩ := readLock_coordinator read
  · obtain ⟨reason, refused⟩ := refused
    cases refused
  · simp [still, held?, ← answer]

theorem held_of_unheld {found : Except CoordinationError (Option Holder)}
    (read : (coordinator layout).readLock path space = (found, after))
    (unheld : found = .ok none ∨ ∃ key fault, found = .error (.malformedLock key fault)) :
    after = space ∧ space.held? layout path = none := by
  obtain ⟨still, refused | answer⟩ := readLock_coordinator read
  · obtain ⟨reason, rfl⟩ := refused
    simp at unheld
  · refine ⟨still, ?_⟩
    rcases unheld with rfl | ⟨key, fault, rfl⟩ <;> simp [held?, ← answer]

theorem offline_of_unread {error : CoordinationError}
    (read : (coordinator layout).readLock path space = (.error error, after))
    (legible : ∀ key fault, error ≠ .malformedLock key fault) : space.offline = true := by
  simp only [coordinator, asking, checkOnline] at read
  split at read
  · assumption
  · simp only [bind, Except.bind, Prod.mk.injEq] at read
    unfold readLock at read
    split at read
    · cases read.1
    · split at read
      · cases read.1
        exact absurd rfl (legible _ _)
      · cases read.1

theorem held_of_delete {outcome : Except CoordinationError Unit} (plain : path.Unslashed)
    (deleted : (coordinator layout).delete path space = (outcome, after)) (other : ServerPath) :
    after.held? layout other = space.held? layout other := by
  rw [show after = (space.delete layout path).2 from congrArg Prod.snd deleted.symm]
  unfold held?
  rw [readLock_delete plain]

theorem entry_of_held {holder : Holder} (held : space.held? layout path = some holder) :
    ∃ key node, space.holder? layout path = some (key, node) ∧ space.nodes[key]? = some node ∧
      startsWith (layout.lockStem path) key := by
  unfold held? readLock at held
  cases first : space.holder? layout path with
  | none => simp [first] at held
  | some entry =>
    obtain ⟨found, starts⟩ := mem_below.mp (oldest_mem first)
    exact ⟨entry.1, entry.2, rfl, found, starts⟩

theorem list_answer {answer : Except CoordinationError PathSet}
    (asked : (coordinator layout).list space = (answer, after)) :
    after = space ∧ ((space.offline = true ∧ ∃ error, answer = .error error) ∨
      (space.offline = false ∧ answer = .ok (space.servers layout))) := by
  simp only [coordinator, asking, checkOnline, Prod.mk.injEq] at asked
  obtain ⟨rfl, rfl⟩ := asked
  refine ⟨rfl, ?_⟩
  split
  · rename_i offline
    exact .inl ⟨offline, _, rfl⟩
  · rename_i online
    exact .inr ⟨by simpa using online, rfl⟩

theorem contains_answer {answer : Except CoordinationError Bool}
    (probed : (coordinator layout).contains path space = (answer, after)) :
    after = space ∧ ((space.offline = true ∧ ∃ error, answer = .error error) ∨
      answer = .ok (space.containsServer layout path)) := by
  simp only [coordinator, asking, checkOnline, Prod.mk.injEq] at probed
  obtain ⟨rfl, rfl⟩ := probed
  refine ⟨rfl, ?_⟩
  split
  · rename_i offline
    exact .inl ⟨offline, _, rfl⟩
  · exact .inr rfl

end Namespace

namespace Roster

variable {layout : Layout} {now : Nat} {there : Prop} {path : ServerPath}
  {roster next : Roster} {space after : Namespace}

structure Doomed (layout : Layout) (now : Nat) (there : Prop) (path : ServerPath) (roster : Roster)
    (space : Namespace) : Prop where
  free : space.held? layout path = none
  there : there
  due : roster.stale.Due now path

/-- What a visit brings a path: its member and its clock, and whether its node is still there. -/
structure Settled (layout : Layout) (now : Nat) (there : Prop) (path : ServerPath) (roster : Roster)
    (space : Namespace) (next : Roster) (after : Namespace) : Prop where
  member : next.members[path]? = (space.held? layout path).map (Member.next roster.members[path]?)
  since : ∀ since, next.stale.firstSeen[path]? = some since ↔
    space.held? layout path = none ∧ there ∧ ¬ roster.stale.Due now path ∧
      since = (roster.stale.firstSeen[path]?).getD now
  removed : Doomed layout now there path roster space → space.below (layout.below path) = [] →
    after.nodes[layout.serverKey path]? = none
  kept : ¬ (Doomed layout now there path roster space ∧ space.below (layout.below path) = []) →
    after.nodes[layout.serverKey path]? = space.nodes[layout.serverKey path]?

/-- What a visit does from which the pass goes on. -/
structure Visited (layout : Layout) (now : Nat) (there : Prop) (path : ServerPath) (roster : Roster)
    (space : Namespace) (next : Roster) (after : Namespace) : Prop where
  settled : Settled layout now there path roster space next after
  members : ∀ other, other ≠ path → next.members[other]? = roster.members[other]?
  clocks : ∀ other, other ≠ path → next.stale.firstSeen[other]? = roster.stale.firstSeen[other]?
  grace : next.stale.grace = roster.stale.grace
  space : after = space ∨ after = space.remove (layout.serverKey path)

/-- Nothing has changed that a visit of a path goes by. -/
structure Agree (layout : Layout) (path : ServerPath) (roster : Roster) (space : Namespace)
    (next : Roster) (after : Namespace) : Prop where
  member : next.members[path]? = roster.members[path]?
  clock : next.stale.firstSeen[path]? = roster.stale.firstSeen[path]?
  grace : next.stale.grace = roster.stale.grace
  nodes : ∀ key, layout.Owns path key → after.nodes[key]? = space.nodes[key]?

section Agree

variable (agree : Agree layout path roster space next after)

include agree

theorem Agree.held : after.held? layout path = space.held? layout path := by
  have below : after.below (layout.lockStem path) = space.below (layout.lockStem path) :=
    Namespace.below_congr fun key starts => agree.nodes key (.inr (Layout.below_of_lockStem starts))
  unfold Namespace.held? Namespace.readLock Namespace.holder?
  rw [below]

theorem Agree.below : after.below (layout.below path) = space.below (layout.below path) :=
  Namespace.below_congr fun key starts => agree.nodes key (.inr starts)

theorem Agree.contains :
    after.containsServer layout path = space.containsServer layout path := by
  unfold Namespace.containsServer
  rw [agree.below, Std.ExtTreeMap.contains_eq_isSome_getElem?,
    Std.ExtTreeMap.contains_eq_isSome_getElem?, agree.nodes _ (.inl rfl)]

theorem Agree.due : next.stale.Due now path ↔ roster.stale.Due now path := by
  unfold StalePaths.Due
  rw [agree.clock, agree.grace]

theorem Agree.doomed : Doomed layout now there path next after ↔
    Doomed layout now there path roster space := by
  constructor
  · intro doomed
    exact ⟨agree.held ▸ doomed.free, doomed.there, agree.due.mp doomed.due⟩
  · intro doomed
    exact ⟨agree.held.trans doomed.free, doomed.there, agree.due.mpr doomed.due⟩

theorem Agree.settled {last : Roster} {final : Namespace}
    (settled : Settled layout now there path next after last final) :
    Settled layout now there path roster space last final := by
  obtain ⟨member, since, removed, kept⟩ := settled
  rw [agree.held, agree.member] at member
  simp only [agree.held, agree.due, agree.clock] at since
  rw [agree.doomed, agree.below] at removed kept
  rw [agree.nodes _ (.inl rfl)] at kept
  exact ⟨member, since, removed, kept⟩

end Agree

theorem Settled.still {last : Roster} {final : Namespace}
    (settled : Settled layout now there path roster space next after)
    (agree : Agree layout path next after last final) :
    Settled layout now there path roster space last final := by
  obtain ⟨member, since, removed, kept⟩ := settled
  have node := agree.nodes _ (.inl rfl)
  rw [← agree.member] at member
  rw [← node] at removed kept
  exact ⟨member, fun instant => agree.clock ▸ since instant, removed, kept⟩

theorem Visited.nodes (visited : Visited layout now there path roster space next after)
    {key : String} (different : key ≠ layout.serverKey path) : after.nodes[key]? = space.nodes[key]? := by
  rcases visited.space with rfl | rfl
  · rfl
  · rw [Namespace.getElem_remove, if_neg different]

theorem Visited.switches (visited : Visited layout now there path roster space next after) :
    after.offline = space.offline ∧ after.failDeletes = space.failDeletes ∧
      after.revision = space.revision := by
  rcases visited.space with rfl | rfl
  · exact ⟨rfl, rfl, rfl⟩
  · unfold Namespace.remove
    split <;> exact ⟨rfl, rfl, rfl⟩

theorem Visited.others (visited : Visited layout now there path roster space next after)
    (plain : path.Unslashed) {other : ServerPath} (different : other ≠ path)
    (otherPlain : other.Unslashed) : Agree layout other roster space next after := by
  refine ⟨visited.members other different, visited.clocks other different, visited.grace, ?_⟩
  intro key owned
  apply visited.nodes
  rintro rfl
  exact different (Layout.owner_unique otherPlain plain owned (.inl rfl))

inductive Tour (layout : Layout) (now : Nat) (there : ServerPath → Prop) :
    List ServerPath → Roster → Namespace → Roster → Namespace → Prop where
  | ended (roster : Roster) (space : Namespace) : Tour layout now there [] roster space roster space
  | visit {path : ServerPath} {later : List ServerPath} {roster next last : Roster}
      {space after final : Namespace}
      (visited : Visited layout now (there path) path roster space next after)
      (tour : Tour layout now there later next after last final) :
      Tour layout now there (path :: later) roster space last final

section Tour

variable {present : ServerPath → Prop} {paths : List ServerPath} {last : Roster} {final : Namespace}

theorem Tour.members (tour : Tour layout now present paths roster space last final)
    (unvisited : path ∉ paths) : last.members[path]? = roster.members[path]? := by
  induction tour with
  | ended roster space => rfl
  | visit visited tour ih =>
    rw [List.mem_cons, not_or] at unvisited
    obtain ⟨different, rest⟩ := unvisited
    exact (ih rest).trans (visited.members path different)

theorem Tour.clocks (tour : Tour layout now present paths roster space last final)
    (unvisited : path ∉ paths) :
    last.stale.firstSeen[path]? = roster.stale.firstSeen[path]? := by
  induction tour with
  | ended roster space => rfl
  | visit visited tour ih =>
    rw [List.mem_cons, not_or] at unvisited
    obtain ⟨different, rest⟩ := unvisited
    exact (ih rest).trans (visited.clocks path different)

theorem Tour.grace (tour : Tour layout now present paths roster space last final) :
    last.stale.grace = roster.stale.grace := by
  induction tour with
  | ended roster space => rfl
  | visit visited tour ih => exact ih.trans visited.grace

theorem Tour.nodes (tour : Tour layout now present paths roster space last final) {key : String}
    (kept : ∀ path ∈ paths, key ≠ layout.serverKey path) :
    final.nodes[key]? = space.nodes[key]? := by
  induction tour with
  | ended roster space => rfl
  | visit visited tour ih =>
    have rest := ih fun path member => kept path (List.mem_cons_of_mem _ member)
    exact rest.trans (visited.nodes (kept _ List.mem_cons_self))

theorem Tour.others (tour : Tour layout now present paths roster space last final)
    (plain : ∀ path ∈ paths, path.Unslashed) (unvisited : path ∉ paths) (own : path.Unslashed) :
    Agree layout path roster space last final := by
  refine ⟨tour.members unvisited, tour.clocks unvisited, tour.grace, ?_⟩
  intro key owned
  apply tour.nodes
  rintro other member rfl
  exact unvisited (Layout.owner_unique own (plain other member) owned (.inl rfl) ▸ member)

/-- Each path of a tour gets what a visit at the outset would have brought it. -/
theorem Tour.settled (tour : Tour layout now present paths roster space last final)
    (plain : ∀ path ∈ paths, path.Unslashed) (once : paths.Nodup) (member : path ∈ paths) :
    Settled layout now (present path) path roster space last final := by
  induction tour with
  | ended roster space => cases member
  | @visit first later roster next last space after final visited tour ih =>
    obtain ⟨apart, once⟩ := List.nodup_cons.mp once
    have rest := fun other member => plain other (List.mem_cons_of_mem first member)
    have own := plain first List.mem_cons_self
    rcases List.mem_cons.mp member with rfl | further
    -- what the first visit brings, the later ones leave; what it leaves, a later one goes by
    · exact visited.settled.still (tour.others rest apart own)
    · have different : path ≠ first := fun same => apart (same ▸ further)
      have agree := visited.others own different (rest path further)
      exact agree.settled (ih rest once further)

theorem Tour.readLock (tour : Tour layout now present paths roster space last final)
    (plain : ∀ path ∈ paths, path.Unslashed) (other : ServerPath) :
    final.readLock layout other = space.readLock layout other := by
  induction tour with
  | ended roster space => rfl
  | @visit first later roster next last space after final visited tour ih =>
    rw [ih fun path member => plain path (List.mem_cons_of_mem first member)]
    rcases visited.space with rfl | rfl
    · rfl
    · exact Namespace.readLock_remove (plain first List.mem_cons_self) other space

theorem Tour.switches (tour : Tour layout now present paths roster space last final) :
    final.offline = space.offline ∧ final.failDeletes = space.failDeletes ∧
      final.revision = space.revision := by
  induction tour with
  | ended roster space => exact ⟨rfl, rfl, rfl⟩
  | visit visited tour ih =>
    obtain ⟨offline, failing, revision⟩ := visited.switches
    exact ⟨ih.1.trans offline, ih.2.1.trans failing, ih.2.2.trans revision⟩

def Obstructed (layout : Layout) (now : Nat) (present : ServerPath → Prop)
    (paths : List ServerPath) (roster : Roster) (space : Namespace) : Prop :=
  space.offline = true ∨ space.failDeletes = true ∧
    ∃ path ∈ paths, Doomed layout now (present path) path roster space

theorem Visited.obstructed
    (visited : Visited layout now (present path) path roster space next after)
    (plain : ∀ other ∈ path :: paths, other.Unslashed) (apart : path ∉ paths)
    (obstructed : Obstructed layout now present paths next after) :
    Obstructed layout now present (path :: paths) roster space := by
  obtain ⟨offline, failing, _⟩ := visited.switches
  rcases obstructed with gone | ⟨failDeletes, other, member, doomed⟩
  · exact .inl (offline ▸ gone)
  · refine .inr ⟨failing ▸ failDeletes, other, List.mem_cons_of_mem _ member, ?_⟩
    have different : other ≠ path := fun same => apart (same ▸ member)
    have agree := visited.others (plain path List.mem_cons_self) different
      (plain other (List.mem_cons_of_mem _ member))
    exact agree.doomed.mp doomed

end Tour

end Roster

namespace Work

open Roster (Doomed Visited)

variable {layout : Layout} {now : Nat} {there : Prop} {path : ServerPath} {work : Work}
  {space after : Namespace}

theorem visited_held (there : Prop) {holder : Holder}
    (held : space.held? layout path = some holder) :
    Visited layout now there path work.roster space (work.hold path holder).roster space := by
  refine ⟨⟨?_, ?_, ?_, fun _ => rfl⟩, ?_, ?_, ?_, .inl rfl⟩
  · rw [held]
    exact hold_next work path holder
  · intro since
    simp [stale_hold, StalePaths.getElem_forget, held]
  · intro doomed _
    rw [doomed.free] at held
    cases held
  · intro other different
    exact (hold_visit work path holder).others different
  · intro other different
    rw [stale_hold, StalePaths.getElem_forget, if_neg different]
  · rw [stale_hold]
    rfl

theorem visited_forgotten (free : space.held? layout path = none)
    (ripe : there → work.roster.stale.Due now path)
    (gone : there ∧ space.below (layout.below path) = [] ∧
        after = space.remove (layout.serverKey path) ∨
      ¬ (there ∧ space.below (layout.below path) = []) ∧ after = space) :
    Visited layout now there path work.roster space ((work.lose path).forget path).roster
      after := by
  have stale : ((work.lose path).forget path).roster.stale = work.roster.stale.forget path :=
    congrArg (StalePaths.forget · path) (work.stale_lose path)
  refine ⟨⟨?_, ?_, ?_, ?_⟩, ?_, ?_, ?_, ?_⟩
  · rw [free]
    exact lose_at work path
  · intro since
    rw [stale, StalePaths.getElem_forget, if_pos rfl]
    simp only [reduceCtorEq, false_iff]
    exact fun waits => waits.2.2.1 (ripe waits.2.1)
  · intro doomed childless
    rcases gone with ⟨_, _, rfl⟩ | ⟨spared, _⟩
    · rw [Namespace.getElem_remove, if_pos rfl]
    · exact absurd ⟨doomed.there, childless⟩ spared
  · intro spared
    rcases gone with ⟨present, childless, _⟩ | ⟨_, rfl⟩
    · exact absurd ⟨⟨free, present, ripe present⟩, childless⟩ spared
    · rfl
  · intro other different
    exact (lose_visit work path).others different
  · intro other different
    rw [stale, StalePaths.getElem_forget, if_neg different]
  · rw [stale]
    rfl
  · exact gone.symm.imp (·.2) (·.2.2)

theorem visited_waiting (free : space.held? layout path = none) (present : there)
    (undue : ¬ work.roster.stale.Due now path) :
    Visited layout now there path work.roster space ((work.lose path).observe path now).roster
      space := by
  have clocks : ∀ other, ((work.lose path).observe path now).roster.stale.firstSeen[other]? =
      if other = path then some ((work.roster.stale.firstSeen[path]?).getD now)
      else work.roster.stale.firstSeen[other]? := by
    intro other
    rw [← work.stale_lose path]
    exact StalePaths.getElem_observe _ path now other
  refine ⟨⟨?_, ?_, ?_, fun _ => rfl⟩, ?_, ?_, ?_, .inl rfl⟩
  · rw [free]
    exact lose_at work path
  · intro since
    rw [clocks]
    simp [free, present, undue, eq_comm]
  · exact fun doomed _ => absurd doomed.due undue
  · intro other different
    exact (lose_visit work path).others different
  · intro other different
    rw [clocks, if_neg different]
  · rw [← work.stale_lose path]
    exact StalePaths.grace_observe _ path now

end Work

namespace Pass

open Roster (Doomed Visited)

variable {layout : Layout} {now : Nat} {there : Prop} {path : ServerPath}
  {later : Option (List ServerPath)} {work last : Work} {space final : Namespace}
  {failure outcome : Option CoordinationError}

theorem held_asked {now : Nat} {stage : Stage} {work : Work} {space after : Namespace}
    {next : Stage × Work} (plain : ∀ path ∈ stage.unsettled, path.Unslashed)
    (asked : Asked (Namespace.coordinator layout) now work space after stage next)
    (other : ServerPath) : after.held? layout other = space.held? layout other := by
  rcases asked_space asked with rfl | ⟨path, later, rfl, rfl⟩
  · rfl
  · exact Namespace.held_of_delete (plain path List.mem_cons_self) rfl other

theorem Ends.failed {σ : Type} {service : Coordinator σ} {space final : σ}
    (ends : Ends service now (.reporting failure) work space outcome last final) :
    outcome = failure ∧ last = work ∧ final = space := by
  cases ends with
  | told => exact ⟨rfl, rfl, rfl⟩
  | further asked ends => cases asked

def Ends.Passes (layout : Layout) (now : Nat) (there : Prop) (path : ServerPath)
    (later : Option (List ServerPath)) (work : Work) (space : Namespace)
    (failure : Option CoordinationError) (last : Work) (final : Namespace) : Prop :=
  (∃ next after, Visited layout now there path work.roster space next.roster after ∧
    Ends (Namespace.coordinator layout) now (proceed later) next after failure last final) ∨
  (failure.isSome ∧ (space.offline = true ∨
    space.failDeletes = true ∧ Doomed layout now there path work.roster space))

theorem Ends.reclaimed (free : space.held? layout path = none) (present : there)
    (ends : Ends (Namespace.coordinator layout) now (reclaim now path later (work.lose path)).1
      (reclaim now path later (work.lose path)).2 space failure last final) :
    Ends.Passes layout now there path later work space failure last final := by
  have same := work.stale_lose path
  by_cases due : work.roster.stale.Due now path
  · rw [reclaim_due (same ▸ due)] at ends
    cases ends with
    | further asked ends =>
      have deleted := Namespace.deleted layout path space
      cases asked with
      | deleted _ _ outcome answer settles =>
        have answer : space.delete layout path = _ := answer
        rw [answer] at deleted
        cases deleted with
        | refused reason switch => simp at settles
        | kept key children =>
          exact .inl ⟨_, _, Work.visited_forgotten free (fun _ => due)
            (.inr ⟨fun gone => children gone.2, rfl⟩), ends⟩
        | removed childless =>
          exact .inl ⟨_, _, Work.visited_forgotten free (fun _ => due)
            (.inl ⟨present, childless, rfl⟩), ends⟩
      | undeleted _ _ error answer unsettled =>
        have answer : space.delete layout path = _ := answer
        rw [answer] at deleted
        obtain ⟨rfl, _, _⟩ := ends.failed
        cases deleted with
        | refused reason switch =>
          exact .inr ⟨rfl, switch.imp id fun failing => ⟨failing, free, present, due⟩⟩
        | kept key children => exact absurd rfl (unsettled key)
  · rw [reclaim_undue (same ▸ due)] at ends
    exact .inl ⟨_, _, Work.visited_waiting free present due, ends⟩

/-- A visit of a path that a listing has shown, or that is probed. -/
theorem Ends.visit (listed : later.isSome → there)
    (probed : later = none → (there ↔ space.containsServer layout path = true))
    (ends : Ends (Namespace.coordinator layout) now (.reading path later) work space failure last
      final) :
    Ends.Passes layout now there path later work space failure last final := by
  cases ends with
  | further asked ends =>
    cases asked with
    | unread _ _ error answer legible =>
      obtain ⟨rfl, _, _⟩ := ends.failed
      exact .inr ⟨rfl, .inl (Namespace.offline_of_unread answer legible)⟩
    | held _ _ holder answer =>
      obtain ⟨rfl, held⟩ := Namespace.held_of_read answer
      exact .inl ⟨_, _, Work.visited_held there held, ends⟩
    | free _ _ found answer unheld =>
      obtain ⟨rfl, free⟩ := Namespace.held_of_unheld answer unheld
      unfold unlocked at ends
      split at ends
      · rename_i shown
        exact Ends.reclaimed free (listed shown) ends
      · rename_i alone
        have alone : later = none := by simpa using alone
        subst alone
        cases ends with
        | further asked ends =>
          cases asked with
          | unprobed _ error answer =>
            obtain ⟨rfl, _, _⟩ := ends.failed
            obtain ⟨_, refused | same⟩ := Namespace.contains_answer answer
            · exact .inr ⟨rfl, .inl refused.1⟩
            · cases same
          | gone _ answer =>
            obtain ⟨rfl, refused | same⟩ := Namespace.contains_answer answer
            · obtain ⟨_, error, same⟩ := refused
              cases same
            · have absent : ¬ there := by
                rw [probed rfl, ← Except.ok.inj same]
                simp
              exact .inl ⟨_, _, Work.visited_forgotten free (fun present => absurd present absent)
                (.inr ⟨fun gone => absent gone.1, rfl⟩), ends⟩
          | there _ answer =>
            obtain ⟨rfl, refused | same⟩ := Namespace.contains_answer answer
            · obtain ⟨_, error, same⟩ := refused
              cases same
            · exact Ends.reclaimed free ((probed rfl).mpr (Except.ok.inj same).symm) ends

/-- A pass tours the paths of its listing to the end, or a question of the tour is refused. -/
theorem Ends.tour {present : ServerPath → Prop} {paths : List ServerPath}
    (plain : ∀ path ∈ paths, path.Unslashed) (once : paths.Nodup)
    (shown : ∀ path ∈ paths, present path)
    (ends : Ends (Namespace.coordinator layout) now (proceed (some paths)) work space failure last
      final) :
    (failure = none ∧ Roster.Tour layout now present paths work.roster space last.roster final) ∨
      (failure.isSome ∧ Roster.Obstructed layout now present paths work.roster space) := by
  induction paths generalizing work space with
  | nil =>
    obtain ⟨rfl, rfl, rfl⟩ := Ends.failed ends
    exact .inl ⟨rfl, .ended _ _⟩
  | cons path later ih =>
    have rest := fun other member => plain other (List.mem_cons_of_mem path member)
    obtain ⟨apart, once⟩ := List.nodup_cons.mp once
    have there := shown path List.mem_cons_self
    rcases Ends.visit (fun _ => there) (fun alone => by cases alone) ends with
      ⟨next, after, visited, ends⟩ | ⟨failed, refused⟩
    · have further := fun other member => shown other (List.mem_cons_of_mem path member)
      rcases ih rest once further ends with ⟨rfl, tour⟩ | ⟨failed, obstructed⟩
      · exact .inl ⟨rfl, .visit visited tour⟩
      · exact .inr ⟨failed, visited.obstructed plain apart obstructed⟩
    · refine .inr ⟨failed, refused.imp id fun failing => ⟨failing.1, path, ?_, failing.2⟩⟩
      exact List.mem_cons_self

theorem Ends.checked {present : ServerPath → Prop}
    (probed : present path ↔ space.containsServer layout path = true)
    (ends : Ends (Namespace.coordinator layout) now (.reading path none) work space failure last
      final) :
    (failure = none ∧
        Visited layout now (present path) path work.roster space last.roster final) ∨
      (failure.isSome ∧ Roster.Obstructed layout now present [path] work.roster space) := by
  rcases Ends.visit (fun listed => by cases listed) (fun _ => probed) ends with
    ⟨next, after, visited, ends⟩ | ⟨failed, refused⟩
  · obtain ⟨rfl, rfl, rfl⟩ := Ends.failed ends
    exact .inl ⟨rfl, visited⟩
  · refine .inr ⟨failed, refused.imp id fun failing => ⟨failing.1, path, ?_, failing.2⟩⟩
    exact List.mem_cons_self

end Pass
end TabletRoster
