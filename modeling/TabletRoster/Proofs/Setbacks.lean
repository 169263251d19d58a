import TabletRoster.Proofs.Spells

/-!
Scans that fail. A scan goes through the listed paths in their order and stops at the first refusal.
It has dealt with the paths before that one as with those of a scan that succeeds, and it has left
alone those behind it.
-/
namespace TabletRoster

variable {σ : Type}

def Unheld (found : Except CoordinationError (Option Holder)) : Prop :=
  found = .ok none ∨ ∃ key fault, found = .error (.malformedLock key fault)

namespace Roster

variable {service : Coordinator σ} {trace : List (Asking σ)} {before after next : Roster}
  {path : ServerPath}

/-- What a scan brings a listed path, by the answers that it has got about it. -/
inductive Reconciled (service : Coordinator σ) (trace : List (Asking σ)) (before after : Roster)
    (path : ServerPath) : Prop where
  | held (time : Nat) (space : σ) (holder : Holder) (read : ⟨time, .readLock path, space⟩ ∈ trace)
      (answer : (service.readLock path space).1 = .ok (some holder))
      (member : after.members[path]? = some (.of holder))
      (clock : after.stale.firstSeen[path]? = none)
  | waiting (time : Nat) (space : σ) (read : ⟨time, .readLock path, space⟩ ∈ trace)
      (answer : Unheld (service.readLock path space).1) (undue : ¬ before.stale.Due time path)
      (member : after.members[path]? = none)
      (clock : after.stale.firstSeen[path]? = some ((before.stale.firstSeen[path]?).getD time))
  | deleted (time later : Nat) (space further : σ)
      (read : ⟨time, .readLock path, space⟩ ∈ trace)
      (answer : Unheld (service.readLock path space).1) (due : before.stale.Due time path)
      (delete : ⟨later, .delete path, further⟩ ∈ trace)
      (settles : (service.delete path further).1 = .ok () ∨
        ∃ key, (service.delete path further).1 = .error (.notEmpty key))
      (member : after.members[path]? = none)
      (clock : after.stale.firstSeen[path]? = none)

structure Untouched (before after : Roster) (path : ServerPath) : Prop where
  member : after.members[path]? = before.members[path]?
  clock : after.stale.firstSeen[path]? = before.stale.firstSeen[path]?

/-- The refusal at which a scan stops. Without a member left, the path keeps its clock; so the next
pass that finds it without a holder asks for its deletion again. -/
inductive Stopped (service : Coordinator σ) (trace : List (Asking σ)) (before after : Roster)
    (error : CoordinationError) (path : ServerPath) : Prop where
  | unread (time : Nat) (space : σ) (last : trace.getLast? = some ⟨time, .readLock path, space⟩)
      (answer : (service.readLock path space).1 = .error error)
      (still : Untouched before after path)
  | undeleted (time later since : Nat) (space further : σ)
      (read : ⟨time, .readLock path, space⟩ ∈ trace)
      (answer : Unheld (service.readLock path space).1)
      (last : trace.getLast? = some ⟨later, .delete path, further⟩)
      (refused : (service.delete path further).1 = .error error)
      (member : after.members[path]? = none)
      (former : before.stale.firstSeen[path]? = some since)
      (clock : after.stale.firstSeen[path]? = some since)
      (again : ∀ now rest (work : Work), time ≤ now → work.roster.stale.grace = after.stale.grace →
        work.roster.stale.firstSeen[path]? = some since →
          Pass.reclaim now path rest work = (.deleting path rest, work))

theorem Reconciled.further (reconciled : Reconciled service trace before after path)
    (still : Untouched after next path) (more : List (Asking σ)) :
    Reconciled service (trace ++ more) before next path := by
  obtain ⟨sameMember, sameClock⟩ := still
  cases reconciled with
  | held time space holder read answer member clock =>
    exact .held time space holder (List.mem_append_left more read) answer (sameMember.trans member)
      (sameClock.trans clock)
  | waiting time space read answer undue member clock =>
    exact .waiting time space (List.mem_append_left more read) answer undue
      (sameMember.trans member) (sameClock.trans clock)
  | deleted time later space rest read answer due delete settles member clock =>
    exact .deleted time later space rest (List.mem_append_left more read) answer due
      (List.mem_append_left more delete) settles (sameMember.trans member) (sameClock.trans clock)

theorem Untouched.trans (first : Untouched before after path) (second : Untouched after next path) :
    Untouched before next path :=
  ⟨second.member.trans first.member, second.clock.trans first.clock⟩

structure Tallied (service : Coordinator σ) (trace : List (Asking σ)) (before : Roster)
    (listed : PathSet) (done ahead : List ServerPath) (after : Roster) : Prop where
  reconciled : ∀ path ∈ done, Reconciled service trace before after path
  untouched : ∀ path ∈ ahead, Untouched before after path
  unlisted : ∀ path, path ∉ listed →
    after.members[path]? = none ∧ after.stale.firstSeen[path]? = none
  grace : after.stale.grace = before.stale.grace
  connected : after.Connected

section Tallied

variable {listed : PathSet} {done ahead : List ServerPath}

theorem Tallied.due (tally : Tallied service trace before listed done ahead after)
    (coming : path ∈ ahead) (now : Nat) : after.stale.Due now path ↔ before.stale.Due now path := by
  unfold StalePaths.Due
  rw [(tally.untouched path coming).clock, tally.grace]

theorem Tallied.tail (tally : Tallied service trace before listed done (path :: ahead) after) :
    Tallied service trace before listed done ahead after :=
  ⟨tally.reconciled, fun other coming => tally.untouched other (List.mem_cons_of_mem _ coming),
    tally.unlisted, tally.grace, tally.connected⟩

theorem Tallied.further (tally : Tallied service trace before listed done ahead after)
    (split : listed.toList = done ++ path :: ahead) (more : List (Asking σ))
    (others : ∀ other, other ≠ path → Untouched after next other)
    (grace : next.stale.grace = after.stale.grace) (connected : next.Connected) :
    Tallied service (trace ++ more) before listed done ahead next := by
  have once := split ▸ listed.nodup_toList
  obtain ⟨_, later, apart⟩ := List.nodup_append.mp once
  have shown : path ∈ listed := by
    rw [← Std.ExtTreeSet.mem_toList, split]
    simp
  refine ⟨?_, ?_, ?_, grace.trans tally.grace, connected⟩
  · intro other dealt
    have different := apart other dealt path List.mem_cons_self
    exact (tally.reconciled other dealt).further (others other different) more
  · intro other coming
    have different : other ≠ path := by
      rintro rfl
      exact (List.nodup_cons.mp later).1 coming
    exact (tally.untouched other coming).trans (others other different)
  · intro other hidden
    have still := others other fun same => hidden (same ▸ shown)
    rw [still.member, still.clock]
    exact tally.unlisted other hidden

theorem Tallied.snoc (tally : Tallied service trace before listed done ahead after)
    (reconciled : Reconciled service trace before after path) :
    Tallied service trace before listed (done ++ [path]) ahead after := by
  refine ⟨?_, tally.untouched, tally.unlisted, tally.grace, tally.connected⟩
  intro other dealt
  rcases List.mem_append.mp dealt with earlier | last
  · exact tally.reconciled other earlier
  · rwa [List.mem_singleton.mp last]

end Tallied

end Roster

namespace Work

variable {work : Work} {path other : ServerPath}

theorem keepListed_untouched {listed : PathSet} (shown : path ∈ listed) (work : Work) :
    Roster.Untouched work.roster (work.keepListed listed).roster path := by
  constructor
  · rw [keepListed_at, if_pos (Std.ExtTreeSet.contains_iff_mem.mpr shown)]
  · rw [stale_keepListed, StalePaths.getElem_retain, if_pos shown]

theorem keepListed_unlisted {listed : PathSet} (hidden : path ∉ listed) (work : Work) :
    (work.keepListed listed).roster.members[path]? = none ∧
      (work.keepListed listed).roster.stale.firstSeen[path]? = none := by
  constructor
  · rw [keepListed_at, if_neg fun shown => hidden (Std.ExtTreeSet.contains_iff_mem.mp shown)]
  · rw [stale_keepListed, StalePaths.getElem_retain, if_neg hidden]

theorem lose_untouched (different : other ≠ path) (work : Work) :
    Roster.Untouched work.roster (work.lose path).roster other :=
  ⟨(lose_visit work path).others different, by rw [stale_lose]⟩

theorem hold_untouched (different : other ≠ path) (work : Work) (holder : Holder) :
    Roster.Untouched work.roster (work.hold path holder).roster other := by
  refine ⟨(hold_visit work path holder).others different, ?_⟩
  rw [stale_hold, StalePaths.getElem_forget, if_neg different]

theorem forget_untouched (different : other ≠ path) (work : Work) :
    Roster.Untouched work.roster (work.forget path).roster other := by
  refine ⟨rfl, ?_⟩
  show (work.roster.stale.forget path).firstSeen[other]? = _
  rw [StalePaths.getElem_forget, if_neg different]

theorem observe_untouched (different : other ≠ path) (work : Work) (now : Nat) :
    Roster.Untouched work.roster (work.observe path now).roster other := by
  refine ⟨rfl, ?_⟩
  show (work.roster.stale.observe path now).2.firstSeen[other]? = _
  rw [StalePaths.getElem_observe, if_neg different]

end Work

namespace Pass

open Roster (Tallied Reconciled Untouched Stopped)

variable {service : Coordinator σ} {trace : List (Asking σ)} {before : Roster} {work : Work}
  {listed : PathSet} {done ahead : List ServerPath} {path : ServerPath}

def Opened (service : Coordinator σ) (trace : List (Asking σ)) (listed : PathSet) : Prop :=
  ∃ time space rest, trace = ⟨time, .list, space⟩ :: rest ∧ (service.list space).1 = .ok listed

theorem Opened.append (opened : Opened service trace listed) (more : List (Asking σ)) :
    Opened service (trace ++ more) listed := by
  obtain ⟨time, space, rest, rfl, answer⟩ := opened
  exact ⟨time, space, rest ++ more, rfl, answer⟩

/-- How a scan stands that began with a roster. -/
inductive Scanning (service : Coordinator σ) (before : Roster) (trace : List (Asking σ)) :
    Stage → Work → Prop where
  | fresh (unasked : trace = []) : Scanning service before trace .listing ⟨before, .empty⟩
  | unlisted (time : Nat) (space : σ) (error : CoordinationError)
      (whole : trace = [⟨time, .list, space⟩]) (refused : (service.list space).1 = .error error) :
      Scanning service before trace (.reporting (some error)) ⟨before, .empty⟩
  | going {stage : Stage} {work : Work} (listed : PathSet) (done ahead : List ServerPath)
      (opened : Opened service trace listed) (split : listed.toList = done ++ ahead)
      (goes : stage = proceed (some ahead))
      (tally : Tallied service trace before listed done ahead work.roster) :
      Scanning service before trace stage work
  | deleting {work : Work} (listed : PathSet) (done ahead : List ServerPath) (path : ServerPath)
      (time since : Nat) (space : σ) (opened : Opened service trace listed)
      (split : listed.toList = done ++ path :: ahead)
      (tally : Tallied service trace before listed done ahead work.roster)
      (read : ⟨time, .readLock path, space⟩ ∈ trace)
      (answer : Unheld (service.readLock path space).1)
      (former : before.stale.firstSeen[path]? = some since)
      (long : before.stale.grace < time - since) (member : work.roster.members[path]? = none)
      (clock : work.roster.stale.firstSeen[path]? = some since) :
      Scanning service before trace (.deleting path (some ahead)) work
  | stopped {work : Work} (listed : PathSet) (done ahead : List ServerPath) (path : ServerPath)
      (error : CoordinationError) (opened : Opened service trace listed)
      (split : listed.toList = done ++ path :: ahead)
      (tally : Tallied service trace before listed done ahead work.roster)
      (stopped : Stopped service trace before work.roster error path) :
      Scanning service before trace (.reporting (some error)) work

theorem Scanning.opened {time : Nat} {space after : σ} {next : Stage × Work}
    (connected : before.Connected)
    (asked : Asked service time ⟨before, .empty⟩ space after .listing next) :
    Scanning service before [⟨time, .list, space⟩] next.1 next.2 := by
  have grace := asked_grace asked
  have linked := asked_connected connected asked
  cases asked with
  | unlisted error answer => exact .unlisted time space error rfl (congrArg Prod.fst answer)
  | listed listed answer =>
    have opened : Opened service [⟨time, .list, space⟩] listed :=
      ⟨time, space, [], rfl, congrArg Prod.fst answer⟩
    refine .going listed [] listed.toList opened rfl rfl ?_
    refine ⟨by simp, ?_, ?_, grace, linked⟩
    · intro path coming
      exact Work.keepListed_untouched (Std.ExtTreeSet.mem_toList.mp coming) ⟨before, .empty⟩
    · exact fun path hidden => Work.keepListed_unlisted hidden ⟨before, .empty⟩

theorem Scanning.read {time : Nat} {space after : σ} {next : Stage × Work}
    (opened : Opened service trace listed) (split : listed.toList = done ++ path :: ahead)
    (tally : Tallied service trace before listed done (path :: ahead) work.roster)
    (asked : Asked service time work space after (.reading path (some ahead)) next) :
    Scanning service before (trace ++ [⟨time, .readLock path, space⟩]) next.1 next.2 := by
  have grace := asked_grace asked
  have connected := asked_connected tally.connected asked
  have opened := opened.append [⟨time, .readLock path, space⟩]
  have asking : (⟨time, .readLock path, space⟩ : Asking σ) ∈
      trace ++ [⟨time, .readLock path, space⟩] := by
    simp
  have own := tally.untouched path List.mem_cons_self
  cases asked with
  | unread _ _ error answer legible =>
    refine .stopped listed done ahead path error opened split ?_ ?_
    · exact tally.tail.further split _ (fun other _ => ⟨rfl, rfl⟩) grace connected
    · exact .unread time space (by simp) (congrArg Prod.fst answer) own
  | held _ _ holder answer =>
    refine .going listed (done ++ [path]) ahead opened (by simp [split]) rfl (.snoc ?_ ?_)
    · exact tally.tail.further split _
        (fun other different => Work.hold_untouched different work holder) grace connected
    · refine .held time space holder asking (congrArg Prod.fst answer) ?_ ?_
      · rw [Work.hold_next, Member.next_connected tally.connected]
      · rw [Work.stale_hold, StalePaths.getElem_forget, if_pos rfl]
  | free _ _ found answer unheld =>
    have answer : (service.readLock path space).1 = found := congrArg Prod.fst answer
    have lost := Work.stale_lose work path
    have turned : unlocked time path (some ahead) work =
        reclaim time path (some ahead) (work.lose path) := rfl
    rw [turned] at grace connected ⊢
    by_cases due : before.stale.Due time path
    · have ripe : (work.lose path).roster.stale.Due time path := by
        rw [lost]
        exact (tally.due List.mem_cons_self time).mpr due
      obtain ⟨since, former, long⟩ := due
      rw [reclaim_due ripe] at grace connected ⊢
      refine .deleting listed done ahead path time since space opened split ?_ asking
        (answer ▸ unheld) former long (Work.lose_at work path) ?_
      · exact tally.tail.further split _
          (fun other different => Work.lose_untouched different work) grace connected
      · rw [lost, own.clock, former]
    · have unripe : ¬ (work.lose path).roster.stale.Due time path := by
        rw [lost]
        exact fun ripe => due ((tally.due List.mem_cons_self time).mp ripe)
      rw [reclaim_undue unripe] at grace connected ⊢
      refine .going listed (done ++ [path]) ahead opened (by simp [split]) rfl (.snoc ?_ ?_)
      · exact tally.tail.further split _ (fun other different =>
          (Work.lose_untouched different work).trans
            (Work.observe_untouched different (work.lose path) time)) grace connected
      · refine .waiting time space asking (answer ▸ unheld) due (Work.lose_at work path) ?_
        show ((work.lose path).roster.stale.observe path time).2.firstSeen[path]? = _
        rw [StalePaths.getElem_observe, if_pos rfl, lost, own.clock]

theorem Scanning.asked {stage : Stage} {time : Nat} {question : Question} {space after : σ}
    {next : Stage × Work} (connected : before.Connected)
    (scanning : Scanning service before trace stage work) (asks : stage.question? = some question)
    (asked : Asked service time work space after stage next) :
    Scanning service before (trace ++ [⟨time, question, space⟩]) next.1 next.2 := by
  cases scanning with
  | fresh unasked =>
    cases asks
    rw [unasked]
    exact .opened connected asked
  | unlisted _ _ error whole refused => cases asks
  | stopped listed done ahead path error opened split tally stopped => cases asks
  | going listed done ahead opened split goes tally =>
    cases ahead with
    | nil =>
      subst goes
      cases asks
    | cons path ahead =>
      subst goes
      cases asks
      exact .read opened split tally asked
  | deleting listed done ahead path read since seen opened split tally asking answer former long
      member clock =>
    cases asks
    have grace := asked_grace asked
    have linked := asked_connected tally.connected asked
    have opened := opened.append [⟨time, .delete path, space⟩]
    have asking := List.mem_append_left [⟨time, .delete path, space⟩] asking
    cases asked with
    | deleted _ _ outcome deletion settles =>
      refine .going listed (done ++ [path]) ahead opened (by simp [split]) rfl (.snoc ?_ ?_)
      · exact tally.further split _ (fun other different => Work.forget_untouched different work)
          grace linked
      · have deletion : (service.delete path space).1 = outcome := congrArg Prod.fst deletion
        refine .deleted read time seen space asking answer ⟨since, former, long⟩ (by simp)
          (deletion ▸ settles) member ?_
        show (work.roster.stale.forget path).firstSeen[path]? = none
        rw [StalePaths.getElem_forget, if_pos rfl]
    | undeleted _ _ error deletion unsettled =>
      refine .stopped listed done ahead path error opened split ?_ ?_
      · exact tally.further split _ (fun other _ => ⟨rfl, rfl⟩) grace linked
      · refine .undeleted read time since seen space asking answer (by simp)
          (congrArg Prod.fst deletion) member former clock ?_
        intro now rest later waits same there
        refine reclaim_due ⟨since, there, ?_⟩
        rw [same, tally.grace]
        omega

inductive Checking (service : Coordinator σ) (before : Roster) (path : ServerPath)
    (trace : List (Asking σ)) : Stage → Work → Prop where
  | fresh (unasked : trace = []) :
      Checking service before path trace (.reading path none) ⟨before, .empty⟩
  | unread (time : Nat) (space : σ) (error : CoordinationError)
      (whole : trace = [⟨time, .readLock path, space⟩])
      (refused : (service.readLock path space).1 = .error error)
      (legible : ∀ key fault, error ≠ .malformedLock key fault) :
      Checking service before path trace (.reporting (some error)) ⟨before, .empty⟩
  | beyond {stage : Stage} {work : Work} (time : Nat) (space : σ) (rest : List (Asking σ))
      (whole : trace = ⟨time, .readLock path, space⟩ :: rest)
      (answered : ∀ error, (service.readLock path space).1 = .error error →
        ∃ key fault, error = .malformedLock key fault)
      (further : stage ≠ .listing) (read : stage.toRead = []) :
      Checking service before path trace stage work

theorem Checking.asked {stage : Stage} {time : Nat} {question : Question} {space after : σ}
    {next : Stage × Work} (checking : Checking service before path trace stage work)
    (asks : stage.question? = some question)
    (asked : Asked service time work space after stage next) :
    Checking service before path (trace ++ [⟨time, question, space⟩]) next.1 next.2 := by
  have reclaimed (now : Nat) (other : ServerPath) (work : Work) :
      (reclaim now other none work).1 ≠ .listing ∧ (reclaim now other none work).1.toRead = [] := by
    obtain ⟨_, next | next⟩ := reclaim_same now other none work
    · simp [next, Stage.toRead]
    · simp [next, proceed, Stage.toRead]
  cases checking with
  | fresh unasked =>
    subst unasked
    cases asks
    cases asked with
    | unread _ _ error answer legible =>
      exact .unread time space error rfl (congrArg Prod.fst answer) legible
    | free _ _ found answer unheld =>
      refine .beyond time space [] rfl ?_ (by simp [unlocked]) (by simp [unlocked, Stage.toRead])
      intro error refused
      rw [answer] at refused
      rcases unheld with rfl | ⟨key, fault, rfl⟩
      · cases refused
      · exact ⟨key, fault, (Except.error.inj refused).symm⟩
    | held _ _ holder answer =>
      refine .beyond time space [] rfl ?_ (by simp [proceed]) (by simp [proceed, Stage.toRead])
      intro error refused
      rw [answer] at refused
      cases refused
  | unread _ _ error whole refused legible => cases asks
  | beyond first seen rest whole answered further read =>
    have longer : trace ++ [⟨time, question, space⟩] =
        ⟨first, .readLock path, seen⟩ :: (rest ++ [⟨time, question, space⟩]) := by
      rw [whole, List.cons_append]
    cases asked with
    | unlisted error answer => exact absurd rfl further
    | listed listed answer => exact absurd rfl further
    | unread other later error answer legible => cases read
    | free other later found answer unheld => cases read
    | held other later holder answer => cases read
    | unprobed other error answer =>
      exact .beyond first seen _ longer answered (by simp) (by simp [Stage.toRead])
    | gone other answer =>
      exact .beyond first seen _ longer answered (by simp) (by simp [Stage.toRead])
    | there other answer =>
      obtain ⟨onward, alone⟩ := reclaimed time other work
      exact .beyond first seen _ longer answered onward alone
    | deleted other later outcome answer settles =>
      refine .beyond first seen _ longer answered ?_ ((toRead_proceed later).trans read)
      unfold proceed
      split <;> simp
    | undeleted other later error answer unsettled =>
      exact .beyond first seen _ longer answered (by simp) (by simp [Stage.toRead])

theorem order_split (split : listed.toList = done ++ path :: ahead) {other : ServerPath}
    (shown : other ∈ listed) :
    (compare other path = .lt → other ∈ done) ∧ (compare path other = .lt → other ∈ ahead) := by
  have sorted := split ▸ listed.ordered_toList
  have member : other ∈ done ++ path :: ahead := split ▸ Std.ExtTreeSet.mem_toList.mpr shown
  obtain ⟨_, later, apart⟩ := List.pairwise_append.mp sorted
  have self : compare path path ≠ .lt := by simp
  rcases List.mem_append.mp member with dealt | coming
  · have earlier := apart other dealt path List.mem_cons_self
    exact ⟨fun _ => dealt, fun behind => absurd behind (Std.OrientedCmp.not_lt_of_lt earlier)⟩
  · rcases List.mem_cons.mp coming with rfl | behind
    · exact ⟨fun less => absurd less self, fun less => absurd less self⟩
    · have later := (List.pairwise_cons.mp later).1 other behind
      exact ⟨fun before => absurd before (Std.OrientedCmp.not_lt_of_lt later), fun _ => behind⟩

theorem Scanning.reported {failure : Option CoordinationError}
    (scanning : Scanning service before trace (.reporting failure) work) :
    ∃ time space rest, trace = ⟨time, .list, space⟩ :: rest ∧
      (∀ error, (service.list space).1 = .error error →
        rest = [] ∧ failure = some error ∧ work = ⟨before, .empty⟩) ∧
      (∀ listed, (service.list space).1 = .ok listed →
        (∀ path, path ∉ listed →
          work.roster.members[path]? = none ∧ work.roster.stale.firstSeen[path]? = none) ∧
        (failure = none → ∀ path, path ∈ listed →
          Reconciled service trace before work.roster path) ∧
        (∀ error, failure = some error → ∃ stop, stop ∈ listed ∧
          Stopped service trace before work.roster error stop ∧ ∀ path, path ∈ listed →
            (compare path stop = .lt → Reconciled service trace before work.roster path) ∧
            (compare stop path = .lt → Untouched before work.roster path))) := by
  generalize reporting : Stage.reporting failure = stage at scanning
  cases scanning with
  | fresh unasked => cases reporting
  | deleting listed done ahead path time since space => cases reporting
  | unlisted time space error whole refused =>
    cases reporting
    refine ⟨time, space, [], whole, ?_, ?_⟩
    · intro other same
      cases refused.symm.trans same
      exact ⟨rfl, rfl, rfl⟩
    · intro listed same
      cases refused.symm.trans same
  | going listed done ahead opened split goes tally =>
    obtain ⟨time, space, rest, whole, answer⟩ := opened
    refine ⟨time, space, rest, whole, ?_, ?_⟩
    · intro error same
      cases answer.symm.trans same
    · intro shown same
      cases answer.symm.trans same
      cases ahead with
      | cons path ahead => cases reporting.trans goes
      | nil =>
        cases reporting.trans goes
        refine ⟨tally.unlisted, fun _ path member => ?_, fun error failed => by cases failed⟩
        rw [List.append_nil] at split
        exact tally.reconciled path (split ▸ Std.ExtTreeSet.mem_toList.mpr member)
  | stopped listed done ahead path error opened split tally stopped =>
    cases reporting
    obtain ⟨time, space, rest, whole, answer⟩ := opened
    refine ⟨time, space, rest, whole, ?_, ?_⟩
    · intro error same
      cases answer.symm.trans same
    · intro shown same
      cases answer.symm.trans same
      refine ⟨tally.unlisted, nofun, fun other failed => ?_⟩
      cases failed
      have member : path ∈ listed := by
        rw [← Std.ExtTreeSet.mem_toList, split]
        simp
      refine ⟨path, member, stopped, fun other there => ?_⟩
      obtain ⟨earlier, later⟩ := order_split split there
      exact ⟨fun less => tally.reconciled other (earlier less),
        fun less => tally.untouched other (later less)⟩

theorem Checking.reported {failure : Option CoordinationError}
    (checking : Checking service before path trace (.reporting failure) work) :
    ∃ time space rest, trace = ⟨time, .readLock path, space⟩ :: rest ∧
      ∀ error, (service.readLock path space).1 = .error error →
        (∀ key fault, error ≠ .malformedLock key fault) →
          rest = [] ∧ failure = some error ∧ work = ⟨before, .empty⟩ := by
  cases checking with
  | unread time space error whole refused legible =>
    refine ⟨time, space, [], whole, fun other same _ => ?_⟩
    cases refused.symm.trans same
    exact ⟨rfl, rfl, rfl⟩
  | beyond time space rest whole answered further read =>
    refine ⟨time, space, rest, whole, fun error refused legible => ?_⟩
    obtain ⟨key, fault, same⟩ := answered error refused
    exact absurd same (legible key fault)

end Pass

namespace Turns

open Roster (Reconciled Untouched Stopped)

variable {service : Coordinator σ} {grace ticket : Nat} {turns last : Turns σ} {pass : Pass}
  {trace : List (Asking σ)} {outcome : Except CoordinationError Delta}

/-- A scan whose listing is refused leaves the roster as it is and tells of nothing. A scan that
gets a listing drops what is not listed and goes by the order of the paths: it deals with each
of them in the same way up to the first refusal, whose error it returns, and leaves the paths behind
that one alone. A check changes nothing when the holder of its path is refused. Malformed data are
no refusal: they say that nobody holds the lock. -/
theorem refused_pass_stops (reachable : turns.Reachable service grace)
    (begun : turns.current = some (ticket, .pass pass))
    (spell : Spell service ticket turns trace last)
    (ended : last.result? ticket = some (.pass outcome)) :
    (pass = .scan → ∃ time space rest, trace = ⟨time, .list, space⟩ :: rest ∧
      (∀ error, (service.list space).1 = .error error → rest = [] ∧ outcome = .error error ∧
        last.roster = turns.roster ∧ last.told = turns.told.push .empty) ∧
      (∀ listed, (service.list space).1 = .ok listed →
        (∀ path, path ∉ listed → last.roster.members[path]? = none ∧
          last.roster.stale.firstSeen[path]? = none) ∧
        (∀ delta, outcome = .ok delta → ∀ path, path ∈ listed →
          Reconciled service trace turns.roster last.roster path) ∧
        (∀ error, outcome = .error error → ∃ stop, stop ∈ listed ∧
          Stopped service trace turns.roster last.roster error stop ∧
          ∀ path, path ∈ listed →
            (compare path stop = .lt → Reconciled service trace turns.roster last.roster path) ∧
            (compare stop path = .lt → Untouched turns.roster last.roster path)))) ∧
    (∀ path, pass = .check path → ∃ time space rest,
      trace = ⟨time, .readLock path, space⟩ :: rest ∧
      ∀ error, (service.readLock path space).1 = .error error →
        (∀ key fault, error ≠ .malformedLock key fault) →
          rest = [] ∧ outcome = .error error ∧ last.roster = turns.roster ∧
            last.told = turns.told.push .empty) := by
  constructor
  · rintro rfl
    obtain ⟨failure, delta, result, told, scanning⟩ := spell.passed
      (Pass.Scanning service turns.roster) begun (.fresh rfl)
      (Pass.Scanning.asked reachable.connected) reachable ended
    obtain ⟨time, space, rest, whole, unlisted, listing⟩ := scanning.reported
    cases result
    refine ⟨time, space, rest, whole, ?_, ?_⟩
    · intro error refused
      obtain ⟨alone, rfl, same⟩ := unlisted error refused
      obtain ⟨roster, rfl⟩ := Work.mk.inj same
      exact ⟨alone, rfl, roster, told⟩
    · intro listed answer
      obtain ⟨hidden, dealt, stopped⟩ := listing listed answer
      refine ⟨hidden, ?_, ?_⟩
      · intro delta succeeds
        cases failure with
        | none => exact dealt rfl
        | some error => cases succeeds
      · intro error fails
        cases failure with
        | none => cases fails
        | some error =>
          cases fails
          exact stopped error rfl
  · rintro path rfl
    obtain ⟨failure, delta, result, told, checking⟩ := spell.passed
      (Pass.Checking service turns.roster path) begun (.fresh rfl) Pass.Checking.asked reachable ended
    obtain ⟨time, space, rest, whole, unread⟩ := checking.reported
    cases result
    refine ⟨time, space, rest, whole, fun error refused legible => ?_⟩
    obtain ⟨alone, rfl, same⟩ := unread error refused legible
    obtain ⟨roster, rfl⟩ := Work.mk.inj same
    exact ⟨alone, rfl, roster, told⟩

def scanning (turns : Turns σ) : Turns σ :=
  { turns with tickets := turns.tickets + 1, current := some (turns.tickets, .pass .scan) }

theorem Reachable.scanning (reachable : turns.Reachable service grace) (resting : turns.Resting) :
    turns.scanning.Reachable service grace := by
  have came := @Reachable.moved σ service grace turns _ (.come .scan) reachable rfl
  refine @Reachable.moved σ service grace _ _ .enter came ?_
  simp [move?, enter?, Turns.come_waits, begin, Turns.scanning, resting.idle, resting.alone]

def refusal? (turns : Turns σ) (ticket : Nat) : Option CoordinationError :=
  match turns.result? ticket with
  | some (.pass (.error error)) => some error
  | _ => none

theorem result_of_refusal {error : CoordinationError}
    (refused : turns.refusal? ticket = some error) :
    turns.result? ticket = some (.pass (.error error)) := by
  unfold refusal? at refused
  split at refused
  · rename_i found
    rw [found, Option.some.inj refused]
  · cases refused

def turmoil (space : Namespace) : Namespace :=
  { (space.releaseLock ⟨"/t"⟩ (.sample "d") "t").createServer ⟨"/t"⟩ (.sample "c") with
    failDeletes := true }

def interrupted : Turns Namespace :=
  let first := Namespace.empty.acquireLock ⟨"/t"⟩ (.sample "a") ⟨⟨"a", 1⟩, "g"⟩ "s"
  let second := first.acquireLock ⟨"/t"⟩ (.sample "d") ⟨⟨"d", 1⟩, "g"⟩ "t"
  let seen := ((start (.empty 3) (second.createServer ⟨"/t"⟩ (.sample "b"))).perform
    (Namespace.coordinator ⟨"/t"⟩) 0 20 .scan).2
  { seen with space := turmoil seen.space }

theorem interrupted_reachable : interrupted.Reachable (Namespace.coordinator ⟨"/t"⟩) 3 :=
  .changed turmoil ((Reachable.started _).performed 0 20 .scan)

theorem interrupted_resting : interrupted.Resting :=
  ⟨Option.isNone_iff_eq_none.mp (by decide +kernel), by decide +kernel⟩

theorem refused_pass_stops_interrupted :
    let last := runFor (Namespace.coordinator ⟨"/t"⟩) 10 interrupted.tickets 20 interrupted.scanning
    interrupted.roster.members.keys = [.sample "a", .sample "d"] ∧
      last.roster.members.keys = [.sample "a"] ∧
      last.roster.stale.firstSeen.toList = [(.sample "b", 0)] ∧
      last.result? interrupted.tickets =
        some (.pass (.error (.unavailable "delete of /t/g/b:1 rejected"))) ∧
      ∃ trace stop,
        Spell (Namespace.coordinator ⟨"/t"⟩) interrupted.tickets interrupted.scanning trace last ∧
        Stopped (Namespace.coordinator ⟨"/t"⟩) trace interrupted.roster last.roster
          (.unavailable "delete of /t/g/b:1 rejected") stop := by
  intro last
  have former : interrupted.roster.members.keys = [.sample "a", .sample "d"] := by decide +kernel
  have left : last.roster.members.keys = [.sample "a"] := by decide +kernel
  have ended : last.result? interrupted.tickets =
      some (.pass (.error (.unavailable "delete of /t/g/b:1 rejected"))) :=
    result_of_refusal (by decide +kernel)
  obtain ⟨trace, spell⟩ := spell_runFor (Namespace.coordinator ⟨"/t"⟩) 10 20
    (rfl : interrupted.scanning.current = some (interrupted.tickets, .pass .scan))
  refine ⟨former, left, by decide +kernel, ended, trace, ?_⟩
  obtain ⟨scans, _⟩ :=
    refused_pass_stops (interrupted_reachable.scanning interrupted_resting) rfl spell ended
  obtain ⟨time, space, rest, _, refused, answered⟩ := scans rfl
  cases listing : ((Namespace.coordinator ⟨"/t"⟩).list space).1 with
  | error error =>
    obtain ⟨_, _, same, _⟩ := refused error listing
    rw [show last.roster = interrupted.roster from same, former] at left
    exact absurd left (by decide)
  | ok listed =>
    obtain ⟨_, _, stops⟩ := answered listed listing
    obtain ⟨stop, _, stopped, _⟩ := stops _ rfl
    exact ⟨stop, spell, stopped⟩

end Turns
end TabletRoster
