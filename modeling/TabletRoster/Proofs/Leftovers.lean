import TabletRoster.Proofs.Eviction
import TabletRoster.Proofs.Spells
import TabletRoster.Proofs.Turnovers

/-!
What an eviction leaves. It takes an instance off the first path where the instance stands, and it
may delete the keys of one path. Where the instance stands at another path as well, readers still
find it there.
-/
namespace TabletRoster

theorem Snapshot.known_build (members : Members) (i : Instance) :
    ((build members).contains i = true ↔ ∃ path, members.server? path = some i) ∧
      (((build members).connection? i).isSome ↔ ∃ path, members.server? path = some i) := by
  have run (seen : List Member) (snapshot : Snapshot) :
      (i ∈ (seen.foldl add snapshot).servers ↔
        i ∈ snapshot.servers ∨ ∃ member ∈ seen, member.server = i) ∧
      (i ∈ (seen.foldl add snapshot).entries ↔
        i ∈ snapshot.entries ∨ ∃ member ∈ seen, member.server = i) := by
    induction seen generalizing snapshot with
    | nil => simp
    | cons member rest ih =>
      have further := ih (snapshot.add member)
      simp only [add, Std.ExtTreeSet.mem_insert, Std.ExtTreeMap.mem_insert,
        Std.compare_eq_iff_eq] at further
      rw [List.foldl_cons]
      refine ⟨further.1.trans ?_, further.2.trans ?_⟩ <;> grind
  have stands : (∃ member ∈ members.values, member.server = i) ↔
      ∃ path, members.server? path = some i := by
    rw [← Members.mem_instances, Members.instances, Std.ExtTreeSet.mem_ofList,
      List.contains_iff_mem, List.mem_map]
  obtain ⟨servers, entries⟩ := run members.values empty
  have nothing : i ∉ empty.servers ∧ i ∉ empty.entries := by simp [empty]
  constructor
  · rw [contains, ← Std.ExtTreeSet.mem_iff_contains, build, servers, or_iff_right nothing.1, stands]
  · rw [connection?, Option.isSome_map, ← Std.ExtTreeMap.mem_iff_isSome_getElem?, build, entries,
      or_iff_right nothing.2, stands]

namespace Roster

theorem find_known (roster : Roster) (i : Instance) :
    (∃ lookup, roster.find? lookup = some i) ↔
      ∃ path, roster.members.server? path = some i := by
  rw [← Members.mem_instances, Members.instances, Std.ExtTreeSet.mem_ofList, List.contains_iff_mem,
    List.mem_map]
  constructor
  · rintro ⟨lookup, found⟩
    obtain ⟨member, first, same⟩ := Option.map_eq_some_iff.mp found
    exact ⟨member, List.mem_of_find?_eq_some first, same⟩
  · rintro ⟨member, there, rfl⟩
    let lookup : Lookup := ⟨member.server.address, some member.server.session⟩
    have own : lookup.selects member.server = true := by simp [lookup, Lookup.selects]
    obtain ⟨other, first⟩ := Option.isSome_iff_exists.mp
      (List.find?_isSome.mpr ⟨member, there, own⟩ :
        (roster.members.values.find? fun member => lookup.selects member.server).isSome)
    refine ⟨lookup, ?_⟩
    have selected := List.find?_some first
    have same : other.server = member.server := by
      simp only [lookup, Lookup.selects, Option.all_some, Bool.and_eq_true, decide_eq_true_eq]
        at selected
      cases one : other.server
      cases two : member.server
      simp_all
    rw [find?, first, Option.map_some, same]

theorem pathOf_none {roster : Roster} {i : Instance} :
    roster.pathOf? i = none ↔ ∀ path, roster.members.server? path ≠ some i := by
  constructor
  · intro absent path stands
    obtain ⟨member, there, same⟩ := Option.map_eq_some_iff.mp stands
    have other := List.find?_eq_none.mp (Option.map_eq_none_iff.mp absent) (path, member)
      (Std.ExtTreeMap.mem_toList_iff_getElem?_eq_some.mpr there)
    exact absurd same (by simpa using other)
  · intro nowhere
    cases found : roster.pathOf? i with
    | none => rfl
    | some path =>
      obtain ⟨member, there, same⟩ := member_of_pathOf found
      exact absurd (by simp [Members.server?, there, same]) (nowhere path)

theorem pathOf_first {roster : Roster} {i : Instance} {path other : ServerPath}
    (found : roster.pathOf? i = some path) (stands : roster.members.server? other = some i) :
    compare path other ≠ .gt := by
  obtain ⟨⟨place, former⟩, first, rfl⟩ := Option.map_eq_some_iff.mp found
  obtain ⟨member, there, same⟩ := Option.map_eq_some_iff.mp stands
  exact (Members.find_first first).2.2 other member there (by simpa using same)

end Roster

def Asking.Refused {σ : Type} (service : Coordinator σ) (asking : Asking σ)
    (error : CoordinationError) : Prop :=
  match asking.question with
  | .list => (service.list asking.space).1 = .error error
  | .readLock path => (service.readLock path asking.space).1 = .error error
  | .contains path => (service.contains path asking.space).1 = .error error
  | .delete path => (service.delete path asking.space).1 = .error error
  | .deleteTree path => (service.deleteTree path asking.space).1 = .error error

namespace Turns

variable {σ : Type} {service : Coordinator σ} {ticket grace : Nat} {turns last : Turns σ}
  {trace : List (Asking σ)} {i : Instance} {path : ServerPath}

/-- What an eviction has asked, and what it comes to by the answers. -/
inductive Concluded (service : Coordinator σ) (i : Instance) (path : ServerPath)
    (dropped : Roster) : List (Asking σ) → Except FatalRemove Unit → Roster → Prop where
  | unlisted (time : Nat) (space : σ) (error : CoordinationError)
      (refused : (service.list space).1 = .error error) :
      Concluded service i path dropped [⟨time, .list, space⟩]
        (.error ⟨i, service.layout.serverKey path, error⟩) dropped
  | skipped (time : Nat) (space : σ) (listed : PathSet)
      (answer : (service.list space).1 = .ok listed) (absent : path.home i ∉ listed) :
      Concluded service i path dropped [⟨time, .list, space⟩] (.ok ()) dropped
  | uncleared (time later : Nat) (space further : σ) (listed : PathSet) (error : CoordinationError)
      (answer : (service.list space).1 = .ok listed) (there : path.home i ∈ listed)
      (refused : (service.deleteTree (path.home i) further).1 = .error error) :
      Concluded service i path dropped
        [⟨time, .list, space⟩, ⟨later, .deleteTree (path.home i), further⟩]
        (.error ⟨i, service.layout.serverKey path, error⟩) dropped
  | cleared (time later : Nat) (space further : σ) (listed : PathSet)
      (answer : (service.list space).1 = .ok listed) (there : path.home i ∈ listed)
      (deleted : (service.deleteTree (path.home i) further).1 = .ok ()) :
      Concluded service i path dropped
        [⟨time, .list, space⟩, ⟨later, .deleteTree (path.home i), further⟩]
        (.ok ()) { dropped with stale := dropped.stale.forget (path.home i) }

inductive Evicting (service : Coordinator σ) (ticket : Nat) (i : Instance) (path : ServerPath)
    (dropped : Roster) (told : Array Delta) (trace : List (Asking σ)) (turns : Turns σ) :
    Prop where
  | locating (current : turns.current = some (ticket, .locating i path)) (unasked : trace = [])
      (roster : turns.roster = dropped) (silent : turns.told = told)
  | clearing (time : Nat) (space : σ) (listed : PathSet)
      (current : turns.current = some (ticket, .clearing i path (path.home i)))
      (whole : trace = [⟨time, .list, space⟩]) (answer : (service.list space).1 = .ok listed)
      (there : path.home i ∈ listed) (roster : turns.roster = dropped) (silent : turns.told = told)
  | closed (outcome : Except FatalRemove Unit) (current : turns.current = none)
      (result : turns.result? ticket = some (.evicted outcome)) (silent : turns.told = told)
      (concluded : Concluded service i path dropped trace outcome turns.roster)

theorem Evicting.beside {dropped : Roster} {told : Array Delta} {next : Turns σ} {turn : Turn}
    (evicting : Evicting service ticket i path dropped told trace turns)
    (current : turns.current = some (ticket, turn)) (same : next.current = turns.current)
    (roster : next.roster = turns.roster) (silent : next.told = turns.told) :
    Evicting service ticket i path dropped told trace next := by
  cases evicting with
  | locating locates unasked dropped untold =>
    exact .locating (same.trans locates) unasked (roster.trans dropped) (silent.trans untold)
  | clearing time space listed clears whole answer there dropped untold =>
    exact .clearing time space listed (same.trans clears) whole answer there
      (roster.trans dropped) (silent.trans untold)
  | closed outcome idle result untold concluded =>
    rw [idle] at current
    cases current

theorem Evicting.listed {middle next : Turns σ} {time : Nat}
    (locates : middle.current = some (ticket, .locating i path))
    (moved : middle.advance? service time = some next) :
    Evicting service ticket i path middle.roster middle.told [⟨time, .list, middle.space⟩] next := by
  simp only [advance?, locates] at moved
  split at moved
  · rename_i error after answer
    cases moved
    exact .closed _ rfl (by simp [finish, result?]) rfl
      (.unlisted time middle.space error (congrArg Prod.fst answer))
  · rename_i listed after answer
    have answer : (service.list middle.space).1 = .ok listed := congrArg Prod.fst answer
    rw [Roster.candidates_eq] at moved
    by_cases there : path.home i ∈ listed
    · rw [if_pos there] at moved
      cases moved
      exact .clearing time middle.space listed rfl rfl answer there rfl rfl
    · rw [if_neg there] at moved
      cases moved
      exact .closed _ rfl (by simp [finish, result?]) rfl
        (.skipped time middle.space listed answer there)

theorem Evicting.cleared {middle next : Turns σ} {first time : Nat} {space : σ} {listed : PathSet}
    (clears : middle.current = some (ticket, .clearing i path (path.home i)))
    (answer : (service.list space).1 = .ok listed) (there : path.home i ∈ listed)
    (moved : middle.advance? service time = some next) :
    Evicting service ticket i path middle.roster middle.told
      [⟨first, .list, space⟩, ⟨time, .deleteTree (path.home i), middle.space⟩] next := by
  simp only [advance?, clears] at moved
  split at moved
  · rename_i error after refused
    cases moved
    exact .closed _ rfl (by simp [finish, result?]) rfl
      (.uncleared first time space middle.space listed error answer there
        (congrArg Prod.fst refused))
  · rename_i after deleted
    cases moved
    exact .closed _ rfl (by simp [finish, result?]) rfl
      (.cleared first time space middle.space listed answer there (congrArg Prod.fst deleted))

theorem Spell.evicting (begun : turns.current = some (ticket, .locating i path))
    (spell : Spell service ticket turns trace last) :
    Evicting service ticket i path turns.roster turns.told trace last := by
  induction spell with
  | begun => exact .locating begun rfl rfl rfl
  | @asked trace middle next turn time spell current moved ih =>
    cases ih with
    | locating locates unasked roster silent =>
      cases current.symm.trans locates
      rw [unasked, ← roster, ← silent]
      exact .listed locates moved
    | clearing first space listed clears whole answer there roster silent =>
      cases current.symm.trans clears
      rw [whole, ← roster, ← silent]
      exact .cleared clears answer there moved
    | closed outcome idle result silent concluded =>
      rw [idle] at current
      cases current
  | @left trace middle next turn spell current moved ih =>
    cases @step_of_leave σ service _ _ moved with
    | left owner delta failure tells =>
      cases ih with
      | locating locates unasked roster silent => cases locates.symm.trans tells
      | clearing time space listed clears whole answer there roster silent =>
        cases clears.symm.trans tells
      | closed outcome idle result silent concluded =>
        rw [idle] at tells
        cases tells
  | came job spell current ih =>
    obtain ⟨same, roster, silent, _⟩ := come_beside job _
    exact ih.beside current same roster silent
  | collected owner spell current ih => exact ih.beside current rfl rfl rfl
  | cancelled other spell current apart ih =>
    exact ih.beside current ((current_cancel_other current apart).trans current.symm) rfl rfl
  | changed change spell current ih => exact ih.beside current rfl rfl rfl

section Concluded

variable {dropped roster : Roster} {outcome : Except FatalRemove Unit}
  (concluded : Concluded service i path dropped trace outcome roster)

include concluded

theorem Concluded.members : roster.members = dropped.members ∧ roster.cache = dropped.cache := by
  cases concluded <;> exact ⟨rfl, rfl⟩

theorem Concluded.clocks (other : ServerPath) :
    roster.stale.firstSeen[other]? = dropped.stale.firstSeen[other]? ∨
      (roster.stale.firstSeen[other]? = none ∧ ∃ time space,
        ⟨time, .deleteTree other, space⟩ ∈ trace ∧
        (service.deleteTree other space).1 = .ok ()) := by
  cases concluded with
  | cleared time later space further listed answer there deleted =>
    by_cases own : other = path.home i
    · subst own
      refine .inr ⟨?_, later, further, by simp, deleted⟩
      rw [StalePaths.getElem_forget, if_pos rfl]
    · refine .inl ?_
      rw [StalePaths.getElem_forget, if_neg own]
  | _ => exact .inl rfl

theorem Concluded.asks : ∀ asking ∈ trace,
    asking.question = .list ∨ asking.question = .deleteTree (path.home i) := by
  cases concluded <;> simp

/-- An eviction fails just with the error of a question that was refused. -/
theorem Concluded.fails (fatal : FatalRemove) : outcome = .error fatal ↔
    fatal.victim = i ∧ fatal.key = service.layout.serverKey path ∧
      ∃ asking ∈ trace, asking.Refused service fatal.source := by
  obtain ⟨victim, key, source⟩ := fatal
  cases concluded with
  | unlisted time space error refused =>
    simp [Asking.Refused, refused, eq_comm]
  | skipped time space listed answer absent =>
    simp [Asking.Refused, answer]
  | uncleared time later space further listed error answer there refused =>
    simp [Asking.Refused, answer, refused, eq_comm]
  | cleared time later space further listed answer there deleted =>
    simp [Asking.Refused, answer, deleted]

end Concluded

theorem evicts_within (service : Coordinator σ) (now : Nat)
    (begun : turns.current = some (ticket, .locating i path)) :
    ((runFor service now ticket 2 turns).result? ticket).isSome := by
  have finishes (fuel : Nat) {turns middle : Turns σ} {outcome : Except FatalRemove Unit}
      (waits : turns.result? ticket = none)
      (stepped : turns.step? service now = some (middle.finish ticket (.evicted outcome))) :
      ((runFor service now ticket (fuel + 1) turns).result? ticket).isSome := by
    rw [runFor_step waits stepped, runFor_finish]
    simp [finish, result?]
  cases waits : turns.result? ticket with
  | some result => simp [runFor, waits]
  | none =>
    rcases answer : service.list turns.space with ⟨error | listed, between⟩
    · apply finishes 1 waits
      simp only [step?, leave?, advance?, begun, answer, Option.orElse_eq_orElse,
        Option.orElse_eq_or, Option.none_or, Option.some_or]
      rfl
    · by_cases there : path.home i ∈ listed
      · have located : turns.step? service now = some { turns with
            space := between
            current := some (ticket, .clearing i path (path.home i)) } := by
          simp [step?, leave?, advance?, begun, answer, Roster.candidates_eq, there]
        rw [runFor_step waits located]
        rcases deletion : service.deleteTree (path.home i) between with ⟨error | _, after⟩ <;>
          · apply finishes 0
            · exact waits
            · simp only [step?, leave?, advance?, deletion, Option.orElse_eq_orElse,
                Option.orElse_eq_or, Option.none_or, Option.some_or]
              rfl
      · apply finishes 1 waits
        simp only [step?, leave?, advance?, begun, answer, Roster.candidates_eq, if_neg there,
          Option.orElse_eq_orElse, Option.orElse_eq_or, Option.none_or, Option.some_or]
        rfl

/-- An eviction of an instance that stands nowhere is over at once, whatever the service is like.
Any other one takes the instance off the first of its paths and off no other, forgets at most the
clock of a path whose keys it has deleted, tells the listener nothing, and fails exactly with the
error of a question that was refused. Afterwards readers find the instance just if it stands at a
second path. -/
theorem eviction_leaves_second_path (reachable : turns.Reachable service grace)
    (idle : turns.current = none) {rest : List (Nat × Job)}
    (first : turns.waiting = (ticket, .evict i) :: rest) :
    ((∀ path, turns.roster.members.server? path ≠ some i) →
      ∃ after, turns.enter? = some after ∧
        after.result? ticket = some (.evicted (.ok ())) ∧ after.roster = turns.roster ∧
          after.space = turns.space ∧ after.told = turns.told) ∧
    ((∃ path, turns.roster.members.server? path = some i) →
      ∃ path begun, turns.roster.members.server? path = some i ∧
        (∀ other, turns.roster.members.server? other = some i → compare path other ≠ .gt) ∧
        turns.enter? = some begun ∧ begun.current = some (ticket, .locating i path) ∧
        (∀ now, ((runFor service now ticket 2 begun).result? ticket).isSome) ∧
        ∀ trace last result, Spell service ticket begun trace last →
          last.result? ticket = some result → ∃ outcome, result = .evicted outcome ∧
            (∀ other, last.roster.members[other]? =
              if other = path then none else turns.roster.members[other]?) ∧
            (∀ other, last.roster.stale.firstSeen[other]? = turns.roster.stale.firstSeen[other]? ∨
              (last.roster.stale.firstSeen[other]? = none ∧ ∃ time space,
                ⟨time, .deleteTree other, space⟩ ∈ trace ∧
                  (service.deleteTree other space).1 = .ok ())) ∧
            last.told = turns.told ∧
            (∀ asking ∈ trace,
              asking.question = .list ∨ asking.question = .deleteTree (path.home i)) ∧
            (∀ fatal, outcome = .error fatal ↔
              fatal.victim = i ∧ fatal.key = service.layout.serverKey path ∧
                ∃ asking ∈ trace, asking.Refused service fatal.source) ∧
            let second := ∃ other, other ≠ path ∧ turns.roster.members.server? other = some i
            (last.roster.snapshot.1.2.contains i = true ↔ second) ∧
              ((last.roster.snapshot.1.2.connection? i).isSome ↔ second) ∧
                ((∃ lookup, last.roster.find? lookup = some i) ↔ second)) := by
  constructor
  · intro nowhere
    refine ⟨{ turns with waiting := rest }.finish ticket (.evicted (.ok ())), ?_, ?_, rfl, rfl, rfl⟩
    · simp [enter?, idle, first, begin, Roster.pathOf_none.mpr nowhere]
    · simp [finish, result?]
  · intro somewhere
    have found : turns.roster.pathOf? i ≠ none := by
      rw [Ne, Roster.pathOf_none]
      exact fun nowhere => somewhere.elim nowhere
    obtain ⟨path, found⟩ := Option.ne_none_iff_exists'.mp found
    obtain ⟨member, there, same⟩ := Roster.member_of_pathOf found
    have entered : turns.enter? = some { turns with
        waiting := rest
        roster := turns.roster.drop path
        current := some (ticket, .locating i path) } := by
      simp [enter?, idle, first, begin, found]
    have begins := @Reachable.moved σ service grace turns _ .enter reachable entered
    refine ⟨path, _, by simp [Members.server?, there, same],
      fun other => Roster.pathOf_first found, entered, rfl,
      fun now => evicts_within service now rfl, ?_⟩
    intro trace last result spell ended
    have pending {turn : Turn} (current : last.current = some (ticket, turn)) : False := by
      rw [(spell.reachable begins).orderly.pending current] at ended
      cases ended
    cases spell.evicting rfl with
    | locating current unasked roster silent => exact (pending current).elim
    | clearing time space listed current whole answer there roster silent =>
      exact (pending current).elim
    | closed outcome current returned silent concluded =>
      rw [ended] at returned
      obtain ⟨members, cache⟩ := concluded.members
      have left (other : ServerPath) : last.roster.members[other]? =
          if other = path then none else turns.roster.members[other]? := by
        rw [members]
        exact drop_at turns.roster path other
      have stands : (∃ other, last.roster.members.server? other = some i) ↔
          ∃ other, other ≠ path ∧ turns.roster.members.server? other = some i := by
        unfold Members.server?
        refine exists_congr fun other => ?_
        rw [left]
        by_cases own : other = path <;> simp [own]
      have shared : last.roster.snapshot.1.2 = Snapshot.build last.roster.members := by
        have none : last.roster.cache = none := cache
        simp [Roster.snapshot, none]
      obtain ⟨listed, connected⟩ := Snapshot.known_build last.roster.members i
      refine ⟨outcome, Option.some.inj returned, left, concluded.clocks, silent, concluded.asks,
        concluded.fails, ?_⟩
      rw [shared]
      exact ⟨listed.trans stands, connected.trans stands, (last.roster.find_known i).trans stands⟩

def doubled : Turns Namespace :=
  let first := Namespace.empty.acquireLock ⟨"/t"⟩ (.sample "a") ⟨⟨"x", 1⟩, "g"⟩ "s"
  let second := first.acquireLock ⟨"/t"⟩ (.sample "b") ⟨⟨"x", 1⟩, "g"⟩ "s"
  ((start (.empty 3) second).perform (Namespace.coordinator ⟨"/t"⟩) 0 20 .scan).2

theorem eviction_leaves_second_path_doubled :
    doubled.roster.members.server? (.sample "a") = some ⟨⟨"x", 1⟩, "s"⟩ ∧
    doubled.roster.members.server? (.sample "b") = some ⟨⟨"x", 1⟩, "s"⟩ ∧
    ∃ begun trace last outcome,
      (doubled.come (.evict ⟨⟨"x", 1⟩, "s"⟩)).2.enter? = some begun ∧
      Spell (Namespace.coordinator ⟨"/t"⟩) doubled.tickets begun trace last ∧
      last.result? doubled.tickets = some (.evicted outcome) ∧
      last.roster.snapshot.1.2.contains ⟨⟨"x", 1⟩, "s"⟩ = true := by
  have one : doubled.roster.members.server? (.sample "a") = some ⟨⟨"x", 1⟩, "s"⟩ := by
    decide +kernel
  have two : doubled.roster.members.server? (.sample "b") = some ⟨⟨"x", 1⟩, "s"⟩ := by
    decide +kernel
  have idle : doubled.current = none := Option.isNone_iff_eq_none.mp (by decide +kernel)
  have alone : doubled.waiting = [] := by decide +kernel
  have reachable : doubled.Reachable (Namespace.coordinator ⟨"/t"⟩) 3 :=
    (Reachable.started _).performed 0 20 .scan
  have waits := doubled.come_waits (by simp : Job.evict ⟨⟨"x", 1⟩, "s"⟩ ≠ .read)
  rw [alone, List.nil_append] at waits
  have came := @Reachable.moved _ _ _ _ _ (.come (.evict ⟨⟨"x", 1⟩, "s"⟩)) reachable rfl
  rw [waits] at came ⊢
  obtain ⟨_, known⟩ := eviction_leaves_second_path came idle rfl
  obtain ⟨path, begun, _, _, entered, current, returns, effect⟩ := known ⟨_, one⟩
  obtain ⟨trace, spell⟩ := spell_runFor (Namespace.coordinator ⟨"/t"⟩) 5 2 current
  obtain ⟨result, ended⟩ := Option.isSome_iff_exists.mp (returns 5)
  obtain ⟨outcome, rfl, _, _, _, _, _, listed, _⟩ := effect trace _ result spell ended
  refine ⟨one, two, begun, trace, _, outcome, entered, spell, ended, listed.mpr ?_⟩
  by_cases first : path = .sample "a"
  · exact ⟨.sample "b", by rw [first]; decide, two⟩
  · exact ⟨.sample "a", Ne.symm first, one⟩

end Turns
end TabletRoster
