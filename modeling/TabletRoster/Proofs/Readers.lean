import TabletRoster.Namespace
import TabletRoster.Proofs.Chronicle.Sound
import TabletRoster.Proofs.Keys
import TabletRoster.Proofs.Turnovers

namespace TabletRoster

namespace Snapshot

structure Shows (snapshot : Snapshot) (seen : List Member) : Prop where
  servers : ∀ i, i ∈ snapshot.servers ↔ ∃ member ∈ seen, member.server = i
  grouped : ∀ group i, (∃ set, snapshot.inGroup? group = some set ∧ i ∈ set) ↔
    ∃ member ∈ seen, member.server = i ∧ member.group = group
  filled : ∀ group set, snapshot.inGroup? group = some set → ∃ i, i ∈ set
  named : ∀ i group, snapshot.group? i = some group ↔
    ∃ member ∈ seen, member.server = i ∧ member.group = group

theorem shows_empty : empty.Shows [] := by
  constructor <;> simp [empty, inGroup?, group?]

variable {snapshot : Snapshot} {seen : List Member} {member : Member}

theorem inGroup_add (snapshot : Snapshot) (member : Member) (group : String) :
    (snapshot.add member).inGroup? group =
      if member.group = group then
        some (((snapshot.inGroup? group).getD ∅).insert member.server)
      else snapshot.inGroup? group := by
  simp only [add, inGroup?, Std.ExtTreeMap.getElem?_insert, Std.compare_eq_iff_eq]
  split
  · rename_i same
    rw [same]
  · rfl

theorem group_add (snapshot : Snapshot) (member : Member) (i : Instance) :
    (snapshot.add member).group? i =
      if member.server = i then some member.group else snapshot.group? i := by
  simp only [add, group?, Std.ExtTreeMap.getElem?_insert, Std.compare_eq_iff_eq]
  split <;> rfl

theorem Shows.add (shown : snapshot.Shows seen)
    (fresh : ∀ other ∈ seen, other.server ≠ member.server) :
    (snapshot.add member).Shows (seen ++ [member]) := by
  obtain ⟨servers, grouped, filled, named⟩ := shown
  constructor
  · intro i
    simp only [Snapshot.add, Std.ExtTreeSet.mem_insert, Std.compare_eq_iff_eq, servers]
    grind
  · intro group i
    rw [inGroup_add]
    by_cases here : member.group = group
    · subst here
      have old := grouped member.group i
      cases there : snapshot.inGroup? member.group with
      | none =>
        rw [there] at old
        simp only [if_true, Option.getD_none, Option.some.injEq, exists_eq_left']
        grind
      | some set =>
        rw [there] at old
        simp only [if_true, Option.getD_some, Option.some.injEq, exists_eq_left']
        grind
    · rw [if_neg here, grouped]
      grind
  · intro group set found
    rw [inGroup_add] at found
    split at found
    · cases found
      exact ⟨member.server, by simp⟩
    · exact filled group set found
  · intro i group
    rw [group_add]
    by_cases here : member.server = i
    · subst here
      simp only [if_true, Option.some.injEq]
      grind
    · rw [if_neg here, named]
      grind

theorem shows_build {members : Members} (distinct : members.Distinct) :
    (build members).Shows members.values := by
  have apart : (members.values.map (·.server)).Nodup := Members.distinct_iff_nodup.mp distinct
  have run (seen rest : List Member) (snapshot : Snapshot) (shown : snapshot.Shows seen)
      (nodup : ((seen ++ rest).map (·.server)).Nodup) :
      (rest.foldl add snapshot).Shows (seen ++ rest) := by
    induction rest generalizing seen snapshot with
    | nil => simpa using shown
    | cons member rest ih =>
      have fresh : ∀ other ∈ seen, other.server ≠ member.server := by
        rw [List.map_append, List.map_cons] at nodup
        intro other there
        exact (List.nodup_append.mp nodup).2.2 _ (List.mem_map_of_mem there) _ List.mem_cons_self
      rw [List.append_cons] at nodup ⊢
      exact ih (seen ++ [member]) (snapshot.add member) (shown.add fresh) nodup
  exact run [] members.values empty shows_empty apart

/-- The groups of a snapshot part its instances, which are those of the members. -/
structure Parted (snapshot : Snapshot) (members : Members) : Prop where
  servers : snapshot.servers = members.instances
  cover : ∀ i ∈ snapshot.servers, ∃ group set, snapshot.inGroup? group = some set ∧ i ∈ set
  within : ∀ group set, snapshot.inGroup? group = some set → ∀ i ∈ set, i ∈ snapshot.servers
  apart : ∀ one set other others, snapshot.inGroup? one = some set →
    snapshot.inGroup? other = some others → ∀ i ∈ set, i ∈ others → one = other
  filled : ∀ group set, snapshot.inGroup? group = some set → ∃ i, i ∈ set
  named : ∀ i group, snapshot.group? i = some group ↔
    ∃ set, snapshot.inGroup? group = some set ∧ i ∈ set

theorem build_parted {members : Members} (distinct : members.Distinct) :
    (build members).Parted members := by
  have shown := shows_build distinct
  have named (i : Instance) (group : String) : (build members).group? i = some group ↔
      ∃ set, (build members).inGroup? group = some set ∧ i ∈ set :=
    (shown.named i group).trans (shown.grouped group i).symm
  refine ⟨?_, ?_, ?_, ?_, shown.filled, named⟩
  · apply Std.ExtTreeSet.ext_mem
    intro i
    simp [shown.servers, Members.instances]
  · intro i there
    obtain ⟨member, listed, rfl⟩ := (shown.servers i).mp there
    exact ⟨member.group, (shown.grouped _ _).mpr ⟨member, listed, rfl, rfl⟩⟩
  · intro group set found i there
    obtain ⟨member, listed, same, _⟩ := (shown.grouped group i).mp ⟨set, found, there⟩
    exact (shown.servers i).mpr ⟨member, listed, same⟩
  · intro one set other others found another i here there
    have first := (named i one).mpr ⟨set, found, here⟩
    have second := (named i other).mpr ⟨others, another, there⟩
    exact Option.some.inj (first.symm.trans second)

end Snapshot

namespace Chronicle

variable {σ : Type}

theorem Sound.reads {service : Coordinator σ} {chronicle next : Chronicle σ} (sound : chronicle.Sound)
    {move : Move σ} (moved : chronicle.move? service move = some next) :
    next.readings = chronicle.readings ∨ ∃ number, next.readings = chronicle.readings ++
      [⟨number, .build (Entry.settled chronicle.log), chronicle.log.length⟩] := by
  cases move with
  | outside change =>
    cases moved
    exact .inl rfl
  | turn move =>
    obtain ⟨turns, possible, same⟩ := Option.bind_eq_some_iff.mp moved
    cases same
    have noted := sound_step sound (Turns.step_of_move possible)
    cases fresh : chronicle.turns.fresh? turns with
    | none => simp [note, fresh]
    | some result =>
      cases result with
      | snapshot number snapshot =>
        have whole : chronicle.note service move turns =
            ⟨turns, chronicle.reopen service move, chronicle.log, chronicle.readings ++
              [⟨number, snapshot, chronicle.log.length⟩]⟩ := by
          simp [note, fresh]
        rw [whole] at noted ⊢
        have last := (noted.shared.past ⟨number, snapshot, chronicle.log.length⟩ (by simp)).2.2
        simp only [List.take_length] at last
        exact .inr ⟨number, by rw [last]⟩
      | _ => simp [note, fresh]

/-- The shared snapshot and all that readers have got are snapshots of the members as they were
at the end of a turn, for a reader that of the last turn that had ended. Two readers have got the
same one just if no turn that ended between them has changed an instance or a group. -/
theorem snapshot_isolation (service : Coordinator σ) (grace : Nat) (space : σ)
    (moves : List (Move σ)) :
    let chronicle := run service moves (start grace space)
    (∀ number snapshot, chronicle.turns.roster.cache = some (number, snapshot) →
        snapshot = .build (Entry.settled chronicle.log)) ∧
      (∀ reading ∈ chronicle.readings, reading.ended ≤ chronicle.log.length ∧
        reading.snapshot = .build (Entry.settled (chronicle.log.take reading.ended))) ∧
      (∀ move next, chronicle.move? service move = some next →
        next.readings = chronicle.readings ∨ ∃ number, next.readings = chronicle.readings ++
          [⟨number, .build (Entry.settled chronicle.log), chronicle.log.length⟩]) ∧
      (chronicle.readings.Pairwise fun first second => first.number = second.number ↔
        Entry.Still ((chronicle.log.take second.ended).drop first.ended)) ∧
      ∀ members : Members, members.Distinct → (Snapshot.build members).Parted members := by
  intro chronicle
  have sound : chronicle.Sound := sound_run service moves (sound_start grace space)
  refine ⟨?_, ?_, fun move next moved => sound.reads moved, sound.shared.pairs,
    fun members distinct => Snapshot.build_parted distinct⟩
  · intro number snapshot cached
    rw [← sound.settled]
    exact (sound.shared.cached number snapshot (sound.cache cached)).1
  · intro reading member
    exact (sound.shared.past reading member).2

def fourReaders : List (Move Namespace) := [
  .outside fun space => space.acquireLock ⟨"/t"⟩ (.sample "a") ⟨⟨"a", 1⟩, "g"⟩ "s",
  .turn (.come .read), .turn .enter,
  .turn (.come .scan), .turn .enter, .turn (.ask 0), .turn (.ask 0), .turn (.come .read),
  .turn (.ask 0), .turn .leave, .turn .enter, .turn (.come .read),
  .turn (.come (.evict ⟨⟨"a", 1⟩, "s"⟩)), .turn .enter, .turn (.ask 0), .turn (.ask 0),
  .turn (.come .read), .turn .enter]

theorem snapshot_isolation_four_readers :
    let chronicle := run (Namespace.coordinator ⟨"/t"⟩) fourReaders (start 0 .empty)
    chronicle.readings.map (·.number) = [0, 1, 1, 2] ∧
      chronicle.readings.map (·.ended) = [0, 1, 1, 2] ∧
      ∀ reading ∈ chronicle.readings,
        reading.snapshot = .build (Entry.settled (chronicle.log.take reading.ended)) := by
  intro chronicle
  have isolated := snapshot_isolation (Namespace.coordinator ⟨"/t"⟩) 0 .empty fourReaders
  refine ⟨by decide +kernel, by decide +kernel, ?_⟩
  exact fun reading member => (isolated.2.1 reading member).2

end Chronicle
end TabletRoster
