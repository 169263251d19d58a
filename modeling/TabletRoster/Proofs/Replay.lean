import TabletRoster.Namespace
import TabletRoster.Proofs.Chronicle.Sound
import TabletRoster.Proofs.Keys
import TabletRoster.Proofs.Turnovers

namespace TabletRoster

namespace Entry

/-- What somebody makes of a turn who knows the instances before it and hears the listener. -/
def apply (entry : Entry) (instances : InstanceSet) : InstanceSet :=
  match entry.deed with
  | .pass _ heard _ => heard.foldl (fun instances delta => delta.apply instances) instances
  | .eviction (some victim) => instances.erase victim
  | .eviction none => instances

def replay (log : List Entry) : InstanceSet :=
  log.foldl (fun instances entry => entry.apply instances) ∅

/-- At the beginning and at the end of the passes no two paths have the same instance. -/
def Plain (log : List Entry) : Prop :=
  ∀ entry ∈ log, entry.isPass = true → entry.before.Distinct ∧ entry.after.Distinct

instance (log : List Entry) : Decidable (Plain log) :=
  inferInstanceAs (Decidable (∀ entry ∈ log, entry.isPass = true → _))

variable {entry : Entry} {log : List Entry}

theorem Faithful.apply (faithful : entry.Faithful) (distinct : entry.before.Distinct) :
    entry.apply entry.before.instances = entry.after.instances := by
  cases faithful with
  | pass before after visits outcome delta once others whole returned =>
    subst whole
    exact Members.apply_turnovers others once distinct
  | missed members => rfl
  | evicted members path member found =>
    have there : members.server? path = some member.server := by simp [Members.server?, found]
    exact (Members.instances_erase distinct there).symm

theorem Faithful.distinct (faithful : entry.Faithful) (distinct : entry.before.Distinct)
    (plain : entry.isPass = true → entry.before.Distinct ∧ entry.after.Distinct) :
    entry.after.Distinct := by
  cases faithful with
  | pass before after visits outcome delta once others whole returned => exact (plain rfl).2
  | missed members => exact distinct
  | evicted members path member found => exact distinct.erase path

theorem replay_settled (faithful : ∀ entry ∈ log, entry.Faithful)
    (chained : ∀ (n : Nat) (entry : Entry), log[n]? = some entry →
      entry.before = settled (log.take n)) (n : Nat) (plain : Plain (log.take n)) :
    replay (log.take n) = (settled (log.take n)).instances ∧ (settled (log.take n)).Distinct := by
  induction n with
  | zero =>
    refine ⟨?_, Members.distinct_empty⟩
    apply Std.ExtTreeSet.ext_mem
    intro i
    simp [replay, settled, Members.mem_instances, Members.server?]
  | succ n ih =>
    cases there : log[n]? with
    | none =>
      have short := List.getElem?_eq_none_iff.mp there
      rw [List.take_of_length_le (Nat.le_succ_of_le short)] at plain ⊢
      rw [List.take_of_length_le short] at ih
      exact ih plain
    | some entry =>
      have next : log.take (n + 1) = log.take n ++ [entry] := by
        rw [List.take_add_one, there]
        rfl
      rw [next] at plain ⊢
      obtain ⟨replayed, distinct⟩ := ih fun other member =>
        plain other (List.mem_append_left _ member)
      have before := chained n entry there
      have once := faithful entry (List.mem_of_getElem? there)
      rw [← before] at replayed distinct
      rw [settled_append]
      refine ⟨?_, once.distinct distinct (plain entry (by simp))⟩
      rw [replay, List.foldl_append, List.foldl_cons, List.foldl_nil, ← once.apply distinct,
        ← replayed]
      rfl

theorem Faithful.told_once (faithful : entry.Faithful) (pass : entry.isPass = true) :
    ∃ delta, entry.heard = [delta] ∧ ∀ returned, entry.returned? = some returned → returned = delta := by
  cases faithful with
  | pass before after visits outcome delta once others whole returned =>
    refine ⟨delta, rfl, ?_⟩
    intro result same
    cases outcome with
    | ok other =>
      cases same
      exact returned result rfl
    | error error => cases same
  | missed members => cases pass
  | evicted members path member found => cases pass

end Entry

namespace Chronicle

variable {σ : Type}

theorem Sound.told {chronicle : Chronicle σ} (sound : chronicle.Sound) :
    chronicle.turns.told.toList =
      chronicle.log.flatMap Entry.heard ++ chronicle.turns.telling := by
  cases sound.standing with
  | idle current told => simp [Turns.telling, current, told]
  | passing ticket stage delta current told since way => simp [Turns.telling, current, told]
  | telling ticket delta failure current told since way => simp [Turns.telling, current, told]
  | evicting ticket turn path member current victim told found members cache built =>
    have silent : chronicle.turns.telling = [] := by
      cases turn with
      | telling delta failure => simp [Turns.victim?, current] at victim
      | _ => simp [Turns.telling, current]
    rw [told, silent, List.append_nil]

/-- The listener is told of each pass once, in the order of the passes, and a pass that succeeds
returns what the listener was told. Whoever applies it all has the instances of the members after
every turn, as long as passes begin and end without doubles. -/
theorem listener_replay (service : Coordinator σ) (grace : Nat) (space : σ)
    (moves : List (Move σ)) :
    let chronicle := run service moves (start grace space)
    chronicle.turns.told.toList =
        chronicle.log.flatMap Entry.heard ++ chronicle.turns.telling ∧
      (∀ entry ∈ chronicle.log, entry.isPass = true → ∃ delta, entry.heard = [delta] ∧
        ∀ returned, entry.returned? = some returned → returned = delta) ∧
      (∀ (n : Nat) (entry : Entry), chronicle.log[n]? = some entry →
        entry.before = Entry.settled (chronicle.log.take n)) ∧
      (chronicle.turns.current = none →
        chronicle.turns.roster.members = Entry.settled chronicle.log) ∧
      ∀ n, Entry.Plain (chronicle.log.take n) →
        Entry.replay (chronicle.log.take n) =
          (Entry.settled (chronicle.log.take n)).instances := by
  intro chronicle
  have sound : chronicle.Sound := sound_run service moves (sound_start grace space)
  refine ⟨sound.told, ?_, sound.chained, ?_, ?_⟩
  · intro entry member pass
    exact (sound.faithful entry member).told_once pass
  · intro idle
    have settled := sound.settled
    rwa [base, idle] at settled
  · intro n plain
    exact (Entry.replay_settled sound.faithful sound.chained n plain).1

def threeTurns : List (Move Namespace) := [
  .outside fun space => space.acquireLock ⟨"/t"⟩ (.sample "a") ⟨⟨"a", 1⟩, "g"⟩ "s",
  .outside fun space => space.acquireLock ⟨"/t"⟩ (.sample "b") ⟨⟨"b", 1⟩, "g"⟩ "s",
  .turn (.come .scan), .turn .enter, .turn (.ask 0), .turn (.ask 0), .turn (.ask 0), .turn (.ask 0),
  .turn .leave,
  .turn (.come (.evict ⟨⟨"a", 1⟩, "s"⟩)), .turn .enter, .turn (.ask 0), .turn (.ask 0),
  .outside fun space => space.releaseLock ⟨"/t"⟩ (.sample "b") "s",
  .turn (.come (.check (.sample "b"))), .turn .enter, .turn (.ask 0), .turn (.ask 0), .turn (.ask 0),
  .turn .leave]

theorem listener_replay_three_turns :
    let log := (run (Namespace.coordinator ⟨"/t"⟩) threeTurns (start 0 .empty)).log
    log.map (·.isPass) = [true, false, true] ∧ Entry.Plain (log.take 3) ∧
      Entry.replay (log.take 3) = (Entry.settled (log.take 3)).instances := by
  intro log
  have plain : Entry.Plain (log.take 3) := by decide +kernel
  have replay := listener_replay (Namespace.coordinator ⟨"/t"⟩) 0 .empty threeTurns
  exact ⟨by decide +kernel, plain, replay.2.2.2.2 3 plain⟩

end Chronicle
end TabletRoster
