import TabletRoster.Namespace
import TabletRoster.Proofs.Chronicle.Sound
import TabletRoster.Proofs.Keys
import TabletRoster.Proofs.Turnovers

namespace TabletRoster

theorem Entry.Faithful.net {entry : Entry} (faithful : entry.Faithful)
    (pass : entry.isPass = true) : ∃ delta, entry.heard = [delta] ∧
      (∀ path, path ∉ entry.visits → entry.after[path]? = entry.before[path]?) ∧
      delta = Delta.turnovers entry.before entry.after entry.visits .empty := by
  cases faithful with
  | pass before after visits outcome delta once others whole returned =>
    exact ⟨delta, rfl, others, whole⟩
  | missed members => cases pass
  | evicted members path member found => cases pass

namespace Chronicle

variable {σ : Type}

theorem net_change_iff (service : Coordinator σ) (grace : Nat) (space : σ)
    (moves : List (Move σ)) (entry : Entry)
    (written : entry ∈ (run service moves (start grace space)).log)
    (pass : entry.isPass = true) :
    let before := entry.before.instances
    let after := entry.after.instances
    ∃ delta, entry.heard = [delta] ∧
      (∀ i, i ∈ before → i ∉ after → i ∈ delta.removed ∧ i ∉ delta.added) ∧
      (∀ i, i ∉ before → i ∈ after → i ∈ delta.added ∧ i ∉ delta.removed) ∧
      (∀ i, i ∉ before → i ∉ after → i ∉ delta.added ∧ i ∉ delta.removed) ∧
      ((∀ i, (i ∈ delta.added ↔ i ∈ after ∧ i ∉ before) ∧
          (i ∈ delta.removed ↔ i ∈ before ∧ i ∉ after)) ↔
        ∀ i, i ∈ before → i ∈ after →
          Swing.Undone (Members.history entry.before entry.after i entry.visits)) := by
  have sound : (run service moves (start grace space)).Sound :=
    sound_run service moves (sound_start grace space)
  obtain ⟨delta, heard, others, rfl⟩ := (sound.faithful entry written).net pass
  have tells (i : Instance) := (Delta.tells_empty i).turnovers entry.before entry.after entry.visits
  refine ⟨_, heard, ?_, ?_, ?_, Members.net_iff others⟩
  · intro i member gone
    obtain ⟨never, went⟩ := Members.history_of_leaving others member gone
    exact ((tells i).leaving never went).symm
  · intro i new member
    obtain ⟨never, came⟩ := Members.history_of_joining others new member
    exact (tells i).joining never came
  · intro i never still
    exact (tells i).silent_iff.mpr (.inl (Members.history_of_stranger never still))

def handover : List (Move Namespace) := [
  .outside fun space => space.acquireLock ⟨"/t"⟩ (.sample "a") ⟨⟨"x", 1⟩, "g"⟩ "s",
  .turn (.come .scan), .turn .enter, .turn (.ask 0), .turn (.ask 0), .turn (.ask 0), .turn .leave,
  .outside fun space => space.releaseLock ⟨"/t"⟩ (.sample "a") "s",
  .outside fun space => space.acquireLock ⟨"/t"⟩ (.sample "b") ⟨⟨"x", 1⟩, "g"⟩ "s",
  .turn (.come .scan), .turn .enter, .turn (.ask 0), .turn (.ask 0), .turn (.ask 0), .turn .leave]

theorem handover_scans :
    1 < (run (Namespace.coordinator ⟨"/t"⟩) handover (start 0 .empty)).log.length := by
  decide +kernel

def handed : Entry :=
  (run (Namespace.coordinator ⟨"/t"⟩) handover (start 0 .empty)).log.get ⟨1, handover_scans⟩

/-- The instance is a member before and after the second scan, and yet the scan tells of it. -/
theorem net_change_handover :
    handed ∈ (run (Namespace.coordinator ⟨"/t"⟩) handover (start 0 .empty)).log ∧
      handed.isPass = true ∧ ⟨⟨"x", 1⟩, "s"⟩ ∈ handed.before.instances ∧
      ⟨⟨"x", 1⟩, "s"⟩ ∈ handed.after.instances ∧ ∃ delta, handed.heard = [delta] ∧
        ¬ ∀ i, (i ∈ delta.added ↔ i ∈ handed.after.instances ∧ i ∉ handed.before.instances) ∧
          (i ∈ delta.removed ↔ i ∈ handed.before.instances ∧ i ∉ handed.after.instances) := by
  have written : handed ∈ (run (Namespace.coordinator ⟨"/t"⟩) handover (start 0 .empty)).log :=
    List.get_mem _ _
  have pass : handed.isPass = true := by decide +kernel
  have before : ⟨⟨"x", 1⟩, "s"⟩ ∈ handed.before.instances := by decide +kernel
  have after : ⟨⟨"x", 1⟩, "s"⟩ ∈ handed.after.instances := by decide +kernel
  have history : Members.history handed.before handed.after ⟨⟨"x", 1⟩, "s"⟩ handed.visits =
      [.went, .came] := by
    decide +kernel
  obtain ⟨delta, heard, _, _, _, net⟩ :=
    net_change_iff (Namespace.coordinator ⟨"/t"⟩) 0 .empty handover handed written pass
  refine ⟨written, pass, before, after, delta, heard, fun told => ?_⟩
  have undone := net.mp told ⟨⟨"x", 1⟩, "s"⟩ before after
  rw [history] at undone
  rcases undone with nothing | ⟨earlier, same⟩
  · cases nothing
  · have last := congrArg List.getLast? same
    simp at last

end Chronicle
end TabletRoster
