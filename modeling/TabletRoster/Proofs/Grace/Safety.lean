import TabletRoster.Proofs.Grace.Period

namespace TabletRoster

namespace Namespace

theorem lockKey_remove {layout : Layout} {path : ServerPath} (plain : path.Unslashed)
    (other : ServerPath) (session : String) (space : Namespace) :
    (space.remove (layout.serverKey path)).nodes[layout.lockKey other session]? =
      space.nodes[layout.lockKey other session]? := by
  rw [getElem_remove, if_neg]
  intro same
  have below := Layout.below_of_lockStem (layout.lockStem_lockKey other session)
  exact Layout.serverKey_outside plain other (same ▸ below)

end Namespace

def Turns.stage? {σ : Type} (turns : Turns σ) : Option Stage :=
  match turns.current with
  | some (_, .pass pass) => some pass.stage
  | _ => none

theorem Turns.passing_of_stage {σ : Type} {turns : Turns σ} {stage : Stage}
    (at_work : turns.stage? = some stage) : turns.Passing := by
  unfold stage? at at_work
  split at at_work
  · rename_i current
    simp [Passing, current]
  · cases at_work

namespace Journal

theorem run_append {σ : Type} (service : Coordinator σ) (earlier later : List (Move σ))
    (journal : Journal σ) :
    run service (earlier ++ later) journal = run service later (run service earlier journal) :=
  List.foldl_append

/-- All that a move in a pass may do to a namespace: nothing, or to remove the node of a path that
it asks to delete. -/
inductive Spares (layout : Layout) (journal next : Journal Namespace) : Prop where
  | nothing (same : next.turns.space = journal.turns.space)
  | node (path : ServerPath) (later : Option (List ServerPath)) (ticket time : Nat) (delta : Delta)
      (current : journal.turns.current = some (ticket, .pass ⟨.deleting path later, delta⟩))
      (report : next.log = journal.log ++ [⟨journal.turn, time, .deleted path (.ok ())⟩])
      (childless : journal.turns.space.below (layout.below path) = [])
      (removed : next.turns.space = journal.turns.space.remove (layout.serverKey path))
      (locks : later.isSome ∨ path.Unslashed → ∀ (other : ServerPath) (session : String),
        next.turns.space.nodes[layout.lockKey other session]? =
          journal.turns.space.nodes[layout.lockKey other session]?)

theorem spares_asked {layout : Layout} {grace : Nat} {journal : Journal Namespace}
    (sound : journal.Sound (Namespace.coordinator layout) grace) {ticket time : Nat}
    {stage : Stage} {delta : Delta} {next : Stage × Work} {after : Namespace}
    (current : journal.turns.current = some (ticket, .pass ⟨stage, delta⟩))
    (asked : Pass.Asked (Namespace.coordinator layout) time ⟨journal.turns.roster, delta⟩
      journal.turns.space after stage next) (turns : Turns Namespace) (same : turns.space = after) :
    Spares layout journal { journal with
      turns := turns
      now := time
      log := journal.log ++ Report.of journal.turn time
        (journal.turns.finding? (Namespace.coordinator layout)) } := by
  rcases Pass.asked_space asked with still | ⟨path, later, rfl, gone⟩
  · exact .nothing (same.trans still)
  · have found : journal.turns.finding? (Namespace.coordinator layout) =
        some (.deleted path (journal.turns.space.delete layout path).1) := by
      simp [Turns.finding?, current, Pass.finding?, Namespace.coordinator]
    cases answer : journal.turns.space.delete layout path with
    | mk outcome left =>
      rw [answer] at found gone
      have deleted := Namespace.deleted layout path journal.turns.space
      rw [answer] at deleted
      cases deleted with
      | refused reason switch => exact .nothing (same.trans gone)
      | kept key children => exact .nothing (same.trans gone)
      | removed childless =>
        refine .node path later ticket time delta current ?_ childless (same.trans gone) ?_
        · rw [found]
          rfl
        · intro plain other session
          have plain : path.Unslashed := by
            rcases plain with scanning | plain
            · obtain ⟨rest, rfl⟩ := Option.isSome_iff_exists.mp scanning
              exact sound.reachable.plain _ _ _ current path List.mem_cons_self
            · exact plain
          rw [same.trans gone]
          exact Namespace.lockKey_remove plain other session journal.turns.space

theorem spares_move {layout : Layout} {grace : Nat} {journal next : Journal Namespace}
    (sound : journal.Sound (Namespace.coordinator layout) grace) {move : Turns.Move}
    (passing : journal.turns.Passing)
    (moved : journal.move? (Namespace.coordinator layout) (.turn move) = some next) :
    Spares layout journal next := by
  obtain ⟨turns, stepped, noted⟩ := Option.bind_eq_some_iff.mp moved
  have step := Turns.step_of_move stepped
  cases move with
  | ask time =>
    simp only [note?, Option.ite_none_right_eq_some, Option.some.injEq] at noted
    obtain ⟨_, rfl⟩ := noted
    cases step with
    | told _ ticket failure delta current => exact .nothing rfl
    | asked _ ticket stage delta next after current asked =>
      exact spares_asked sound current asked _ rfl
    | unlisted _ ticket i path error after current answer =>
      simp [Turns.Passing, current] at passing
    | located _ ticket i path target listed after current answer unique =>
      simp [Turns.Passing, current] at passing
    | ambiguous _ ticket i path listed after current answer several =>
      simp [Turns.Passing, current] at passing
    | uncleared _ ticket i path target error after current answer =>
      simp [Turns.Passing, current] at passing
    | cleared _ ticket i path target after current answer =>
      simp [Turns.Passing, current] at passing
  | enter =>
    cases noted
    cases step <;> exact .nothing rfl
  | come job =>
    cases noted
    cases step <;> exact .nothing rfl
  | leave =>
    cases noted
    cases step
    exact .nothing rfl
  | collect ticket =>
    cases noted
    cases step
    exact .nothing rfl

/-- Nobody is deleted before his grace period is over, however the service answers, and whatever
happens meanwhile. Over a namespace a pass removes nothing but the childless node of such a path,
and no lock entry, unless somebody asks for a check of a path with slashes. -/
theorem grace_period_safety {σ : Type} (service : Coordinator σ) (space : σ)
    (moves : List (Move σ)) (layout : Layout) (memory : Namespace)
    (edits : List (Move Namespace)) (grace : Nat) :
    Report.Patient grace (run service moves (start grace space)).log ∧
      ∀ move next, (run (Namespace.coordinator layout) edits (start grace memory)).turns.Passing →
        (run (Namespace.coordinator layout) edits (start grace memory)).move?
          (Namespace.coordinator layout) (.turn move) = some next →
        Spares layout (run (Namespace.coordinator layout) edits (start grace memory)) next := by
  constructor
  · exact (sound_run service grace moves (sound_start service grace space)).patient
  · intro move next passing moved
    exact spares_move (sound_run _ grace edits (sound_start _ grace memory)) passing moved

def twoScans : List (Move Namespace) := [
  .outside fun space => space.createServer ⟨"/t"⟩ (.sample "a"),
  .turn (.come .scan), .turn .enter, .turn (.ask 0), .turn (.ask 0), .turn (.ask 0), .turn .leave,
  .turn (.come .scan), .turn .enter, .turn (.ask 5), .turn (.ask 5)]

theorem grace_period_safety_two_scans :
    ∃ next path time since,
      (run (Namespace.coordinator ⟨"/t"⟩) twoScans (start 3 .empty)).turns.Passing ∧
      (run (Namespace.coordinator ⟨"/t"⟩) twoScans (start 3 .empty)).move?
        (Namespace.coordinator ⟨"/t"⟩) (.turn (.ask 5)) = some next ∧
      next.log = (run (Namespace.coordinator ⟨"/t"⟩) twoScans (start 3 .empty)).log ++
        [⟨2, time, .deleted path (.ok ())⟩] ∧
      Report.Unheld (run (Namespace.coordinator ⟨"/t"⟩) twoScans (start 3 .empty)).log path since 2 ∧
      3 < time - since := by
  have at_work : (run (Namespace.coordinator ⟨"/t"⟩) twoScans (start 3 .empty)).turns.stage? =
      some (.deleting (.sample "a") (some [])) := by
    decide +kernel
  have passing := Turns.passing_of_stage at_work
  have moves : ((run (Namespace.coordinator ⟨"/t"⟩) twoScans (start 3 .empty)).move?
      (Namespace.coordinator ⟨"/t"⟩) (.turn (.ask 5))).isSome := by
    decide +kernel
  obtain ⟨next, moved⟩ := Option.isSome_iff_exists.mp moves
  have last : run (Namespace.coordinator ⟨"/t"⟩) (twoScans ++ [.turn (.ask 5)]) (start 3 .empty) =
      next := by
    rw [run_append, run, List.foldl_cons, List.foldl_nil, moved]
    rfl
  obtain ⟨patient, spares⟩ := grace_period_safety (Namespace.coordinator ⟨"/t"⟩) .empty
    (twoScans ++ [.turn (.ask 5)]) ⟨"/t"⟩ .empty twoScans 3
  cases spares (.ask 5) next passing moved with
  | nothing same =>
    have removed : (run (Namespace.coordinator ⟨"/t"⟩) twoScans (start 3 .empty)).turns.space.nodes.size
        ≠ (run (Namespace.coordinator ⟨"/t"⟩) (twoScans ++ [.turn (.ask 5)])
          (start 3 .empty)).turns.space.nodes.size := by
      decide +kernel
    rw [last, same] at removed
    exact absurd rfl removed
  | node path later ticket time delta current report childless removed locks =>
    have turn : (run (Namespace.coordinator ⟨"/t"⟩) twoScans (start 3 .empty)).turn = 2 := by
      decide +kernel
    rw [turn] at report
    rw [last] at patient
    obtain ⟨since, unheld, long⟩ := patient _ _ [] path (.ok ()) report rfl
    exact ⟨next, path, time, since, passing, moved, report, unheld, long⟩

def slashed : ServerPath :=
  ⟨"g/h:1/lock", ⟨"s", 7⟩⟩

def slashedChecks : List (Move Namespace) := [
  .outside fun space => space.acquireLock ⟨"/t"⟩ (.sample "h") ⟨⟨"h", 1⟩, "g"⟩ "s:7",
  .turn (.come (.check slashed)), .turn .enter, .turn (.ask 0), .turn (.ask 0), .turn (.ask 0),
  .turn .leave,
  .turn (.come (.check slashed)), .turn .enter, .turn (.ask 5), .turn (.ask 5)]

/-- The check of a path with slashes removes the lock entry of a server that holds its lock. -/
theorem slashed_check_unlocks :
    (run (Namespace.coordinator ⟨"/t"⟩) slashedChecks (start 3 .empty)).turns.stage? =
        some (.deleting slashed none) ∧
      (Layout.mk "/t").lockKey (.sample "h") "s:7" ∈
        (run (Namespace.coordinator ⟨"/t"⟩) slashedChecks (start 3 .empty)).turns.space.nodes ∧
      (Layout.mk "/t").lockKey (.sample "h") "s:7" ∉
        (run (Namespace.coordinator ⟨"/t"⟩) (slashedChecks ++ [.turn (.ask 5)])
          (start 3 .empty)).turns.space.nodes := by
  decide +kernel

end Journal
end TabletRoster
