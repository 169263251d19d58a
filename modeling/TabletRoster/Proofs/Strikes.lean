import Mathlib.Data.List.Forall2
import TabletRoster.Poll

/-!
Failures in a row. A poller calls for the removal of a member when its status check has failed in
so many rounds one after another. It keeps counts only, and this is the same as looking at all
rounds that were: a success, a round without the instance or a removal starts the count again.
-/
namespace TabletRoster

theorem Snapshot.connected_build (members : Members) (i : Instance)
    (listed : (build members).contains i = true) :
    ∃ connection, (build members).connection? i = some connection := by
  suffices ∀ (seen : List Member) (snapshot : Snapshot),
      (∀ j, j ∈ snapshot.servers → j ∈ snapshot.entries) →
      ∀ j, j ∈ (seen.foldl add snapshot).servers → j ∈ (seen.foldl add snapshot).entries by
    have there := this members.values empty (by simp [empty]) i
      (Std.ExtTreeSet.mem_iff_contains.mpr listed)
    obtain ⟨entry, found⟩ := Option.isSome_iff_exists.mp
      (Std.ExtTreeMap.mem_iff_isSome_getElem?.mp there)
    exact ⟨entry.1, by simp [connection?, build, found]⟩
  intro seen
  induction seen with
  | nil => exact fun _ kept => kept
  | cons member rest ih =>
    intro snapshot kept
    refine ih (snapshot.add member) fun j there => ?_
    simp only [add, Std.ExtTreeSet.mem_insert, Std.ExtTreeMap.mem_insert] at there ⊢
    exact there.imp_right (kept j)

/-- What one round of checks came to: the outcomes of the checks, true for a failure, and those of
the removals. -/
structure Round where
  snapshot : Snapshot
  checked : List (Instance × Bool)
  removed : List (Instance × Except FatalRemove Unit)

namespace Round

def check (round : Round) (i : Instance) (failed : Bool) : Round :=
  { round with checked := (i, failed) :: round.checked }

def remove (round : Round) (i : Instance) (outcome : Except FatalRemove Unit) : Round :=
  { round with removed := (i, outcome) :: round.removed }

def Failed (round : Round) (i : Instance) : Prop := (i, true) ∈ round.checked

def evicted (round : Round) : List Instance := round.removed.map (·.1)

def Strikes (round : Round) (i : Instance) : Prop :=
  round.snapshot.contains i = true ∧ round.Failed i ∧ i ∉ round.evicted

instance (round : Round) (i : Instance) : Decidable (round.Failed i) :=
  inferInstanceAs (Decidable (_ ∈ _))

instance (round : Round) (i : Instance) : Decidable (round.Strikes i) :=
  inferInstanceAs (Decidable (_ ∧ _ ∧ _))

/-- In how many rounds in a row an instance has failed. The last round stands in front. -/
def streak (i : Instance) : List Round → Nat
  | [] => 0
  | round :: past => if round.Strikes i then streak i past + 1 else 0

/-- A member fails in a round and failed in the `m - 1` rounds before it. -/
def Due (m : Nat) (past : List Round) (round : Round) (i : Instance) : Prop :=
  round.snapshot.contains i = true ∧ round.Failed i ∧ m - 1 ≤ past.length ∧
    ∀ earlier ∈ past.take (m - 1), earlier.Strikes i

theorem le_streak_iff {n : Nat} {i : Instance} {past : List Round} :
    n ≤ streak i past ↔ n ≤ past.length ∧ ∀ round ∈ past.take n, round.Strikes i := by
  induction past generalizing n with
  | nil => simp [streak]
  | cons round past ih =>
    cases n with
    | zero => simp
    | succ n =>
      rw [streak]
      split
      · rename_i strikes
        simp [ih, strikes]
      · rename_i misses
        simp [misses]

theorem due_iff {m : Nat} {past : List Round} {round : Round} {i : Instance} :
    Due m past round i ↔
      round.snapshot.contains i = true ∧ round.Failed i ∧ m - 1 ≤ streak i past := by
  rw [Due, le_streak_iff]

end Round

def Failures.stored : Nat → Option Nat
  | 0 => none
  | n + 1 => some (n + 1)

namespace Failures

variable {failures : Failures} {i j : Instance}

theorem stored_getD (n : Nat) : (stored n).getD 0 = n := by
  cases n <;> rfl

theorem stored_eq_some {n count : Nat} (found : stored n = some count) : n = count := by
  cases n with
  | zero => cases found
  | succ n => exact Option.some.inj found

theorem getElem_keep (failures : Failures) (snapshot : Snapshot) (i : Instance) :
    (failures.keep snapshot)[i]? = if snapshot.contains i then failures[i]? else none := by
  unfold keep
  rw [Std.ExtTreeMap.getElem?_filter']
  cases failures[i]? with
  | none => simp
  | some count => simp [Option.filter_some]

theorem getElem_note_other (failures : Failures) (limit : Nat) (other : j ≠ i) (failed : Bool) :
    (failures.note limit i failed).2[j]? = failures[j]? := by
  unfold note fail succeed
  split
  · simp only
    split <;> simp [Std.ExtTreeMap.getElem?_erase, Std.ExtTreeMap.getElem?_insert, other.symm]
  · simp [Std.ExtTreeMap.getElem?_erase, other.symm]

theorem getElem_note {n : Nat} (before : failures[i]? = stored n) (limit : Nat) (failed : Bool) :
    ((failures.note limit i failed).1 = true ↔ failed = true ∧ max 1 limit ≤ n + 1) ∧
      (failures.note limit i failed).2[i]? =
        if failed = true ∧ ¬ max 1 limit ≤ n + 1 then some (n + 1) else none := by
  have count : (failures[i]?).getD 0 = n := before ▸ stored_getD n
  have reaches : limit ≤ n + 1 ↔ max 1 limit ≤ n + 1 := by omega
  cases failed with
  | false => simp [note, succeed]
  | true =>
    simp only [note, if_true, fail, count, true_and, reaches]
    split
    · rename_i due
      simp [due]
    · rename_i early
      simp [early]

end Failures

namespace Poller

def visit (poller : Poller) (snapshot : Snapshot) (order : List Instance) : Poller :=
  { poller with failures := poller.failures.keep snapshot }.proceed snapshot order

structure Course where
  poller : Poller
  rounds : List Round

/-- What a poller does next, with all answers that it can get and in all orders in which a snapshot
can list its servers. A server without a connection is passed over. -/
inductive Step : Course → Course → Prop where
  | tick {poller next : Poller} {rounds : List Round} {now : Nat}
      (ticked : poller.tick? now = some next) : Step ⟨poller, rounds⟩ ⟨next, rounds⟩
  | read {poller : Poller} {rounds : List Round} (asking : poller.phase = .asking)
      (members : Members) {order : List Instance}
      (listed : order.Perm (Snapshot.build members).servers.toList) :
      Step ⟨poller, rounds⟩
        ⟨poller.visit (.build members) order, ⟨.build members, [], []⟩ :: rounds⟩
  | skip {poller : Poller} {rounds : List Round} {snapshot : Snapshot} {i : Instance}
      {later : List Instance} (checking : poller.phase = .checking snapshot i later)
      (alone : snapshot.connection? i = none) :
      Step ⟨poller, rounds⟩ ⟨poller.proceed snapshot later, rounds⟩
  | check {poller : Poller} {round : Round} {past : List Round} {snapshot : Snapshot}
      {i : Instance} {later : List Instance} {connection : Connection}
      (checking : poller.phase = .checking snapshot i later)
      (connected : snapshot.connection? i = some connection) (failed : Bool) :
      Step ⟨poller, round :: past⟩ ⟨poller.checked failed, round.check i failed :: past⟩
  | remove {poller : Poller} {round : Round} {past : List Round} {snapshot : Snapshot}
      {i : Instance} {later : List Instance}
      (evicting : poller.phase = .evicting snapshot i later)
      (outcome : Except FatalRemove Unit) :
      Step ⟨poller, round :: past⟩ ⟨poller.evicted outcome, round.remove i outcome :: past⟩

inductive Reachable (interval limit : Nat) : Course → Prop where
  | start (now : Nat) : Reachable interval limit ⟨.start interval limit now, []⟩
  | step {course next : Course} (before : Reachable interval limit course)
      (step : Step course next) : Reachable interval limit next

def Between (poller : Poller) : Prop := poller.phase = .resting ∨ poller.phase = .asking

def Exact (m : Nat) : List Round → Prop
  | [] => True
  | round :: past => (round.evicted.Nodup ∧
      (round.checked.map (·.1)).Perm round.snapshot.servers.toList ∧
      ∀ i, i ∈ round.evicted ↔ round.Failed i ∧ m ≤ Round.streak i past + 1) ∧ Exact m past

/-- A round in which some servers are still to be checked. The others are as they will be at its
end. -/
structure Halfway (m : Nat) (failures : Failures) (round : Round) (past : List Round)
    (later : List Instance) : Prop where
  exact : Exact m past
  connected : ∀ i, round.snapshot.contains i = true →
    ∃ connection, round.snapshot.connection? i = some connection
  visits : (round.checked.map (·.1) ++ later).Perm round.snapshot.servers.toList
  once : round.evicted.Nodup
  pending : ∀ i ∈ later, i ∉ round.evicted ∧ failures[i]? = Failures.stored (Round.streak i past)
  done : ∀ i ∉ later, (i ∈ round.evicted ↔ round.Failed i ∧ m ≤ Round.streak i past + 1) ∧
    failures[i]? = Failures.stored (Round.streak i (round :: past))

def Counted (failures : Failures) (rounds : List Round) : Prop :=
  ∀ i, failures[i]? = Failures.stored (Round.streak i rounds)

/-- Who is checked in a round, with all others up to date. While a removal is under way, the round
is taken as if it had ended. -/
inductive Sound : Course → Prop where
  | between {poller : Poller} {rounds : List Round} (between : poller.Between)
      (exact : Exact (max 1 poller.limit) rounds) (counted : Counted poller.failures rounds) :
      Sound ⟨poller, rounds⟩
  | checking {poller : Poller} {round : Round} {past : List Round} {i : Instance}
      {later : List Instance} (checking : poller.phase = .checking round.snapshot i later)
      (half : Halfway (max 1 poller.limit) poller.failures round past (i :: later)) :
      Sound ⟨poller, round :: past⟩
  | evicting {poller : Poller} {round : Round} {past : List Round} {i : Instance}
      {later : List Instance} (evicting : poller.phase = .evicting round.snapshot i later)
      (half : ∀ outcome,
        Halfway (max 1 poller.limit) poller.failures (round.remove i outcome) past later) :
      Sound ⟨poller, round :: past⟩
  | stopped {poller : Poller} {round : Round} {past : List Round} {fatal : FatalRemove}
      {later : List Instance} (stopped : poller.phase = .stopped fatal)
      (half : Halfway (max 1 poller.limit) poller.failures round past later) :
      Sound ⟨poller, round :: past⟩

section

variable {m : Nat} {failures : Failures} {round : Round} {past : List Round} {i : Instance}
  {later : List Instance}

theorem mem_toList_iff (snapshot : Snapshot) (i : Instance) :
    i ∈ snapshot.servers.toList ↔ snapshot.contains i = true :=
  Std.ExtTreeSet.mem_toList.trans Std.ExtTreeSet.mem_iff_contains

theorem nodup_toList (snapshot : Snapshot) : snapshot.servers.toList.Nodup :=
  snapshot.servers.distinct_toList.imp Std.ReflCmp.ne_of_cmp_ne_eq

theorem Halfway.begin {rounds : List Round} (exact : Exact m rounds)
    (counted : Counted failures rounds) (members : Members) {order : List Instance}
    (listed : order.Perm (Snapshot.build members).servers.toList) :
    Halfway m (failures.keep (.build members)) ⟨.build members, [], []⟩ rounds order where
  exact := exact
  connected := Snapshot.connected_build members
  visits := listed
  once := .nil
  pending i member := by
    have there := (mem_toList_iff _ i).mp (listed.mem_iff.mp member)
    refine ⟨List.not_mem_nil, ?_⟩
    rw [Failures.getElem_keep, if_pos there]
    exact counted i
  done i absent := by
    have nowhere : ¬ (Snapshot.build members).contains i = true := fun there =>
      absent (listed.mem_iff.mpr ((mem_toList_iff _ i).mpr there))
    have unstruck : ¬ Round.Strikes ⟨.build members, [], []⟩ i := fun strikes => nowhere strikes.1
    refine ⟨by simp [Round.evicted, Round.Failed], ?_⟩
    rw [Failures.getElem_keep, if_neg nowhere, Round.streak, if_neg unstruck]
    rfl

theorem Halfway.next (half : Halfway m failures round past (i :: later)) {after : Round}
    {counts : Failures} {failed evict : Bool} (snapshot : after.snapshot = round.snapshot)
    (checked : after.checked = (i, failed) :: round.checked)
    (evicted : after.evicted = if evict then i :: round.evicted else round.evicted)
    (due : evict = true ↔ failed = true ∧ m ≤ Round.streak i past + 1)
    (others : ∀ j, j ≠ i → counts[j]? = failures[j]?)
    (here : counts[i]? = if failed = true ∧ ¬ m ≤ Round.streak i past + 1
      then some (Round.streak i past + 1) else none) :
    Halfway m counts after past later := by
  have visits : ((i, failed) :: round.checked).map (·.1) ++ later |>.Perm
      round.snapshot.servers.toList := List.perm_middle.symm.trans half.visits
  have nodup := visits.nodup_iff.mpr (nodup_toList _)
  have stayed := (half.pending i List.mem_cons_self).1
  have unchecked : (i, true) ∉ round.checked := by
    intro member
    have again : i ∈ round.checked.map (·.1) := List.mem_map_of_mem (f := Prod.fst) member
    exact (List.nodup_cons.mp nodup).1 (List.mem_append_left later again)
  have new (j : Instance) : j ∈ after.evicted ↔
      j ∈ round.evicted ∨ j = i ∧ failed = true ∧ m ≤ Round.streak i past + 1 := by
    rw [evicted, ← due]
    cases evict <;> simp [or_comm]
  constructor
  · exact half.exact
  · exact snapshot ▸ half.connected
  · rw [checked, snapshot]
    exact visits
  · rw [evicted]
    split
    · exact List.nodup_cons.mpr ⟨stayed, half.once⟩
    · exact half.once
  · intro j member
    have other : j ≠ i := by
      rintro rfl
      exact (List.nodup_cons.mp nodup).1 (List.mem_append_right _ member)
    obtain ⟨waits, count⟩ := half.pending j (List.mem_cons_of_mem i member)
    rw [others j other, new]
    exact ⟨by simp [waits, other], count⟩
  · intro j absent
    by_cases same : j = i
    · subst same
      have fails : after.Failed j ↔ failed = true := by
        simp [Round.Failed, checked, unchecked]
      have there : after.snapshot.contains j = true := by
        rw [snapshot]
        exact (mem_toList_iff _ j).mp (visits.mem_iff.mp List.mem_cons_self)
      have strikes : after.Strikes j ↔ failed = true ∧ ¬ m ≤ Round.streak j past + 1 := by
        simp only [Round.Strikes, there, fails, new, stayed, false_or, true_and]
        exact and_congr_right fun fails => by rw [and_iff_right fails]
      refine ⟨by simp [new, stayed, fails], ?_⟩
      rw [here, Round.streak]
      simp only [strikes]
      split <;> rfl
    · have fails : after.Failed j ↔ round.Failed j := by
        simp [Round.Failed, checked, same]
      have evicts : j ∈ after.evicted ↔ j ∈ round.evicted := by simp [new, same]
      have strikes : after.Strikes j ↔ round.Strikes j := by
        rw [Round.Strikes, Round.Strikes, snapshot, fails, evicts]
      obtain ⟨due, count⟩ := half.done j (by simp [same, absent])
      rw [others j same, count, evicts, fails, Round.streak, Round.streak]
      simp only [strikes]
      exact ⟨due, trivial⟩

theorem Halfway.end (half : Halfway m failures round past []) :
    Exact m (round :: past) ∧ Counted failures (round :: past) := by
  refine ⟨⟨⟨half.once, ?_, fun i => (half.done i List.not_mem_nil).1⟩, half.exact⟩, fun i => ?_⟩
  · simpa using half.visits
  · exact (half.done i List.not_mem_nil).2

theorem Halfway.proceed {poller : Poller}
    (half : Halfway (max 1 poller.limit) poller.failures round past later) :
    Sound ⟨poller.proceed round.snapshot later, round :: past⟩ := by
  cases later with
  | nil => exact .between (.inl rfl) half.end.1 half.end.2
  | cons i later => exact .checking rfl half

end

variable {course next : Course} {interval limit : Nat}

theorem tick_cases {poller next : Poller} {now : Nat} (ticked : poller.tick? now = some next) :
    poller.phase = .resting ∧
      next = { poller with due := poller.due + poller.interval, phase := .asking } := by
  unfold tick? at ticked
  split at ticked
  · rename_i resting
    split at ticked
    · exact ⟨resting, (Option.some.inj ticked).symm⟩
    · cases ticked
  · cases ticked

theorem checked_cases {poller : Poller} {snapshot : Snapshot} {i : Instance}
    {later : List Instance} (checking : poller.phase = .checking snapshot i later) (failed : Bool) :
    let (evict, failures) := poller.failures.note poller.limit i failed
    poller.checked failed =
      if evict then { poller with failures := failures, phase := .evicting snapshot i later }
      else { poller with failures := failures }.proceed snapshot later := by
  unfold checked
  rw [checking]

theorem Sound.checked {poller : Poller} {round : Round} {past : List Round} {i : Instance}
    {later : List Instance} (checking : poller.phase = .checking round.snapshot i later)
    (half : Halfway (max 1 poller.limit) poller.failures round past (i :: later)) (failed : Bool) :
    Sound ⟨poller.checked failed, round.check i failed :: past⟩ := by
  have before := (half.pending i List.mem_cons_self).2
  obtain ⟨due, here⟩ := Failures.getElem_note before poller.limit failed
  have others (j : Instance) (other : j ≠ i) :=
    poller.failures.getElem_note_other poller.limit other failed
  have cases := checked_cases checking failed
  generalize poller.failures.note poller.limit i failed = noted at due here others cases
  obtain ⟨evict, failures⟩ := noted
  rw [cases]
  cases evict with
  | true => exact .evicting rfl fun outcome => half.next rfl rfl rfl due others here
  | false =>
    let counted : Poller := { poller with failures := failures }
    have ready : Halfway (max 1 counted.limit) counted.failures (round.check i failed) past later :=
      half.next rfl rfl rfl due others here
    exact ready.proceed

theorem Sound.exact (sound : Sound course) (between : course.poller.Between) :
    Exact (max 1 course.poller.limit) course.rounds ∧
      Counted course.poller.failures course.rounds := by
  cases sound with
  | between _ exact counted => exact ⟨exact, counted⟩
  | checking checking => simp [Between, checking] at between
  | evicting evicting => simp [Between, evicting] at between
  | stopped stopped => simp [Between, stopped] at between

theorem Sound.of_checking {poller : Poller} {rounds : List Round} (sound : Sound ⟨poller, rounds⟩)
    {snapshot : Snapshot} {i : Instance} {later : List Instance}
    (checking : poller.phase = .checking snapshot i later) :
    ∃ round past, rounds = round :: past ∧ round.snapshot = snapshot ∧
      Halfway (max 1 poller.limit) poller.failures round past (i :: later) := by
  cases sound with
  | between between => simp [Between, checking] at between
  | checking same half =>
    rw [checking] at same
    cases same
    exact ⟨_, _, rfl, rfl, half⟩
  | evicting evicting => simp [checking] at evicting
  | stopped stopped => simp [checking] at stopped

theorem Sound.of_evicting {poller : Poller} {rounds : List Round} (sound : Sound ⟨poller, rounds⟩)
    {snapshot : Snapshot} {i : Instance} {later : List Instance}
    (evicting : poller.phase = .evicting snapshot i later) :
    ∃ round past, rounds = round :: past ∧ round.snapshot = snapshot ∧ ∀ outcome,
      Halfway (max 1 poller.limit) poller.failures (round.remove i outcome) past later := by
  cases sound with
  | between between => simp [Between, evicting] at between
  | checking checking => simp [evicting] at checking
  | evicting same half =>
    rw [evicting] at same
    cases same
    exact ⟨_, _, rfl, rfl, half⟩
  | stopped stopped => simp [evicting] at stopped

theorem step_sound (sound : Sound course) (step : Step course next) : Sound next := by
  cases step with
  | tick ticked =>
    obtain ⟨resting, rfl⟩ := tick_cases ticked
    obtain ⟨exact, counted⟩ := sound.exact (.inl resting)
    exact .between (.inr rfl) exact counted
  | @read poller _ asking members _ listed =>
    obtain ⟨exact, counted⟩ := sound.exact (.inr asking)
    let kept : Poller := { poller with failures := poller.failures.keep (.build members) }
    have begun : Halfway (max 1 kept.limit) kept.failures _ _ _ :=
      .begin exact counted members listed
    exact begun.proceed
  | skip checking alone =>
    obtain ⟨round, past, _, rfl, half⟩ := sound.of_checking checking
    have listed := (mem_toList_iff _ _).mp
      (half.visits.mem_iff.mp (List.mem_append_right _ List.mem_cons_self))
    obtain ⟨connection, connected⟩ := half.connected _ listed
    rw [alone] at connected
    cases connected
  | check checking _ failed =>
    obtain ⟨round, past, same, rfl, half⟩ := sound.of_checking checking
    cases same
    exact Sound.checked checking half failed
  | remove evicting outcome =>
    obtain ⟨round, past, same, rfl, half⟩ := sound.of_evicting evicting
    cases same
    unfold evicted
    rw [evicting]
    cases outcome with
    | ok => exact (half (.ok ())).proceed
    | error fatal => exact .stopped rfl (half (.error fatal))

theorem proceed_phase (poller : Poller) (phase : Phase) (snapshot : Snapshot)
    (later : List Instance) :
    ({ poller with phase := phase } : Poller).proceed snapshot later =
      poller.proceed snapshot later := by
  cases later <;> rfl

theorem proceed_limit (poller : Poller) (snapshot : Snapshot) (later : List Instance) :
    (poller.proceed snapshot later).limit = poller.limit := by
  cases later <;> rfl

theorem step_limit (step : Step course next) : next.poller.limit = course.poller.limit := by
  cases step with
  | tick ticked =>
    obtain ⟨_, rfl⟩ := tick_cases ticked
    rfl
  | read => exact proceed_limit ..
  | skip => exact proceed_limit ..
  | check checking _ failed =>
    rw [checked_cases checking failed]
    split
    · rfl
    · exact proceed_limit ..
  | remove evicting outcome =>
    unfold evicted
    rw [evicting]
    cases outcome with
    | ok => exact proceed_limit ..
    | error => rfl

theorem Reachable.limit_eq (reachable : Reachable interval limit course) :
    course.poller.limit = limit := by
  induction reachable with
  | start => rfl
  | step _ step ih => rw [step_limit step, ih]

theorem Reachable.sound (reachable : Reachable interval limit course) : Sound course := by
  induction reachable with
  | start => exact .between (.inl rfl) trivial fun i => Std.ExtTreeMap.getElem?_empty
  | step _ step ih => exact step_sound ih step

/-! ### What a sound course says -/

theorem Exact.behind {m : Nat} {later rounds : List Round} (exact : Exact m (later ++ rounds)) :
    Exact m rounds := by
  induction later with
  | nil => exact exact
  | cons round later ih => exact ih exact.2

theorem Sound.exact_behind (sound : Sound course) {later rounds : List Round}
    (split : course.rounds = later ++ rounds) (ended : later ≠ [] ∨ course.poller.Between) :
    Exact (max 1 course.poller.limit) rounds := by
  by_cases between : course.poller.Between
  · exact Exact.behind (split ▸ (sound.exact between).1)
  · cases later with
    | nil => exact absurd rfl (ended.resolve_right between)
    | cons first later =>
      have past : Exact (max 1 course.poller.limit) (later ++ rounds) := by
        cases sound with
        | between same => exact absurd same between
        | checking _ half =>
          cases split
          exact half.exact
        | evicting _ half =>
          cases split
          exact (half (.ok ())).exact
        | stopped _ half =>
          cases split
          exact half.exact
      exact past.behind

theorem Exact.streak_lt {m : Nat} (positive : 0 < m) {rounds : List Round}
    (exact : Exact m rounds) (i : Instance) : Round.streak i rounds < m := by
  cases rounds with
  | nil => exact positive
  | cons round past =>
    rw [Round.streak]
    split
    · rename_i strikes
      have early : ¬ m ≤ Round.streak i past + 1 := fun late =>
        strikes.2.2 ((exact.1.2.2 i).mpr ⟨strikes.2.1, late⟩)
      exact Nat.lt_of_not_le early
    · exact positive

theorem Halfway.count_lt {m : Nat} (positive : 0 < m) {failures : Failures} {round : Round}
    {past : List Round} {later : List Instance} (half : Halfway m failures round past later)
    {i : Instance} {count : Nat} (found : failures[i]? = some count) : count < m := by
  by_cases waits : i ∈ later
  · rw [(half.pending i waits).2] at found
    exact Failures.stored_eq_some found ▸ half.exact.streak_lt positive i
  · obtain ⟨due, stored⟩ := half.done i waits
    rw [stored] at found
    rw [← Failures.stored_eq_some found, Round.streak]
    split
    · rename_i strikes
      exact Nat.lt_of_not_le fun late => strikes.2.2 (due.mpr ⟨strikes.2.1, late⟩)
    · exact positive

theorem Sound.count_lt (sound : Sound course) {i : Instance} {count : Nat}
    (found : course.poller.failures[i]? = some count) : count < max 1 course.poller.limit := by
  have positive : 0 < max 1 course.poller.limit :=
    Nat.lt_of_lt_of_le Nat.one_pos (Nat.le_max_left ..)
  cases sound with
  | between _ exact counted =>
    rw [counted i] at found
    exact Failures.stored_eq_some found ▸ exact.streak_lt positive i
  | checking _ half => exact half.count_lt positive found
  | evicting _ half => exact (half (.ok ())).count_lt positive found
  | stopped _ half => exact half.count_lt positive found

def Alike (round other : Round) : Prop :=
  (∀ i, round.snapshot.contains i = other.snapshot.contains i) ∧
    ∀ i, round.Failed i ↔ other.Failed i

theorem Exact.alike {m : Nat} {rounds others : List Round}
    (alike : List.Forall₂ Alike rounds others) (exact : Exact m rounds) (same : Exact m others) :
    (∀ i, Round.streak i rounds = Round.streak i others) ∧
      List.Forall₂ (fun round other => round.evicted.Perm other.evicted) rounds others := by
  induction alike with
  | nil => exact ⟨fun _ => rfl, .nil⟩
  | @cons round other past passed alike _ ih =>
    obtain ⟨streaks, perms⟩ := ih exact.2 same.2
    have evicted (i : Instance) : i ∈ round.evicted ↔ i ∈ other.evicted := by
      rw [exact.1.2.2, same.1.2.2, alike.2, streaks]
    have strikes (i : Instance) : round.Strikes i ↔ other.Strikes i := by
      rw [Round.Strikes, Round.Strikes, alike.1, alike.2, evicted]
    refine ⟨fun i => ?_, .cons ?_ perms⟩
    · simp only [Round.streak, strikes, streaks]
    · exact (List.perm_ext_iff_of_nodup exact.1.1 same.1.1).mpr evicted

/-! ### A removal that is fatal -/

def Fatal (course : Course) : Prop :=
  ∀ fatal, course.poller.phase = .stopped fatal ↔
    ∃ round ∈ course.rounds, ∃ i, (i, .error fatal) ∈ round.removed

theorem Fatal.of_phase {poller after : Poller} {rounds others : List Round}
    (fatal : Fatal ⟨poller, rounds⟩) (runs : ∀ fatal, poller.phase ≠ .stopped fatal)
    (still : ∀ fatal, after.phase ≠ .stopped fatal)
    (kept : ∀ round ∈ others, ∀ i error, (i, .error error) ∈ round.removed →
      ∃ round ∈ rounds, (i, .error error) ∈ round.removed) : Fatal ⟨after, others⟩ := by
  intro error
  constructor
  · intro stopped
    exact absurd stopped (still error)
  · rintro ⟨round, member, i, removed⟩
    obtain ⟨old, there, removed⟩ := kept round member i error removed
    exact absurd ((fatal error).mpr ⟨old, there, i, removed⟩) (runs error)

theorem proceed_runs (poller : Poller) (snapshot : Snapshot) (later : List Instance)
    (fatal : FatalRemove) : (poller.proceed snapshot later).phase ≠ .stopped fatal := by
  cases later <;> exact Phase.noConfusion

theorem Step.runs (step : Step course next) (fatal : FatalRemove) :
    course.poller.phase ≠ .stopped fatal := by
  cases step with
  | tick ticked =>
    obtain ⟨resting, _⟩ := tick_cases ticked
    simp [resting]
  | read asking => simp [asking]
  | skip checking => simp [checking]
  | check checking => simp [checking]
  | remove evicting => simp [evicting]

theorem step_fatal (fatal : Fatal course) (step : Step course next) : Fatal next := by
  have runs := step.runs
  cases step with
  | tick ticked =>
    obtain ⟨_, rfl⟩ := tick_cases ticked
    exact fatal.of_phase runs (fun _ => Phase.noConfusion)
      fun round member i error removed => ⟨round, member, removed⟩
  | read asking members listed =>
    refine fatal.of_phase runs (proceed_runs _ _ _) ?_
    intro round member i error removed
    obtain rfl | old := List.mem_cons.mp member
    · cases removed
    · exact ⟨round, old, removed⟩
  | skip checking alone =>
    exact fatal.of_phase runs (proceed_runs _ _ _)
      fun round member i error removed => ⟨round, member, removed⟩
  | check checking connected failed =>
    refine fatal.of_phase runs ?_ ?_
    · intro error
      rw [checked_cases checking failed]
      split
      · exact Phase.noConfusion
      · exact proceed_runs _ _ _ error
    · intro round member i error removed
      obtain rfl | old := List.mem_cons.mp member
      · exact ⟨_, List.mem_cons_self, removed⟩
      · exact ⟨round, List.mem_cons_of_mem _ old, removed⟩
  | @remove poller last past _ here _ evicting outcome =>
    unfold evicted
    rw [evicting]
    cases outcome with
    | ok =>
      refine fatal.of_phase runs (proceed_runs _ _ _) ?_
      intro round member i error removed
      obtain rfl | old := List.mem_cons.mp member
      · obtain same | removed := List.mem_cons.mp removed
        · cases same
        · exact ⟨last, List.mem_cons_self, removed⟩
      · exact ⟨round, List.mem_cons_of_mem _ old, removed⟩
    | error fault =>
      -- No removal was fatal before this one.
      have quiet {round : Round} {i : Instance} {error : FatalRemove}
          (member : round ∈ last :: past) : (i, .error error) ∉ round.removed :=
        fun removed => runs error ((fatal error).mpr ⟨round, member, i, removed⟩)
      intro error
      constructor
      · intro stopped
        cases stopped
        exact ⟨_, List.mem_cons_self, here, List.mem_cons_self⟩
      · rintro ⟨round, member, i, removed⟩
        obtain rfl | old := List.mem_cons.mp member
        · obtain same | removed := List.mem_cons.mp removed
          · cases same
            rfl
          · exact absurd removed (quiet List.mem_cons_self)
        · exact absurd removed (quiet (List.mem_cons_of_mem _ old))

theorem Reachable.fatal (reachable : Reachable interval limit course) : Fatal course := by
  induction reachable with
  | start =>
    intro fatal
    constructor
    · exact Phase.noConfusion
    · rintro ⟨_, member, _⟩
      cases member
  | step _ step ih => exact step_fatal ih step

/-! ### Rounds that end -/

/-- Whatever the checks come to, a round without a fatal removal ends with the counts and the
removals of `Failures.round`. -/
theorem Reachable.visits {snapshot : Snapshot} {order : List Instance}
    (connected : ∀ i ∈ order, ∃ connection, snapshot.connection? i = some connection)
    (failed : Instance → Bool) {poller : Poller} {round : Round} {past : List Round}
    (reachable : Reachable interval limit ⟨poller.proceed snapshot order, round :: past⟩) :
    let (due, failures) := poller.failures.round poller.limit failed order
    Reachable interval limit ⟨{ poller with failures := failures, phase := .resting },
      { round with
        checked := (order.map fun i => (i, failed i)).reverse ++ round.checked
        removed := (due.map (·, .ok ())).reverse ++ round.removed } :: past⟩ := by
  induction order generalizing poller round with
  | nil => exact reachable
  | cons i order ih =>
    obtain ⟨connection, here⟩ := connected i List.mem_cons_self
    have later := fun j member => connected j (List.mem_cons_of_mem i member)
    have checking : (poller.proceed snapshot (i :: order)).phase = .checking snapshot i order := rfl
    have checked := Reachable.step reachable (.check checking here (failed i))
    have cases := checked_cases checking (failed i)
    match noted : poller.failures.note poller.limit i (failed i) with
    | (evict, failures) =>
      let counted : Poller := { poller with failures := failures }
      have same : (poller.proceed snapshot (i :: order)).failures.note
          (poller.proceed snapshot (i :: order)).limit i (failed i) = (evict, failures) := noted
      simp only [same] at cases
      rw [cases] at checked
      cases evict with
      | true =>
        have removed : Reachable interval limit
            ⟨({ counted with phase := .evicting snapshot i order } : Poller).proceed snapshot order,
              (round.check i (failed i)).remove i (.ok ()) :: past⟩ :=
          .step checked (.remove rfl (.ok ()))
        rw [proceed_phase] at removed
        simpa [Failures.round, noted, Round.check, Round.remove] using ih later removed
      | false =>
        have passed : Reachable interval limit
            ⟨({ counted with phase := .checking snapshot i order } : Poller).proceed snapshot order,
              round.check i (failed i) :: past⟩ := checked
        rw [proceed_phase] at passed
        simpa [Failures.round, noted, Round.check] using ih later passed

/-! ### What every course comes to -/

theorem Exact.due {m : Nat} {round : Round} {past : List Round} (exact : Exact m (round :: past))
    (i : Instance) : i ∈ round.evicted ↔ Round.Due m past round i := by
  obtain ⟨⟨_, visits, removes⟩, _⟩ := exact
  rw [removes, Round.due_iff]
  constructor
  · rintro ⟨failed, late⟩
    have visited : i ∈ round.checked.map (·.1) := List.mem_map_of_mem (f := Prod.fst) failed
    exact ⟨(mem_toList_iff _ i).mp (visits.mem_iff.mp visited), failed, Nat.sub_le_of_le_add late⟩
  · rintro ⟨_, failed, late⟩
    exact ⟨failed, Nat.le_add_of_sub_le late⟩

theorem Reachable.removals (reachable : Reachable interval limit course) {later past : List Round}
    {round : Round} (split : course.rounds = later ++ round :: past)
    (ended : later ≠ [] ∨ course.poller.Between) : Exact (max 1 limit) (round :: past) :=
  reachable.limit_eq ▸ reachable.sound.exact_behind split ended

theorem Reachable.count_lt (reachable : Reachable interval limit course) {i : Instance}
    {count : Nat} (found : course.poller.failures[i]? = some count) : count < max 1 limit :=
  reachable.limit_eq ▸ reachable.sound.count_lt found

theorem Reachable.alike {other : Course} (reachable : Reachable interval limit course)
    (reached : Reachable interval limit other) (between : course.poller.Between)
    (rested : other.poller.Between) (alike : List.Forall₂ Alike course.rounds other.rounds) :
    course.poller.failures = other.poller.failures ∧
      List.Forall₂ (fun round same => round.evicted.Perm same.evicted)
        course.rounds other.rounds := by
  obtain ⟨exact, counted⟩ := reachable.sound.exact between
  obtain ⟨same, tallied⟩ := reached.sound.exact rested
  rw [reached.limit_eq, ← reachable.limit_eq] at same
  obtain ⟨streaks, perms⟩ := exact.alike alike same
  refine ⟨Std.ExtTreeMap.ext_getElem? fun i => ?_, perms⟩
  rw [counted i, tallied i, streaks]

theorem Reachable.round (reachable : Reachable interval limit course)
    (asking : course.poller.phase = .asking) (members : Members) {order : List Instance}
    (failed : Instance → Bool) (listed : order.Perm (Snapshot.build members).servers.toList) :
    let (due, failures) := (course.poller.failures.keep (.build members)).round limit failed order
    Reachable interval limit ⟨{ course.poller with failures := failures, phase := .resting },
      ⟨.build members, (order.map fun i => (i, failed i)).reverse,
        (due.map (·, .ok ())).reverse⟩ :: course.rounds⟩ := by
  have begun := Reachable.step reachable (.read asking members listed)
  have connected : ∀ i ∈ order, ∃ connection,
      (Snapshot.build members).connection? i = some connection := fun i member =>
    Snapshot.connected_build members i ((mem_toList_iff _ i).mp (listed.mem_iff.mp member))
  simpa [reachable.limit_eq] using begun.visits connected failed

/-- A member is removed in the round in which its check fails for the `m`-th time in a row, and only
then, once. The counts between rounds are the streaks, whatever the order of the visits was, and
they stay below `m`. A removal that ends fatally is the last thing that a poller does. -/
theorem evicts_after_failures {interval limit : Nat} {course : Course}
    (reachable : Reachable interval limit course) :
    let m := max 1 limit
    (∀ later round past, course.rounds = later ++ round :: past →
      later ≠ [] ∨ course.poller.Between →
      round.evicted.Nodup ∧ (round.checked.map (·.1)).Perm round.snapshot.servers.toList ∧
        ∀ i, i ∈ round.evicted ↔ Round.Due m past round i) ∧
    (course.poller.Between → ∀ i,
      course.poller.failures[i]? = Failures.stored (Round.streak i course.rounds)) ∧
    (∀ (i : Instance) (count : Nat), course.poller.failures[i]? = some count → count < m ∧
      (limit < UInt32.size → count + 1 < UInt32.size)) ∧
    (∀ other, Reachable interval limit other → course.poller.Between → other.poller.Between →
      List.Forall₂ Alike course.rounds other.rounds →
      course.poller.failures = other.poller.failures ∧
        List.Forall₂ (fun round same => round.evicted.Perm same.evicted)
          course.rounds other.rounds) ∧
    (course.poller.phase = .asking → ∀ (members : Members) (order : List Instance)
      (failed : Instance → Bool), order.Perm (Snapshot.build members).servers.toList →
      let (due, failures) := (course.poller.failures.keep (.build members)).round limit failed order
      Reachable interval limit ⟨{ course.poller with failures := failures, phase := .resting },
        ⟨.build members, (order.map fun i => (i, failed i)).reverse,
          (due.map (·, .ok ())).reverse⟩ :: course.rounds⟩) ∧
    (∀ fatal, course.poller.phase = .stopped fatal ↔
      ∃ round ∈ course.rounds, ∃ i, (i, .error fatal) ∈ round.removed) ∧
    ∀ fatal, course.poller.phase = .stopped fatal → ∀ next, ¬ Step course next := by
  intro m
  refine ⟨?_, fun between => (reachable.sound.exact between).2, ?_, ?_, ?_, reachable.fatal, ?_⟩
  · intro later round past split ended
    have exact := reachable.removals split ended
    exact ⟨exact.1.1, exact.1.2.1, exact.due⟩
  · intro i count found
    have bound := reachable.count_lt found
    have size : 1 < UInt32.size := by decide
    exact ⟨bound, fun fits => by omega⟩
  · intro other reached between rested alike
    exact reachable.alike reached between rested alike
  · intro asking members order failed listed
    exact reachable.round asking members failed listed
  · intro fatal stopped next step
    exact step.runs fatal stopped

theorem evicts_after_failures_twice :
    let i : Instance := ⟨⟨"h", 1⟩, "7"⟩
    let members : Members := (∅ : Members).insert ⟨"g", ⟨"h", 1⟩⟩ ⟨i, ⟨⟨"h", 1⟩⟩, "g"⟩
    ∃ course last first, Reachable 5 2 course ∧ course.poller.Between ∧
      course.rounds = [last, first] ∧ last.snapshot = .build members ∧ first.evicted = [] ∧
      last.evicted = [i] ∧ Round.Due 2 [first] last i := by
  intro i members
  have asking := Reachable.step (.start 0) (.tick (rfl : tick? (start 5 2 0) 0 = _))
  have once := (evicts_after_failures asking).2.2.2.2.1 rfl members _ (fun _ => true) (.refl _)
  have again := Reachable.step once (.tick (rfl : tick? _ 5 = _))
  have twice := (evicts_after_failures again).2.2.2.2.1 rfl members _ (fun _ => true) (.refl _)
  obtain ⟨_, _, due⟩ := (evicts_after_failures twice).1 [] _ _ rfl (.inr (.inl rfl))
  exact ⟨_, _, _, twice, .inl rfl, rfl, rfl, by decide +kernel, by decide +kernel,
    (due i).mp (by decide +kernel)⟩

end Poller
end TabletRoster
