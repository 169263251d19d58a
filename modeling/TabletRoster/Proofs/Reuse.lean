import Mathlib.Logic.Relation
import TabletRoster.Proofs.Errands

/-!
Reuse. Who acquires an address soon after a loan there ended well gets the client of that loan, if
there was room for it. If there was none, it depends on those that were idle already: one of them
is lent if any is still in its time, and else a new client is opened.
-/
namespace TabletRoster

namespace Pool

variable {κ : Type} {isOpen : κ → Bool} {now : Nat} {address : Address} {pool after : Pool κ}

theorem take_top {entry : Idle κ} {rest : List (Idle κ)}
    (stack : pool.idleOf address = entry :: rest) (fresh : pool.isFresh isOpen now entry = true) :
    pool.take isOpen now address =
      (some entry.client, { pool with idle := pool.idle.insert address rest }) := by
  simp [take, stack, fresh]

theorem take_open {client : κ} (taken : pool.take isOpen now address = (some client, after)) :
    isOpen client = true := by
  obtain ⟨entry, _, rfl, fresh⟩ := take_some taken
  exact (Bool.and_eq_true_iff.mp fresh).2

theorem drop_back {loan : Loan κ} (pooled : loan.pooled = true) (completed : loan.completed = true)
    (healthy : isOpen loan.client = true)
    (room : (pool.idleOf loan.address).length < pool.maxIdle) :
    pool.Replaced loan.address (⟨loan.client, now⟩ :: pool.idleOf loan.address)
        (loan.drop isOpen now pool) ∧
      ∀ later ≤ now + pool.timeout,
        ((loan.drop isOpen now pool).take isOpen later loan.address).1 = some loan.client := by
  have replaced := pool.drop_idle isOpen now loan
  rw [if_pos ⟨by simp [pooled, completed], healthy, room⟩] at replaced
  refine ⟨replaced, fun later soon => ?_⟩
  have stack := (replaced.idle loan.address).trans (if_pos rfl)
  have early : later - now ≤ pool.timeout := by omega
  have fresh : (loan.drop isOpen now pool).isFresh isOpen later ⟨loan.client, now⟩ = true := by
    simp [isFresh, healthy, early, replaced.timeout]
  rw [take_top stack fresh]

end Pool

namespace Lending

variable {ε κ : Type} {isOpen : κ → Bool} {address : Address} {s after later : Lending κ}

def endLoan (isOpen : κ → Bool) (s : Lending κ) (loan : Loan (Line κ))
    (others : List (Loan (Line κ))) : Lending κ :=
  { s with
    pool := loan.drop (fun line => isOpen line.client) s.now s.pool
    loans := others
    ended := (s.now, loan) :: s.ended }

/-- What goes on without an acquisition at an address, an end of a loan there and a clearing:
either the pool is left alone, or it is used for other addresses, or idle clients change by
themselves. -/
inductive Aside (isOpen : κ → Bool) (address : Address) (s : Lending κ) : Lending κ → Prop where
  | still {after : Lending κ} (step : Step isOpen s after) (same : after.pool = s.pool) :
      Aside isOpen address s after
  | lend {other : Address} {line : Line κ} {pool : Pool (Line κ)} (elsewhere : other ≠ address)
      (taken : s.pool.take (fun line => isOpen line.client) s.now other = (some line, pool)) :
      Aside isOpen address s
        { s with pool := pool, loans := ⟨other, line, true, false⟩ :: s.loans }
  | seek {other : Address} {pool : Pool (Line κ)} (elsewhere : other ≠ address)
      (missed : s.pool.take (fun line => isOpen line.client) s.now other = (none, pool)) :
      Aside isOpen address s { s with pool := pool, awaited := (other, true) :: s.awaited }
  | drop {before later : List (Loan (Line κ))} {loan : Loan (Line κ)}
      (elsewhere : loan.address ≠ address) (lent : s.loans = before ++ loan :: later) :
      Aside isOpen address s (s.endLoan isOpen loan (before ++ later))
  | stir {pool : Pool (Line κ)} (change : Line κ → κ) (maxIdle : pool.maxIdle = s.pool.maxIdle)
      (timeout : pool.timeout = s.pool.timeout)
      (idle : ∀ address, pool.idleOf address = (s.pool.idleOf address).map fun entry =>
        { entry with client := { entry.client with client := change entry.client } }) :
      Aside isOpen address s { s with pool := pool }

theorem Aside.step (aside : Aside isOpen address s after) : Step isOpen s after := by
  cases aside with
  | still step same => exact step
  | lend elsewhere taken => exact .lend taken
  | seek elsewhere missed => exact .seek missed
  | drop elsewhere lent => exact .drop lent
  | stir change maxIdle timeout idle => exact .stir change maxIdle timeout idle

def stamps (s : Lending κ) (address : Address) : List (Nat × Nat) :=
  (s.pool.idleOf address).map fun entry => (entry.client.number, entry.since)

theorem Aside.stamps (aside : Aside isOpen address s after) :
    after.stamps address = s.stamps address := by
  have apart {other : Address} {entries : List (Idle (Line κ))} {pool : Pool (Line κ)}
      (elsewhere : other ≠ address) (replaced : s.pool.Replaced other entries pool) :
      pool.idleOf address = s.pool.idleOf address :=
    (replaced.idle address).trans (if_neg elsewhere.symm)
  unfold Lending.stamps
  cases aside with
  | still step same => rw [same]
  | lend elsewhere taken => rw [apart elsewhere (Pool.take_suffix taken).2]
  | seek elsewhere missed => rw [apart elsewhere (Pool.take_suffix missed).2]
  | @drop before later loan elsewhere lent =>
    exact congrArg _ (apart elsewhere (Pool.drop_idle _ s.now loan s.pool))
  | stir change maxIdle timeout idle => simp [idle]

theorem stamps_aside (aside : Relation.ReflTransGen (Aside isOpen address) s after) :
    after.stamps address = s.stamps address := by
  induction aside with
  | refl => rfl
  | tail _ step ih => rw [step.stamps, ih]

theorem Reachable.aside {maxIdle timeout : Nat} (reachable : s.Reachable isOpen maxIdle timeout)
    (aside : Relation.ReflTransGen (Aside isOpen address) s after) :
    after.Reachable isOpen maxIdle timeout := by
  induction aside with
  | refl => exact reachable
  | tail _ step ih => exact .step ih step.step

theorem stamps_endLoan {loan : Loan (Line κ)} (pooled : loan.pooled = true)
    (completed : loan.completed = true) (healthy : isOpen loan.client.client = true)
    (others : List (Loan (Line κ))) :
    (s.endLoan isOpen loan others).stamps loan.address =
      if (s.pool.idleOf loan.address).length < s.pool.maxIdle then
        (loan.client.number, s.now) :: s.stamps loan.address
      else s.stamps loan.address := by
  have replaced := Pool.drop_idle (fun line : Line κ => isOpen line.client) s.now loan s.pool
  have own := (replaced.idle loan.address).trans (if_pos rfl)
  simp only [pooled, completed, healthy, Bool.and_self, true_and] at own
  unfold stamps endLoan
  rw [own]
  split <;> rfl

variable {factory : Factory ε κ} {maxIdle timeout : Nat}

/-- Among open clients the time alone decides: one that is still in its time is lent, and if there
is none a client is opened. -/
theorem Reachable.acquire_timely (reachable : s.Reachable factory.isOpen maxIdle timeout)
    (healthy : ∀ entry ∈ s.pool.idleOf address, factory.isOpen entry.client.client = true)
    (env : ε) :
    let acquired := s.pool.acquire factory.numbered s.now address (s.opened, env)
    let opened := factory.numbered.connect address (s.opened, env)
    (∃ entry ∈ s.pool.idleOf address, s.now - entry.since ≤ timeout ∧
      acquired.1 = .ok ⟨address, entry.client, true, false⟩ ∧ acquired.2.2 = (s.opened, env)) ∨
    (∀ entry ∈ s.pool.idleOf address, timeout < s.now - entry.since) ∧
      acquired.1 = opened.1.map (⟨address, ·, true, false⟩) ∧ acquired.2.2 = opened.2 := by
  intro acquired opened
  have fresh {entry : Idle (Line κ)} (member : entry ∈ s.pool.idleOf address) :
      s.pool.isFresh factory.numbered.isOpen s.now entry = decide (s.now - entry.since ≤ timeout) := by
    have alive : factory.numbered.isOpen entry.client = true := healthy entry member
    rw [Pool.isFresh, alive, Bool.and_true, reachable.limits.2]
  have expired (stale : ∀ entry ∈ s.pool.idleOf address,
      s.pool.isFresh factory.numbered.isOpen s.now entry = false) :
      ∀ entry ∈ s.pool.idleOf address, timeout < s.now - entry.since := by
    intro entry member
    have late := stale entry member
    rw [fresh member, decide_eq_false_iff_not] at late
    exact Nat.lt_of_not_le late
  have outcome : s.pool.Acquired factory.numbered s.now address (s.opened, env) acquired :=
    Pool.acquire_acquired factory.numbered s.now (reachable.sound.ordered address) (s.opened, env)
  generalize acquired = acquired at outcome
  cases outcome with
  | lent taken =>
    cases taken with
    | @found above rest entry _ stack _ timely _ _ =>
      have member : entry ∈ s.pool.idleOf address := by simp [stack]
      exact .inl ⟨entry, member, by simpa [fresh member] using timely, rfl, rfl⟩
  | opened missed connected =>
    cases missed with
    | missed stale _ => exact .inr ⟨expired stale, by simp [opened, connected, Except.map]⟩
  | refused missed failed =>
    cases missed with
    | missed stale _ => exact .inr ⟨expired stale, by simp [opened, failed, Except.map]⟩

/-- A loan ends well, and soon after the address is acquired again, with nothing done there in
between. If the address had room for one more idle client, the client that came back is lent. If it
was full, that client is gone, and what comes of the acquisition hangs on those that were idle
already: if any of them is still in its time one of them is lent, and else another client is
opened. -/
theorem returned_client_reused (reachable : s.Reachable factory.isOpen maxIdle timeout)
    {before others : List (Loan (Line κ))} {loan : Loan (Line κ)}
    (lent : s.loans = before ++ loan :: others) (pooled : loan.pooled = true)
    (completed : loan.completed = true) (healthy : factory.isOpen loan.client.client = true)
    (aside : Relation.ReflTransGen (Aside factory.isOpen loan.address)
      (s.endLoan factory.isOpen loan (before ++ others)) later)
    (soon : later.now ≤ s.now + timeout)
    (alive : ∀ entry ∈ later.pool.idleOf loan.address,
      factory.isOpen entry.client.client = true) (env : ε) :
    let held := s.pool.idleOf loan.address
    let acquired := later.pool.acquire factory.numbered later.now loan.address (later.opened, env)
    let opened := factory.numbered.connect loan.address (later.opened, env)
    (held.length < maxIdle → ∃ line : Line κ, line.number = loan.client.number ∧
      acquired.1 = .ok ⟨loan.address, line, true, false⟩ ∧
      acquired.2.2 = (later.opened, env)) ∧
    (maxIdle ≤ held.length → (∃ entry ∈ held, later.now - entry.since ≤ timeout) →
      ∃ line : Line κ, line.number ∈ held.map (·.client.number) ∧
        acquired.1 = .ok ⟨loan.address, line, true, false⟩ ∧
        acquired.2.2 = (later.opened, env)) ∧
    (maxIdle ≤ held.length → (∀ entry ∈ held, timeout < later.now - entry.since) →
      acquired.1 = opened.1.map (⟨loan.address, ·, true, false⟩) ∧ acquired.2.2 = opened.2) := by
  intro held acquired opened
  have ended : (s.endLoan factory.isOpen loan (before ++ others)).Reachable factory.isOpen
      maxIdle timeout := .step reachable (.drop lent)
  have reached := ended.aside aside
  have stamps := (stamps_aside aside).trans (stamps_endLoan pooled completed healthy _)
  rw [reachable.limits.1] at stamps
  have timely := reached.acquire_timely alive env
  -- What is idle at the end is what was idle, with the same times.
  have former (full : maxIdle ≤ held.length) {entry : Idle (Line κ)}
      (member : entry ∈ later.pool.idleOf loan.address) :
      ∃ old ∈ held, old.client.number = entry.client.number ∧ old.since = entry.since := by
    rw [if_neg (Nat.not_lt.mpr full)] at stamps
    have stamp : (entry.client.number, entry.since) ∈ s.stamps loan.address :=
      stamps ▸ List.mem_map_of_mem member
    simpa [Lending.stamps] using stamp
  have latter (full : maxIdle ≤ held.length) {entry : Idle (Line κ)} (member : entry ∈ held) :
      ∃ new ∈ later.pool.idleOf loan.address, new.since = entry.since := by
    rw [if_neg (Nat.not_lt.mpr full)] at stamps
    have stamp : (entry.client.number, entry.since) ∈ later.stamps loan.address :=
      stamps ▸ List.mem_map_of_mem member
    obtain ⟨new, there, same⟩ := List.mem_map.mp stamp
    exact ⟨new, there, (Prod.mk.inj same).2⟩
  refine ⟨?_, ?_, ?_⟩
  · intro room
    rw [if_pos room] at stamps
    obtain ⟨entry, rest, stack, stamp, _⟩ := List.map_eq_cons_iff.mp stamps
    obtain ⟨number, since⟩ := Prod.mk.inj stamp
    have fresh : later.pool.isFresh factory.numbered.isOpen later.now entry = true := by
      have usable : factory.numbered.isOpen entry.client = true := alive entry (by simp [stack])
      have early : later.now - entry.since ≤ timeout := by omega
      simp [Pool.isFresh, usable, early, reached.limits.2]
    refine ⟨entry.client, number, ?_⟩
    simp [acquired, Pool.acquire, Pool.take_top stack fresh]
  · rintro full ⟨entry, member, early⟩
    obtain ⟨new, there, same⟩ := latter full member
    obtain ⟨lent, there, _, outcome⟩ | ⟨late, _⟩ := timely
    · obtain ⟨old, member, number, _⟩ := former full there
      exact ⟨lent.client, List.mem_map.mpr ⟨old, member, number⟩, outcome⟩
    · have := late new there
      omega
  · intro full late
    obtain ⟨lent, there, early, _⟩ | ⟨_, outcome⟩ := timely
    · obtain ⟨old, member, _, same⟩ := former full there
      have := late old member
      omega
    · exact outcome

/-- The one place at an address is taken by a client that came back at 0. Another client comes back
at 4 and is let go, and at 6, when the first one has expired, a third client is opened. -/
theorem returned_client_reused_full :
    let factory : Factory Unit Bool := ⟨fun _ env => (.ok true, env), id⟩
    let loan : Loan (Line Bool) := ⟨⟨"h", 1⟩, ⟨1, ⟨"h", 1⟩, true⟩, true, true⟩
    ∃ s later : Lending Bool, s.Reachable factory.isOpen 1 5 ∧ s.now = 4 ∧
      s.loans = [] ++ loan :: [] ∧
      Relation.ReflTransGen (Aside factory.isOpen loan.address)
        (s.endLoan factory.isOpen loan ([] ++ [])) later ∧ later.now = 6 ∧
      (later.borrowed
        (later.pool.acquire factory.numbered later.now loan.address (later.opened, ()))).loans =
          [⟨⟨"h", 1⟩, ⟨2, ⟨"h", 1⟩, true⟩, true, false⟩] := by
  intro factory loan
  let first : Loan (Line Bool) := ⟨⟨"h", 1⟩, ⟨0, ⟨"h", 1⟩, true⟩, true, false⟩
  let second : Loan (Line Bool) := ⟨⟨"h", 1⟩, ⟨1, ⟨"h", 1⟩, true⟩, true, false⟩
  have setting : ∃ s : Lending Bool, s.Reachable factory.isOpen 1 5 ∧ s.now = 4 ∧
      s.loans = [] ++ loan :: [] ∧ s.opened = 2 ∧
      (s.pool.idleOf ⟨"h", 1⟩).length = 1 ∧
      ∀ entry ∈ s.pool.idleOf ⟨"h", 1⟩, entry.client.client = true ∧ entry.since = 0 := by
    have started : (start 1 5 0 : Lending Bool).Reachable factory.isOpen 1 5 := .start 0
    have twice := (started.acquire ⟨"h", 1⟩ ()).acquire ⟨"h", 1⟩ ()
    have used := Reachable.step twice (.complete (show _ = [] ++ second :: [first] from rfl))
    have both := Reachable.step used (.complete (show _ = [loan] ++ first :: [] from rfl))
    have back := Reachable.step both (.drop (show _ = [loan] ++ first.complete :: [] from rfl))
    exact ⟨_, .step back (.wait 4), rfl, rfl, rfl, by decide +kernel, by decide +kernel⟩
  obtain ⟨s, reachable, now, lent, opened, one, idle⟩ := setting
  have aside : Relation.ReflTransGen (Aside factory.isOpen loan.address)
      (s.endLoan factory.isOpen loan ([] ++ []))
      { s.endLoan factory.isOpen loan ([] ++ []) with now := s.now + 2 } :=
    .single (.still (.wait 2) rfl)
  -- The second client finds no room.
  have full := ((Pool.drop_idle (fun line : Line Bool => factory.isOpen line.client) s.now loan
    s.pool).idle loan.address).trans (if_pos rfl)
  have room : ¬ (s.pool.idleOf loan.address).length < s.pool.maxIdle := by
    rw [reachable.limits.1, one]
    decide
  rw [if_neg fun fits => room fits.2.2] at full
  have alive : ∀ entry ∈ (loan.drop (fun line => factory.isOpen line.client) s.now
      s.pool).idleOf loan.address, factory.isOpen entry.client.client = true := by
    rw [full]
    exact fun entry member => (idle entry member).1
  have late : ∀ entry ∈ s.pool.idleOf loan.address, 5 < s.now + 2 - entry.since := by
    intro entry member
    rw [(idle entry member).2, now]
    decide
  have outcome := (returned_client_reused reachable lent rfl rfl rfl aside
    (Nat.add_le_add_left (by decide) _) alive ()).2.2 (Nat.le_of_eq one.symm) late
  refine ⟨s, _, reachable, now, lent, aside, congrArg (· + 2) now, ?_⟩
  refine (congrArg (fun loan => loan.toOption.toList ++ ([] : List (Loan (Line Bool))))
    outcome.1).trans ?_
  simp only [endLoan, Factory.numbered, opened]
  rfl

end Lending
end TabletRoster
