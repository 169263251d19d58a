import Mathlib.Data.List.TakeWhile
import TabletRoster.Pool

/-!
What a pool lends. Any number of borrowers take clients on loan, wait for new ones, make calls and
end their loans, in any order. A connection is in one place at a time, the idle clients of an
address stand in the order in which they came back, and whoever borrows gets the one that came
back last among those that can still be used.
-/
namespace TabletRoster

namespace Pool

variable {ε κ : Type} {isOpen : κ → Bool} {now : Nat} {address : Address} {pool after : Pool κ}

theorem idleOf_empty (maxIdle timeout : Nat) (address : Address) :
    (empty maxIdle timeout : Pool κ).idleOf address = [] := by
  simp [idleOf, empty]

theorem idleOf_clear (pool : Pool κ) (address : Address) : pool.clear.idleOf address = [] := by
  simp [idleOf, clear]

structure Replaced (pool : Pool κ) (address : Address) (entries : List (Idle κ))
    (after : Pool κ) : Prop where
  maxIdle : after.maxIdle = pool.maxIdle
  timeout : after.timeout = pool.timeout
  idle : ∀ other, after.idleOf other = if other = address then entries else pool.idleOf other

theorem insert_replaced (pool : Pool κ) (address : Address) (entries : List (Idle κ)) :
    pool.Replaced address entries { pool with idle := pool.idle.insert address entries } := by
  refine ⟨rfl, rfl, fun other => ?_⟩
  simp only [idleOf, Std.ExtTreeMap.getElem?_insert, Std.compare_eq_iff_eq, eq_comm (a := other)]
  split <;> rfl

theorem erase_replaced (pool : Pool κ) (address : Address) :
    pool.Replaced address [] { pool with idle := pool.idle.erase address } := by
  refine ⟨rfl, rfl, fun other => ?_⟩
  simp only [idleOf, Std.ExtTreeMap.getElem?_erase, Std.compare_eq_iff_eq, eq_comm (a := other)]
  split <;> rfl

theorem Replaced.sublist {entries : List (Idle κ)} (replaced : pool.Replaced address entries after)
    (fewer : entries.Sublist (pool.idleOf address)) (other : Address) :
    (after.idleOf other).Sublist (pool.idleOf other) := by
  rw [replaced.idle]
  split
  · rename_i same
    rw [same]
    exact fewer
  · exact .refl _

/-- What taking a client can come to: only what cannot be used any more is left out, and of the
rest the one that came back last is taken. -/
inductive Taken (isOpen : κ → Bool) (now : Nat) (address : Address) (pool : Pool κ) :
    Option κ × Pool κ → Prop where
  | found {above rest : List (Idle κ)} {entry : Idle κ} {after : Pool κ}
      (stack : pool.idleOf address = above ++ entry :: rest)
      (stale : ∀ other ∈ above, pool.isFresh isOpen now other = false)
      (fresh : pool.isFresh isOpen now entry = true)
      (latest : ∀ other ∈ pool.idleOf address, pool.isFresh isOpen now other = true →
        other.since ≤ entry.since)
      (replaced : pool.Replaced address rest after) :
      Taken isOpen now address pool (some entry.client, after)
  | missed {after : Pool κ}
      (stale : ∀ other ∈ pool.idleOf address, pool.isFresh isOpen now other = false)
      (replaced : pool.Replaced address [] after) : Taken isOpen now address pool (none, after)

theorem take_cases (isOpen : κ → Bool) (now : Nat) (address : Address) (pool : Pool κ) :
    (∃ above entry rest after, pool.idleOf address = above ++ entry :: rest ∧
      (∀ other ∈ above, pool.isFresh isOpen now other = false) ∧
      pool.isFresh isOpen now entry = true ∧ pool.Replaced address rest after ∧
      pool.take isOpen now address = (some entry.client, after)) ∨
    ∃ after, (∀ other ∈ pool.idleOf address, pool.isFresh isOpen now other = false) ∧
      pool.Replaced address [] after ∧ pool.take isOpen now address = (none, after) := by
  have stale : ∀ other ∈ (pool.idleOf address).takeWhile fun e => !pool.isFresh isOpen now e,
      pool.isFresh isOpen now other = false := by
    intro other member
    simpa using List.mem_takeWhile_imp member
  have whole : (pool.idleOf address).takeWhile (fun e => !pool.isFresh isOpen now e) ++ _ =
    pool.idleOf address := List.takeWhile_append_dropWhile
  have first := List.head?_dropWhile_not (fun e => !pool.isFresh isOpen now e) (pool.idleOf address)
  unfold take
  split
  · rename_i left
    rw [left, List.append_nil] at whole
    rw [whole] at stale
    exact .inr ⟨_, stale, erase_replaced pool address, rfl⟩
  · rename_i entry rest left
    rw [left] at whole first
    exact .inl ⟨_, entry, rest, _, whole.symm, stale, by simpa using first,
      insert_replaced pool address rest, rfl⟩

theorem take_taken (isOpen : κ → Bool) (now : Nat) {address : Address} {pool : Pool κ}
    (ordered : (pool.idleOf address).Pairwise fun upper lower => lower.since ≤ upper.since) :
    pool.Taken isOpen now address (pool.take isOpen now address) := by
  obtain ⟨above, entry, rest, after, stack, stale, fresh, replaced, taken⟩ |
    ⟨after, stale, replaced, taken⟩ := pool.take_cases isOpen now address
  · rw [taken]
    refine .found stack stale fresh ?_ replaced
    intro other member usable
    rw [stack] at ordered member
    obtain above | below := List.mem_append.mp member
    · rw [stale other above] at usable
      cases usable
    · obtain rfl | below := List.mem_cons.mp below
      · exact Nat.le_refl _
      · exact List.rel_of_pairwise_cons (List.pairwise_append.mp ordered).2.1 below
  · rw [taken]
    exact .missed stale replaced

theorem take_limits (isOpen : κ → Bool) (now : Nat) (address : Address) (pool : Pool κ) :
    (pool.take isOpen now address).2.maxIdle = pool.maxIdle ∧
      (pool.take isOpen now address).2.timeout = pool.timeout := by
  obtain ⟨_, _, _, _, _, _, _, replaced, taken⟩ | ⟨_, _, replaced, taken⟩ :=
    pool.take_cases isOpen now address
  · rw [taken]
    exact ⟨replaced.maxIdle, replaced.timeout⟩
  · rw [taken]
    exact ⟨replaced.maxIdle, replaced.timeout⟩

theorem drop_limits (isOpen : κ → Bool) (now : Nat) (loan : Loan κ) (pool : Pool κ) :
    (loan.drop isOpen now pool).maxIdle = pool.maxIdle ∧
      (loan.drop isOpen now pool).timeout = pool.timeout := by
  unfold Loan.drop release
  split
  · dsimp only
    split <;> exact ⟨rfl, rfl⟩
  · exact ⟨rfl, rfl⟩

theorem release_replaced {client : κ}
    (room : (isOpen client && (pool.idleOf address).length < pool.maxIdle) = true) :
    pool.Replaced address (⟨client, now⟩ :: pool.idleOf address)
      (pool.release isOpen now address client) := by
  unfold release
  rw [if_pos room]
  exact insert_replaced ..

theorem release_full {client : κ}
    (full : (isOpen client && (pool.idleOf address).length < pool.maxIdle) = false) :
    pool.release isOpen now address client = pool := by
  unfold release
  simp only [full]
  rfl

/-- What comes of an acquisition. A client is opened only when none can be taken. -/
inductive Acquired (factory : Factory ε κ) (now : Nat) (address : Address) (pool : Pool κ)
    (env : ε) : Except RemoteError (Loan κ) × Pool κ × ε → Prop where
  | lent {client : κ} {after : Pool κ}
      (taken : pool.Taken factory.isOpen now address (some client, after)) :
      Acquired factory now address pool env (.ok ⟨address, client, true, false⟩, after, env)
  | opened {client : κ} {after : Pool κ} {later : ε}
      (missed : pool.Taken factory.isOpen now address (none, after))
      (connected : factory.connect address env = (.ok client, later)) :
      Acquired factory now address pool env (.ok ⟨address, client, true, false⟩, after, later)
  | refused {error : RemoteError} {after : Pool κ} {later : ε}
      (missed : pool.Taken factory.isOpen now address (none, after))
      (failed : factory.connect address env = (.error error, later)) :
      Acquired factory now address pool env (.error error, after, later)

theorem acquire_acquired (factory : Factory ε κ) (now : Nat) {address : Address} {pool : Pool κ}
    (ordered : (pool.idleOf address).Pairwise fun upper lower => lower.since ≤ upper.since)
    (env : ε) :
    pool.Acquired factory now address env (pool.acquire factory now address env) := by
  have taken := take_taken factory.isOpen now ordered
  unfold acquire
  match outcome : pool.take factory.isOpen now address with
  | (some client, after) => exact .lent (outcome ▸ taken)
  | (none, after) =>
    match connected : factory.connect address env with
    | (.ok client, later) => simpa only [connected] using .opened (outcome ▸ taken) connected
    | (.error error, later) => simpa only [connected] using .refused (outcome ▸ taken) connected

end Pool

structure Line (κ : Type) where
  number : Nat
  address : Address
  client : κ

def Factory.numbered {ε κ : Type} (factory : Factory ε κ) : Factory (Nat × ε) (Line κ) where
  connect address env :=
    match factory.connect address env.2 with
    | (.ok client, later) => (.ok ⟨env.1, address, client⟩, env.1 + 1, later)
    | (.error error, later) => (.error error, env.1, later)
  isOpen line := factory.isOpen line.client

/-- A pool with those who borrow from it. -/
structure Lending (κ : Type) where
  pool : Pool (Line κ)
  loans : List (Loan (Line κ))
  awaited : List (Address × Bool)
  ended : List (Nat × Loan (Line κ))
  opened : Nat
  now : Nat

namespace Lending

variable {ε κ : Type} {isOpen : κ → Bool} {s after : Lending κ}

def start (maxIdle timeout now : Nat) : Lending κ :=
  ⟨.empty maxIdle timeout, [], [], [], 0, now⟩

/-- What one of any number of borrowers does at a time. Acquiring is two steps, unless a client was
idle, so that others can act in between; a loan can end at any time. -/
inductive Step (isOpen : κ → Bool) (s : Lending κ) : Lending κ → Prop where
  | lend {address : Address} {line : Line κ} {pool : Pool (Line κ)}
      (taken : s.pool.take (fun line => isOpen line.client) s.now address = (some line, pool)) :
      Step isOpen s { s with pool := pool, loans := ⟨address, line, true, false⟩ :: s.loans }
  | seek {address : Address} {pool : Pool (Line κ)}
      (missed : s.pool.take (fun line => isOpen line.client) s.now address = (none, pool)) :
      Step isOpen s { s with pool := pool, awaited := (address, true) :: s.awaited }
  | seekTransient (address : Address) :
      Step isOpen s { s with awaited := (address, false) :: s.awaited }
  | connect {before later : List (Address × Bool)} {address : Address} {pooled : Bool}
      (awaited : s.awaited = before ++ (address, pooled) :: later) (client : κ) :
      Step isOpen s { s with
        awaited := before ++ later
        loans := ⟨address, ⟨s.opened, address, client⟩, pooled, false⟩ :: s.loans
        opened := s.opened + 1 }
  | giveUp {before later : List (Address × Bool)} {sought : Address × Bool}
      (awaited : s.awaited = before ++ sought :: later) :
      Step isOpen s { s with awaited := before ++ later }
  | call {before later : List (Loan (Line κ))} {loan : Loan (Line κ)}
      (lent : s.loans = before ++ loan :: later) (client : κ) :
      Step isOpen s { s with
        loans := before ++ { loan with client := { loan.client with client := client } } :: later }
  | complete {before later : List (Loan (Line κ))} {loan : Loan (Line κ)}
      (lent : s.loans = before ++ loan :: later) :
      Step isOpen s { s with loans := before ++ loan.complete :: later }
  | drop {before later : List (Loan (Line κ))} {loan : Loan (Line κ)}
      (lent : s.loans = before ++ loan :: later) :
      Step isOpen s { s with
        pool := loan.drop (fun line => isOpen line.client) s.now s.pool
        loans := before ++ later
        ended := (s.now, loan) :: s.ended }
  | clear : Step isOpen s { s with pool := s.pool.clear }
  | stir {pool : Pool (Line κ)} (change : Line κ → κ) (maxIdle : pool.maxIdle = s.pool.maxIdle)
      (timeout : pool.timeout = s.pool.timeout)
      (idle : ∀ address, pool.idleOf address = (s.pool.idleOf address).map fun entry =>
        { entry with client := { entry.client with client := change entry.client } }) :
      Step isOpen s { s with pool := pool }
  | wait (time : Nat) : Step isOpen s { s with now := s.now + time }

inductive Reachable (isOpen : κ → Bool) (maxIdle timeout : Nat) : Lending κ → Prop where
  | start (now : Nat) : Reachable isOpen maxIdle timeout (start maxIdle timeout now)
  | step {s after : Lending κ} (before : Reachable isOpen maxIdle timeout s)
      (step : Step isOpen s after) : Reachable isOpen maxIdle timeout after

def numbers (s : Lending κ) : Option Address → List Nat
  | some address => (s.pool.idleOf address).map (·.client.number)
  | none => s.loans.map (·.client.number)

/-- A connection was opened, and it is at one place only, and there once. -/
structure Apart (s : Lending κ) : Prop where
  issued : ∀ place, ∀ number ∈ s.numbers place, number < s.opened
  once : ∀ place, (s.numbers place).Nodup
  alone : ∀ {place other : Option Address} {number : Nat}, number ∈ s.numbers place →
    number ∈ s.numbers other → place = other

/-- The last loan of an idle client ended when it came back. It was marked complete, and the client
was open. -/
def Returned (isOpen : κ → Bool) (s : Lending κ) (address : Address) (entry : Idle (Line κ)) :
    Prop :=
  ∃ loan, s.ended.find? (fun past => past.2.client.number == entry.client.number) =
      some (entry.since, loan) ∧
    loan.address = address ∧ loan.pooled = true ∧ loan.completed = true ∧
    isOpen loan.client.client = true

structure Sound (isOpen : κ → Bool) (s : Lending κ) : Prop where
  apart : s.Apart
  led : ∀ loan ∈ s.loans, loan.client.address = loan.address
  few : ∀ address, (s.pool.idleOf address).length ≤ s.pool.maxIdle
  leads : ∀ address, ∀ entry ∈ s.pool.idleOf address, entry.client.address = address
  returned : ∀ address, ∀ entry ∈ s.pool.idleOf address, s.Returned isOpen address entry
  past : ∀ address, ∀ entry ∈ s.pool.idleOf address, entry.since ≤ s.now
  ordered : ∀ address,
    (s.pool.idleOf address).Pairwise fun upper lower => lower.since ≤ upper.since

/-! ### One connection at one place -/

theorem Apart.thin (apart : s.Apart) (opened : s.opened ≤ after.opened)
    (fewer : ∀ place, (after.numbers place).Sublist (s.numbers place)) : after.Apart where
  issued place number member :=
    (apart.issued place number ((fewer place).subset member)).trans_le opened
  once place := (apart.once place).sublist (fewer place)
  alone here there := apart.alone ((fewer _).subset here) ((fewer _).subset there)

theorem Apart.put (apart : s.Apart) (opened : after.opened = s.opened) {place : Option Address}
    {number : Nat} (issued : number < s.opened) (free : ∀ other, number ∉ s.numbers other)
    (put : ∀ other, after.numbers other =
      if other = place then number :: s.numbers other else s.numbers other) : after.Apart := by
  have cases_of {other : Option Address} {n : Nat} (member : n ∈ after.numbers other) :
      n = number ∧ other = place ∨ n ≠ number ∧ n ∈ s.numbers other := by
    rw [put] at member
    split at member
    · rename_i same
      obtain rfl | old := List.mem_cons.mp member
      · exact .inl ⟨rfl, same⟩
      · exact .inr ⟨fun new => free other (new ▸ old), old⟩
    · exact .inr ⟨fun new => free other (new ▸ member), member⟩
  constructor
  · intro other n member
    rw [opened]
    obtain ⟨rfl, _⟩ | ⟨_, old⟩ := cases_of member
    · exact issued
    · exact apart.issued other n old
  · intro other
    rw [put]
    split
    · exact List.nodup_cons.mpr ⟨free other, apart.once other⟩
    · exact apart.once other
  · intro here there n first second
    obtain ⟨new, rfl⟩ | ⟨new, first⟩ := cases_of first
    · obtain ⟨_, rfl⟩ | ⟨old, _⟩ := cases_of second
      · rfl
      · exact absurd new old
    · obtain ⟨old, _⟩ | ⟨_, second⟩ := cases_of second
      · exact absurd old new
      · exact apart.alone first second

/-! ### What keeps a lending sound -/

theorem sound_start (isOpen : κ → Bool) (maxIdle timeout now : Nat) :
    (start maxIdle timeout now : Lending κ).Sound isOpen := by
  have idle (address : Address) :
      (start maxIdle timeout now : Lending κ).pool.idleOf address = [] :=
    Pool.idleOf_empty maxIdle timeout address
  have nowhere (place : Option Address) :
      (start maxIdle timeout now : Lending κ).numbers place = [] := by
    cases place with
    | none => rfl
    | some address => simp [numbers, idle]
  constructor
  · constructor
    · simp [nowhere]
    · simp [nowhere]
    · intro place other number here
      simp [nowhere] at here
  · intro loan member
    cases member
  all_goals simp [idle]

theorem Sound.thin (sound : s.Sound isOpen) {pool : Pool (Line κ)} {now : Nat}
    (maxIdle : pool.maxIdle = s.pool.maxIdle)
    (fewer : ∀ address, (pool.idleOf address).Sublist (s.pool.idleOf address))
    (later : s.now ≤ now) : ({ s with pool := pool, now := now } : Lending κ).Sound isOpen where
  apart := sound.apart.thin (Nat.le_refl _) fun place =>
    match place with
    | some address => (fewer address).map _
    | none => .refl _
  led := sound.led
  few address := maxIdle ▸ (fewer address).length_le.trans (sound.few address)
  leads address entry member := sound.leads address entry ((fewer address).subset member)
  returned address entry member := sound.returned address entry ((fewer address).subset member)
  past address entry member :=
    (sound.past address entry ((fewer address).subset member)).trans later
  ordered address := (sound.ordered address).sublist (fewer address)

theorem numbers_borrow (s : Lending κ) (loan : Loan (Line κ)) (place : Option Address) :
    ({ s with loans := loan :: s.loans } : Lending κ).numbers place =
      if place = none then loan.client.number :: s.numbers place else s.numbers place := by
  cases place <;> rfl

theorem Sound.borrow (sound : s.Sound isOpen) {loan : Loan (Line κ)}
    (led : loan.client.address = loan.address) (issued : loan.client.number < s.opened)
    (free : ∀ place, loan.client.number ∉ s.numbers place) :
    ({ s with loans := loan :: s.loans } : Lending κ).Sound isOpen where
  apart := sound.apart.put rfl issued free (numbers_borrow s loan)
  led other member := by
    obtain rfl | old := List.mem_cons.mp member
    · exact led
    · exact sound.led other old
  few := sound.few
  leads := sound.leads
  returned := sound.returned
  past := sound.past
  ordered := sound.ordered

theorem Sound.edit (sound : s.Sound isOpen) {before later : List (Loan (Line κ))}
    {loan edited : Loan (Line κ)} (lent : s.loans = before ++ loan :: later)
    (number : edited.client.number = loan.client.number)
    (address : edited.client.address = loan.client.address) (same : edited.address = loan.address) :
    ({ s with loans := before ++ edited :: later } : Lending κ).Sound isOpen := by
  have numbers (place : Option Address) :
      ({ s with loans := before ++ edited :: later } : Lending κ).numbers place =
        s.numbers place := by
    cases place with
    | some address => rfl
    | none => simp [Lending.numbers, lent, number]
  constructor
  · exact sound.apart.thin (Nat.le_refl _) fun place => numbers place ▸ .refl _
  · intro other member
    have led := sound.led
    rw [lent] at led
    obtain old | rfl | old := by simpa using member
    · exact led other (by simp [old])
    · rw [address, same]
      exact led loan (by simp)
    · exact led other (by simp [old])
  · exact sound.few
  · exact sound.leads
  · exact sound.returned
  · exact sound.past
  · exact sound.ordered

theorem Sound.alone (sound : s.Sound isOpen) {before later : List (Loan (Line κ))}
    {loan : Loan (Line κ)} (lent : s.loans = before ++ loan :: later) :
    (∀ address, loan.client.number ∉ s.numbers (some address)) ∧
      loan.client.number ∉ (before ++ later).map (·.client.number) := by
  have here : loan.client.number ∈ s.numbers none := by simp [numbers, lent]
  constructor
  · intro address there
    cases sound.apart.alone here there
  · have once := sound.apart.once none
    simp only [numbers, lent, List.map_append, List.map_cons] at once
    rw [List.map_append]
    exact (List.nodup_cons.mp (List.perm_middle.nodup_iff.mp once)).1

theorem Sound.finish (sound : s.Sound isOpen) {before later : List (Loan (Line κ))}
    {loan : Loan (Line κ)} (lent : s.loans = before ++ loan :: later) :
    ({ s with loans := before ++ later, ended := (s.now, loan) :: s.ended } : Lending κ).Sound
      isOpen := by
  have fewer : (before ++ later).Sublist s.loans := by
    rw [lent]
    exact .append (.refl _) (.cons _ (.refl _))
  have thin (place : Option Address) : ({ s with
      loans := before ++ later, ended := (s.now, loan) :: s.ended } : Lending κ).numbers place
        |>.Sublist (s.numbers place) := by
    cases place with
    | some address => exact .refl _
    | none => exact fewer.map _
  constructor
  · exact sound.apart.thin (Nat.le_refl _) thin
  · intro other member
    exact sound.led other (fewer.subset member)
  · exact sound.few
  · exact sound.leads
  · intro address entry member
    obtain ⟨past, found, rest⟩ := sound.returned address entry member
    have another : loan.client.number ≠ entry.client.number := by
      intro same
      refine (sound.alone lent).1 address ?_
      rw [same]
      exact List.mem_map_of_mem member
    refine ⟨past, ?_, rest⟩
    rw [List.find?_cons_of_neg (by simpa using another)]
    exact found
  · exact sound.past
  · exact sound.ordered

theorem Sound.giveBack (sound : s.Sound isOpen) {line : Line κ} {pool : Pool (Line κ)}
    {address : Address} (leads : line.address = address) (issued : line.number < s.opened)
    (free : ∀ place, line.number ∉ s.numbers place)
    (returned : s.Returned isOpen address ⟨line, s.now⟩)
    (room : (s.pool.idleOf address).length < s.pool.maxIdle)
    (replaced : s.pool.Replaced address (⟨line, s.now⟩ :: s.pool.idleOf address) pool) :
    ({ s with pool := pool } : Lending κ).Sound isOpen := by
  have put (place : Option Address) : ({ s with pool := pool } : Lending κ).numbers place =
      if place = some address then line.number :: s.numbers place else s.numbers place := by
    cases place with
    | none => rfl
    | some other =>
      simp only [numbers, replaced.idle, Option.some.injEq]
      split
      · rename_i same
        rw [same, List.map_cons]
      · rfl
  -- An idle client is one that was there, or the one that came back.
  have entries {other : Address} {entry : Idle (Line κ)} (member : entry ∈ pool.idleOf other) :
      other = address ∧ entry = ⟨line, s.now⟩ ∨ entry ∈ s.pool.idleOf other := by
    rw [replaced.idle] at member
    split at member
    · rename_i same
      obtain new | old := List.mem_cons.mp member
      · exact .inl ⟨same, new⟩
      · exact .inr (same ▸ old)
    · exact .inr member
  constructor
  · exact sound.apart.put rfl issued free put
  · exact sound.led
  · intro other
    show (pool.idleOf other).length ≤ pool.maxIdle
    rw [replaced.idle, replaced.maxIdle]
    split
    · exact room
    · exact sound.few other
  · intro other entry member
    obtain ⟨rfl, rfl⟩ | old := entries member
    · exact leads
    · exact sound.leads other entry old
  · intro other entry member
    obtain ⟨rfl, rfl⟩ | old := entries member
    · exact returned
    · exact sound.returned other entry old
  · intro other entry member
    obtain ⟨rfl, rfl⟩ | old := entries member
    · exact Nat.le_refl _
    · exact sound.past other entry old
  · intro other
    show (pool.idleOf other).Pairwise _
    rw [replaced.idle]
    split
    · exact List.pairwise_cons.mpr ⟨sound.past address, sound.ordered address⟩
    · exact sound.ordered other

theorem Sound.drop (sound : s.Sound isOpen) {before later : List (Loan (Line κ))}
    {loan : Loan (Line κ)} (lent : s.loans = before ++ loan :: later) :
    ({ s with
        pool := loan.drop (fun line => isOpen line.client) s.now s.pool
        loans := before ++ later
        ended := (s.now, loan) :: s.ended } : Lending κ).Sound isOpen := by
  have finished := sound.finish lent
  obtain ⟨idle, others⟩ := sound.alone lent
  have member : loan ∈ s.loans := by simp [lent]
  unfold Loan.drop
  split
  · rename_i ends
    rw [Bool.and_eq_true] at ends
    cases room : isOpen loan.client.client &&
        decide ((s.pool.idleOf loan.address).length < s.pool.maxIdle) with
    | false =>
      rw [Pool.release_full room]
      exact finished
    | true =>
      have replaced : s.pool.Replaced loan.address (⟨loan.client, s.now⟩ :: _)
          (s.pool.release (fun line => isOpen line.client) s.now loan.address loan.client) :=
        Pool.release_replaced room
      rw [Bool.and_eq_true, decide_eq_true_iff] at room
      refine finished.giveBack (sound.led loan member) ?_ ?_ ?_ room.2 replaced
      · exact sound.apart.issued none _ (List.mem_map_of_mem member)
      · intro place
        cases place with
        | some address => exact idle address
        | none => exact others
      · exact ⟨loan, by simp, rfl, ends.1, ends.2, room.1⟩
  · exact finished

theorem Sound.stir (sound : s.Sound isOpen) {pool : Pool (Line κ)} {change : Line κ → κ}
    (maxIdle : pool.maxIdle = s.pool.maxIdle)
    (idle : ∀ address, pool.idleOf address = (s.pool.idleOf address).map fun entry =>
      { entry with client := { entry.client with client := change entry.client } }) :
    ({ s with pool := pool } : Lending κ).Sound isOpen := by
  have numbers (place : Option Address) : ({ s with pool := pool } : Lending κ).numbers place =
      s.numbers place := by
    cases place with
    | none => rfl
    | some address => simp [Lending.numbers, idle]
  constructor
  · exact sound.apart.thin (Nat.le_refl _) fun place => numbers place ▸ .refl _
  · exact sound.led
  · intro address
    simpa [idle, maxIdle] using sound.few address
  all_goals
    intro address
    simp only [idle, List.forall_mem_map]
  · exact sound.leads address
  · exact sound.returned address
  · exact sound.past address
  · exact List.pairwise_map.mpr (sound.ordered address)

theorem Sound.lend (sound : s.Sound isOpen) {address : Address} {line : Line κ}
    {pool : Pool (Line κ)}
    (taken : s.pool.take (fun line => isOpen line.client) s.now address = (some line, pool)) :
    ({ s with pool := pool, loans := ⟨address, line, true, false⟩ :: s.loans } : Lending κ).Sound
      isOpen := by
  have outcome := Pool.take_taken (fun line => isOpen line.client) s.now (sound.ordered address)
  rw [taken] at outcome
  cases outcome with
  | @found above rest entry _ stack _ _ _ replaced =>
    have fewer : rest.Sublist (s.pool.idleOf address) := by
      rw [stack]
      exact (List.sublist_cons_self entry rest).trans (List.sublist_append_right above _)
    have thin := sound.thin replaced.maxIdle (replaced.sublist fewer) (Nat.le_refl _)
    have member : entry ∈ s.pool.idleOf address := by simp [stack]
    have here : entry.client.number ∈ s.numbers (some address) := List.mem_map_of_mem member
    refine thin.borrow (sound.leads address entry member) (sound.apart.issued _ _ here) ?_
    intro place there
    have found : entry.client.number ∈ s.numbers place :=
      match place with
      | some other => ((replaced.sublist fewer other).map _).subset there
      | none => there
    obtain rfl := sound.apart.alone here found
    -- It was in the stack once, and what is left stood below it.
    have once := sound.apart.once (some address)
    simp only [numbers, stack, List.map_append, List.map_cons] at once
    simp only [numbers, replaced.idle, if_pos] at there
    exact (List.nodup_cons.mp (List.nodup_append.mp once).2.1).1 there

theorem Sound.miss (sound : s.Sound isOpen) {address : Address} {pool : Pool (Line κ)}
    (missed : s.pool.take (fun line => isOpen line.client) s.now address = (none, pool)) :
    ({ s with pool := pool } : Lending κ).Sound isOpen := by
  have outcome := Pool.take_taken (fun line => isOpen line.client) s.now (sound.ordered address)
  rw [missed] at outcome
  cases outcome with
  | missed _ replaced =>
    exact sound.thin replaced.maxIdle (replaced.sublist (List.nil_sublist _)) (Nat.le_refl _)

theorem Sound.connect (sound : s.Sound isOpen) (address : Address) (pooled : Bool) (client : κ) :
    ({ s with
        loans := ⟨address, ⟨s.opened, address, client⟩, pooled, false⟩ :: s.loans
        opened := s.opened + 1 } : Lending κ).Sound isOpen := by
  have counted : ({ s with opened := s.opened + 1 } : Lending κ).Sound isOpen :=
    { sound with apart := sound.apart.thin (Nat.le_succ _) fun _ => .refl _ }
  refine counted.borrow rfl (Nat.lt_succ_self _) ?_
  intro place member
  exact Nat.lt_irrefl _ (sound.apart.issued place _ member)

theorem Sound.wait (sound : s.Sound isOpen) (awaited : List (Address × Bool)) :
    ({ s with awaited := awaited } : Lending κ).Sound isOpen :=
  { sound with apart := sound.apart.thin (Nat.le_refl _) fun _ => .refl _ }

theorem step_sound (sound : s.Sound isOpen) (step : Step isOpen s after) : after.Sound isOpen := by
  cases step with
  | lend taken => exact sound.lend taken
  | seek missed => exact (sound.miss missed).wait _
  | seekTransient address => exact sound.wait _
  | connect awaited client => exact (sound.connect _ _ client).wait _
  | giveUp awaited => exact sound.wait _
  | call lent client => exact sound.edit lent rfl rfl rfl
  | complete lent => exact sound.edit lent rfl rfl rfl
  | drop lent => exact sound.drop lent
  | clear =>
    refine sound.thin rfl (fun address => ?_) (Nat.le_refl _)
    rw [Pool.idleOf_clear]
    exact List.nil_sublist _
  | stir change maxIdle _ idle => exact sound.stir maxIdle idle
  | wait time => exact sound.thin rfl (fun address => .refl _) (Nat.le_add_right _ _)

theorem Reachable.sound {maxIdle timeout : Nat} (reachable : Reachable isOpen maxIdle timeout s) :
    s.Sound isOpen := by
  induction reachable with
  | start now => exact sound_start isOpen maxIdle timeout now
  | step _ step ih => exact step_sound ih step

theorem Reachable.limits {maxIdle timeout : Nat} (reachable : s.Reachable isOpen maxIdle timeout) :
    s.pool.maxIdle = maxIdle ∧ s.pool.timeout = timeout := by
  induction reachable with
  | start now => exact ⟨rfl, rfl⟩
  | @step s after before step ih =>
    suffices after.pool.maxIdle = s.pool.maxIdle ∧ after.pool.timeout = s.pool.timeout from
      ⟨this.1.trans ih.1, this.2.trans ih.2⟩
    cases step with
    | @lend address _ _ taken =>
      have same := s.pool.take_limits (fun line => isOpen line.client) s.now address
      rwa [taken] at same
    | @seek address _ missed =>
      have same := s.pool.take_limits (fun line => isOpen line.client) s.now address
      rwa [missed] at same
    | @drop _ _ loan _ => exact s.pool.drop_limits (fun line => isOpen line.client) s.now loan
    | stir change maxIdle timeout idle => exact ⟨maxIdle, timeout⟩
    | _ => exact ⟨rfl, rfl⟩

/-- One more borrower, who acted without anybody in between. -/
def borrowed (s : Lending κ)
    (outcome : Except RemoteError (Loan (Line κ)) × Pool (Line κ) × Nat × ε) : Lending κ :=
  { s with
    pool := outcome.2.1
    loans := outcome.1.toOption.toList ++ s.loans
    opened := outcome.2.2.1 }

variable {factory : Factory ε κ} {maxIdle timeout : Nat}

theorem Reachable.connect {pool : Pool (Line κ)} {address : Address} {pooled : Bool}
    (reachable : ({ s with pool := pool, awaited := (address, pooled) :: s.awaited } :
      Lending κ).Reachable factory.isOpen maxIdle timeout) (env : ε) :
    let (line, later) := factory.numbered.connect address (s.opened, env)
    (s.borrowed (line.map (⟨address, ·, pooled, false⟩), pool, later)).Reachable
      factory.isOpen maxIdle timeout := by
  have waiting : (address, pooled) :: s.awaited = [] ++ (address, pooled) :: s.awaited := rfl
  match connected : factory.connect address env with
  | (.ok client, later) =>
    have opened := Reachable.step reachable (.connect waiting client)
    simp only [Factory.numbered, connected]
    exact opened
  | (.error error, later) =>
    have gone := Reachable.step reachable (.giveUp waiting)
    simp only [Factory.numbered, connected]
    exact gone

theorem Reachable.transient (reachable : s.Reachable factory.isOpen maxIdle timeout)
    (address : Address) (env : ε) :
    (s.borrowed (s.pool.transient factory.numbered address (s.opened, env))).Reachable
      factory.isOpen maxIdle timeout :=
  (Reachable.step reachable (.seekTransient address)).connect env

theorem Reachable.acquire (reachable : s.Reachable factory.isOpen maxIdle timeout)
    (address : Address) (env : ε) :
    (s.borrowed (s.pool.acquire factory.numbered s.now address (s.opened, env))).Reachable
      factory.isOpen maxIdle timeout := by
  match outcome : s.pool.take factory.numbered.isOpen s.now address with
  | (some line, pool) =>
    simp only [Pool.acquire, outcome]
    exact .step reachable (.lend outcome)
  | (none, pool) =>
    simp only [Pool.acquire, outcome]
    exact (Reachable.step reachable (.seek outcome)).connect env

/-- Whatever borrowers do, a connection is at one place at a time, each address keeps few clients,
all of them opened to it and returned open by a completed loan, and they stand in the order of
their return. An acquisition takes the last of those that can be used, opens another only when
there is none, and touches no other address. -/
theorem lends_last_returned (factory : Factory ε κ) {s : Lending κ} {maxIdle timeout : Nat}
    (reachable : s.Reachable factory.isOpen maxIdle timeout) :
    s.Apart ∧ s.pool.timeout = timeout ∧
    (∀ address, (s.pool.idleOf address).length ≤ maxIdle ∧
      (∀ entry ∈ s.pool.idleOf address, entry.client.address = address ∧
        s.Returned factory.isOpen address entry) ∧
      (s.pool.idleOf address).Pairwise fun upper lower => lower.since ≤ upper.since) ∧
    (∀ address, s.pool.Taken factory.numbered.isOpen s.now address
      (s.pool.take factory.numbered.isOpen s.now address)) ∧
    ∀ address env,
      let acquired := s.pool.acquire factory.numbered s.now address (s.opened, env)
      let transient := s.pool.transient factory.numbered address (s.opened, env)
      s.pool.Acquired factory.numbered s.now address (s.opened, env) acquired ∧
      transient.2.1 = s.pool ∧
      (s.borrowed acquired).Reachable factory.isOpen maxIdle timeout ∧
      (s.borrowed transient).Reachable factory.isOpen maxIdle timeout := by
  have sound := reachable.sound
  refine ⟨sound.apart, reachable.limits.2, ?_, ?_, ?_⟩
  · intro address
    refine ⟨reachable.limits.1 ▸ sound.few address, ?_, sound.ordered address⟩
    intro entry member
    exact ⟨sound.leads address entry member, sound.returned address entry member⟩
  · intro address
    exact Pool.take_taken _ _ (sound.ordered address)
  · intro address env acquired transient
    have kept : transient.2.1 = s.pool := rfl
    exact ⟨Pool.acquire_acquired _ _ (sound.ordered address) _, kept,
      reachable.acquire address env, reachable.transient address env⟩

theorem lends_last_returned_again :
    let factory : Factory Unit Bool := ⟨fun _ env => (.ok true, env), id⟩
    ∃ s : Lending Bool, s.Reachable factory.isOpen 1 5 ∧ s.now = 3 ∧ s.Apart ∧
      (s.pool.idleOf ⟨"h", 1⟩).map (fun entry => (entry.client.number, entry.since)) = [(0, 0)] ∧
      (s.borrowed (s.pool.acquire factory.numbered s.now ⟨"h", 1⟩ (s.opened, ()))).loans.map
        (fun loan => loan.client.number) = [0] := by
  intro factory
  have started : (start 1 5 0 : Lending Bool).Reachable factory.isOpen 1 5 := .start 0
  have borrowed := started.acquire ⟨"h", 1⟩ ()
  have lent : (Lending.borrowed (start 1 5 0) (Pool.acquire factory.numbered 0 ⟨"h", 1⟩
      (.empty 1 5) (0, ()))).loans = [] ++ ⟨⟨"h", 1⟩, ⟨0, ⟨"h", 1⟩, true⟩, true, false⟩ :: [] := by
    rfl
  have completed := Reachable.step borrowed (.complete lent)
  have back := Reachable.step completed (.drop rfl)
  have reachable := Reachable.step back (.wait 3)
  exact ⟨_, reachable, rfl, (lends_last_returned factory reachable).1, by decide +kernel,
    by decide +kernel⟩

end Lending
end TabletRoster
