import TabletRoster.Lease

/-!
Leases that expire. A round sends one keep-alive and reads at most one response, so every read that
times out puts the reader one response behind, and nothing makes up for it. A response without time
to live is heeded when it is read: after all that arrived before it, one round for each.
-/
namespace TabletRoster.Keeper

variable {keeper next last : Keeper} {sends : Nat → Bool} {n : Nat}

def reliable : Nat → Bool := fun _ => true

inductive Passing : KeepAlive → Prop where
  | alive {ttl : Int} (left : 0 < ttl) : Passing (.alive ttl)
  | failed : Passing .failed

/-- The loop ends with an error in the round after so many rounds. -/
def GivesUp (sends : Nat → Bool) (n : Nat) (keeper : Keeper) (error : LeaseError) : Prop :=
  ∃ last, rounds sends n keeper = .ok last ∧ last.round (sends last.sent) = .error error

def missed : Nat → Keeper → Nat
  | 0, _ => 0
  | n + 1, keeper =>
    match keeper.round true with
    | .ok next => missed n next + if next.stream = keeper.stream then 1 else 0
    | .error _ => 0

/-! ### One round -/

/-- What a round comes to that goes on. -/
inductive Passed (keeper : Keeper) : Keeper → Prop where
  | read {arrival : Nat} {response : KeepAlive} {rest : List (Nat × KeepAlive)}
      (first : keeper.stream = (arrival, response) :: rest) (passing : Passing response)
      (timely : arrival ≤ keeper.send.now + patience) :
      Passed keeper { keeper.send with now := max keeper.send.now arrival, stream := rest }
  | ended {arrival : Nat} {rest : List (Nat × KeepAlive)}
      (first : keeper.stream = (arrival, .ended) :: rest)
      (timely : arrival ≤ keeper.send.now + patience) :
      Passed keeper { keeper.send with now := max keeper.send.now arrival }
  | silent (late : ∀ item ∈ keeper.stream.head?, keeper.send.now + patience < item.1) :
      Passed keeper { keeper.send with now := keeper.send.now + patience }

def Lapsing (keeper : Keeper) : Prop :=
  ∃ arrival ttl rest, keeper.stream = (arrival, .alive ttl) :: rest ∧ ttl ≤ 0 ∧
    arrival ≤ keeper.send.now + patience

theorem round_cases (keeper : Keeper) :
    keeper.Lapsing ∧ keeper.round true = .error (.expired keeper.lease) ∨
      ∃ next, keeper.round true = .ok next ∧ keeper.Passed next := by
  have same : keeper.send.stream = keeper.stream := rfl
  cases stream : keeper.stream with
  | nil =>
    have late : ∀ item ∈ keeper.stream.head?, keeper.send.now + patience < item.1 := by
      simp [stream]
    exact .inr ⟨_, by simp [round, receive, same, stream], .silent late⟩
  | cons item rest =>
    obtain ⟨arrival, response⟩ := item
    by_cases timely : arrival ≤ keeper.send.now + patience
    · cases response with
      | alive ttl =>
        by_cases spent : ttl ≤ 0
        · refine .inl ⟨⟨arrival, ttl, rest, stream, spent, timely⟩, ?_⟩
          simp [round, receive, same, stream, timely, spent]
          rfl
        · refine .inr ⟨_, ?_, .read stream (.alive (Int.not_le.mp spent)) timely⟩
          simp [round, receive, same, stream, timely, spent]
      | ended =>
        exact .inr ⟨_, by simp [round, receive, same, stream, timely], .ended stream timely⟩
      | failed =>
        exact .inr ⟨_, by simp [round, receive, same, stream, timely], .read stream .failed timely⟩
    · have late : ∀ item ∈ keeper.stream.head?, keeper.send.now + patience < item.1 := by
        simpa [stream] using timely
      exact .inr ⟨_, by simp [round, receive, same, stream, timely], .silent late⟩

theorem Passed.spares (passed : keeper.Passed next) : ¬ keeper.Lapsing := by
  rintro ⟨arrival, ttl, rest, stream, spent, timely⟩
  cases passed with
  | read first passing =>
    rw [stream] at first
    cases first
    cases passing with
    | alive left => omega
  | ended first =>
    rw [stream] at first
    cases first
  | silent late =>
    have missed := late (arrival, .alive ttl) (by simp [stream])
    omega

theorem round_expired : keeper.round true = .error (.expired keeper.lease) ↔ keeper.Lapsing := by
  rcases round_cases keeper with ⟨lapsing, failed⟩ | ⟨next, ok, passed⟩
  · exact iff_of_true failed lapsing
  · exact iff_of_false (by rw [ok]; nofun) passed.spares

theorem passed_of_round {sending : Bool} (ok : keeper.round sending = .ok next) :
    sending = true ∧ keeper.Passed next := by
  cases sending with
  | false => cases ok
  | true =>
    rcases round_cases keeper with ⟨_, failed⟩ | ⟨other, passes, passed⟩
    · rw [failed] at ok
      cases ok
    · rw [passes] at ok
      cases ok
      exact ⟨rfl, passed⟩

theorem Passed.stream (passed : keeper.Passed next) :
    (∃ item, keeper.stream = item :: next.stream ∧ Passing item.2) ∨
      next.stream = keeper.stream := by
  cases passed with
  | read first passing => exact .inl ⟨_, first, passing⟩
  | ended => exact .inr rfl
  | silent => exact .inr rfl

theorem Passed.kept (passed : keeper.Passed next) : next.lease = keeper.lease ∧
    next.interval = keeper.interval ∧ next.sent = keeper.sent + 1 ∧
    next.due = keeper.due + keeper.interval ∧ keeper.send.now ≤ next.send.now := by
  cases passed <;> simp [send] <;> omega

/-! ### So many rounds -/

/-- What so many rounds leave behind: the responses that were read, and the rest. -/
structure Reached (keeper : Keeper) (n : Nat) (read : List (Nat × KeepAlive)) (last : Keeper) :
    Prop where
  lease : last.lease = keeper.lease
  interval : last.interval = keeper.interval
  sent : last.sent = keeper.sent + n
  due : last.due = keeper.due + n * keeper.interval
  later : keeper.send.now ≤ last.send.now
  stream : keeper.stream = read ++ last.stream
  passing : ∀ item ∈ read, Passing item.2
  counted : n = read.length + missed n keeper

theorem Passed.reached {read : List (Nat × KeepAlive)} (ok : keeper.round true = .ok next)
    (passed : keeper.Passed next) (reached : next.Reached n read last) :
    ∃ read, keeper.Reached (n + 1) read last := by
  obtain ⟨lease, interval, sent, due, later⟩ := passed.kept
  have whole := reached.due
  rw [due, interval] at whole
  have further (read : List (Nat × KeepAlive)) (stream : keeper.stream = read ++ last.stream)
      (passing : ∀ item ∈ read, Passing item.2)
      (counted : n + 1 = read.length + missed (n + 1) keeper) : keeper.Reached (n + 1) read last :=
    { lease := reached.lease.trans lease
      interval := reached.interval.trans interval
      sent := by rw [reached.sent, sent]; omega
      due := by rw [whole, Nat.succ_mul]; omega
      later := Nat.le_trans later reached.later
      stream, passing, counted }
  have counted := reached.counted
  rcases passed.stream with ⟨item, stream, passing⟩ | same
  · refine ⟨item :: read, further _ ?_ ?_ ?_⟩
    · rw [stream, reached.stream, List.cons_append]
    · rw [List.forall_mem_cons]
      exact ⟨passing, reached.passing⟩
    · have shorter : next.stream ≠ keeper.stream := by simp [stream]
      rw [missed, ok, List.length_cons]
      simp only [if_neg shorter]
      omega
  · refine ⟨read, further _ (same ▸ reached.stream) reached.passing ?_⟩
    rw [missed, ok]
    simp only [if_pos same]
    omega

theorem rounds_succ (sends : Nat → Bool) (n : Nat) (keeper : Keeper) :
    rounds sends (n + 1) keeper = (keeper.round (sends keeper.sent)).bind (rounds sends n) := rfl

theorem first_of_rounds {sends : Nat → Bool} (ok : rounds sends (n + 1) keeper = .ok last) :
    ∃ next, keeper.round (sends keeper.sent) = .ok next ∧ rounds sends n next = .ok last := by
  rw [rounds_succ] at ok
  cases done : keeper.round (sends keeper.sent) with
  | error error =>
    rw [done] at ok
    cases ok
  | ok next =>
    rw [done] at ok
    exact ⟨next, rfl, ok⟩

theorem reached_of_rounds (ok : rounds sends n keeper = .ok last) :
    ∃ read, keeper.Reached n read last := by
  induction n generalizing keeper with
  | zero =>
    cases ok
    exact ⟨[], rfl, rfl, rfl, by simp, Nat.le_refl _, rfl, nofun, rfl⟩
  | succ n ih =>
    obtain ⟨next, first, others⟩ := first_of_rounds ok
    obtain ⟨sending, passed⟩ := passed_of_round first
    rw [sending] at first
    obtain ⟨read, reached⟩ := ih others
    exact passed.reached first reached

theorem rounds_append {m : Nat} {middle : Keeper} (ok : rounds sends m keeper = .ok middle)
    (n : Nat) : rounds sends (m + n) keeper = rounds sends n middle := by
  induction m generalizing keeper with
  | zero =>
    cases ok
    rw [Nat.zero_add]
  | succ m ih =>
    obtain ⟨next, first, others⟩ := first_of_rounds ok
    rw [Nat.add_right_comm, rounds_succ, first]
    exact ih others

theorem rounds_split {m : Nat} (ok : rounds sends (m + n) keeper = .ok last) :
    ∃ middle, rounds sends m keeper = .ok middle ∧ rounds sends n middle = .ok last := by
  induction m generalizing keeper with
  | zero => exact ⟨keeper, rfl, by rwa [Nat.zero_add] at ok⟩
  | succ m ih =>
    rw [Nat.add_right_comm] at ok
    obtain ⟨next, first, others⟩ := first_of_rounds ok
    obtain ⟨middle, before, behind⟩ := ih others
    exact ⟨middle, by rw [rounds_succ, first]; exact before, behind⟩

theorem goes_on_or_ends (sends : Nat → Bool) (n : Nat) (keeper : Keeper) :
    (∃ last, rounds sends n keeper = .ok last) ∨
      ∃ m < n, ∃ error, GivesUp sends m keeper error := by
  induction n with
  | zero => exact .inl ⟨keeper, rfl⟩
  | succ n ih =>
    rcases ih with ⟨last, ok⟩ | ⟨m, before, ended⟩
    · cases done : last.round (sends last.sent) with
      | error error => exact .inr ⟨n, Nat.lt_succ_self n, error, last, ok, done⟩
      | ok next =>
        refine .inl ⟨next, ?_⟩
        rw [rounds_append ok, rounds_succ, done]
        rfl
    · exact .inr ⟨m, Nat.lt_succ_of_lt before, ended⟩

theorem GivesUp.le {m : Nat} {error : LeaseError} (ends : GivesUp sends m keeper error)
    (ok : rounds sends n keeper = .ok last) : n ≤ m := by
  obtain ⟨final, before, failed⟩ := ends
  refine Nat.not_lt.mp fun longer => ?_
  obtain ⟨more, rfl⟩ := Nat.exists_eq_add_of_lt longer
  rw [Nat.add_assoc, rounds_append before] at ok
  obtain ⟨next, first, _⟩ := first_of_rounds ok
  rw [failed] at first
  cases first

theorem GivesUp.unique {m : Nat} {error other : LeaseError} (ends : GivesUp sends m keeper error)
    (again : GivesUp sends n keeper other) : m = n := by
  have ⟨_, before, _⟩ := ends
  have ⟨_, earlier, _⟩ := again
  exact Nat.le_antisymm (again.le before) (ends.le earlier)

/-- Why the loop ends: the keep-alive cannot be sent, or a response has no time to live. -/
theorem GivesUp.cause {error : LeaseError} (ends : GivesUp sends n keeper error) :
    ∃ read last, rounds sends n keeper = .ok last ∧ keeper.Reached n read last ∧
      (sends (keeper.sent + n) = false ∧ error = .sendFailed keeper.lease ∨
        sends (keeper.sent + n) = true ∧ error = .expired keeper.lease ∧ last.Lapsing) := by
  obtain ⟨last, before, failed⟩ := ends
  obtain ⟨read, reached⟩ := reached_of_rounds before
  refine ⟨read, last, before, reached, ?_⟩
  rw [← reached.sent, ← reached.lease]
  cases sending : sends last.sent with
  | false =>
    rw [sending] at failed
    cases failed
    exact .inl ⟨rfl, rfl⟩
  | true =>
    rw [sending] at failed
    rcases round_cases last with ⟨lapsing, expired⟩ | ⟨next, ok, _⟩
    · rw [expired] at failed
      cases failed
      exact .inr ⟨rfl, rfl, lapsing⟩
    · rw [ok] at failed
      cases failed

/-! ### The first response without time to live -/

/-- A response without time to live, and what comes before it and after it. -/
structure Lapse (stream early : List (Nat × KeepAlive)) (arrival : Nat) (ttl : Int)
    (later : List (Nat × KeepAlive)) : Prop where
  split : stream = early ++ (arrival, .alive ttl) :: later
  passing : ∀ item ∈ early, Passing item.2
  spent : ttl ≤ 0

def InOrder (stream : List (Nat × KeepAlive)) : Prop :=
  stream.Pairwise fun a b => a.1 ≤ b.1

theorem passes_first {item : Nat × KeepAlive} {rest : List (Nat × KeepAlive)}
    (first : keeper.stream = item :: rest) (passing : Passing item.2)
    (timely : item.1 ≤ keeper.send.now + patience) :
    ∃ next, keeper.round true = .ok next ∧ keeper.Passed next ∧ next.stream = rest := by
  rcases round_cases keeper with ⟨⟨arrival, ttl, others, stream, spent, _⟩, _⟩ | ⟨next, ok, passed⟩
  · rw [first] at stream
    cases stream
    cases passing
    omega
  · refine ⟨next, ok, passed, ?_⟩
    cases passed with
    | read stream =>
      rw [first] at stream
      cases stream
      rfl
    | ended stream =>
      rw [first] at stream
      cases stream
      cases passing
    | silent late =>
      have missed := late item (by simp [first])
      omega

/-- Once a response without time to live has arrived, one round goes by for each response that is
still to be read before it. -/
theorem drained {early later : List (Nat × KeepAlive)} {arrival : Nat} {ttl : Int}
    (lapse : Lapse keeper.stream early arrival ttl later) (ordered : InOrder keeper.stream)
    (arrived : arrival ≤ keeper.send.now) :
    GivesUp reliable early.length keeper (.expired keeper.lease) := by
  induction early generalizing keeper with
  | nil =>
    exact ⟨keeper, rfl, round_expired.mpr ⟨arrival, ttl, later, lapse.split, lapse.spent,
      Nat.le_add_right_of_le arrived⟩⟩
  | cons item rest ih =>
    have split := lapse.split
    rw [InOrder, split, List.cons_append, List.pairwise_cons] at ordered
    have before : item.1 ≤ arrival := ordered.1 (arrival, .alive ttl) (by simp)
    obtain ⟨next, ok, passed, stream⟩ := passes_first split (lapse.passing item List.mem_cons_self)
      (Nat.le_add_right_of_le (Nat.le_trans before arrived))
    obtain ⟨lease, _, _, _, onward⟩ := passed.kept
    obtain ⟨last, through, failed⟩ := @ih next
      ⟨stream, fun other member => lapse.passing other (List.mem_cons_of_mem _ member), lapse.spent⟩
      (stream ▸ ordered.2) (Nat.le_trans arrived onward)
    rw [lease] at failed
    refine ⟨last, ?_, failed⟩
    rw [List.length_cons, rounds_succ, show reliable keeper.sent = true from rfl, ok]
    exact through

theorem Lapse.left {stream early later read rest : List (Nat × KeepAlive)} {arrival : Nat}
    {ttl : Int} (lapse : Lapse stream early arrival ttl later) (split : stream = read ++ rest)
    (passing : ∀ item ∈ read, Passing item.2) :
    ∃ waiting, early = read ++ waiting ∧ Lapse rest waiting arrival ttl later := by
  have whole := lapse.split
  rw [split, List.append_eq_append_iff] at whole
  rcases whole with ⟨waiting, same, behind⟩ | ⟨beyond, same, behind⟩
  · exact ⟨waiting, same, behind, fun item member =>
      lapse.passing item (by rw [same]; exact List.mem_append_right _ member), lapse.spent⟩
  · cases beyond with
    | nil =>
      rw [List.append_nil] at same
      exact ⟨[], by rw [same, List.append_nil], behind.symm, nofun, lapse.spent⟩
    | cons item others =>
      -- then the lapsing response itself would have been read
      rw [List.cons_append, List.cons.injEq] at behind
      have spent := lapse.spent
      have read := passing item (by simp [same])
      rw [← behind.1] at read
      cases read
      omega

/-! ### From the start -/

def Answered (keeper : Keeper) : Prop :=
  ∀ i last item, rounds reliable i keeper = .ok last → keeper.stream[i]? = some item →
    last.send.now < item.1

section

variable {early later : List (Nat × KeepAlive)} {arrival m : Nat} {ttl : Int}

theorem Reached.ordered {read : List (Nat × KeepAlive)} (reached : keeper.Reached n read last)
    (ordered : InOrder keeper.stream) : InOrder last.stream := by
  rw [InOrder, reached.stream] at ordered
  exact (List.pairwise_append.mp ordered).2.1

theorem waiting_after (lapse : Lapse keeper.stream early arrival ttl later)
    (ok : rounds reliable m keeper = .ok last) :
    ∃ waiting, Lapse last.stream waiting arrival ttl later ∧ waiting <:+ early ∧
      early.length + missed m keeper = m + waiting.length := by
  obtain ⟨read, reached⟩ := reached_of_rounds ok
  obtain ⟨waiting, same, ahead⟩ := lapse.left reached.stream reached.passing
  refine ⟨waiting, ahead, ⟨read, same.symm⟩, ?_⟩
  have counted := reached.counted
  rw [same, List.length_append]
  omega

theorem waiting_of_lapsing (lapse : Lapse keeper.stream early arrival ttl later)
    (lapsing : keeper.Lapsing) : early = [] := by
  obtain ⟨_, other, rest, first, spent, _⟩ := lapsing
  cases early with
  | nil => rfl
  | cons item others =>
    have passing := lapse.passing item List.mem_cons_self
    have split := lapse.split
    rw [first, List.cons_append, List.cons.injEq] at split
    rw [← split.1] at passing
    cases passing
    omega

theorem heeded_after (ordered : InOrder keeper.stream)
    (ok : rounds reliable m keeper = .ok last) (arrived : arrival ≤ last.send.now)
    (lapse : Lapse last.stream early arrival ttl later) :
    GivesUp reliable (m + early.length) keeper (.expired keeper.lease) := by
  obtain ⟨read, reached⟩ := reached_of_rounds ok
  obtain ⟨final, through, failed⟩ := drained lapse (reached.ordered ordered) arrived
  rw [reached.lease] at failed
  exact ⟨final, (rounds_append ok _).trans through, failed⟩

theorem heeded_at_last (ticking : 0 < keeper.interval) (ordered : InOrder keeper.stream)
    (lapse : Lapse keeper.stream early arrival ttl later) :
    ∃ n, GivesUp reliable n keeper (.expired keeper.lease) := by
  rcases goes_on_or_ends reliable arrival keeper with ⟨last, ok⟩ | ⟨m, _, error, ends⟩
  · obtain ⟨read, reached⟩ := reached_of_rounds ok
    have arrived : arrival ≤ last.send.now := by
      calc arrival ≤ arrival * keeper.interval := Nat.le_mul_of_pos_right arrival ticking
        _ ≤ last.due := reached.due ▸ Nat.le_add_left _ _
        _ ≤ last.send.now := Nat.le_max_right _ _
    obtain ⟨waiting, ahead, _⟩ := waiting_after lapse ok
    exact ⟨_, heeded_after ordered ok arrived ahead⟩
  · obtain ⟨_, _, _, _, ⟨failing, _⟩ | ⟨_, rfl, _⟩⟩ := ends.cause
    · cases failing
    · exact ⟨m, ends⟩

theorem GivesUp.counted (final : GivesUp reliable n keeper (.expired keeper.lease))
    (lapse : Lapse keeper.stream early arrival ttl later) :
    n = early.length + missed n keeper := by
  obtain ⟨_, last, ok, _, ⟨failing, _⟩ | ⟨_, _, lapsing⟩⟩ := final.cause
  · cases failing
  · obtain ⟨waiting, ahead, _, count⟩ := waiting_after lapse ok
    rw [waiting_of_lapsing ahead lapsing, List.length_nil] at count
    exact count.symm

theorem asked_before (answered : keeper.Answered)
    (lapse : Lapse keeper.stream early arrival ttl later)
    (all : rounds reliable n keeper = .ok next) (enough : early.length ≤ n)
    (ok : rounds reliable m keeper = .ok last) (arrived : arrival ≤ last.send.now) :
    early.length < m := by
  obtain ⟨rest, rfl⟩ := Nat.exists_eq_add_of_le enough
  obtain ⟨middle, sent, _⟩ := rounds_split all
  have there : keeper.stream[early.length]? = some (arrival, .alive ttl) := by
    rw [lapse.split]
    simp
  have asked := answered early.length middle _ sent there
  refine Nat.lt_of_not_le fun few => ?_
  obtain ⟨more, same⟩ := Nat.exists_eq_add_of_le few
  rw [same, rounds_append ok] at sent
  obtain ⟨_, further⟩ := reached_of_rounds sent
  have order := further.later
  omega

end

variable {stream : List (Nat × KeepAlive)}

theorem start_ends (lease : Int64) (interval now : Nat) (stream : List (Nat × KeepAlive))
    (sends : Nat → Bool) (n : Nat) :
    let keeper := start lease interval now stream
    (∃ last, rounds sends n keeper = .ok last ∧ last.sent = n) ∨
      ∃ m < n, GivesUp sends m keeper (.sendFailed lease) ∧ sends m = false ∨
        GivesUp sends m keeper (.expired lease) ∧ sends m = true ∧
          ∃ arrival ttl, (arrival, .alive ttl) ∈ stream ∧ ttl ≤ 0 := by
  intro keeper
  rcases goes_on_or_ends sends n keeper with ⟨last, ok⟩ | ⟨m, before, error, ends⟩
  · obtain ⟨read, reached⟩ := reached_of_rounds ok
    exact .inl ⟨last, ok, reached.sent.trans (Nat.zero_add n)⟩
  · refine .inr ⟨m, before, ?_⟩
    obtain ⟨read, last, _, reached, cause⟩ := ends.cause
    rw [show keeper.sent + m = m from Nat.zero_add m] at cause
    rcases cause with ⟨failing, rfl⟩ | ⟨sending, rfl, arrival, ttl, rest, first, spent, _⟩
    · exact .inl ⟨ends, failing⟩
    · have whole : stream = read ++ last.stream := reached.stream
      exact .inr ⟨ends, sending, arrival, ttl, by simp [whole, first], spent⟩

/-- The loop ends only with an error: when a keep-alive cannot be sent, or when a response without
time to live is read. The first such response is read after all that came before it, so the loop
ends in as many rounds as there are responses up to it and rounds that brought none. Of the rounds
that read after it has arrived, the first one ends the loop just if no earlier response is waiting;
otherwise one more keep-alive is sent for each that is. When responses come after what they answer,
fewer are waiting than reads have timed out. -/
theorem lapse_heeded_in_turn {interval : Nat} (ticking : 0 < interval) (lease : Int64) (now : Nat)
    (ordered : InOrder stream) :
    let keeper := start lease interval now stream
    (∀ sends n, (∃ last, rounds sends n keeper = .ok last ∧ last.sent = n) ∨
      ∃ m < n, GivesUp sends m keeper (.sendFailed lease) ∧ sends m = false ∨
        GivesUp sends m keeper (.expired lease) ∧ sends m = true ∧
          ∃ arrival ttl, (arrival, .alive ttl) ∈ stream ∧ ttl ≤ 0) ∧
    ((∀ arrival ttl, (arrival, .alive ttl) ∈ stream → 0 < ttl) →
      ∀ n, ∃ last, rounds reliable n keeper = .ok last) ∧
    ∀ early arrival ttl later, Lapse stream early arrival ttl later →
      ∃ n, GivesUp reliable n keeper (.expired lease) ∧ n = early.length + missed n keeper ∧
        ∀ m last, rounds reliable m keeper = .ok last → arrival ≤ last.send.now →
          ∃ waiting, waiting <:+ early ∧ last.stream = waiting ++ (arrival, .alive ttl) :: later ∧
            n = m + waiting.length ∧
            (last.round true = .error (.expired lease) ↔ waiting = []) ∧
            (keeper.Answered → waiting.length < missed m keeper) := by
  intro keeper
  refine ⟨start_ends lease interval now stream, ?_, ?_⟩
  · intro living n
    rcases start_ends lease interval now stream reliable n with
      ⟨last, ok, _⟩ | ⟨_, _, ⟨_, failing⟩ | ⟨_, _, arrival, ttl, member, spent⟩⟩
    · exact ⟨last, ok⟩
    · cases failing
    · have left := living arrival ttl member
      omega
  · intro early arrival ttl later lapse
    obtain ⟨n, final⟩ := @heeded_at_last keeper _ _ _ _ ticking ordered lapse
    have counted := final.counted lapse
    refine ⟨n, final, counted, fun m last ok arrived => ?_⟩
    obtain ⟨waiting, ahead, suffix, count⟩ := @waiting_after keeper _ _ _ _ _ _ lapse ok
    have whole : n = m + waiting.length :=
      final.unique (heeded_after ordered ok arrived ahead)
    refine ⟨waiting, suffix, ahead.split, whole, ?_, fun answered => ?_⟩
    · constructor
      · intro expired
        have here : m = n := GivesUp.unique ⟨last, ok, expired⟩ final
        exact List.eq_nil_of_length_eq_zero (by omega)
      · rintro rfl
        obtain ⟨_, reached⟩ := reached_of_rounds ok
        have lapsing : last.Lapsing := ⟨arrival, ttl, later, ahead.split, ahead.spent,
          Nat.le_add_right_of_le arrived⟩
        rw [← show last.lease = lease from reached.lease]
        exact round_expired.mpr lapsing
    · have ⟨_, all, _⟩ := final
      have before := asked_before answered lapse all (by omega) ok arrived
      omega

/-- Two reads have timed out when two responses come at once: a lease that is known to have expired
at 14 seconds is given up at 30, although a round has read at 20. -/
theorem lapse_heeded_in_turn_late :
    let stream := [(14000000000, .alive 5), (14000000000, .alive 0)]
    let keeper := start 7 10000000000 0 stream
    keeper.Answered ∧ ∃ last, rounds reliable 2 keeper = .ok last ∧
      14000000000 ≤ last.send.now ∧ last.round true ≠ .error (.expired 7) ∧
      GivesUp reliable 3 keeper (.expired 7) := by
  intro stream keeper
  have first : rounds reliable 1 keeper =
      .ok { keeper with now := 3000000000, due := 10000000000, sent := 1 } := by
    simp [keeper, stream, rounds, round, receive, send, start, patience, reliable, bind,
      Except.bind]
  have second : rounds reliable 2 keeper =
      .ok { keeper with now := 13000000000, due := 20000000000, sent := 2 } := by
    simp [keeper, stream, rounds, round, receive, send, start, patience, reliable, bind,
      Except.bind]
  have arrived : 14000000000 ≤
      (send { keeper with now := 13000000000, due := 20000000000, sent := 2 }).now := by
    decide +kernel
  have answered : keeper.Answered := by
    intro i middle item ok there
    rcases i with _ | _ | i
    · cases ok
      obtain rfl : _ = item := Option.some.inj there
      decide +kernel
    · rw [first] at ok
      cases ok
      obtain rfl : _ = item := Option.some.inj there
      decide +kernel
    · simp [keeper, start, stream] at there
  have ordered : InOrder stream := by simp [InOrder, stream]
  have lapse : Lapse stream [(14000000000, .alive 5)] 14000000000 0 [] :=
    ⟨rfl, by simpa using .alive (by decide), Int.le_refl 0⟩
  obtain ⟨_, _, heeded⟩ :=
    lapse_heeded_in_turn (show 0 < 10000000000 by decide) 7 0 ordered
  obtain ⟨n, final, _, reads⟩ := heeded _ _ _ _ lapse
  obtain ⟨waiting, _, split, whole, prompt, _⟩ := reads 2 _ second arrived
  have one : waiting = [(14000000000, .alive 5)] :=
    (List.append_left_inj _).mp split.symm
  rw [one] at whole prompt
  obtain rfl : n = 3 := whole
  exact ⟨answered, _, second, arrived, fun expired => absurd (prompt.mp expired) (by simp), final⟩

end TabletRoster.Keeper
