import TabletRoster.Proofs.Answers

namespace TabletRoster

/-- What every possible move keeps holds after any moves, if those that are not possible are left
out. -/
theorem kept_by_moves {State Move : Type} {move? : State → Move → Option State}
    {allowed : Move → Prop} {holds : State → Prop}
    (step : ∀ {state next : State} {move : Move}, allowed move → holds state →
      move? state move = some next → holds next)
    {moves : List Move} (admissible : ∀ move ∈ moves, allowed move) {state : State}
    (before : holds state) :
    holds (moves.foldl (fun state move => (move? state move).getD state) state) := by
  induction moves generalizing state with
  | nil => exact before
  | cons move rest ih =>
    refine ih (fun other member => admissible other (List.mem_cons_of_mem _ member)) ?_
    dsimp only
    cases moved : move? state move with
    | none => exact before
    | some next => exact step (admissible move List.mem_cons_self) before moved

def Job.pass? : Job → Option Pass
  | .scan => some .scan
  | .check path => some (.check path)
  | _ => none

namespace Turns

variable {σ : Type}

inductive Move where
  | come (job : Job)
  | enter
  | ask (now : Nat)
  | leave
  | collect (ticket : Nat)
  deriving DecidableEq, Repr

def move? (service : Coordinator σ) (turns : Turns σ) : Move → Option (Turns σ)
  | .come job => some (turns.come job).2
  | .enter => turns.enter?
  | .ask now => turns.advance? service now
  | .leave => turns.leave?
  | .collect ticket => some (turns.collect ticket)

def verdict (delta : Delta) : Option CoordinationError → Except CoordinationError Delta
  | none => .ok delta
  | some error => .error error

inductive Step (service : Coordinator σ) (turns : Turns σ) : Move → Turns σ → Prop where
  | served (number : Nat) (snapshot : Snapshot)
      (cached : turns.roster.cache = some (number, snapshot)) :
      Step service turns (.come .read) { turns with
        tickets := turns.tickets + 1
        results := (turns.tickets, .snapshot number snapshot) :: turns.results }
  | queued (job : Job) (waits : job = .read → turns.roster.cache = none) :
      Step service turns (.come job) { turns with
        tickets := turns.tickets + 1
        waiting := turns.waiting ++ [(turns.tickets, job)] }
  | begun (ticket : Nat) (job : Job) (rest : List (Nat × Job)) (pass : Pass)
      (idle : turns.current = none) (first : turns.waiting = (ticket, job) :: rest)
      (asks : job.pass? = some pass) :
      Step service turns .enter { turns with
        waiting := rest
        current := some (ticket, .pass pass) }
  | evicting (ticket : Nat) (i : Instance) (path : ServerPath) (rest : List (Nat × Job))
      (idle : turns.current = none) (first : turns.waiting = (ticket, .evict i) :: rest)
      (found : turns.roster.pathOf? i = some path) :
      Step service turns .enter { turns with
        waiting := rest
        roster := turns.roster.drop path
        current := some (ticket, .locating i path) }
  | unknown (ticket : Nat) (i : Instance) (rest : List (Nat × Job))
      (idle : turns.current = none) (first : turns.waiting = (ticket, .evict i) :: rest)
      (absent : turns.roster.pathOf? i = none) :
      Step service turns .enter
        ({ turns with waiting := rest }.finish ticket (.evicted (.ok ())))
  | read (ticket : Nat) (rest : List (Nat × Job))
      (idle : turns.current = none) (first : turns.waiting = (ticket, .read) :: rest) :
      Step service turns .enter
        ({ turns with waiting := rest, roster := turns.roster.snapshot.2 }.finish ticket
          (.snapshot turns.roster.snapshot.1.1 turns.roster.snapshot.1.2))
  | sought (ticket : Nat) (lookup : Lookup) (rest : List (Nat × Job))
      (idle : turns.current = none) (first : turns.waiting = (ticket, .find lookup) :: rest) :
      Step service turns .enter
        ({ turns with waiting := rest }.finish ticket (.found (turns.roster.find? lookup)))
  | told (now ticket : Nat) (failure : Option CoordinationError) (delta : Delta)
      (current : turns.current = some (ticket, .pass ⟨.reporting failure, delta⟩)) :
      Step service turns (.ask now) { turns with
        told := turns.told.push delta
        current := some (ticket, .telling delta failure) }
  | asked (now ticket : Nat) (stage : Stage) (delta : Delta) (next : Stage × Work) (after : σ)
      (current : turns.current = some (ticket, .pass ⟨stage, delta⟩))
      (asked : Pass.Asked service now ⟨turns.roster, delta⟩ turns.space after stage next) :
      Step service turns (.ask now) { turns with
        roster := next.2.roster
        space := after
        current := some (ticket, .pass ⟨next.1, next.2.delta⟩) }
  | unlisted (now ticket : Nat) (i : Instance) (path : ServerPath) (error : CoordinationError)
      (after : σ) (current : turns.current = some (ticket, .locating i path))
      (answer : service.list turns.space = (.error error, after)) :
      Step service turns (.ask now) ({ turns with space := after }.finish ticket
        (.evicted (.error ⟨i, service.layout.serverKey path, error⟩)))
  | located (now ticket : Nat) (i : Instance) (path target : ServerPath) (listed : PathSet)
      (after : σ) (current : turns.current = some (ticket, .locating i path))
      (answer : service.list turns.space = (.ok listed, after))
      (unique : Roster.candidates listed path i = [target]) :
      Step service turns (.ask now) { turns with
        space := after
        current := some (ticket, .clearing i path target) }
  | ambiguous (now ticket : Nat) (i : Instance) (path : ServerPath) (listed : PathSet)
      (after : σ) (current : turns.current = some (ticket, .locating i path))
      (answer : service.list turns.space = (.ok listed, after))
      (several : ∀ target, Roster.candidates listed path i ≠ [target]) :
      Step service turns (.ask now) ({ turns with space := after }.finish ticket
        (.evicted (.ok ())))
  | uncleared (now ticket : Nat) (i : Instance) (path target : ServerPath)
      (error : CoordinationError) (after : σ)
      (current : turns.current = some (ticket, .clearing i path target))
      (answer : service.deleteTree target turns.space = (.error error, after)) :
      Step service turns (.ask now) ({ turns with space := after }.finish ticket
        (.evicted (.error ⟨i, service.layout.serverKey path, error⟩)))
  | cleared (now ticket : Nat) (i : Instance) (path target : ServerPath) (after : σ)
      (current : turns.current = some (ticket, .clearing i path target))
      (answer : service.deleteTree target turns.space = (.ok (), after)) :
      Step service turns (.ask now) ({ turns with
        space := after
        roster := { turns.roster with stale := turns.roster.stale.forget target } }.finish ticket
          (.evicted (.ok ())))
  | left (ticket : Nat) (delta : Delta) (failure : Option CoordinationError)
      (current : turns.current = some (ticket, .telling delta failure)) :
      Step service turns .leave (turns.finish ticket (.pass (verdict delta failure)))
  | collected (ticket : Nat) : Step service turns (.collect ticket) (turns.collect ticket)

variable {service : Coordinator σ} {turns next : Turns σ}

theorem step_of_come (job : Job) : Step service turns (.come job) (turns.come job).2 := by
  unfold come
  dsimp only
  split
  · rename_i number snapshot cached
    exact .served number snapshot cached
  · rename_i absent
    refine .queued _ fun same => ?_
    cases cached : turns.roster.cache with
    | none => rfl
    | some shared => exact absurd cached (absent shared.1 shared.2 same)

theorem step_of_enter (moved : turns.enter? = some next) : Step service turns .enter next := by
  unfold enter? at moved
  split at moved
  · rename_i ticket job rest idle first
    cases moved
    cases job with
    | scan => exact .begun ticket .scan rest _ idle first rfl
    | check path => exact .begun ticket (.check path) rest _ idle first rfl
    | evict i =>
      simp only [begin]
      split
      · rename_i absent
        exact .unknown ticket i rest idle first absent
      · rename_i path found
        exact .evicting ticket i path rest idle first found
    | read => exact .read ticket rest idle first
    | find lookup => exact .sought ticket lookup rest idle first
  · cases moved

theorem step_of_advance {now : Nat} (moved : turns.advance? service now = some next) :
    Step service turns (.ask now) next := by
  unfold advance? at moved
  split at moved
  · rename_i ticket failure delta current
    cases moved
    exact .told now ticket failure delta current
  · rename_i ticket stage delta busy current
    cases moved
    exact .asked now ticket stage delta _ _ current (Pass.asked service now _ _ busy)
  · rename_i ticket i path current
    split at moved
    · rename_i error after answer
      cases moved
      exact .unlisted now ticket i path error after current answer
    · rename_i listed after answer
      split at moved
      · rename_i target unique
        cases moved
        exact .located now ticket i path target listed after current answer unique
      · rename_i several
        cases moved
        exact .ambiguous now ticket i path listed after current answer several
  · rename_i ticket i path target current
    split at moved
    · rename_i error after answer
      cases moved
      exact .uncleared now ticket i path target error after current answer
    · rename_i after answer
      cases moved
      exact .cleared now ticket i path target after current answer
  · cases moved

theorem step_of_leave (moved : turns.leave? = some next) : Step service turns .leave next := by
  unfold leave? at moved
  split at moved
  · rename_i ticket delta failure current
    cases moved
    cases failure with
    | none => exact .left ticket delta none current
    | some error => exact .left ticket delta (some error) current
  · cases moved

theorem step_of_move {move : Move} (moved : turns.move? service move = some next) :
    Step service turns move next := by
  cases move with
  | come job =>
    cases moved
    exact step_of_come job
  | enter => exact step_of_enter moved
  | ask now => exact step_of_advance moved
  | leave => exact step_of_leave moved
  | collect ticket =>
    cases moved
    exact .collected ticket

def outstanding (turns : Turns σ) : List Nat :=
  turns.current.toList.map (·.1) ++ (turns.waiting.map (·.1) ++ turns.results.map (·.1))

/-- No ticket is held twice, and none before it was handed out. -/
structure Orderly (turns : Turns σ) : Prop where
  issued : ∀ ticket ∈ turns.outstanding, ticket < turns.tickets
  once : turns.outstanding.Nodup

theorem orderly_start (roster : Roster) (space : σ) : (start roster space).Orderly := by
  constructor <;> simp [start, outstanding]

theorem Orderly.waits (orderly : turns.Orderly) {ticket : Nat} {result : Result}
    (ended : turns.result? ticket = some result) : ticket ∉ turns.waiting.map (·.1) := by
  obtain ⟨before, after, split, _⟩ := List.lookup_eq_some_iff.mp ended
  have owner : ticket ∈ turns.results.map (·.1) := by simp [split]
  obtain ⟨_, apart, _⟩ := List.nodup_append.mp orderly.once
  exact fun waiter => (List.nodup_append.mp apart).2.2 ticket waiter ticket owner rfl

theorem Orderly.perm (orderly : turns.Orderly) (same : next.outstanding.Perm turns.outstanding)
    (tickets : next.tickets = turns.tickets) : next.Orderly := by
  refine ⟨?_, same.nodup_iff.mpr orderly.once⟩
  intro ticket member
  rw [tickets]
  exact orderly.issued ticket (same.mem_iff.mp member)

theorem Orderly.fresh (orderly : turns.Orderly)
    (same : next.outstanding.Perm (turns.tickets :: turns.outstanding))
    (tickets : next.tickets = turns.tickets + 1) : next.Orderly := by
  have unheld : turns.tickets ∉ turns.outstanding :=
    fun held => Nat.lt_irrefl _ (orderly.issued _ held)
  refine ⟨?_, same.nodup_iff.mpr (List.nodup_cons.mpr ⟨unheld, orderly.once⟩)⟩
  intro ticket member
  rw [tickets]
  rcases List.mem_cons.mp (same.mem_iff.mp member) with rfl | held
  · exact Nat.lt_succ_self _
  · exact Nat.lt_succ_of_lt (orderly.issued ticket held)

theorem Orderly.collect (orderly : turns.Orderly) (ticket : Nat) : (turns.collect ticket).Orderly := by
  have fewer : (turns.collect ticket).outstanding.Sublist turns.outstanding := by
    unfold outstanding Turns.collect
    exact .append (.refl _) (.append (.refl _) (List.filter_sublist.map _))
  exact ⟨fun held member => orderly.issued held (fewer.subset member), orderly.once.sublist fewer⟩

theorem Orderly.goes_on (orderly : turns.Orderly) {ticket : Nat} {before after : Turn}
    (current : turns.current = some (ticket, before)) (next_current : next.current = some (ticket, after))
    (waiting : next.waiting = turns.waiting) (results : next.results = turns.results)
    (tickets : next.tickets = turns.tickets) : next.Orderly := by
  apply orderly.perm _ tickets
  simp [outstanding, current, next_current, waiting, results]

theorem Orderly.ends (orderly : turns.Orderly) {ticket : Nat} {turn : Turn} {result : Result}
    (current : turns.current = some (ticket, turn)) (idle : next.current = none)
    (waiting : next.waiting = turns.waiting)
    (results : next.results = (ticket, result) :: turns.results)
    (tickets : next.tickets = turns.tickets) : next.Orderly := by
  apply orderly.perm _ tickets
  simp [outstanding, current, idle, waiting, results]

theorem Orderly.begins (orderly : turns.Orderly) {ticket : Nat} {job : Job} {turn : Turn}
    {rest : List (Nat × Job)} (idle : turns.current = none)
    (first : turns.waiting = (ticket, job) :: rest) (current : next.current = some (ticket, turn))
    (waiting : next.waiting = rest) (results : next.results = turns.results)
    (tickets : next.tickets = turns.tickets) : next.Orderly := by
  apply orderly.perm _ tickets
  simp [outstanding, idle, first, current, waiting, results]

theorem Orderly.answers (orderly : turns.Orderly) {ticket : Nat} {job : Job} {result : Result}
    {rest : List (Nat × Job)} (idle : turns.current = none)
    (first : turns.waiting = (ticket, job) :: rest) (current : next.current = none)
    (waiting : next.waiting = rest) (results : next.results = (ticket, result) :: turns.results)
    (tickets : next.tickets = turns.tickets) : next.Orderly := by
  apply orderly.perm _ tickets
  simp [outstanding, idle, first, current, waiting, results]

theorem orderly_step {move : Move} (orderly : turns.Orderly) (step : Step service turns move next) :
    next.Orderly := by
  cases step with
  | served number snapshot cached =>
    apply orderly.fresh _ rfl
    simp only [outstanding, List.map_cons]
    grind
  | queued job waits =>
    apply orderly.fresh _ rfl
    simp only [outstanding, List.map_append, List.map_cons, List.map_nil]
    grind
  | begun ticket job rest pass idle first asks =>
    exact orderly.begins idle first rfl rfl rfl rfl
  | evicting ticket i path rest idle first found =>
    exact orderly.begins idle first rfl rfl rfl rfl
  | unknown ticket i rest idle first absent => exact orderly.answers idle first rfl rfl rfl rfl
  | read ticket rest idle first => exact orderly.answers idle first rfl rfl rfl rfl
  | sought ticket lookup rest idle first => exact orderly.answers idle first rfl rfl rfl rfl
  | told now ticket failure delta current => exact orderly.goes_on current rfl rfl rfl rfl
  | asked now ticket stage delta next after current asked =>
    exact orderly.goes_on current rfl rfl rfl rfl
  | unlisted now ticket i path error after current answer =>
    exact orderly.ends current rfl rfl rfl rfl
  | located now ticket i path target listed after current answer unique =>
    exact orderly.goes_on current rfl rfl rfl rfl
  | ambiguous now ticket i path listed after current answer several =>
    exact orderly.ends current rfl rfl rfl rfl
  | uncleared now ticket i path target error after current answer =>
    exact orderly.ends current rfl rfl rfl rfl
  | cleared now ticket i path target after current answer =>
    exact orderly.ends current rfl rfl rfl rfl
  | left ticket delta failure current => exact orderly.ends current rfl rfl rfl rfl
  | collected ticket => exact orderly.collect ticket

end Turns
end TabletRoster
