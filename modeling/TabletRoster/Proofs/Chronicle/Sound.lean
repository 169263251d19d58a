import TabletRoster.Proofs.Chronicle.Basic

namespace TabletRoster

/-- What is written of a turn is what a turn can do. -/
inductive Entry.Faithful : Entry → Prop where
  | pass (before after : Members) (visits : List ServerPath)
      (outcome : Except CoordinationError Delta) (delta : Delta) (once : visits.Nodup)
      (others : ∀ path, path ∉ visits → after[path]? = before[path]?)
      (whole : delta = Delta.turnovers before after visits .empty)
      (returned : ∀ result, outcome = .ok result → result = delta) :
      Faithful ⟨.pass visits [delta] outcome, before, after⟩
  | missed (members : Members) : Faithful ⟨.eviction none, members, members⟩
  | evicted (members : Members) (path : ServerPath) (member : Member)
      (found : members[path]? = some member) :
      Faithful ⟨.eviction (some member.server), members, members.erase path⟩

/-- What the snapshots that readers got have to do with the roster and with one another. -/
structure Shared (roster : Roster) (log : List Entry) (readings : List Reading) : Prop where
  cached : ∀ number snapshot, roster.cache = some (number, snapshot) →
    snapshot = .build roster.members ∧ number < roster.built
  past : ∀ reading ∈ readings, reading.number < roster.built ∧ reading.ended ≤ log.length ∧
    reading.snapshot = .build (Entry.settled (log.take reading.ended))
  latest : ∀ reading ∈ readings, Entry.Still (log.drop reading.ended) ↔
    ∃ snapshot, roster.cache = some (reading.number, snapshot)
  pairs : readings.Pairwise fun first second => first.number = second.number ↔
    Entry.Still ((log.take second.ended).drop first.ended)

namespace Shared

variable {roster next : Roster} {log : List Entry} {readings : List Reading}

theorem read (shared : Shared roster log readings) (settled : roster.members = Entry.settled log) :
    Shared roster.snapshot.2 log
      (readings ++ [⟨roster.snapshot.1.1, roster.snapshot.1.2, log.length⟩]) := by
  obtain ⟨cached, past, latest, pairs⟩ := shared
  cases cache : roster.cache with
  | some kept =>
    obtain ⟨number, snapshot⟩ := kept
    obtain ⟨built, early⟩ := cached number snapshot cache
    have same : roster.snapshot = ((number, snapshot), roster) := by simp [Roster.snapshot, cache]
    rw [same]
    refine ⟨cached, ?_, ?_, ?_⟩
    · intro reading member
      rcases List.mem_append.mp member with old | new
      · exact past reading old
      · rw [List.mem_singleton.mp new]
        exact ⟨early, Nat.le_refl _, by rw [List.take_length, ← settled]; exact built⟩
    · intro reading member
      rcases List.mem_append.mp member with old | new
      · exact latest reading old
      · rw [List.mem_singleton.mp new]
        simp [Entry.Still, cache]
    · refine List.pairwise_append.mpr ⟨pairs, List.pairwise_singleton _ _, ?_⟩
      intro reading member other new
      rw [List.mem_singleton.mp new, List.take_length, latest reading member, cache]
      simp [eq_comm]
  | none =>
    have fresh : roster.snapshot = ((roster.built, .build roster.members),
        { roster with cache := some (roster.built, .build roster.members), built := roster.built + 1 }) := by
      simp [Roster.snapshot, cache]
    rw [fresh]
    have changed : ∀ reading ∈ readings, ¬ Entry.Still (log.drop reading.ended) := by
      intro reading member still
      obtain ⟨snapshot, kept⟩ := (latest reading member).mp still
      rw [cache] at kept
      cases kept
    constructor
    · intro number snapshot same
      cases same
      exact ⟨rfl, Nat.lt_succ_self _⟩
    · intro reading member
      rcases List.mem_append.mp member with old | new
      · obtain ⟨early, rest⟩ := past reading old
        exact ⟨Nat.lt_succ_of_lt early, rest⟩
      · rw [List.mem_singleton.mp new]
        exact ⟨Nat.lt_succ_self _, Nat.le_refl _, by rw [List.take_length, ← settled]⟩
    · intro reading member
      rcases List.mem_append.mp member with old | new
      · have early := (past reading old).1
        simp only [changed reading old, Option.some.injEq, Prod.mk.injEq, exists_and_left, false_iff]
        omega
      · rw [List.mem_singleton.mp new]
        simp [Entry.Still]
    · refine List.pairwise_append.mpr ⟨pairs, List.pairwise_singleton _ _, ?_⟩
      intro reading member other new
      have early := (past reading member).1
      rw [List.mem_singleton.mp new, List.take_length]
      simp only [changed reading member, iff_false]
      omega

theorem append (shared : Shared roster log readings) (deed : Deed)
    (built : next.built = roster.built)
    (kept : (next.members = roster.members ∧ next.cache = roster.cache) ∨
      (Members.Differ roster.members next.members ∧ next.cache = none)) :
    Shared next (log ++ [⟨deed, roster.members, next.members⟩]) readings := by
  obtain ⟨cached, past, latest, pairs⟩ := shared
  have earlier : ∀ reading ∈ readings, reading.ended ≤ log.length :=
    fun reading member => (past reading member).2.1
  constructor
  · intro number snapshot there
    rcases kept with ⟨members, cache⟩ | ⟨_, cache⟩
    · rw [members, built]
      exact cached number snapshot (cache ▸ there)
    · rw [cache] at there
      cases there
  · intro reading member
    obtain ⟨early, ended, taken⟩ := past reading member
    refine ⟨built ▸ early, ?_, ?_⟩
    · simp only [List.length_append, List.length_singleton]
      omega
    · rw [List.take_append_of_le_length ended]
      exact taken
  · intro reading member
    rw [List.drop_append_of_le_length (earlier reading member), Entry.still_append,
      latest reading member]
    rcases kept with ⟨members, cache⟩ | ⟨differ, cache⟩
    · have same : ¬ Members.Differ roster.members next.members := by
        intro changed
        obtain ⟨path, differs⟩ := changed
        exact differs (by rw [members])
      simp [same, cache]
    · simp [differ, cache]
  · apply pairs.imp_of_mem
    intro first second _ member same
    rw [List.take_append_of_le_length (earlier second member)]
    exact same

end Shared

/-- Where the roster stands in a turn. -/
inductive Standing {σ : Type} (opening : Opening) (heard : List Delta) (turns : Turns σ) : Prop where
  | idle (current : turns.current = none) (told : turns.told.toList = heard)
  | passing (ticket : Nat) (stage : Stage) (delta : Delta)
      (current : turns.current = some (ticket, .pass ⟨stage, delta⟩))
      (told : turns.told.toList = heard) (since : opening.told = heard.length)
      (way : Pass.Underway opening.job opening.roster opening.listing stage ⟨turns.roster, delta⟩)
  | telling (ticket : Nat) (delta : Delta) (failure : Option CoordinationError)
      (current : turns.current = some (ticket, .telling delta failure))
      (told : turns.told.toList = heard ++ [delta]) (since : opening.told = heard.length)
      (way : Pass.Underway opening.job opening.roster opening.listing (.reporting failure)
        ⟨turns.roster, delta⟩)
  | evicting (ticket : Nat) (turn : Turn) (path : ServerPath) (member : Member)
      (current : turns.current = some (ticket, turn)) (victim : turns.victim? = some member.server)
      (told : turns.told.toList = heard) (found : opening.roster.members[path]? = some member)
      (members : turns.roster.members = opening.roster.members.erase path)
      (cache : turns.roster.cache = none) (built : turns.roster.built = opening.roster.built)

namespace Chronicle

variable {σ : Type} {service : Coordinator σ} {chronicle : Chronicle σ} {next : Turns σ}

structure Sound (chronicle : Chronicle σ) : Prop where
  standing : Standing chronicle.opening (chronicle.log.flatMap Entry.heard) chronicle.turns
  faithful : ∀ entry ∈ chronicle.log, entry.Faithful
  chained : ∀ (n : Nat) (entry : Entry), chronicle.log[n]? = some entry →
    entry.before = Entry.settled (chronicle.log.take n)
  settled : chronicle.base.members = Entry.settled chronicle.log
  shared : Shared chronicle.base chronicle.log chronicle.readings

theorem sound_start (grace : Nat) (space : σ) : (start grace space).Sound := by
  refine ⟨.idle rfl rfl, ?_, ?_, rfl, ⟨?_, ?_, ?_, .nil⟩⟩ <;>
    simp [start, base, Turns.start, Roster.empty]

theorem Sound.outside (sound : chronicle.Sound) (change : σ → σ) :
    Sound { chronicle with turns := { chronicle.turns with space := change chronicle.turns.space } } := by
  obtain ⟨standing, faithful, chained, settled, shared⟩ := sound
  refine ⟨?_, faithful, chained, settled, shared⟩
  cases standing with
  | idle current told => exact .idle current told
  | passing ticket stage delta current told since way =>
    exact .passing ticket stage delta current told since way
  | telling ticket delta failure current told since way =>
    exact .telling ticket delta failure current told since way
  | evicting ticket turn path member current victim told found members cache built =>
    exact .evicting ticket turn path member current victim told found members cache built

/-- A turn that has ended goes into the log. -/
theorem Sound.ended (sound : chronicle.Sound) {deed : Deed} {opening : Opening}
    (base : opening.roster = chronicle.base) (current : next.current = none)
    (faithful : Entry.Faithful ⟨deed, opening.roster.members, next.roster.members⟩)
    (told : next.told.toList = chronicle.log.flatMap Entry.heard ++
      Entry.heard ⟨deed, opening.roster.members, next.roster.members⟩)
    (built : next.roster.built = opening.roster.built)
    (kept : (next.roster.members = opening.roster.members ∧
        next.roster.cache = opening.roster.cache) ∨
      (Members.Differ opening.roster.members next.roster.members ∧ next.roster.cache = none)) :
    Sound ⟨next, opening,
      chronicle.log ++ [⟨deed, opening.roster.members, next.roster.members⟩],
      chronicle.readings⟩ := by
  rw [base] at built kept faithful told ⊢
  have idle : Chronicle.base ⟨next, opening,
      chronicle.log ++ [⟨deed, chronicle.base.members, next.roster.members⟩],
      chronicle.readings⟩ = next.roster := by
    simp [Chronicle.base, current]
  refine ⟨.idle current (by simp [told]), ?_, ?_, ?_, ?_⟩
  · intro entry member
    rcases List.mem_append.mp member with old | new
    · exact sound.faithful entry old
    · rw [List.mem_singleton.mp new]
      exact faithful
  · intro n entry there
    by_cases old : n < chronicle.log.length
    · rw [List.getElem?_append_left old] at there
      rw [List.take_append_of_le_length (Nat.le_of_lt old)]
      exact sound.chained n entry there
    · rw [List.getElem?_append_right (Nat.le_of_not_lt old)] at there
      obtain ⟨inside, rfl⟩ := List.getElem?_eq_some_iff.mp there
      have last : n = chronicle.log.length := by
        simp only [List.length_singleton] at inside
        omega
      subst last
      simp [sound.settled]
  · rw [idle, Entry.settled_append]
  · rw [idle]
    exact sound.shared.append deed built kept

theorem Sound.open (sound : chronicle.Sound) {opening : Opening}
    (standing : Standing opening (chronicle.log.flatMap Entry.heard) next)
    (base : Chronicle.base ⟨next, opening, chronicle.log, chronicle.readings⟩ = chronicle.base) :
    Sound ⟨next, opening, chronicle.log, chronicle.readings⟩ :=
  ⟨standing, sound.faithful, sound.chained, base ▸ sound.settled, base ▸ sound.shared⟩

theorem Sound.cache (sound : chronicle.Sound) {kept : Nat × Snapshot}
    (cached : chronicle.turns.roster.cache = some kept) : chronicle.base.cache = some kept := by
  have midway {stage : Stage} {delta : Delta}
      (way : Pass.Underway chronicle.opening.job chronicle.opening.roster chronicle.opening.listing
        stage ⟨chronicle.turns.roster, delta⟩) : chronicle.opening.roster.cache = some kept := by
    rcases way.cache with ⟨_, same⟩ | ⟨_, absent⟩
    · exact same ▸ cached
    · rw [cached] at absent
      cases absent
  unfold base
  cases sound.standing with
  | idle current told =>
    rw [current]
    exact cached
  | passing ticket stage delta current told since way =>
    rw [current]
    exact midway way
  | telling ticket delta failure current told since way =>
    rw [current]
    exact midway way
  | evicting ticket turn path member current victim told found members cache built =>
    rw [cached] at cache
    cases cache

theorem Sound.aside (sound : chronicle.Sound) {move : Turns.Move} {readings : List Reading}
    (apart : ∀ now, move ≠ .ask now) (current : next.current = chronicle.turns.current)
    (roster : next.roster = chronicle.turns.roster) (told : next.told = chronicle.turns.told)
    (shared : Shared chronicle.base chronicle.log readings) :
    Sound ⟨next, chronicle.reopen service move, chronicle.log, readings⟩ := by
  have victim : next.victim? = chronicle.turns.victim? := by
    unfold Turns.victim?
    rw [current]
  have kept (busy : chronicle.turns.current ≠ none) :
      chronicle.reopen service move = chronicle.opening := by
    unfold reopen
    split
    · exact absurd ‹_› busy
    · exact absurd rfl (apart _)
    · rfl
  have base : Chronicle.base
      ⟨next, chronicle.reopen service move, chronicle.log, readings⟩ = chronicle.base := by
    unfold Chronicle.base
    cases at_work : chronicle.turns.current with
    | none => simp [current, at_work, roster]
    | some turn => simp [current, at_work, kept]
  refine ⟨?_, sound.faithful, sound.chained, base ▸ sound.settled, base ▸ shared⟩
  cases sound.standing with
  | idle idle heard => exact .idle (current.trans idle) (told ▸ heard)
  | passing ticket stage delta at_work heard since way =>
    simp only [kept (by simp [at_work])]
    exact .passing ticket stage delta (current.trans at_work) (told ▸ heard) since (roster ▸ way)
  | telling ticket delta failure at_work heard since way =>
    simp only [kept (by simp [at_work])]
    exact .telling ticket delta failure (current.trans at_work) (told ▸ heard) since (roster ▸ way)
  | evicting ticket turn path member at_work evicted heard found members cache built =>
    simp only [kept (by simp [at_work])]
    exact .evicting ticket turn path member (current.trans at_work) (victim.trans evicted)
      (told ▸ heard) found (roster ▸ members) (roster ▸ cache) (roster ▸ built)

section Notes

variable (service : Coordinator σ) (move : Turns.Move) {ticket : Nat}

theorem note_nothing (none : next.results.length ≤ chronicle.turns.results.length) :
    chronicle.note service move next =
      ⟨next, chronicle.reopen service move, chronicle.log, chronicle.readings⟩ := by
  simp [note, Turns.fresh?, Nat.not_lt.mpr none]

theorem sound_of_nothing (none : next.results.length ≤ chronicle.turns.results.length)
    (sound : Sound ⟨next, chronicle.reopen service move, chronicle.log, chronicle.readings⟩) :
    (chronicle.note service move next).Sound := by
  rw [note_nothing service move none]
  exact sound

theorem note_found {found : Option Instance}
    (more : next.results = (ticket, .found found) :: chronicle.turns.results) :
    chronicle.note service move next =
      ⟨next, chronicle.reopen service move, chronicle.log, chronicle.readings⟩ := by
  simp [note, Turns.fresh?, more]

theorem note_snapshot {number : Nat} {snapshot : Snapshot}
    (more : next.results = (ticket, .snapshot number snapshot) :: chronicle.turns.results) :
    chronicle.note service move next =
      ⟨next, chronicle.reopen service move, chronicle.log,
        chronicle.readings ++ [⟨number, snapshot, chronicle.log.length⟩]⟩ := by
  simp [note, Turns.fresh?, more]

theorem note_eviction {outcome : Except FatalRemove Unit}
    (more : next.results = (ticket, .evicted outcome) :: chronicle.turns.results) :
    chronicle.note service move next =
      ⟨next, chronicle.reopen service move, chronicle.log ++ [⟨.eviction chronicle.turns.victim?,
        (chronicle.reopen service move).roster.members, next.roster.members⟩],
        chronicle.readings⟩ := by
  simp [note, Turns.fresh?, more]

theorem note_pass {outcome : Except CoordinationError Delta}
    (more : next.results = (ticket, .pass outcome) :: chronicle.turns.results) :
    chronicle.note service move next =
      let opening := chronicle.reopen service move
      ⟨next, opening, chronicle.log ++ [⟨.pass
        (Pass.visits opening.job opening.roster.members opening.listing)
        (next.told.toList.drop opening.told) outcome,
        opening.roster.members, next.roster.members⟩], chronicle.readings⟩ := by
  simp [note, Turns.fresh?, more]

end Notes

theorem reopen_idle (idle : chronicle.turns.current = none) (move : Turns.Move) :
    chronicle.reopen service move = chronicle.turns.opening := by
  simp [reopen, idle]

theorem reopen_evicting {i : Instance} (victim : chronicle.turns.victim? = some i)
    (move : Turns.Move) : chronicle.reopen service move = chronicle.opening := by
  unfold Turns.victim? at victim
  split at victim
  · simp [reopen, *]
  · simp [reopen, *]
  · cases victim

theorem Sound.evicted (sound : chronicle.Sound) (i : Instance) {ticket : Nat} {move : Turns.Move}
    {outcome : Except FatalRemove Unit} (victim : chronicle.turns.victim? = some i)
    (more : next.results = (ticket, .evicted outcome) :: chronicle.turns.results)
    (current : next.current = none) (told : next.told = chronicle.turns.told)
    (members : next.roster.members = chronicle.turns.roster.members)
    (cache : next.roster.cache = chronicle.turns.roster.cache)
    (built : next.roster.built = chronicle.turns.roster.built) :
    (chronicle.note service move next).Sound := by
  rw [note_eviction service move more, reopen_evicting victim move, victim]
  cases sound.standing with
  | idle idle heard => simp [Turns.victim?, idle] at victim
  | passing holder stage delta at_work heard since way => simp [Turns.victim?, at_work] at victim
  | telling holder delta failure at_work heard since way => simp [Turns.victim?, at_work] at victim
  | evicting holder turn path member at_work evicted heard found gone absent number =>
    rw [evicted] at victim
    cases victim
    rw [gone] at members
    rw [absent] at cache
    refine sound.ended (by simp [base, at_work]) current ?_ ?_ (built.trans number) (.inr ⟨?_, cache⟩)
    · rw [members]
      exact .evicted _ path member found
    · simpa [Entry.heard, told] using heard
    · refine ⟨path, ?_⟩
      rw [members]
      simp [found]

theorem Sound.left (sound : chronicle.Sound) {ticket : Nat} {delta : Delta}
    {failure : Option CoordinationError}
    (current : chronicle.turns.current = some (ticket, .telling delta failure)) :
    (chronicle.note service .leave
      (chronicle.turns.finish ticket (.pass (Turns.verdict delta failure)))).Sound := by
  have opening : chronicle.reopen service .leave = chronicle.opening := by
    simp [reopen, current]
  rw [note_pass service .leave rfl, opening]
  cases sound.standing with
  | idle idle heard => simp [current] at idle
  | passing holder stage changes at_work heard since way => simp [current] at at_work
  | evicting holder turn path member at_work evicted heard found gone absent number =>
    simp [Turns.victim?, current] at evicted
  | telling holder changes reason at_work heard since way =>
    rw [current] at at_work
    cases at_work
    have slice : chronicle.turns.told.toList.drop chronicle.opening.told = [delta] := by
      rw [heard, since]
      simp
    refine sound.ended (by simp [base, current]) rfl ?_ ?_ way.built way.cache
    · simp only [Turns.finish, slice]
      refine .pass _ _ _ _ delta (Pass.visits_nodup _ _ _) (fun path => way.others) way.delta ?_
      intro result returned
      cases failure <;> cases returned
      rfl
    · simpa [Turns.finish, Entry.heard, slice] using heard

theorem Sound.way (sound : chronicle.Sound) {ticket : Nat} {stage : Stage} {delta : Delta}
    (current : chronicle.turns.current = some (ticket, .pass ⟨stage, delta⟩)) :
    chronicle.turns.told.toList = chronicle.log.flatMap Entry.heard ∧
      chronicle.opening.told = (chronicle.log.flatMap Entry.heard).length ∧
      Pass.Underway chronicle.opening.job chronicle.opening.roster chronicle.opening.listing stage
        ⟨chronicle.turns.roster, delta⟩ := by
  cases sound.standing with
  | idle idle heard => simp [current] at idle
  | passing holder stage changes at_work heard since way =>
    rw [current] at at_work
    cases at_work
    exact ⟨heard, since, way⟩
  | telling holder delta failure at_work heard since way => simp [current] at at_work
  | evicting holder turn path member at_work evicted heard found gone absent number =>
    simp [Turns.victim?, current] at evicted

theorem sound_step {move : Turns.Move} (sound : chronicle.Sound)
    (step : Turns.Step service chronicle.turns move next) :
    (chronicle.note service move next).Sound := by
  have idle_told (idle : chronicle.turns.current = none) :
      chronicle.turns.told.toList = chronicle.log.flatMap Entry.heard := by
    cases sound.standing <;> simp_all
  have idle_base (idle : chronicle.turns.current = none) :
      chronicle.base = chronicle.turns.roster := by
    simp [base, idle]
  cases step with
  | served number snapshot cached =>
    have kept := sound.cache cached
    have same : chronicle.base.snapshot = ((number, snapshot), chronicle.base) := by
      simp [Roster.snapshot, kept]
    have read := sound.shared.read sound.settled
    rw [same] at read
    rw [note_snapshot service _ rfl]
    exact sound.aside (by simp) rfl rfl rfl read
  | queued job waits =>
    exact sound_of_nothing service _ (Nat.le_refl _)
      (sound.aside (by simp) rfl rfl rfl sound.shared)
  | begun ticket job rest pass idle first asks =>
    refine sound_of_nothing service _ (Nat.le_refl _) ?_
    rw [reopen_idle idle]
    refine sound.open (.passing ticket pass.stage pass.delta rfl (idle_told idle) ?_ ?_) ?_
    · simp [Turns.opening, ← idle_told idle]
    · have begins : chronicle.turns.opening.job = job := by simp [Turns.opening, first]
      rw [begins]
      cases job with
      | scan =>
        cases asks
        exact Pass.underway_scan _
      | check path =>
        cases asks
        exact Pass.underway_check _ path
      | _ => cases asks
    · exact (idle_base idle).symm
  | evicting ticket i path rest idle first found =>
    obtain ⟨member, there, rfl⟩ := Roster.member_of_pathOf found
    refine sound_of_nothing service _ (Nat.le_refl _) ?_
    rw [reopen_idle idle]
    refine sound.open (.evicting ticket _ path member rfl rfl (idle_told idle) there rfl rfl rfl) ?_
    exact (idle_base idle).symm
  | unknown ticket i rest idle first absent =>
    have nobody : chronicle.turns.victim? = none := by simp [Turns.victim?, idle]
    rw [note_eviction service _ rfl, reopen_idle idle, nobody]
    refine sound.ended (idle_base idle).symm rfl (.missed _) ?_ rfl (.inl ⟨rfl, rfl⟩)
    simpa [Turns.finish, Entry.heard] using idle_told idle
  | read ticket rest idle first =>
    have read := sound.shared.read sound.settled
    rw [idle_base idle] at read
    rw [note_snapshot service _ rfl]
    refine ⟨.idle rfl (idle_told idle), sound.faithful, sound.chained, ?_, read⟩
    exact (Roster.snapshot_members _).trans (idle_base idle ▸ sound.settled)
  | sought ticket lookup rest idle first =>
    rw [note_found service _ rfl]
    exact sound.open (.idle rfl (idle_told idle)) (idle_base idle).symm
  | told now ticket failure delta current =>
    obtain ⟨told, since, way⟩ := sound.way current
    have opening : chronicle.reopen service (.ask now) = chronicle.opening := by
      simp [reopen, current, Pass.shown]
    refine sound_of_nothing service _ (Nat.le_refl _) ?_
    rw [opening]
    refine sound.open (.telling ticket delta failure rfl ?_ since way) ?_
    · simp [told]
    · simp [base, current]
  | asked now ticket stage delta result after current asked =>
    obtain ⟨told, since, way⟩ := sound.way current
    refine sound_of_nothing service _ (Nat.le_refl _) ?_
    refine sound.open (.passing ticket result.1 result.2.delta rfl told ?_ ?_) ?_
    · simpa [reopen, current] using since
    · simpa [reopen, current] using Pass.underway_asked way asked
    · simp [base, reopen, current]
  | unlisted now ticket i path error after current answer =>
    exact sound.evicted i (by simp [Turns.victim?, current]) rfl rfl rfl rfl rfl rfl
  | located now ticket i path target listed after current answer unique =>
    have victim : chronicle.turns.victim? = some i := by simp [Turns.victim?, current]
    refine sound_of_nothing service _ (Nat.le_refl _) ?_
    rw [reopen_evicting victim]
    cases sound.standing with
    | idle idle heard => simp [current] at idle
    | passing holder stage delta at_work heard since way => simp [current] at at_work
    | telling holder delta failure at_work heard since way => simp [current] at at_work
    | evicting holder turn place member at_work evicted heard found gone absent number =>
      refine sound.open (.evicting ticket _ place member rfl ?_ heard found gone absent number) ?_
      · exact victim.symm.trans evicted
      · simp [base, current]
  | ambiguous now ticket i path listed after current answer several =>
    exact sound.evicted i (by simp [Turns.victim?, current]) rfl rfl rfl rfl rfl rfl
  | uncleared now ticket i path target error after current answer =>
    exact sound.evicted i (by simp [Turns.victim?, current]) rfl rfl rfl rfl rfl rfl
  | cleared now ticket i path target after current answer =>
    exact sound.evicted i (by simp [Turns.victim?, current]) rfl rfl rfl rfl rfl rfl
  | left ticket delta failure current => exact sound.left current
  | collected ticket =>
    exact sound_of_nothing service _ (List.length_filter_le _ _)
      (sound.aside (by simp) rfl rfl rfl sound.shared)

theorem sound_move {service : Coordinator σ} {next : Chronicle σ} {move : Move σ}
    (sound : chronicle.Sound) (moved : chronicle.move? service move = some next) : next.Sound := by
  cases move with
  | turn move =>
    obtain ⟨turns, possible, same⟩ := Option.bind_eq_some_iff.mp moved
    cases same
    exact sound_step sound (Turns.step_of_move possible)
  | outside change =>
    cases moved
    exact sound.outside change

theorem sound_run (service : Coordinator σ) (moves : List (Move σ)) (sound : chronicle.Sound) :
    (run service moves chronicle).Sound :=
  kept_by_moves (fun _ sound moved => sound_move sound moved) (fun _ _ => trivial) sound

end Chronicle
end TabletRoster
