import TabletRoster.Proofs.Layering

/-!
Whose word counts. Every setting is what the last source says that says anything about it, or else
the standard one. A span is three settings, one for each unit: units that its last source leaves
out keep what is below them, and add to what that source gives.
-/
namespace TabletRoster

namespace Span

theorem nanoseconds_eq (span : Span) :
    span.nanoseconds? =
      if span.total / 1000 < UInt64.size then some (1000000 * span.total) else none := by
  have whole : span.total =
      60000 * count span.minutes + 1000 * count span.seconds + count span.milliseconds := rfl
  simp only [nanoseconds?]
  split
  · rw [if_neg (by omega)]
  · split
    · rw [if_neg (by omega)]
    · rw [if_pos (by omega), Option.some.injEq]
      omega

end Span

namespace Settings

def Said {α : Type} (read : Part → Reading α) (value : Option Value) (a : α) : Prop :=
  ∃ found place, value = some found ∧ read ⟨place, found⟩ = .ok a

def SaidUnit (value : Option Value) (unit : Option UInt64) : Prop :=
  match value with
  | some found => ∃ place, Part.natural? ⟨place, found⟩ = .ok unit
  | none => unit = none

def spans : List (List String × (Settings → Span)) :=
  [(["scan_interval"], (·.scanInterval)), (["stale_grace_period"], (·.grace)),
    (["watch_retry_delay"], (·.retryDelay)), (["pool", "idle_timeout"], (·.idleTimeout))]

def units : List (String × (Span → Option UInt64)) :=
  [("minutes", (·.minutes)), ("seconds", (·.seconds)), ("milliseconds", (·.milliseconds))]

def places : List (List String) :=
  [["namespace_root"], ["reconcile_queue_capacity"], ["pool", "max_idle_per_address"],
    ["etcd", "endpoints"]] ++ spans.flatMap fun span => units.map fun unit => span.1 ++ [unit.1]

namespace Source

/-- Records are tables, no other setting is one, and no key counts into the list of one. Whether
scalars read is left to the building of the settings. -/
def WellTyped (source : Source) : Prop :=
  ∀ place ∈ places, source.suits place

instance (source : Source) : Decidable source.WellTyped :=
  inferInstanceAs (Decidable (∀ place ∈ places, source.suits place))

def Gives (source : Source) (place : List String) (own : Span) : Prop :=
  ∀ unit ∈ units, SaidUnit (source.says? (place ++ [unit.1])) (unit.2 own)

def Silent (source : Source) (place : List String) : Prop :=
  ∀ unit ∈ units, source.says? (place ++ [unit.1]) = none

end Source

section Reading

theorem bind_ok {α β : Type} {x : Reading α} {next : α → Reading β} {b : β}
    (done : (x >>= next) = .ok b) : ∃ a, x = .ok a ∧ next a = .ok b := by
  cases x with
  | error message => cases done
  | ok a => exact ⟨a, rfl, done⟩

theorem require_ok {α : Type} {fields : Fields} {name : String} {value : Option α} {a : α}
    (done : fields.require name value = .ok a) : value = some a := by
  cases value with
  | none => cases done
  | some b =>
    cases done
    rfl

variable {part : Part} {members : List (String × Value)} {kind name : String}
  {names : List String} {fields : Fields}

theorem find_table (table : part.value = .table members)
    (opened : part.fields kind names = .ok fields) (name : String) :
    fields.find name = (members.lookup name).map (part.member name) := by
  rw [Part.fields, table] at opened
  cases opened
  rfl

theorem said_of_read {α : Type} {read : Part → Reading α} {a : α}
    (table : part.value = .table members) (opened : part.fields kind names = .ok fields)
    (done : fields.read? name read = .ok (some a)) : Said read (members.lookup name) a := by
  rw [Fields.read?, find_table table opened] at done
  cases found : members.lookup name with
  | none =>
    rw [found] at done
    cases done
  | some value =>
    rw [found] at done
    simp only [Option.map_some] at done
    cases result : read (part.member name value) with
    | error message =>
      rw [result] at done
      cases done
    | ok b =>
      rw [result] at done
      cases done
      exact ⟨value, _, rfl, result⟩

theorem said_of_unit {unit : Option UInt64} (table : part.value = .table members)
    (opened : part.fields kind names = .ok fields)
    (done : (fields.read? name Part.natural? >>= fun unit => pure unit.join) = .ok unit) :
    SaidUnit (members.lookup name) unit := by
  obtain ⟨given, read, same⟩ := bind_ok done
  cases same
  cases given with
  | some unit =>
    obtain ⟨value, place, found, result⟩ := said_of_read table opened read
    rw [found]
    exact ⟨place, result⟩
  | none =>
    rw [Fields.read?, find_table table opened] at read
    cases found : members.lookup name with
    | none => rfl
    | some value =>
      rw [found] at read
      simp only [Option.map_some] at read
      cases result : Part.natural? (part.member name value) <;> rw [result] at read <;> cases read

theorem said_of_span {span : Span} (table : part.value = .table members)
    (done : readSpan part = .ok span) :
    ∀ unit ∈ units, SaidUnit (members.lookup unit.1) (unit.2 span) := by
  obtain ⟨fields, opened, done⟩ := bind_ok done
  obtain ⟨minutes, first, done⟩ := bind_ok done
  obtain ⟨seconds, second, done⟩ := bind_ok done
  obtain ⟨milliseconds, third, done⟩ := bind_ok done
  cases done
  simp only [units, List.forall_mem_cons, List.not_mem_nil, false_implies, implies_true, and_true]
  exact ⟨said_of_unit table opened first, said_of_unit table opened second,
    said_of_unit table opened third⟩

theorem said_of_pool {pool : UInt64 × Span} (table : part.value = .table members)
    (done : readPool part = .ok pool) :
    Said Part.natural (members.lookup "max_idle_per_address") pool.1 ∧
      Said readSpan (members.lookup "idle_timeout") pool.2 := by
  obtain ⟨fields, opened, done⟩ := bind_ok done
  obtain ⟨most, first, done⟩ := bind_ok done
  obtain ⟨timeout, second, done⟩ := bind_ok done
  obtain ⟨count, most_given, done⟩ := bind_ok done
  obtain ⟨span, timeout_given, done⟩ := bind_ok done
  cases done
  rw [require_ok most_given] at first
  rw [require_ok timeout_given] at second
  exact ⟨said_of_read table opened first, said_of_read table opened second⟩

theorem said_of_endpoints {endpoints : List String} (table : part.value = .table members)
    (done : readEndpoints part = .ok endpoints) :
    Said readTexts (members.lookup "endpoints") endpoints := by
  obtain ⟨fields, opened, done⟩ := bind_ok done
  obtain ⟨texts, first, given⟩ := bind_ok done
  rw [require_ok given] at first
  exact said_of_read table opened first

theorem said_of_settings {settings : Settings} (done : read (.table members) = .ok settings) :
    Said Part.text (members.lookup "namespace_root") settings.root ∧
      Said Part.natural (members.lookup "reconcile_queue_capacity") settings.queueCapacity ∧
      Said readSpan (members.lookup "scan_interval") settings.scanInterval ∧
      Said readSpan (members.lookup "stale_grace_period") settings.grace ∧
      Said readSpan (members.lookup "watch_retry_delay") settings.retryDelay ∧
      Said readPool (members.lookup "pool") (settings.maxIdle, settings.idleTimeout) ∧
      Said readEndpoints (members.lookup "etcd") settings.endpoints := by
  obtain ⟨fields, opened, done⟩ := bind_ok done
  obtain ⟨root, first, done⟩ := bind_ok done
  obtain ⟨queueCapacity, second, done⟩ := bind_ok done
  obtain ⟨scanInterval, third, done⟩ := bind_ok done
  obtain ⟨grace, fourth, done⟩ := bind_ok done
  obtain ⟨retryDelay, fifth, done⟩ := bind_ok done
  obtain ⟨pool, sixth, done⟩ := bind_ok done
  obtain ⟨endpoints, seventh, done⟩ := bind_ok done
  obtain ⟨⟨maxIdle, idleTimeout⟩, pooled, done⟩ := bind_ok done
  obtain ⟨rootGiven, one, done⟩ := bind_ok done
  obtain ⟨capacityGiven, two, done⟩ := bind_ok done
  obtain ⟨intervalGiven, three, done⟩ := bind_ok done
  obtain ⟨graceGiven, four, done⟩ := bind_ok done
  obtain ⟨delayGiven, five, done⟩ := bind_ok done
  obtain ⟨endpointsGiven, six, done⟩ := bind_ok done
  cases done
  rw [require_ok one] at first
  rw [require_ok two] at second
  rw [require_ok three] at third
  rw [require_ok four] at fourth
  rw [require_ok five] at fifth
  rw [require_ok pooled] at sixth
  rw [require_ok six] at seventh
  exact ⟨said_of_read rfl opened first, said_of_read rfl opened second,
    said_of_read rfl opened third, said_of_read rfl opened fourth, said_of_read rfl opened fifth,
    said_of_read rfl opened sixth, said_of_read rfl opened seventh⟩

end Reading

section Places

variable {value : Value} {place : List String}

theorem at_append (value : Value) (place rest : List String) :
    value.at? (place ++ rest) = (value.at? place).bind (Value.at? rest) := by
  induction place generalizing value with
  | nil => rfl
  | cons name later ih =>
    simp only [List.cons_append, Value.at?]
    cases value.member? name with
    | none => rfl
    | some member => exact ih member

theorem table_of_shaped {found : Value} {name : String} {rest : List String}
    (shaped : value.shaped (place ++ name :: rest)) (there : value.at? place = some found) :
    ∃ members, found = .table members := by
  induction place generalizing value with
  | nil =>
    cases there
    rw [List.nil_append, Value.shaped, Bool.and_eq_true] at shaped
    exact Value.members_of_table shaped.1
  | cons first later ih =>
    obtain ⟨member, here, there⟩ := Option.bind_eq_some_iff.mp there
    rw [List.cons_append, Value.shaped, here, Option.all_some, Bool.and_eq_true] at shaped
    exact ih shaped.2 there

theorem at_name (members : List (String × Value)) (name : String) :
    (Value.table members).at? [name] = members.lookup name := by
  simp only [Value.at?, Value.member?, Value.members]
  cases members.lookup name <;> rfl

theorem opened_record {α : Type} {read : Part → Reading α} {a : α} {name : String}
    {rest : List String} (said : Said read (value.at? place) a)
    (shaped : value.shaped (place ++ name :: rest)) :
    ∃ part members, part.value = .table members ∧ read part = .ok a ∧
      ∀ name, value.at? (place ++ [name]) = members.lookup name := by
  obtain ⟨found, whence, there, done⟩ := said
  obtain ⟨members, rfl⟩ := table_of_shaped shaped there
  refine ⟨_, members, rfl, done, fun name => ?_⟩
  rw [at_append, there, Option.bind_some, at_name]

theorem place_of_unit {span : List String × (Settings → Span)}
    {unit : String × (Span → Option UInt64)} (interval : span ∈ spans) (counted : unit ∈ units) :
    span.1 ++ [unit.1] ∈ places :=
  List.mem_append_right _
    (List.mem_flatMap.mpr ⟨span, interval, List.mem_map.mpr ⟨unit, counted, rfl⟩⟩)

/-- Settings read as is said of each of them, if records are tables. -/
theorem said_at {settings : Settings} (done : read value = .ok settings)
    (shaped : ∀ place ∈ places, value.shaped place) :
    Said Part.text (value.at? ["namespace_root"]) settings.root ∧
      Said Part.natural (value.at? ["reconcile_queue_capacity"]) settings.queueCapacity ∧
      Said Part.natural (value.at? ["pool", "max_idle_per_address"]) settings.maxIdle ∧
      Said readTexts (value.at? ["etcd", "endpoints"]) settings.endpoints ∧
      ∀ span ∈ spans, ∀ unit ∈ units,
        SaidUnit (value.at? (span.1 ++ [unit.1])) (unit.2 (span.2 settings)) := by
  have most := shaped ["pool", "max_idle_per_address"] (by decide)
  have listed := shaped ["etcd", "endpoints"] (by decide)
  obtain ⟨members, rfl⟩ := @table_of_shaped value [] value _ _ most rfl
  have named := fun name => at_name members name
  obtain ⟨root, capacity, scanning, grace, retrying, pool, etcd⟩ := said_of_settings done
  rw [← named] at root capacity scanning grace retrying pool etcd
  obtain ⟨pooled, inside, table, filled, there⟩ := opened_record pool most
  obtain ⟨kept, idling⟩ := said_of_pool table filled
  rw [← there] at kept idling
  obtain ⟨_, _, table, filled, there⟩ := opened_record etcd listed
  have reached := said_of_endpoints table filled
  rw [← there] at reached
  refine ⟨root, capacity, kept, reached, ?_⟩
  have whole : ∀ span ∈ spans,
      Said readSpan ((Value.table members).at? span.1) (span.2 settings) := by
    simp only [spans, List.forall_mem_cons, List.not_mem_nil, false_implies, implies_true, and_true]
    exact ⟨scanning, grace, retrying, idling⟩
  intro span interval unit counted
  obtain ⟨_, _, table, filled, there⟩ :=
    opened_record (whole span interval) (shaped _ (place_of_unit interval counted))
  rw [there]
  exact said_of_span table filled unit counted

end Places

section Units

variable {span own : Span}

theorem natural_anywhere {value : Value} {place : String} {unit : Option UInt64}
    (read : Part.natural? ⟨place, value⟩ = .ok unit) (other : String) :
    Part.natural? ⟨other, value⟩ = .ok unit := by
  cases value with
  | integer n =>
    simp only [Part.natural?, Part.natural] at read ⊢
    split at read
    · rename_i positive
      rw [if_pos positive]
      exact read
    · cases read
  | text s =>
    simp only [Part.natural?, Part.natural] at read ⊢
    cases word : Part.wordNumber? s.toLower with
    | some n =>
      rw [word] at read
      exact read
    | none =>
      cases number : Text.natural? UInt64.size s.toList with
      | some n =>
        rw [word, number] at read
        exact read
      | none =>
        rw [word, number] at read
        cases read
  | list items => cases read
  | table members => cases read
  | _ => exact read

theorem said_unique {value : Value} {unit other : Option UInt64}
    (said : SaidUnit (some value) unit) (again : SaidUnit (some value) other) : unit = other := by
  obtain ⟨place, read⟩ := said
  obtain ⟨elsewhere, reread⟩ := again
  rw [natural_anywhere read elsewhere] at reread
  cases reread
  rfl

theorem forall_units {holds : String × (Span → Option UInt64) → Prop} :
    (∀ unit ∈ units, holds unit) ↔
      holds ("minutes", (·.minutes)) ∧ holds ("seconds", (·.seconds)) ∧
        holds ("milliseconds", (·.milliseconds)) := by
  simp [units]

/-- A span that keeps the units of another one is as long just if the rest count nothing. -/
theorem total_eq_iff (kept : ∀ unit ∈ units, unit.2 own = none ∨ unit.2 span = unit.2 own) :
    span.total = own.total ↔
      ∀ unit ∈ units, unit.2 own = none → Span.count (unit.2 span) = 0 := by
  rw [forall_units] at kept ⊢
  have apart {unit former : Option UInt64} (kept : former = none ∨ unit = former) :
      Span.count former ≤ Span.count unit ∧
        ((former = none → Span.count unit = 0) ↔ Span.count unit = Span.count former) := by
    rcases kept with rfl | rfl
    · simp [Span.count]
    · refine ⟨Nat.le_refl _, fun _ => rfl, ?_⟩
      rintro _ rfl
      rfl
  obtain ⟨first, minutes⟩ := apart kept.1
  obtain ⟨second, seconds⟩ := apart kept.2.1
  obtain ⟨third, milliseconds⟩ := apart kept.2.2
  rw [minutes, seconds, milliseconds]
  simp only [Span.total] at first second third ⊢
  omega

theorem length_iff (kept : ∀ unit ∈ units, unit.2 own = none ∨ unit.2 span = unit.2 own) :
    span.nanoseconds? = some (1000000 * own.total) ↔
      own.total / 1000 < UInt64.size ∧
        ∀ unit ∈ units, unit.2 own = none → Span.count (unit.2 span) = 0 := by
  rw [← total_eq_iff kept, Span.nanoseconds_eq]
  constructor
  · intro long
    split at long
    · rename_i fits
      have same : span.total = own.total := by
        rw [Option.some.injEq] at long
        omega
      exact ⟨same ▸ fits, same⟩
    · cases long
  · rintro ⟨fits, same⟩
    rw [same, if_pos fits]

end Units

theorem last_append {earlier later : List Source} {source : Source} {place : List String}
    (silent : ∀ other ∈ later, other.says? place = none) :
    last? (earlier ++ source :: later) place =
      (source.says? place).or (last? earlier place) := by
  have nothing : later.reverse.findSome? (·.says? place) = none := by
    rw [List.findSome?_eq_none_iff]
    exact fun other member => silent other (List.mem_reverse.mp member)
  simp only [last?, List.reverse_append, List.reverse_cons, List.append_assoc,
    List.findSome?_append, nothing, List.findSome?_cons, List.findSome?_nil, Option.none_or]
  cases source.says? place <;> rfl

theorem read_of_build {sources : List Source} {settings : Settings}
    (built : build sources = .ok settings) :
    ∃ value, layered sources = .ok value ∧ read value = .ok settings := by
  unfold build at built
  cases laid : layered sources with
  | error failure =>
    rw [laid] at built
    cases built
  | ok value =>
    simp only [laid, bind, Except.bind] at built
    cases done : read value with
    | error message =>
      rw [done] at built
      cases built
    | ok whole =>
      simp only [done] at built
      split at built
      · cases built
        exact ⟨value, rfl, done⟩
      · cases built

/-- Settings that are built are what the last source says that says anything about them, or else
the standard ones; each unit of a span goes by itself. So when the last source that speaks of a
span gives a table of units, the span is as long as that table says just if it fits, and if every
unit that the table leaves out counts nothing below it, in an earlier source or in the standard
settings. -/
theorem later_sources_win {sources : List Source} {settings : Settings}
    (built : build sources = .ok settings) (typed : ∀ source ∈ sources, source.WellTyped) :
    Said Part.text (last? sources ["namespace_root"]) settings.root ∧
      Said Part.natural (last? sources ["reconcile_queue_capacity"]) settings.queueCapacity ∧
      Said Part.natural (last? sources ["pool", "max_idle_per_address"]) settings.maxIdle ∧
      Said readTexts (last? sources ["etcd", "endpoints"]) settings.endpoints ∧
      ∀ span ∈ spans,
        (∀ unit ∈ units,
          SaidUnit (last? sources (span.1 ++ [unit.1])) (unit.2 (span.2 settings))) ∧
        ∀ earlier source later own, sources = earlier ++ source :: later →
          source.Gives span.1 own → (∀ other ∈ later, other.Silent span.1) →
          (∀ unit ∈ units, source.says? (span.1 ++ [unit.1]) = none →
            SaidUnit (last? earlier (span.1 ++ [unit.1])) (unit.2 (span.2 settings))) ∧
          ((span.2 settings).nanoseconds? = some (1000000 * own.total) ↔
            own.total / 1000 < UInt64.size ∧
              ∀ unit ∈ units, unit.2 own = none →
                Span.count (unit.2 (span.2 settings)) = 0) := by
  obtain ⟨value, laid, done⟩ := read_of_build built
  have standing : ∀ place ∈ places,
      value.at? place = last? sources place ∧ value.shaped place := by
    intro place known
    have ready : ∀ place ∈ places, standard.toValue.shaped place := by decide
    cases place with
    | nil => exact absurd known (by decide)
    | cons name rest =>
      exact at_layered laid (fun source member => typed source member _ known) (ready _ known)
  obtain ⟨root, capacity, most, endpoints, counted⟩ :=
    said_at done fun place known => (standing place known).2
  rw [(standing _ (by decide)).1] at root capacity most endpoints
  have counted : ∀ span ∈ spans, ∀ unit ∈ units,
      SaidUnit (last? sources (span.1 ++ [unit.1])) (unit.2 (span.2 settings)) := by
    intro span interval unit member
    rw [← (standing _ (place_of_unit interval member)).1]
    exact counted span interval unit member
  refine ⟨root, capacity, most, endpoints, fun span interval => ⟨counted span interval, ?_⟩⟩
  rintro earlier source later own rfl gives silent
  have last (unit : String × (Span → Option UInt64)) (member : unit ∈ units) :=
    @last_append earlier later source (span.1 ++ [unit.1])
      fun other behind => silent other behind unit member
  constructor
  · intro unit member unsaid
    have said := counted span interval unit member
    rw [last unit member, unsaid, Option.none_or] at said
    exact said
  · refine length_iff fun unit member => ?_
    have said := counted span interval unit member
    have given := gives unit member
    rw [last unit member] at said
    cases spoken : source.says? (span.1 ++ [unit.1]) with
    | none =>
      rw [spoken] at given
      exact .inl given
    | some value =>
      rw [spoken] at said given
      exact .inr (said_unique said given)

/-- One minute is laid over the five seconds of the standard scan interval. It is irreducible, so
that only the kernel reads the text. -/
@[irreducible] def inMinutes : Source :=
  .file .toml "[scan_interval]\nminutes = 1\n"

theorem later_sources_win_in_minutes :
    ∃ settings, build [inMinutes] = .ok settings ∧ (∀ source ∈ [inMinutes], source.WellTyped) ∧
      inMinutes.Gives ["scan_interval"] (.ofMinutes 1) ∧
      settings.scanInterval.nanoseconds? = some 65000000000 ∧
      settings.scanInterval.nanoseconds? ≠ some (1000000 * (Span.ofMinutes 1).total) := by
  have typed : ∀ source ∈ [inMinutes], source.WellTyped := by decide +kernel
  have gives : inMinutes.Gives ["scan_interval"] (.ofMinutes 1) := by
    have minutes : (inMinutes.says? ["scan_interval", "minutes"]).map
        (fun value => (Part.natural? ⟨"", value⟩).toOption) = some (some (some 1)) := by
      decide +kernel
    have others : inMinutes.says? ["scan_interval", "seconds"] = none ∧
        inMinutes.says? ["scan_interval", "milliseconds"] = none := by
      simp only [← Option.isNone_iff_eq_none]
      decide +kernel
    refine forall_units.mpr ⟨?_, ?_, ?_⟩
    · obtain ⟨value, said, read⟩ := Option.map_eq_some_iff.mp minutes
      simp only [List.cons_append, List.nil_append, said]
      cases result : Part.natural? ⟨"", value⟩ <;> rw [result] at read <;> cases read
      exact ⟨"", result⟩
    · simp only [List.cons_append, List.nil_append, others.1]
      rfl
    · simp only [List.cons_append, List.nil_append, others.2]
      rfl
  have intervals : (build [inMinutes]).toOption.map (·.scanInterval) =
      some ⟨some 1, some 5, none⟩ := by
    decide +kernel
  cases built : build [inMinutes] with
  | error failure =>
    rw [built] at intervals
    cases intervals
  | ok settings =>
    have interval : settings.scanInterval = ⟨some 1, some 5, none⟩ := by
      simpa [built, Except.toOption] using intervals
    refine ⟨settings, rfl, typed, gives, by rw [interval]; decide, fun long => ?_⟩
    have exact_when := ((later_sources_win built typed).2.2.2.2 (["scan_interval"], (·.scanInterval))
      List.mem_cons_self).2 [] inMinutes [] (.ofMinutes 1) rfl gives nofun
    have unheard := (exact_when.2.mp long).2 ("seconds", (·.seconds)) (by simp [units]) rfl
    simp [interval, Span.count] at unheard

end Settings
end TabletRoster
