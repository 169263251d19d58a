import TabletRoster.Proofs.Json.Records
import TabletRoster.Rpc.Request

namespace TabletRoster

open Json (ReadsBack)

theorem Row.written (row : Row) : ReadsBack Row.fromJson row.toJson row := by
  cases row with
  | none => exact (Json.absent_written _).map _
  | some bytes =>
    have byte : ∀ n ∈ bytes.map UInt8.toNat, ReadsBack (Json.natural 8) (Json.digits n) n := by
      intro n member
      obtain ⟨b, _, rfl⟩ := List.mem_map.mp member
      exact Json.natural_written b.toNat_lt (Nat.lt_trans b.toNat_lt (by decide))
    have list := Json.list_written byte fun n _ => Json.digits_opening n
    have back : (bytes.map UInt8.toNat).map Nat.toUInt8 = bytes := by
      rw [List.map_map]
      exact (List.map_congr_left fun _ _ => UInt8.ofNat_toNat).trans (List.map_id bytes)
    have read := (Json.present_written (by decide) (by decide) list).map
      fun found => found.map (·.map Nat.toUInt8)
    rw [Option.map_some, back, List.map_map] at read
    exact read

theorem Extent.written (extent : Extent) : ReadsBack Extent.layout.read extent.toJson extent := by
  refine Json.Record.read_written ⟨some extent.table, some extent.endRow, some extent.prevRow⟩ ?_ ?_
  · refine .next rfl rfl ((Json.text_written extent.table).map _) ?_
    refine .next rfl rfl ((Row.written extent.endRow).map _) ?_
    refine .next rfl rfl ((Row.written extent.prevRow).map _) ?_
    exact .done _
  · rfl

namespace Rpc

theorem LockToken.written (token : LockToken) :
    ReadsBack LockToken.layout.read token.toJson token := by
  refine Json.Record.read_written ⟨some token.path, some token.session⟩ ?_ ?_
  · refine .next rfl rfl ((Json.text_written token.path).map _) ?_
    refine .next rfl rfl ((Json.text_written token.session).map _) ?_
    exact .done _
  · rfl

theorem UnloadGoal.written (goal : UnloadGoal) :
    ReadsBack UnloadGoal.fromJson goal.toJson goal := by
  apply Json.unit_written
  cases goal <;> rfl

def Timestamp.Representable (time : Timestamp) : Prop :=
  time.seconds < Nat.pow 2 63 ∧ time.nanoseconds < 1000000000

theorem Timestamp.ofParts_representable {time : Timestamp} (representable : time.Representable) :
    ofParts time.seconds time.nanoseconds = .ok time := by
  obtain ⟨seconds, nanoseconds⟩ := representable
  have whole : time.nanoseconds / 1000000000 = 0 := Nat.div_eq_of_lt nanoseconds
  have part : time.nanoseconds % 1000000000 = time.nanoseconds := Nat.mod_eq_of_lt nanoseconds
  have wide : ¬ Nat.pow 2 64 ≤ time.seconds :=
    Nat.not_le.mpr (Nat.lt_trans seconds (by decide))
  simp only [ofParts, whole, part, Nat.add_zero]
  rw [if_neg wide, if_neg (Nat.not_le.mpr seconds)]

theorem Timestamp.written {time : Timestamp} (representable : time.Representable) :
    ReadsBack Timestamp.layout.read time.toJson time := by
  have seconds : time.seconds < Nat.pow 2 64 := Nat.lt_trans representable.1 (by decide)
  have nanoseconds : time.nanoseconds < Nat.pow 2 32 := Nat.lt_trans representable.2 (by decide)
  refine Json.Record.read_written ⟨some time.seconds, some time.nanoseconds⟩ ?_ ?_
  · refine .next rfl rfl ((Json.natural_written seconds seconds).map _) ?_
    refine .next rfl rfl
      ((Json.natural_written nanoseconds (Nat.lt_trans nanoseconds (by decide))).map _) ?_
    exact .done _
  · exact ofParts_representable representable

namespace Request

def Representable : Request → Prop
  | .unload _ _ _ time => time.Representable
  | _ => True

theorem lock_written (draft : Draft) (lock : LockToken) :
    ReadsBack (lockField.read draft) lock.toJson { draft with lock := some lock } :=
  (LockToken.written lock).map fun found => ({ draft with lock := some found } : Draft)

theorem extent_written (draft : Draft) (extent : Extent) :
    ReadsBack (extentField.read draft) extent.toJson { draft with extent := some extent } :=
  (Extent.written extent).map fun found => ({ draft with extent := some found } : Draft)

theorem kind_written {name : String} {fields : List (Json.Field Draft)}
    {finish : Draft → Except Json.Fault Request} {entries : List (String × Bytes)} (last : Draft)
    {request : Request}
    (known : kinds.lookup name = some (.record (kindLayout name fields finish).read))
    (fills : (kindLayout name fields finish).Fills {} entries last)
    (finished : finish last = .ok request) :
    ReadsBack (Json.union kinds) (Json.writeRecord [(name, Json.writeRecord entries)]) request :=
  Json.union_written known (Json.Record.read_written last fills finished)

theorem lock_only_written {name : String} {finish : Draft → Except Json.Fault Request}
    {lock : LockToken} {request : Request}
    (known : kinds.lookup name = some (.record (kindLayout name [lockField] finish).read))
    (finished : finish { lock := some lock } = .ok request) :
    ReadsBack (Json.union kinds)
      (Json.writeRecord [(name, Json.writeRecord [("lock", lock.toJson)])]) request :=
  kind_written _ known (.next rfl rfl (lock_written _ lock) (.done _)) finished

theorem written {request : Request} (representable : request.Representable) :
    ReadsBack (Json.union kinds) request.encode request := by
  cases request with
  | load lock extent =>
    refine kind_written { lock := some lock, extent := some extent } rfl ?_ ?_
    · refine .next rfl rfl (lock_written _ lock) ?_
      refine .next rfl rfl (extent_written _ extent) ?_
      exact .done _
    · rfl
  | unload lock extent goal time =>
    refine kind_written
      { lock := some lock, extent := some extent, goal := some goal, time := some time } rfl ?_ ?_
    · refine .next rfl rfl (lock_written _ lock) ?_
      refine .next rfl rfl (extent_written _ extent) ?_
      refine .next rfl rfl ((UnloadGoal.written goal).map _) ?_
      refine .next rfl rfl ((Timestamp.written representable).map _) ?_
      exact .done _
    · rfl
  | status lock => exact lock_only_written rfl rfl
  | halt lock => exact lock_only_written rfl rfl
  | fastHalt lock => exact lock_only_written rfl rfl
  | flush lock table startRow endRow =>
    refine kind_written
      ⟨some lock, none, none, none, some table, some startRow, some endRow⟩ rfl ?_ ?_
    · refine .next rfl rfl (lock_written _ lock) ?_
      refine .next rfl rfl ((Json.text_written table).map _) ?_
      refine .next rfl rfl ((Row.written startRow).map _) ?_
      refine .next rfl rfl ((Row.written endRow).map _) ?_
      exact .done _
    · rfl

theorem decode_encode {request : Request} (representable : request.Representable) :
    decode request.encode = .ok request :=
  Json.readAll_written (written representable)

/-- Every request is read as it was written, so no two of them are written alike, and neither are
an absent row and an empty one. -/
theorem survives_wire (request : Request) (representable : request.Representable) :
    decode request.encode = .ok request ∧
      (∀ other : Request, other.Representable → other.encode = request.encode →
        other = request) ∧
      ∀ row other : Row, row.toJson = other.toJson → row = other := by
  refine ⟨decode_encode representable, ?_, ?_⟩
  · intro other possible same
    have read := decode_encode possible
    rw [same, decode_encode representable] at read
    exact (Except.ok.inj read).symm
  · intro row other same
    have read := Json.readAll_written (Row.written row)
    rw [same, Json.readAll_written (Row.written other)] at read
    exact (Except.ok.inj read).symm

/-- The last moment that a clock shows, a token with a quote, a backslash and a control, and an
empty row beside an absent one. -/
theorem survives_wire_unload :
    let request : Request := .unload ⟨"/\"\\", "\x01é"⟩ ⟨"t", some [], none⟩ .suspended
      ⟨9223372036854775807, 999999999⟩
    request.Representable ∧ decode request.encode = .ok request := by
  intro request
  have representable : request.Representable := ⟨by decide, by decide⟩
  exact ⟨representable, (survives_wire request representable).1⟩

end Request
end Rpc
end TabletRoster
