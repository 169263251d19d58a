import TabletRoster.Proofs.Json.Records
import TabletRoster.Rpc.Response

namespace TabletRoster.Rpc

open Json (ReadsBack)

/-- The counts fit into their fields, and no rate was measured. -/
structure TableInfo.Representable (info : TableInfo) : Prop where
  tablets : info.onlineTablets < Nat.pow 2 32
  unrated : info.ingestRate = 0 ∧ info.queryRate = 0

structure Status.Representable (status : Status) : Prop where
  lastContact : status.lastContact < Nat.pow 2 64
  holdTime : status.holdTime < Nat.pow 2 64
  lookups : status.lookups < Nat.pow 2 64
  tables : ∀ (table : String) (info : TableInfo), status.tables[table]? = some info →
    info.Representable

def Response.Representable : Response → Prop
  | .status report => report.Representable
  | _ => True

theorem TableInfo.written {info : TableInfo} (representable : info.Representable) :
    ReadsBack TableInfo.layout.read info.toJson info := by
  obtain ⟨tablets, ingestRate, queryRate⟩ := info
  obtain ⟨small, rfl, rfl⟩ := representable
  refine Json.Record.read_written ⟨some tablets, some 0, some 0⟩ ?_ ?_
  · refine .next rfl rfl ((Json.natural_written small (Nat.lt_trans small (by decide))).map _) ?_
    refine .next rfl rfl (Json.zero_written.map _) ?_
    refine .next rfl rfl (Json.zero_written.map _) ?_
    exact .done _
  · rfl

theorem Arrangement.ofList_list (order : Arrangement) (tables : Tables) :
    Std.ExtTreeMap.ofList (order.list tables) compare = tables := by
  have perm := order.perm tables
  have distinct : (order.list tables).Pairwise fun a b => ¬ compare a.1 b.1 = .eq :=
    perm.symm.pairwise tables.distinct_keys_toList fun different same =>
      different (Std.OrientedCmp.eq_symm same)
  apply Std.ExtTreeMap.ext_getElem?
  intro table
  cases found : tables[table]? with
  | some info =>
    have member : (table, info) ∈ order.list tables :=
      perm.mem_iff.mpr (Std.ExtTreeMap.mem_toList_iff_getElem?_eq_some.mpr found)
    exact Std.ExtTreeMap.getElem?_ofList_of_mem Std.ReflCmp.compare_self distinct member
  | none =>
    apply Std.ExtTreeMap.getElem?_ofList_of_contains_eq_false
    rw [Bool.eq_false_iff, Ne, List.contains_iff_mem, List.mem_map]
    rintro ⟨⟨_, info⟩, listed, rfl⟩
    have there := Std.ExtTreeMap.mem_toList_iff_getElem?_eq_some.mp (perm.mem_iff.mp listed)
    rw [found] at there
    cases there

theorem tables_written (order : Arrangement) {tables : Tables}
    (representable : ∀ (table : String) (info : TableInfo), tables[table]? = some info →
      info.Representable) :
    ReadsBack Status.tablesFromJson
      (Json.writeRecord ((order.list tables).map fun (id, info) => (id, info.toJson))) tables := by
  have each : ∀ entry ∈ order.list tables,
      ReadsBack TableInfo.layout.read entry.2.toJson entry.2 := by
    intro entry member
    have there := (order.perm tables).mem_iff.mp member
    exact TableInfo.written
      (representable entry.1 _ (Std.ExtTreeMap.mem_toList_iff_getElem?_eq_some.mp there))
  have whole := (Json.entries_written each).map fun entries =>
    Std.ExtTreeMap.ofList entries compare
  rwa [order.ofList_list] at whole

theorem Status.written (order : Arrangement) {status : Status}
    (representable : status.Representable) :
    ReadsBack Status.layout.read (status.toJson order) status := by
  obtain ⟨lastContact, holdTime, lookups, tables⟩ := representable
  refine Json.Record.read_written ⟨some status.name, some status.version, some status.lastContact,
    some status.holdTime, some status.lookups, some status.tables⟩ ?_ ?_
  · refine .next rfl rfl ((Json.text_written status.name).map _) ?_
    refine .next rfl rfl ((Json.text_written status.version).map _) ?_
    refine .next rfl rfl ((Json.natural_written lastContact lastContact).map _) ?_
    refine .next rfl rfl ((Json.natural_written holdTime holdTime).map _) ?_
    refine .next rfl rfl ((Json.natural_written lookups lookups).map _) ?_
    refine .next rfl rfl ((tables_written order tables).map _) ?_
    exact .done _
  · rfl

namespace Response

theorem written (order : Arrangement) {response : Response}
    (representable : response.Representable) :
    ReadsBack (Json.union kinds) (response.encode order) response := by
  cases response with
  | done => exact Json.unit_written rfl
  | status report =>
    exact Json.union_written rfl ((Status.written order representable).map Response.status)
  | failed message => exact Json.union_written rfl ((Json.text_written message).map Response.failed)

theorem decode_encode (order : Arrangement) {response : Response}
    (representable : response.Representable) : decode (response.encode order) = .ok response :=
  Json.readAll_written (written order representable)

end Response
end TabletRoster.Rpc
