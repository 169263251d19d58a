import Mathlib.Data.List.Induction
import Mathlib.Data.Set.Card
import TabletRoster.Proofs.Fencing
import TabletRoster.Proofs.Responses

/-!
What a server hosts, and what its status tells of it. A tablet is hosted just if the last that was
done to it was to load it, and a status counts the hosted tablets of each table once.
-/
namespace TabletRoster.TabletServer

variable {σ : Type} [Keys.Engine σ]

inductive Shift where
  | loaded
  | unloaded
  deriving DecidableEq, Repr

namespace Arrival

def shift? (extent : Extent) (arrival : Arrival σ) : Option Shift :=
  if Present arrival.service arrival.request.lock then
    match arrival.request with
    | .load _ other => if other = extent then some .loaded else none
    | .unload _ other _ _ => if other = extent then some .unloaded else none
    | _ => none
  else none

def looksUp (arrival : Arrival σ) : Bool :=
  match arrival.request with
  | .status lock => Present arrival.service lock
  | _ => false

end Arrival

/-- The last that was done to a tablet was to load it. -/
def Hosted (arrivals : List (Arrival σ)) (extent : Extent) : Prop :=
  (arrivals.filterMap (·.shift? extent)).getLast? = some .loaded

theorem shift_of_looksUp {arrival : Arrival σ} (granted : arrival.looksUp = true) (extent : Extent) :
    arrival.shift? extent = none := by
  obtain ⟨service, now, request⟩ := arrival
  cases request with
  | status lock => exact ite_self none
  | _ => cases granted

theorem hosted_append {arrivals : List (Arrival σ)} {arrival : Arrival σ} {extent : Extent} :
    Hosted (arrivals ++ [arrival]) extent ↔ arrival.shift? extent = some .loaded ∨
      arrival.shift? extent = none ∧ Hosted arrivals extent := by
  unfold Hosted
  rw [List.filterMap_append, List.filterMap_cons, List.filterMap_nil]
  cases shift : arrival.shift? extent with
  | none => simp
  | some last => simp

/-! ### One arrival -/

variable {server : TabletServer}

def meet (server : TabletServer) (arrival : Arrival σ) : TabletServer :=
  (server.handle arrival.service arrival.now arrival.request).2

theorem serveAll_append (server : TabletServer) (arrivals : List (Arrival σ)) (arrival : Arrival σ) :
    server.serveAll (arrivals ++ [arrival]) = (server.serveAll arrivals).meet arrival := by
  rw [serveAll, List.foldl_append]
  rfl

theorem load_hosted {extent : Extent} (there : extent ∈ server.tablets) :
    server.load extent = server :=
  if_pos there

theorem unload_absent {extent : Extent} (absent : extent ∉ server.tablets) :
    server.unload extent = server := by
  have kept : server.tablets.filter (· ≠ extent) = server.tablets := by
    rw [List.filter_eq_self]
    intro other member
    simpa using fun same : other = extent => absent (same ▸ member)
  rw [unload, kept]

theorem mem_load {extent other : Extent} :
    other ∈ (server.load extent).tablets ↔ extent = other ∨ other ∈ server.tablets := by
  unfold load
  split
  · rename_i there
    exact ⟨.inr, fun either => either.elim (fun same => same ▸ there) id⟩
  · rw [List.mem_cons, eq_comm]

theorem mem_unload {extent other : Extent} :
    other ∈ (server.unload extent).tablets ↔ extent ≠ other ∧ other ∈ server.tablets := by
  rw [unload, List.mem_filter, decide_eq_true_eq, and_comm, ne_comm]

theorem mem_meet {arrival : Arrival σ} {extent : Extent} :
    extent ∈ (server.meet arrival).tablets ↔ arrival.shift? extent = some .loaded ∨
      arrival.shift? extent = none ∧ extent ∈ server.tablets := by
  obtain ⟨service, now, request⟩ := arrival
  unfold meet Arrival.shift?
  by_cases present : Present service request.lock
  · rw [handle_present present, if_pos present]
    cases request with
    | load lock other =>
      refine mem_load.trans ?_
      by_cases same : other = extent <;> simp [same]
    | unload lock other goal time =>
      refine mem_unload.trans ?_
      by_cases same : other = extent <;> simp [same]
    | _ => simp [execute]
  · rw [handle_absent present, if_neg present]
    simp

theorem nodup_meet (arrival : Arrival σ) (once : server.tablets.Nodup) :
    (server.meet arrival).tablets.Nodup := by
  obtain ⟨service, now, request⟩ := arrival
  unfold meet
  by_cases present : Present service request.lock
  · rw [handle_present present]
    cases request with
    | load lock extent =>
      simp only [execute, load]
      split
      · exact once
      · rename_i absent
        exact List.nodup_cons.mpr ⟨absent, once⟩
    | unload lock extent goal time => exact once.filter _
    | _ => exact once
  · rw [handle_absent present]
    exact once

theorem tablets_meet {arrival : Arrival σ} (idle : ∀ extent, arrival.shift? extent = none) :
    (server.meet arrival).tablets = server.tablets := by
  obtain ⟨service, now, request⟩ := arrival
  unfold meet
  unfold Arrival.shift? at idle
  by_cases present : Present service request.lock
  · rw [handle_present present]
    cases request with
    | load lock extent => simpa [present] using idle extent
    | unload lock extent goal time => simpa [present] using idle extent
    | _ => rfl
  · rw [handle_absent present]

theorem lookups_meet (arrival : Arrival σ) :
    (server.meet arrival).lookups = server.lookups + if arrival.looksUp then 1 else 0 := by
  obtain ⟨service, now, request⟩ := arrival
  unfold meet Arrival.looksUp
  by_cases present : Present service request.lock
  · rw [handle_present present]
    cases request with
    | load lock extent =>
      simp only [execute, load]
      split <;> rfl
    | status lock =>
      have granted : Present service lock := present
      simp [execute, granted]
    | _ => rfl
  · rw [handle_absent present]
    cases request with
    | status lock =>
      have refused : ¬ Present service lock := present
      simp [refused]
    | _ => rfl

/-! ### All arrivals -/

theorem mem_serveAll (address : Address) (arrivals : List (Arrival σ)) (extent : Extent) :
    extent ∈ ((start address).serveAll arrivals).tablets ↔ Hosted arrivals extent := by
  induction arrivals using List.reverseRecOn with
  | nil => simp [serveAll, start, Hosted]
  | append_singleton arrivals arrival ih =>
    rw [serveAll_append, mem_meet, hosted_append, ih]

theorem nodup_serveAll (address : Address) (arrivals : List (Arrival σ)) :
    ((start address).serveAll arrivals).tablets.Nodup := by
  induction arrivals using List.reverseRecOn with
  | nil => exact List.nodup_nil
  | append_singleton arrivals arrival ih =>
    rw [serveAll_append]
    exact nodup_meet arrival ih

theorem lookups_serveAll (address : Address) (arrivals : List (Arrival σ)) :
    ((start address).serveAll arrivals).lookups = arrivals.countP Arrival.looksUp := by
  induction arrivals using List.reverseRecOn with
  | nil => rfl
  | append_singleton arrivals arrival ih =>
    rw [serveAll_append, lookups_meet, ih, List.countP_append, List.countP_singleton]

/-! ### The status -/

theorem getElem_count (tablets : List Extent) (tables : Rpc.Tables) (table : String) :
    (tablets.foldl countTablet tables)[table]? =
      if ∃ extent ∈ tablets, extent.table = table then
        let info := (tables[table]?).getD .empty
        some { info with
          onlineTablets := info.onlineTablets + tablets.countP (·.table = table) }
      else tables[table]? := by
  induction tablets generalizing tables with
  | nil => simp
  | cons extent rest ih =>
    rw [List.foldl_cons, ih, countTablet, Std.ExtTreeMap.getElem?_insert]
    simp only [Std.compare_eq_iff_eq, List.mem_cons, exists_eq_or_imp, List.countP_cons]
    by_cases here : extent.table = table
    · subst here
      by_cases later : ∃ other ∈ rest, other.table = extent.table
      · simp [later]
        omega
      · have none : rest.countP (·.table = extent.table) = 0 := by
          rw [List.countP_eq_zero]
          intro other member
          simpa using fun same => later ⟨other, member, same⟩
        simp [later, none]
    · simp [here]

theorem ncard_tablets {tablets : List Extent} (once : tablets.Nodup) (table : String) :
    {extent | extent ∈ tablets ∧ extent.table = table}.ncard =
      tablets.countP (·.table = table) := by
  have listed : {extent | extent ∈ tablets ∧ extent.table = table} =
      ((tablets.filter (·.table = table)).toFinset : Set Extent) := by
    ext extent
    simp
  rw [listed, Set.ncard_coe_finset, List.toFinset_card_of_nodup (once.filter _),
    List.countP_eq_length_filter]

theorem status_tables (address : Address) (arrivals : List (Arrival σ)) (now : Nat) (table : String) :
    let tables := (((start address).serveAll arrivals).status now).tables
    (table ∈ tables ↔ ∃ extent, Hosted arrivals extent ∧ extent.table = table) ∧
      ∀ info, tables[table]? = some info →
        info.onlineTablets = {extent | Hosted arrivals extent ∧ extent.table = table}.ncard := by
  intro tables
  have counted : tables[table]? = _ :=
    getElem_count ((start address).serveAll arrivals).tablets ∅ table
  simp only [← mem_serveAll address arrivals]
  constructor
  · rw [Std.ExtTreeMap.mem_iff_isSome_getElem?, counted, Std.ExtTreeMap.getElem?_empty,
      Option.isSome_ite]
  · intro info found
    rw [counted, Std.ExtTreeMap.getElem?_empty, Option.ite_none_right_eq_some] at found
    cases found.2
    rw [ncard_tablets (nodup_serveAll address arrivals)]
    exact Nat.zero_add _

theorem reply_eq {arrival : Arrival σ} (granted : arrival.looksUp = true) :
    (server.handle arrival.service arrival.now arrival.request).1 =
      .status ((server.meet arrival).status arrival.now) := by
  obtain ⟨service, now, request⟩ := arrival
  cases request with
  | status lock =>
    have present : Present service lock := of_decide_eq_true granted
    rw [meet, handle_present present]
    rfl
  | _ => cases granted

theorem looksUp_of_reply {arrival : Arrival σ} {status : Rpc.Status}
    (reply : (server.handle arrival.service arrival.now arrival.request).1 = .status status) :
    arrival.looksUp = true := by
  obtain ⟨service, now, request⟩ := arrival
  by_cases present : Present service request.lock
  · rw [handle_present present] at reply
    cases request with
    | status lock => exact decide_eq_true present
    | _ => cases reply
  · rw [handle_absent present] at reply
    cases reply

/-! ### How much is counted -/

/-- So much at most a server has to tell of tablets and lookups. -/
def Counts (server : TabletServer) (most : Nat) : Prop :=
  server.tablets.length ≤ most ∧ server.lookups ≤ most

theorem counts_handle {most : Nat} (counts : server.Counts most) (service : Keys.Service σ)
    (now : Nat) (request : Rpc.Request) :
    (server.handle service now request).2.Counts (most + 1) := by
  obtain ⟨tablets, lookups⟩ := counts
  have still : server.Counts (most + 1) := ⟨Nat.le_succ_of_le tablets, Nat.le_succ_of_le lookups⟩
  by_cases present : Present service request.lock
  · rw [handle_present present]
    cases request with
    | load lock extent =>
      simp only [execute, load]
      split
      · exact still
      · exact ⟨Nat.succ_le_succ tablets, still.2⟩
    | unload lock extent goal time =>
      exact ⟨Nat.le_trans (List.length_filter_le _ _) still.1, still.2⟩
    | status lock => exact ⟨still.1, Nat.succ_le_succ lookups⟩
    | _ => exact still
  · rw [handle_absent present]
    exact still

theorem counts_serveAll (address : Address) (arrivals : List (Arrival σ)) :
    ((start address).serveAll arrivals).Counts arrivals.length := by
  induction arrivals using List.reverseRecOn with
  | nil => exact ⟨Nat.le_refl 0, Nat.le_refl 0⟩
  | append_singleton arrivals arrival ih =>
    rw [serveAll_append, List.length_append]
    exact counts_handle ih _ _ _

/-- What is counted fits into a status, as long as it is not too much. -/
theorem status_representable {most now : Nat} (counts : server.Counts most)
    (few : most < Nat.pow 2 32) (early : now < Nat.pow 2 64) :
    (server.status now).Representable := by
  obtain ⟨tablets, lookups⟩ := counts
  refine ⟨early, Nat.pow_pos (by decide),
    Nat.lt_trans (Nat.lt_of_le_of_lt lookups few) (by decide), ?_⟩
  intro table info found
  rw [status, getElem_count, Std.ExtTreeMap.getElem?_empty, Option.ite_none_right_eq_some] at found
  cases found.2
  refine ⟨?_, rfl, rfl⟩
  have within : server.tablets.countP (·.table = table) ≤ most :=
    Nat.le_trans List.countP_le_length tablets
  exact Nat.lt_of_le_of_lt (Nat.le_of_eq (Nat.zero_add _)) (Nat.lt_of_le_of_lt within few)

theorem handle_representable {most now : Nat} (counts : server.Counts most)
    (few : most + 1 < Nat.pow 2 32) (early : now < Nat.pow 2 64) (service : Keys.Service σ)
    (request : Rpc.Request) : (server.handle service now request).1.Representable := by
  by_cases present : Present service request.lock
  · have counted := counts_handle counts service now request
    rw [handle_present present] at counted ⊢
    cases request with
    | status lock => exact status_representable counted few early
    | _ => trivial
  · rw [handle_absent present]
    trivial

/-- A tablet is hosted just if the last load or unload of it that was not refused was a load. A
status shows each table of which a tablet is hosted, with the number of these, and how many status
requests were not refused up to this one; nothing else touches the tablets or that number.
All of it fits into the fields of a status, unless there were four thousand million requests. -/
theorem status_counts_hosted (address : Address) (arrivals : List (Arrival σ)) :
    let server := (start address).serveAll arrivals
    (∀ extent, extent ∈ server.tablets ↔ Hosted arrivals extent) ∧
      (∀ extent ∈ server.tablets, server.load extent = server) ∧
      (∀ extent, extent ∉ server.tablets → server.unload extent = server) ∧
      ∀ arrival : Arrival σ,
        let answer := server.handle arrival.service arrival.now arrival.request
        ((∃ status, answer.1 = .status status) ↔ arrival.looksUp = true) ∧
        (∀ status, answer.1 = .status status →
          (∀ table, table ∈ status.tables ↔
            ∃ extent, Hosted arrivals extent ∧ extent.table = table) ∧
          (∀ table info, status.tables[table]? = some info → info.onlineTablets =
            {extent | Hosted arrivals extent ∧ extent.table = table}.ncard) ∧
          status.lookups = (arrivals ++ [arrival]).countP Arrival.looksUp ∧
          (arrivals.length + 1 < Nat.pow 2 32 → arrival.now < Nat.pow 2 64 →
            status.Representable)) ∧
        ((∀ extent, arrival.shift? extent = none) → answer.2.tablets = server.tablets) ∧
        (arrival.looksUp = false → answer.2.lookups = server.lookups) := by
  intro server
  refine ⟨mem_serveAll address arrivals, fun extent => load_hosted, fun extent => unload_absent, ?_⟩
  intro arrival answer
  refine ⟨⟨fun told => told.elim fun _ => looksUp_of_reply, fun granted => ⟨_, reply_eq granted⟩⟩,
    ?_, tablets_meet, ?_⟩
  · intro status reply
    have granted := looksUp_of_reply reply
    have same : status = ((start address).serveAll (arrivals ++ [arrival])).status arrival.now := by
      rw [serveAll_append]
      exact Rpc.Response.status.inj (reply.symm.trans (reply_eq granted))
    have still (extent : Extent) : Hosted (arrivals ++ [arrival]) extent ↔ Hosted arrivals extent := by
      simp [hosted_append, shift_of_looksUp granted]
    have tables := status_tables address (arrivals ++ [arrival]) arrival.now
    simp only [still] at tables
    refine ⟨?_, ?_, ?_, ?_⟩
    · rw [same]
      exact fun table => (tables table).1
    · rw [same]
      exact fun table => (tables table).2
    · rw [same]
      exact lookups_serveAll address _
    · intro few early
      have told : answer.1.Representable :=
        handle_representable (counts_serveAll address arrivals) few early _ _
      rwa [reply] at told
  · intro refused
    have counted : (server.meet arrival).lookups = _ := lookups_meet arrival
    rw [refused] at counted
    exact counted

-- One tablet is loaded twice, another one is unloaded again, and a third is of another table.
example :
    let service : Keys.Service Keys.Store :=
      ⟨Keys.Store.empty.put (Text.Utf8.encode "/m") [] 7, true, false, .terse⟩
    let lock : Rpc.LockToken := ⟨"/m", "7"⟩
    let row (b : UInt8) : Extent := ⟨"t", some [b], none⟩
    let server := (start ⟨"h", 1⟩).serveAll (([.load lock (row 1), .load lock (row 2),
      .load lock (row 1), .load lock ⟨"u", none, none⟩, .unload lock (row 2) .deleted ⟨0, 0⟩,
      .load ⟨"/n", "7"⟩ (row 3)] : List Rpc.Request).map fun request => ⟨service, 0, request⟩)
    (server.status 0).tables.toList.map (fun (table, info) => (table, info.onlineTablets)) =
      [("t", 1), ("u", 1)] := by
  decide +kernel

end TabletRoster.TabletServer
