import TabletRoster.Proofs.Namespace

/-!
The keys of a server path are the key of its node and all keys below it. Paths without slashes in
their parts share no key, and the node of such a path is below no other node. So the deletion of
one node leaves all locks as they are.
-/
namespace TabletRoster

/-- A path whose group and host have no slash in them, as all paths that a listing shows. -/
structure ServerPath.Unslashed (path : ServerPath) : Prop where
  group : '/' ∉ path.group.toList
  host : '/' ∉ path.address.host.toList

theorem ServerPath.WellFormed.plain {path : ServerPath} (formed : path.WellFormed) :
    path.Unslashed :=
  ⟨formed.unslashed, formed.address.unslashed⟩

namespace Layout

variable {layout : Layout} {path other : ServerPath} {key : String}

def Owns (layout : Layout) (path : ServerPath) (key : String) : Prop :=
  key = layout.serverKey path ∨ Namespace.startsWith (layout.below path) key

instance (layout : Layout) (path : ServerPath) (key : String) : Decidable (layout.Owns path key) :=
  inferInstanceAs (Decidable (_ ∨ _))

theorem startsWith_iff {stem key : String} :
    Namespace.startsWith stem key ↔ ∃ rest, key.toList = stem.toList ++ rest := by
  simp only [Namespace.startsWith, Option.isSome_iff_exists, Text.after_iff]

theorem startsWith_below :
    Namespace.startsWith (layout.below path) key ↔
      ∃ rest, key.toList = (layout.serverKey path).toList ++ '/' :: rest := by
  have stem : (layout.below path).toList = (layout.serverKey path).toList ++ ['/'] := by
    simp [below, toString]
  rw [startsWith_iff, stem]
  simp

theorem below_of_lockStem (starts : Namespace.startsWith (layout.lockStem path) key) :
    Namespace.startsWith (layout.below path) key := by
  have stem : (layout.lockStem path).toList =
      (layout.serverKey path).toList ++ "/lock/".toList := by
    simp [lockStem, toString]
  obtain ⟨rest, spelt⟩ := startsWith_iff.mp starts
  rw [stem, List.append_assoc] at spelt
  exact startsWith_below.mpr ⟨_, spelt⟩

theorem lockStem_lockKey (layout : Layout) (path : ServerPath) (session : String) :
    Namespace.startsWith (layout.lockStem path) (layout.lockKey path session) :=
  startsWith_iff.mpr ⟨session.toList, by simp [lockKey]⟩

theorem owns_iff : layout.Owns path key ↔
    ∃ tail, Tail tail ∧ key.toList = (layout.serverKey path).toList ++ tail := by
  unfold Owns
  rw [startsWith_below]
  constructor
  · intro owned
    rcases owned with rfl | ⟨rest, spelt⟩
    · exact ⟨[], .inl rfl, (List.append_nil _).symm⟩
    · exact ⟨_, .inr ⟨rest, rfl⟩, spelt⟩
  · intro owned
    obtain ⟨tail, rfl | ⟨rest, rfl⟩, spelt⟩ := owned
    · exact .inl (String.toList_inj.mp (by simpa using spelt))
    · exact .inr ⟨rest, spelt⟩

theorem address_unslashed (plain : path.Unslashed) : '/' ∉ path.address.text.toList :=
  Address.text_unslashed plain.host

theorem before_tail {front before tail rest : List Char} (ends : Tail tail) (further : Tail rest)
    (plain : '/' ∉ front) (unslashed : '/' ∉ before) (same : front ++ tail = before ++ rest) :
    front = before := by
  rcases ends with rfl | ⟨tail, rfl⟩ <;> rcases further with rfl | ⟨rest, rfl⟩
  · simpa using same
  · rw [List.append_nil] at same
    exact absurd (same ▸ List.mem_append_right _ List.mem_cons_self) plain
  · rw [List.append_nil] at same
    exact absurd (same ▸ List.mem_append_right _ List.mem_cons_self) unslashed
  · have cut := Text.cutFirst_at plain tail
    rw [same, Text.cutFirst_at unslashed] at cut
    simp only [Option.some.injEq, Prod.mk.injEq] at cut
    exact cut.1.symm

theorem parts_of_place (placed : layout.place key = .server path) :
    ∃ address tail, Tail tail ∧ '/' ∉ path.group.toList ∧ '/' ∉ address ∧
      key.toList =
        layout.root.toList ++ '/' :: (path.group.toList ++ '/' :: (address ++ tail)) ∧
      Address.parse (String.ofList address) = .ok path.address := by
  unfold place at placed
  split at placed
  · cases placed
  · split at placed
    · cases placed
    · rename_i rest found
      have whole := Text.after_join found
      unfold placeBelow at placed
      split at placed
      · split at placed <;> cases placed
      · rename_i group behind cut
        obtain ⟨parted, plain⟩ := Text.cutFirst_join cut
        rw [parted] at whole
        split at placed
        · cases placed
        · -- the address ends at the next slash, if there is one
          cases ending : Text.cutFirst '/' behind with
          | none =>
            simp only [ending] at placed
            split at placed
            · rename_i address parsed
              cases placed
              refine ⟨behind, [], .inl rfl, ?_, Text.not_mem_of_cutFirst ending, ?_, parsed⟩
              · rwa [String.toList_ofList]
              · simp [whole]
            · cases placed
          | some found =>
            obtain ⟨spelt, unslashed⟩ := Text.cutFirst_join ending
            simp only [ending] at placed
            split at placed
            · rename_i address parsed
              cases placed
              refine ⟨found.1, '/' :: found.2, .inr ⟨_, rfl⟩, ?_, unslashed, ?_, parsed⟩
              · rwa [String.toList_ofList]
              · simp [whole, spelt]
            · cases placed

theorem unslashed_of_place (placed : layout.place key = .server path) : path.Unslashed := by
  obtain ⟨address, _, _, group, plain, _, parsed⟩ := parts_of_place placed
  refine ⟨group, fun member => plain ?_⟩
  simpa using Address.mem_of_parse parsed member

theorem serverKey_outside (plain : path.Unslashed) (other : ServerPath) :
    ¬ Namespace.startsWith (layout.below other) (layout.serverKey path) := by
  intro starts
  obtain ⟨rest, spelt⟩ := startsWith_below.mp starts
  rw [serverKey_toList, serverKey_toList, List.append_assoc, List.append_cancel_left_eq] at spelt
  have slashes := congrArg (List.count '/') spelt
  have none_in_group := List.count_eq_zero.mpr plain.group
  have none_in_address := List.count_eq_zero.mpr (address_unslashed plain)
  simp only [List.cons_append, List.append_assoc, List.count_cons_self, List.count_append,
    none_in_group, none_in_address] at slashes
  omega

/-- No key belongs to two paths without slashes. -/
theorem owner_unique (plain : path.Unslashed) (otherPlain : other.Unslashed)
    (mine : layout.Owns path key) (theirs : layout.Owns other key) : path = other := by
  obtain ⟨tail, ends, spelt⟩ := owns_iff.mp mine
  obtain ⟨otherTail, otherEnds, otherSpelt⟩ := owns_iff.mp theirs
  rw [spelt, serverKey_toList, serverKey_toList, List.append_assoc, List.append_assoc,
    List.append_cancel_left_eq] at otherSpelt
  simp only [List.cons_append, List.append_assoc, List.cons.injEq, true_and] at otherSpelt
  have cut := Text.cutFirst_at plain.group (path.address.text.toList ++ tail)
  rw [otherSpelt, Text.cutFirst_at otherPlain.group] at cut
  simp only [Option.some.injEq, Prod.mk.injEq] at cut
  have text : path.address.text = other.address.text :=
    String.toList_inj.mp (before_tail ends otherEnds (address_unslashed plain)
      (address_unslashed otherPlain) cut.2.symm)
  have group : path.group = other.group := (String.toList_inj.mp cut.1).symm
  have address : path.address = other.address := Address.text_inj text
  cases path
  cases other
  simp_all

end Layout

namespace Namespace

variable {layout : Layout} {path : ServerPath} {space : Namespace}

theorem unslashed_of_listed (listed : path ∈ space.servers layout) : path.Unslashed := by
  obtain ⟨key, _, placed⟩ := mem_servers.mp listed
  exact Layout.unslashed_of_place placed

theorem getElem_remove (space : Namespace) (key other : String) :
    (space.remove key).nodes[other]? = if other = key then none else space.nodes[other]? := by
  unfold remove
  split
  · simp only [publish, Std.ExtTreeMap.getElem?_erase, Std.compare_eq_iff_eq, eq_comm (a := other)]
  · rename_i absent
    split
    · rename_i same
      subst same
      exact Std.ExtTreeMap.getElem?_eq_none absent
    · rfl

theorem mem_below {stem key : String} {node : Node} :
    (key, node) ∈ space.below stem ↔ space.nodes[key]? = some node ∧ startsWith stem key := by
  unfold below
  rw [List.mem_filter, Std.ExtTreeMap.mem_toList_iff_getElem?_eq_some]

theorem below_remove {stem key : String} (outside : ¬ startsWith stem key) (space : Namespace) :
    (space.remove key).below stem = space.below stem := by
  apply below_congr
  intro other starts
  rw [getElem_remove]
  split
  · rename_i same
    exact absurd (same ▸ starts) outside
  · rfl

theorem readLock_remove (plain : path.Unslashed) (other : ServerPath) (space : Namespace) :
    (space.remove (layout.serverKey path)).readLock layout other = space.readLock layout other := by
  unfold readLock holder?
  rw [below_remove]
  exact fun starts => Layout.serverKey_outside plain other (Layout.below_of_lockStem starts)

inductive Deleted (layout : Layout) (path : ServerPath) (space : Namespace) :
    Answer Namespace Unit → Prop where
  | refused (reason : String) (switch : space.offline = true ∨ space.failDeletes = true) :
      Deleted layout path space (.error (.unavailable reason), space)
  | kept (key : String) (children : space.below (layout.below path) ≠ []) :
      Deleted layout path space (.error (.notEmpty key), space)
  | removed (childless : space.below (layout.below path) = []) :
      Deleted layout path space (.ok (), space.remove (layout.serverKey path))

theorem deleted (layout : Layout) (path : ServerPath) (space : Namespace) :
    Deleted layout path space (space.delete layout path) := by
  simp only [delete, checkOnline, checkDelete, bind, Except.bind]
  split
  · rename_i error refused
    split at refused
    · rename_i stopped
      split at stopped
      · rename_i offline
        cases stopped
        cases refused
        exact .refused _ (.inl offline)
      · cases stopped
    · split at refused
      · rename_i failing
        cases refused
        exact .refused _ (.inr failing)
      · cases refused
  · split
    · rename_i childless
      exact .removed (List.isEmpty_iff.mp childless)
    · rename_i children
      exact .kept _ fun none => children (List.isEmpty_iff.mpr none)

theorem readLock_delete (plain : path.Unslashed) (other : ServerPath) (space : Namespace) :
    (space.delete layout path).2.readLock layout other = space.readLock layout other := by
  have outcome := deleted layout path space
  generalize space.delete layout path = answer at outcome
  cases outcome with
  | refused reason switch => rfl
  | kept key children => rfl
  | removed childless => exact readLock_remove plain other space

theorem getElem_removeAll (keys : List String) (space : Namespace) (key : String) :
    (keys.foldl (fun space key => space.remove key) space).nodes[key]? =
      if key ∈ keys then none else space.nodes[key]? := by
  induction keys generalizing space with
  | nil => simp
  | cons first rest ih =>
    rw [List.foldl_cons, ih, getElem_remove]
    by_cases later : key ∈ rest <;> by_cases now : key = first <;> simp [later, now]

theorem owned_of_doomed {key : String}
    (doomed : key ∈ (space.below (layout.below path)).map (·.1) ++ [layout.serverKey path]) :
    layout.Owns path key := by
  rw [List.mem_append, List.mem_map, List.mem_singleton] at doomed
  rcases doomed with ⟨⟨_, node⟩, member, rfl⟩ | own
  · exact .inr (mem_below.mp member).2
  · exact .inl own

theorem doomed_of_owned {key : String} (owned : layout.Owns path key) (there : key ∈ space.nodes) :
    key ∈ (space.below (layout.below path)).map (·.1) ++ [layout.serverKey path] := by
  rw [List.mem_append, List.mem_map, List.mem_singleton]
  rcases owned with own | starts
  · exact .inr own
  · rw [Std.ExtTreeMap.mem_iff_isSome_getElem?] at there
    obtain ⟨node, found⟩ := Option.isSome_iff_exists.mp there
    exact .inl ⟨(key, node), mem_below.mpr ⟨found, starts⟩, rfl⟩

inductive Felled (layout : Layout) (path : ServerPath) (space : Namespace) :
    Answer Namespace Unit → Prop where
  | refused (reason : String) (switch : space.offline = true ∨ space.failDeletes = true) :
      Felled layout path space (.error (.unavailable reason), space)
  | felled (after : Namespace) (online : space.offline = false)
      (obliging : space.failDeletes = false) (nodes : ∀ key,
        after.nodes[key]? = if layout.Owns path key then none else space.nodes[key]?) :
      Felled layout path space (.ok (), after)

theorem felled (layout : Layout) (path : ServerPath) (space : Namespace) :
    Felled layout path space (space.deleteTree layout path) := by
  simp only [deleteTree, checkOnline, checkDelete, bind, Except.bind]
  cases offline : space.offline with
  | true => exact .refused _ (.inl offline)
  | false =>
    cases failing : space.failDeletes with
    | true => exact .refused _ (.inr failing)
    | false =>
      refine .felled _ offline failing fun key => ?_
      rw [getElem_removeAll]
      by_cases owned : layout.Owns path key
      · rw [if_pos owned]
        split
        · rfl
        · rename_i kept
          apply Std.ExtTreeMap.getElem?_eq_none
          intro there
          exact kept (doomed_of_owned owned there)
      · rw [if_neg owned, if_neg]
        intro doomed
        exact owned (owned_of_doomed doomed)

end Namespace
end TabletRoster
