import TabletRoster.Coordinator
import TabletRoster.Keys.Engine

namespace TabletRoster.Keys

/-- The revision of a store is not before that at which an entry was created. -/
structure Store where
  entries : Entries
  revision : Nat
  published : Array (Bytes × ChangeKind)
  past : ∀ (key : Bytes) (entry : Entry), entries[key]? = some entry → entry.created ≤ revision

theorem mem_below {entries : Entries} {key stem : Bytes} {entry : Entry} :
    (key, entry) ∈ below stem entries ↔ entries[key]? = some entry ∧ stem <+: key := by
  unfold below
  rw [List.mem_filter, Std.ExtTreeMap.mem_toList_iff_getElem?_eq_some, List.isPrefixOf_iff_prefix]

theorem getElem_insert (entries : Entries) (key : Bytes) (entry : Entry) (other : Bytes) :
    (entries.insert key entry)[other]? = if other = key then some entry else entries[other]? := by
  simp only [Std.ExtTreeMap.getElem?_insert, Std.compare_eq_iff_eq, eq_comm (a := other)]

theorem getElem_erase (entries : Entries) (key other : Bytes) :
    (entries.erase key)[other]? = if other = key then none else entries[other]? := by
  simp only [Std.ExtTreeMap.getElem?_erase, Std.compare_eq_iff_eq, eq_comm (a := other)]

theorem getElem_eraseAll (keys : List Bytes) (entries : Entries) (other : Bytes) :
    (keys.foldl (fun entries key => entries.erase key) entries)[other]? =
      if other ∈ keys then none else entries[other]? := by
  induction keys generalizing entries with
  | nil => simp
  | cons first rest ih =>
    rw [List.foldl_cons, ih, getElem_erase]
    by_cases later : other ∈ rest <;> by_cases now : other = first <;> simp [later, now]

namespace Store

def empty : Store := ⟨∅, 0, #[], by simp⟩

def renewed (key value : Bytes) (lease : Int64) (store : Store) : Entry :=
  match store.entries[key]? with
  | some former => ⟨value, lease, former.version + 1, former.created, store.revision + 1⟩
  | none => ⟨value, lease, 1, store.revision + 1, store.revision + 1⟩

theorem written_renewed (key value : Bytes) (lease : Int64) (store : Store) :
    Written store.entries key value lease (store.renewed key value lease) := by
  unfold renewed
  cases found : store.entries[key]? with
  | some former =>
    refine ⟨rfl, rfl, ?_, ?_⟩
    · intro other same
      rw [found] at same
      cases same
      rfl
    · simp [found]
  | none =>
    refine ⟨rfl, rfl, ?_, ?_⟩
    · simp [found]
    · intro _ other old there
      exact Nat.lt_succ_of_le (store.past other old there)

theorem renewed_past (key value : Bytes) (lease : Int64) (store : Store) :
    (store.renewed key value lease).created ≤ store.revision + 1 := by
  unfold renewed
  split
  · rename_i former found
    exact Nat.le_succ_of_le (store.past key former found)
  · exact Nat.le_refl _

def put (key value : Bytes) (lease : Int64) (store : Store) : Store where
  entries := store.entries.insert key (store.renewed key value lease)
  revision := store.revision + 1
  published := store.published.push (key, .put)
  past other entry found := by
    rw [getElem_insert] at found
    split at found
    · cases found
      exact store.renewed_past key value lease
    · exact Nat.le_succ_of_le (store.past other entry found)

def removeAll (keys : List Bytes) (store : Store) : Store :=
  if keys.isEmpty then store
  else {
    entries := keys.foldl (fun entries key => entries.erase key) store.entries
    revision := store.revision + 1
    published := keys.foldl (fun published key => published.push (key, .delete)) store.published
    past := fun other entry found => by
      rw [getElem_eraseAll] at found
      split at found
      · cases found
      · exact Nat.le_succ_of_le (store.past other entry found) }

def remove (key : Bytes) (store : Store) : Store :=
  if store.entries.contains key then store.removeAll [key] else store

def removeBelow (stem : Bytes) (store : Store) : Store :=
  store.removeAll ((below stem store.entries).map (·.1))

/-- A lease ends: its keys go one after another, in key order. -/
def dropLease (lease : Int64) (store : Store) : Store :=
  let owned := store.entries.toList.filter fun (_, entry) => entry.lease = lease
  owned.foldl (fun store (key, _) => store.remove key) store

def skip (revisions : Nat) (store : Store) : Store :=
  { store with
    revision := store.revision + revisions
    past := fun key entry found => Nat.le_add_right_of_le (store.past key entry found) }

theorem getElem_removeAll (keys : List Bytes) (store : Store) (other : Bytes) :
    (store.removeAll keys).entries[other]? =
      if other ∈ keys then none else store.entries[other]? := by
  unfold removeAll
  split
  · rename_i nothing
    simp [List.isEmpty_iff.mp nothing]
  · exact getElem_eraseAll keys store.entries other

theorem entries_remove (key : Bytes) (store : Store) :
    (store.remove key).entries = store.entries.erase key := by
  apply Std.ExtTreeMap.ext_getElem?
  intro other
  unfold remove
  split
  · rw [getElem_removeAll, getElem_erase]
    simp
  · rename_i absent
    rw [getElem_erase]
    split
    · rename_i same
      rw [same]
      exact Std.ExtTreeMap.getElem?_eq_none absent
    · rfl

theorem getElem_removeBelow (stem : Bytes) (store : Store) (other : Bytes) :
    (store.removeBelow stem).entries[other]? =
      if stem <+: other then none else store.entries[other]? := by
  unfold removeBelow
  rw [getElem_removeAll]
  by_cases starts : stem <+: other
  · rw [if_pos starts]
    split
    · rfl
    · rename_i kept
      cases found : store.entries[other]? with
      | none => rfl
      | some entry =>
        exact absurd (List.mem_map.mpr ⟨(other, entry), mem_below.mpr ⟨found, starts⟩, rfl⟩) kept
  · rw [if_neg starts, if_neg]
    intro doomed
    obtain ⟨⟨_, entry⟩, member, rfl⟩ := List.mem_map.mp doomed
    exact starts (mem_below.mp member).2

instance : Engine Store where
  empty := empty
  entries := entries
  put := put
  remove := remove
  removeBelow := removeBelow
  skip := skip
  entries_empty := rfl
  entries_put key value lease store := ⟨_, store.written_renewed key value lease, rfl⟩
  entries_remove := entries_remove
  entries_removeBelow := getElem_removeBelow
  entries_skip _ _ := rfl

end Store
end TabletRoster.Keys
