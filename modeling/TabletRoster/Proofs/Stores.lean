import Mathlib.Data.List.MinMax
import TabletRoster.Keys.Coordinator

namespace TabletRoster

namespace Text.Utf8

theorem encode_inj {a b : String} : encode a = encode b ↔ a = b := by
  constructor
  · intro same
    have read := decode_encode a
    rw [same, decode_encode] at read
    exact (Option.some.inj read).symm
  · intro same
    rw [same]

theorem encode_append (a b : String) : encode (a ++ b) = encode a ++ encode b := by
  simp [encode]

theorem encode_prefix {stem text : String} :
    encode stem <+: encode text ↔ stem.toList <+: text.toList := by
  constructor
  · rintro ⟨rest, whole⟩
    apply List.isPrefix_of_utf8Encode_append_eq_utf8Encode ⟨rest.toArray⟩
    rw [String.utf8Encode_toList, String.utf8Encode_toList]
    apply ByteArray.ext
    apply Array.toList_inj.mp
    simpa [encode] using whole
  · rintro ⟨rest, whole⟩
    have joined : stem ++ String.ofList rest = text := by
      rw [← String.toList_inj, String.toList_append, String.toList_ofList, whole]
    rw [← joined, encode_append]
    exact List.prefix_append _ _

end Text.Utf8

namespace Keys

variable {σ : Type} [Engine σ]

def Wording.terse : Wording :=
  ⟨⟨"no answer", "no answer"⟩, fun _ => ⟨"no text", "no text"⟩⟩

theorem getElem_put (key value : Bytes) (lease : Int64) (store : σ) :
    ∃ entry, Written (Engine.entries store) key value lease entry ∧ ∀ other : Bytes,
      (Engine.entries (Engine.put key value lease store))[other]? =
        if other = key then some entry else (Engine.entries store)[other]? := by
  obtain ⟨entry, written, inserted⟩ := Engine.entries_put key value lease store
  refine ⟨entry, written, fun other => ?_⟩
  rw [inserted, getElem_insert]

theorem getElem_remove (key : Bytes) (store : σ) (other : Bytes) :
    (Engine.entries (Engine.remove key store))[other]? =
      if other = key then none else (Engine.entries store)[other]? := by
  rw [Engine.entries_remove, getElem_erase]

theorem oldest_eq_argmin (entries : List (Bytes × Entry)) :
    oldest entries = entries.argmin (·.2.created) := by
  induction entries with
  | nil => rfl
  | cons entry rest ih =>
    rw [oldest, ih, List.argmin_cons]
    cases rest.argmin (·.2.created) <;> rfl

theorem oldest_of_first {entries : List (Bytes × Entry)} {first : Bytes × Entry}
    (member : first ∈ entries)
    (before : ∀ other ∈ entries, other ≠ first → first.2.created < other.2.created) :
    oldest entries = some first := by
  rw [oldest_eq_argmin]
  cases found : entries.argmin (fun entry : Bytes × Entry => entry.2.created) with
  | none =>
    rw [List.argmin_eq_none.mp found] at member
    cases member
  | some other =>
    have late := List.le_of_mem_argmin (f := fun entry : Bytes × Entry => entry.2.created)
      member found
    by_cases same : other = first
    · rw [same]
    · have early := before other (List.argmin_mem found) same
      omega

end Keys
end TabletRoster
