import TabletRoster.Address

namespace TabletRoster.Address

/-- A host in brackets that does not need them would lose them when it is read. -/
def Bracketed (host : List Char) : Prop :=
  ∃ inner, host = '[' :: inner ++ [']']

def shown (host : List Char) : List Char :=
  if ':' ∈ host then '[' :: host ++ [']'] else host

theorem text_toList (a : Address) :
    a.text.toList = shown a.host.toList ++ ':' :: Nat.toDigits 10 a.port.toNat := by
  unfold text shown
  simp only [List.contains_iff_mem]
  split <;> simp <;> rfl

theorem unbracket_bracketed (inner : List Char) : unbracket ('[' :: inner ++ [']']) = inner := by
  simp [unbracket]

theorem unbracket_plain {host : List Char} (plain : ¬ Bracketed host) : unbracket host = host := by
  unfold unbracket
  split
  · rename_i inner
    split
    · rename_i last
      obtain ⟨middle, whole⟩ := List.getLast?_eq_some_iff.mp last
      exact absurd ⟨middle, by rw [whole, List.cons_append]⟩ plain
    · rfl
  · rfl

theorem unbracket_shown {host : List Char} (plain : ':' ∉ host → ¬ Bracketed host) :
    unbracket (shown host) = host := by
  unfold shown
  split
  · exact unbracket_bracketed host
  · rename_i bare
    exact unbracket_plain (plain bare)

theorem not_mem_toDigits {n : Nat} {c : Char} (special : c.isDigit = false) :
    c ∉ Nat.toDigits 10 n := by
  intro member
  have digit := Nat.isDigit_of_mem_toDigits (by decide) (by decide) member
  simp [special] at digit

/-- A text names an address whose host is not empty and not put in needless brackets. -/
theorem parse_text {a : Address} (named : a.host ≠ "")
    (plain : ':' ∉ a.host.toList → ¬ Bracketed a.host.toList) : parse a.text = .ok a := by
  have colon : ':' ∉ Nat.toDigits 10 a.port.toNat := not_mem_toDigits (by decide)
  have cut := Text.cutLast_at (shown a.host.toList) colon
  rw [← text_toList] at cut
  have nonempty : a.host.toList.isEmpty = false := by simpa using named
  have port := Text.natural_toDigits a.port.toNat_lt
  simp only [parse, cut, unbracket_shown plain, nonempty]
  simp [port]

/-- An address that can be a part of a key: it reads back, and it has no slash in it. -/
structure WellFormed (a : Address) : Prop where
  named : a.host ≠ ""
  unslashed : '/' ∉ a.host.toList
  unbracketed : ':' ∉ a.host.toList → ¬ Bracketed a.host.toList

theorem text_unslashed {a : Address} (host : '/' ∉ a.host.toList) : '/' ∉ a.text.toList := by
  have digits : '/' ∉ Nat.toDigits 10 a.port.toNat := not_mem_toDigits (by decide)
  rw [text_toList]
  unfold shown
  split <;> simp [digits, host]

theorem mem_unbracket {host : List Char} {c : Char} (member : c ∈ unbracket host) : c ∈ host := by
  unfold unbracket at member
  split at member
  · rename_i inner
    split at member
    · exact List.mem_cons_of_mem _ (List.dropLast_subset inner member)
    · exact member
  · exact member

theorem mem_of_parse {text : String} {a : Address} (parsed : parse text = .ok a) {c : Char}
    (member : c ∈ a.host.toList) : c ∈ text.toList := by
  simp only [parse] at parsed
  split at parsed
  · cases parsed
  · rename_i host port cut
    split at parsed
    · cases parsed
    · split at parsed
      · cases parsed
      · cases parsed
        rw [String.toList_ofList] at member
        rw [Text.cutLast_join cut]
        exact List.mem_append_left _ (mem_unbracket member)

theorem shown_inj {a b : List Char} (same : shown a = shown b) : a = b := by
  unfold shown at same
  split at same <;> split at same
  · simpa using same
  · rename_i colon plain
    exact absurd (same ▸ (by simp [colon])) plain
  · rename_i plain colon
    exact absurd (same ▸ (by simp [colon])) plain
  · exact same

theorem text_inj {a b : Address} (same : a.text = b.text) : a = b := by
  have cut (a : Address) : Text.cutLast ':' a.text.toList =
      some (shown a.host.toList, Nat.toDigits 10 a.port.toNat) := by
    rw [text_toList]
    exact Text.cutLast_at _ (not_mem_toDigits (by decide))
  have halves := (cut a).symm.trans ((congrArg (Text.cutLast ':' ·.toList) same).trans (cut b))
  simp only [Option.some.injEq, Prod.mk.injEq] at halves
  have host : a.host = b.host := String.toList_inj.mp (shown_inj halves.1)
  have port : a.port.toNat = b.port.toNat := by
    have read := congrArg (Text.natural? UInt16.size) halves.2
    rw [Text.natural_toDigits a.port.toNat_lt, Text.natural_toDigits b.port.toNat_lt] at read
    exact Option.some.inj read
  cases a
  cases b
  simp_all [UInt16.toNat_inj]

end TabletRoster.Address
