import TabletRoster.Text.Numeral

namespace TabletRoster.Text

theorem toDigits_last {base : Nat} (large : 1 < base) (n : Nat) :
    Nat.toDigits base n =
      (if n < base then [] else Nat.toDigits base (n / base)) ++ [Nat.digitChar (n % base)] := by
  rw [Nat.toDigits_eq_if large]
  split
  · rename_i small
    rw [Nat.mod_eq_of_lt small, List.nil_append]
  · rfl

theorem digitChar_inj : ∀ m < 16, ∀ n < 16, Nat.digitChar m = Nat.digitChar n → m = n := by
  decide

theorem hexDigits_inj {m n : Nat} (same : Nat.toDigits 16 m = Nat.toDigits 16 n) : m = n := by
  induction m using Nat.strongRecOn generalizing n with
  | ind m ih =>
    rw [toDigits_last (by decide) m, toDigits_last (by decide) n] at same
    obtain ⟨front, last⟩ := List.append_inj' same rfl
    have low : m % 16 = n % 16 :=
      digitChar_inj _ (Nat.mod_lt _ (by decide)) _ (Nat.mod_lt _ (by decide)) (List.cons.inj last).1
    split at front <;> split at front
    · omega
    · exact absurd front.symm Nat.toDigits_ne_nil
    · exact absurd front Nat.toDigits_ne_nil
    · have high := ih (m / 16) (by omega) front
      omega

theorem hexWord_inj {a b : Int64} (same : hexWord a = hexWord b) : a = b := by
  have digits := String.ofList_injective same
  exact congrArg Int64.ofUInt64 (UInt64.toNat_inj.mp (hexDigits_inj digits))

theorem digit_read {c : Char} {d : Nat} (read : digit? c = some d) :
    d < 10 ∧ c = Nat.digitChar d := by
  unfold digit? at read
  split at read
  · rename_i bounds
    cases read
    have low : 48 ≤ c.toNat := bounds.1
    have high : c.toNat ≤ 57 := bounds.2
    have zero : '0'.toNat = 48 := rfl
    refine ⟨by omega, ?_⟩
    apply Char.toNat_inj.mp
    rw [Nat.toNat_digitChar_of_lt_ten (by omega)]
    omega
  · cases read

theorem toDigits_behind {row : List Char} {value n : Nat} (positive : 0 < value)
    (read : row.foldlM (fun value c => (digit? c).map (value * 10 + ·)) value = some n) :
    Nat.toDigits 10 n = Nat.toDigits 10 value ++ row := by
  induction row generalizing value with
  | nil =>
    cases read
    exact (List.append_nil _).symm
  | cons c rest ih =>
    rw [List.foldlM_cons] at read
    obtain ⟨longer, first, further⟩ := Option.bind_eq_some_iff.mp read
    obtain ⟨d, digit, rfl⟩ := Option.map_eq_some_iff.mp first
    obtain ⟨small, rfl⟩ := digit_read digit
    have large : ¬ value * 10 + d < 10 := by omega
    have front : (value * 10 + d) / 10 = value := by omega
    have last : (value * 10 + d) % 10 = d := by omega
    rw [ih (by omega) further, toDigits_last (by decide) (value * 10 + d), if_neg large, front, last,
      List.append_assoc, List.singleton_append]

theorem toDigits_head {n : Nat} (positive : 0 < n) :
    ∃ c rest, Nat.toDigits 10 n = c :: rest ∧ c ≠ '0' := by
  induction n using Nat.strongRecOn with
  | ind n ih =>
    rw [toDigits_last (by decide) n]
    split
    · rename_i small
      refine ⟨Nat.digitChar n, [], by rw [Nat.mod_eq_of_lt small]; rfl, ?_⟩
      intro zero
      have nothing := digitChar_inj n (by omega) 0 (by decide) zero
      omega
    · obtain ⟨c, rest, front, nonzero⟩ := ih (n / 10) (by omega) (by omega)
      exact ⟨c, _, by rw [front, List.cons_append], nonzero⟩

def PlainNumeral (row : List Char) : Prop :=
  row.head? ≠ some '+' ∧ (row.head? = some '0' → row = ['0'])

theorem plain_toDigits (n : Nat) : PlainNumeral (Nat.toDigits 10 n) := by
  constructor
  · intro signed
    have digit := Nat.isDigit_of_mem_toDigits (b := 10) (by decide) (by decide)
      (List.mem_of_mem_head? signed)
    simp at digit
  · intro zero
    rcases Nat.eq_zero_or_pos n with rfl | positive
    · rfl
    · obtain ⟨c, rest, whole, nonzero⟩ := toDigits_head positive
      rw [whole, List.head?_cons, Option.some.injEq] at zero
      exact absurd zero nonzero

theorem digits_of_plain {row : List Char} {n : Nat} (plain : row.head? = some '0' → row = ['0'])
    (read : digits? row = some n) : row = Nat.toDigits 10 n := by
  cases row with
  | nil => cases read
  | cons c rest =>
    by_cases zero : c = '0'
    · subst zero
      cases plain rfl
      cases read
      rfl
    · have read : (c :: rest).foldlM (fun value c => (digit? c).map (value * 10 + ·)) 0 = some n :=
        read
      rw [List.foldlM_cons] at read
      obtain ⟨value, first, further⟩ := Option.bind_eq_some_iff.mp read
      obtain ⟨d, digit, rfl⟩ := Option.map_eq_some_iff.mp first
      obtain ⟨small, rfl⟩ := digit_read digit
      have positive : 0 < d := by
        rcases Nat.eq_zero_or_pos d with rfl | positive
        · exact absurd rfl zero
        · exact positive
      rw [Nat.zero_mul, Nat.zero_add] at further
      rw [toDigits_behind positive further, Nat.toDigits_of_lt_base small, List.singleton_append]

theorem natural_plain_iff {limit n : Nat} {row : List Char} (read : natural? limit row = some n) :
    row = Nat.toDigits 10 n ↔ PlainNumeral row := by
  constructor
  · intro written
    rw [written]
    exact plain_toDigits n
  · intro plain
    unfold natural? at read
    split at read
    · exact absurd rfl plain.1
    · exact digits_of_plain plain.2 (Option.filter_eq_some_iff.mp read).1

end TabletRoster.Text
