import TabletRoster.Json.Reader
import TabletRoster.Json.Writer

namespace TabletRoster.Json

def Delimited : Bytes → Prop
  | [] => True
  | b :: _ => b = 0x2C ∨ b = 0x5D ∨ b = 0x7D

/-- A value is taken off the front of a text as it was written. -/
def ReadsBack {α : Type} (read : Reader α) (written : Bytes) (value : α) : Prop :=
  ∀ rest, Delimited rest → read (written ++ rest) = .ok (value, rest)

theorem run_bind {α β : Type} {read : Reader α} {next : α → Reader β} {text rest : Bytes}
    {value : α} (found : read text = .ok (value, rest)) :
    (read >>= next) text = next value rest := by
  change (read text >>= fun taken => next taken.1 taken.2) = _
  rw [found]
  rfl

theorem ReadsBack.map {α β : Type} {read : Reader α} {written : Bytes} {value : α}
    (reads : ReadsBack read written value) (f : α → β) :
    ReadsBack (do return f (← read)) written (f value) := by
  intro rest delimited
  exact run_bind (reads rest delimited)

theorem dropSpace_cons {b : UInt8} (visible : isSpace b = false) (rest : Bytes) :
    dropSpace (b :: rest) = b :: rest := by
  simp [dropSpace, visible]

/-! ### Strings -/

def Plain (b : UInt8) : Prop := b ≠ 0x5C ∧ b ≠ 0x22 ∧ 0x20 ≤ b

theorem content_quote (read rest : Bytes) :
    content none read (0x22 :: rest) = .ok (read.reverse, rest) := by
  simp [content]

theorem content_plain {b : UInt8} (plain : Plain b) (read rest : Bytes) :
    content none read (b :: rest) = content none (b :: read) rest := by
  obtain ⟨backslash, quote, visible⟩ := plain
  have low : ¬ b < 0x20 := UInt8.not_lt.mpr visible
  rw [content]
  · simp [quote, low]
  all_goals simp [backslash]

theorem content_plains {bytes : Bytes} (plain : ∀ b ∈ bytes, Plain b) (read rest : Bytes) :
    content none read (bytes ++ rest) = content none (bytes.reverse ++ read) rest := by
  induction bytes generalizing read with
  | nil => rfl
  | cons b bytes ih =>
    have later := ih (fun other member => plain other (List.mem_cons_of_mem b member)) (b :: read)
    rw [List.cons_append, content_plain (plain b List.mem_cons_self), later, List.reverse_cons,
      List.append_assoc, List.singleton_append]

theorem content_short {b byte : UInt8} (escaped : escape? b = some byte) (other : b ≠ 0x75)
    (read rest : Bytes) :
    content none read (0x5C :: b :: rest) = content none (byte :: read) rest := by
  rw [content]
  case heq => exact escaped
  all_goals simp [other]

theorem content_unit {a b c d : UInt8} {code : Nat} (unit : unit? a b c d = some code)
    (small : code < 0xD800) (read rest : Bytes) :
    content none read (0x5C :: 0x75 :: a :: b :: c :: d :: rest) =
      content none ((unitBytes code).reverse ++ read) rest := by
  rw [content.eq_def]
  simp only [unit]
  rw [if_neg (by omega), if_neg (by omega)]

theorem unit_control : ∀ code < 0x20,
    unit? 0x30 0x30 (hexLetter (code / 16)) (hexLetter (code % 16)) = some code := by
  decide

theorem plain_of_high {n : Nat} (low : 0x80 ≤ n) (high : n < 0x100) : Plain (UInt8.ofNat n) := by
  have value : (UInt8.ofNat n).toNat = n := by
    rw [UInt8.toNat_ofNat']
    omega
  have other {b : UInt8} (ascii : b.toNat < 0x80) : UInt8.ofNat n ≠ b := by
    rintro rfl
    omega
  refine ⟨other (by decide), other (by decide), ?_⟩
  rw [UInt8.le_iff_toNat_le, value]
  exact Nat.le_trans (by decide) low

theorem plain_utf8 {c : Char} (visible : 0x20 ≤ c.toNat) (quote : c ≠ '"') (backslash : c ≠ '\\') :
    ∀ b ∈ String.utf8EncodeChar c, Plain b := by
  have value : c.toNat = c.val.toNat := rfl
  intro b member
  simp only [String.utf8EncodeChar] at member
  split at member
  · rename_i ascii
    obtain rfl := List.mem_singleton.mp member
    have same : (UInt8.ofNat c.val.toNat).toNat = c.val.toNat := by
      rw [UInt8.toNat_ofNat']
      omega
    have other {d : Char} (different : c ≠ d) (low : d.val.toNat < 0x80) :
        UInt8.ofNat c.val.toNat ≠ UInt8.ofNat d.val.toNat := by
      intro equal
      have codes := congrArg UInt8.toNat equal
      rw [same, UInt8.toNat_ofNat', Nat.mod_eq_of_lt (by omega)] at codes
      exact different (Char.ext (UInt32.toNat_inj.mp codes))
    refine ⟨other backslash (by decide), other quote (by decide), ?_⟩
    rw [UInt8.le_iff_toNat_le, same]
    exact visible
  split at member
  · simp only [List.mem_cons, List.not_mem_nil, or_false] at member
    rcases member with rfl | rfl <;> exact plain_of_high (by omega) (by omega)
  split at member
  · simp only [List.mem_cons, List.not_mem_nil, or_false] at member
    rcases member with rfl | rfl | rfl <;> exact plain_of_high (by omega) (by omega)
  · simp only [List.mem_cons, List.not_mem_nil, or_false] at member
    rcases member with rfl | rfl | rfl | rfl <;> exact plain_of_high (by omega) (by omega)

theorem content_escape (c : Char) (read rest : Bytes) :
    content none read (escape c ++ rest) =
      content none ((String.utf8EncodeChar c).reverse ++ read) rest := by
  unfold escape
  split
  case isTrue same => exact same ▸ content_short (by decide) (by decide) read rest
  rename_i quote
  split
  case isTrue same => exact same ▸ content_short (by decide) (by decide) read rest
  rename_i backslash
  split
  case isTrue same => exact same ▸ content_short (by decide) (by decide) read rest
  split
  case isTrue same => exact same ▸ content_short (by decide) (by decide) read rest
  split
  case isTrue same => exact same ▸ content_short (by decide) (by decide) read rest
  split
  case isTrue same => exact same ▸ content_short (by decide) (by decide) read rest
  split
  case isTrue same => exact same ▸ content_short (by decide) (by decide) read rest
  split
  case isTrue control =>
    have small : c.toNat < 0xD800 := Nat.lt_trans control (by decide)
    have read := content_unit (unit_control c.toNat control) small read rest
    rwa [unitBytes, Char.ofNat_toNat] at read
  case isFalse visible =>
    exact content_plains (plain_utf8 (by omega) quote backslash) read rest

def afterQuote (text : String) : Bytes :=
  text.toList.flatMap escape ++ [0x22]

theorem writeString_eq (text : String) : writeString text = 0x22 :: afterQuote text := rfl

theorem content_afterQuote (text : List Char) (read rest : Bytes) :
    content none read (text.flatMap escape ++ 0x22 :: rest) =
      .ok (read.reverse ++ text.flatMap String.utf8EncodeChar, rest) := by
  induction text generalizing read with
  | nil => simpa using content_quote read rest
  | cons c text ih =>
    rw [List.flatMap_cons, List.append_assoc, content_escape, ih, List.flatMap_cons,
      List.reverse_append, List.reverse_reverse, List.append_assoc]

theorem encode_eq (text : String) :
    Text.Utf8.encode text = text.toList.flatMap String.utf8EncodeChar := by
  have bytes : text.toUTF8 = text.toList.utf8Encode := String.utf8Encode_toList.symm
  rw [Text.Utf8.encode, bytes, List.utf8Encode, List.toList_data_toByteArray]

theorem string_afterQuote (text : String) (rest : Bytes) :
    string (afterQuote text ++ rest) = .ok (text, rest) := by
  have read : content none [] (afterQuote text ++ rest) = .ok (Text.Utf8.encode text, rest) := by
    rw [afterQuote, List.append_assoc, List.singleton_append, content_afterQuote, encode_eq]
    rfl
  unfold string
  rw [run_bind read, Text.Utf8.decode_encode]
  rfl

theorem stringOr_here (expected text : String) (rest : Bytes) :
    stringOr expected (writeString text ++ rest) = .ok (text, rest) := by
  rw [writeString_eq, List.cons_append]
  unfold stringOr
  rw [dropSpace_cons (by decide)]
  exact string_afterQuote text rest

theorem text_written (text : String) : ReadsBack Json.text (writeString text) text :=
  fun rest _ => stringOr_here _ text rest

/-! ### Numbers -/

theorem digit_of : ∀ d < 10, digit? (0x30 + d).toUInt8 = some d := by
  decide

theorem digit_nonzero : ∀ d < 10, 0 < d → (0x30 + d).toUInt8 ≠ 0x30 := by
  decide

theorem digit_visible : ∀ d < 10, isSpace (0x30 + d).toUInt8 = false := by
  decide

theorem digit_unsigned : ∀ d < 10, (0x30 + d).toUInt8 ≠ 0x2D := by
  decide

theorem starts_digit {d : Nat} (small : d < 10) (rest : Bytes) :
    startsDigit ((0x30 + d).toUInt8 :: rest) = true := by
  rw [startsDigit, List.head?_cons, Option.bind_some, digit_of d small]
  rfl

theorem digits_small {n : Nat} (small : n < 10) : digits n = [(0x30 + n).toUInt8] := by
  rw [digits, if_pos small]

theorem digits_large {n : Nat} (large : 10 ≤ n) :
    digits n = digits (n / 10) ++ [(0x30 + n % 10).toUInt8] := by
  rw [digits, if_neg (by omega)]

theorem digits_head (n : Nat) :
    ∃ d tail, d < 10 ∧ (0 < n → 0 < d) ∧ digits n = (0x30 + d).toUInt8 :: tail := by
  induction n using Nat.strongRecOn with
  | ind n ih =>
    by_cases small : n < 10
    · exact ⟨n, [], small, id, digits_small small⟩
    · obtain ⟨d, tail, high, low, head⟩ := ih (n / 10) (by omega)
      refine ⟨d, tail ++ [(0x30 + n % 10).toUInt8], high, fun _ => low (by omega), ?_⟩
      rw [digits_large (by omega), head, List.cons_append]

theorem significand_digit {value d : Nat} (small : d < 10) (fits : value * 10 + d < UInt64.size)
    (taken : Nat) (rest : Bytes) :
    significand value taken 0 ((0x30 + d).toUInt8 :: rest) =
      significand (value * 10 + d) (taken + 1) 0 rest := by
  rw [significand, digit_of d small]
  simp [fits]

theorem significand_digits {n : Nat} (fits : n < UInt64.size) (taken : Nat) (rest : Bytes) :
    ∃ count, significand 0 taken 0 (digits n ++ rest) = significand n count 0 rest := by
  induction n using Nat.strongRecOn generalizing rest with
  | ind n ih =>
    by_cases small : n < 10
    · refine ⟨taken + 1, ?_⟩
      rw [digits_small small, List.singleton_append, significand_digit small (by omega),
        Nat.zero_mul, Nat.zero_add]
    · obtain ⟨count, front⟩ := ih (n / 10) (by omega) (by omega) ((0x30 + n % 10).toUInt8 :: rest)
      refine ⟨count + 1, ?_⟩
      rw [digits_large (by omega), List.append_assoc, List.singleton_append, front,
        significand_digit (by omega) (by omega)]
      congr 1
      omega

theorem digit_delimited {rest : Bytes} (delimited : Delimited rest) : startsDigit rest = false := by
  cases rest with
  | nil => rfl
  | cons b rest => rcases delimited with rfl | rfl | rfl <;> rfl

theorem significand_delimited {rest : Bytes} (delimited : Delimited rest) (value taken : Nat) :
    significand value taken 0 rest = (value, taken, 0, rest) := by
  cases rest with
  | nil => rfl
  | cons b rest => rcases delimited with rfl | rfl | rfl <;> rfl

theorem fraction_delimited {rest : Bytes} (delimited : Delimited rest) (value : Nat) :
    fraction true value 0 rest = .ok (.natural value.toUInt64, rest) := by
  cases rest with
  | nil => rfl
  | cons b rest => rcases delimited with rfl | rfl | rfl <;> rfl

theorem number_digits {n : Nat} (fits : n < UInt64.size) :
    ReadsBack (number true) (digits n) (.natural n.toUInt64) := by
  intro rest delimited
  by_cases zero : n = 0
  · subst zero
    rw [digits_small (by decide), List.singleton_append]
    change (if startsDigit rest then _ else fraction true 0 0 rest) = _
    rw [digit_delimited delimited, if_neg (by decide), fraction_delimited delimited]
  · obtain ⟨d, tail, high, low, head⟩ := digits_head n
    obtain ⟨count, whole⟩ := significand_digits fits 0 rest
    rw [significand_delimited delimited] at whole
    rw [head, List.cons_append] at whole ⊢
    have digit := starts_digit high (tail ++ rest)
    have nonzero := digit_nonzero d high (low (Nat.pos_of_ne_zero zero))
    rw [number]
    · rw [if_pos digit, whole]
      exact fraction_delimited delimited n
    · intro empty
      cases empty
    · intro rest same
      exact nonzero (List.cons.inj same).1

theorem anyNumber_digits {n : Nat} (expected : String) (fits : n < UInt64.size) :
    ReadsBack (anyNumber expected) (digits n) (.natural n.toUInt64) := by
  intro rest delimited
  have read := number_digits fits rest delimited
  obtain ⟨d, tail, high, _, head⟩ := digits_head n
  rw [head, List.cons_append] at read ⊢
  have digit := starts_digit high (tail ++ rest)
  unfold anyNumber
  rw [dropSpace_cons (digit_visible d high)]
  split
  · rename_i same
    exact absurd (List.cons.inj same).1 (digit_unsigned d high)
  · rw [if_pos digit, read]

theorem natural_written {bits n : Nat} (small : n < Nat.pow 2 bits) (fits : n < UInt64.size) :
    ReadsBack (natural bits) (digits n) n := by
  intro rest delimited
  have same : n.toUInt64.toNat = n := UInt64.toNat_ofNat_of_lt' fits
  unfold natural
  rw [run_bind (anyNumber_digits _ fits rest delimited)]
  simp only [Number.toNatural, same, if_pos small]
  rfl

theorem writeFloat_zero : writeFloat 0 = [0x30, 0x2E, 0x30] := by
  decide +kernel

theorem scale_zero : scale (Nat.toUInt64 0).toFloat (-1) = some 0 := by
  rw [scale]
  decide +kernel

theorem fraction_tenths {rest : Bytes} (delimited : Delimited rest) :
    fraction true 0 0 (0x2E :: 0x30 :: rest) = .ok (.decimal 0, rest) := by
  have digits : significand 0 0 0 (0x30 :: rest) = (0, 1, 0, rest) := by
    rw [significand]
    exact significand_delimited delimited 0 1
  have tenths : scaled true 0 (-1) rest = .ok (.decimal 0, rest) := by
    rw [scaled, scale_zero]
    rfl
  rw [fraction]
  · simp only [digits]
    cases rest with
    | nil => exact tenths
    | cons b rest => rcases delimited with rfl | rfl | rfl <;> exact tenths
  · exact List.cons_ne_nil _ _

theorem zero_written : ReadsBack float (writeFloat 0) 0 := by
  intro rest delimited
  have read : anyNumber "f64" (writeFloat 0 ++ rest) = .ok (.decimal 0, rest) := by
    rw [writeFloat_zero]
    exact fraction_tenths delimited
  rw [float, run_bind read]
  rfl

end TabletRoster.Json
