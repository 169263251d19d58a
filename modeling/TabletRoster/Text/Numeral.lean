namespace TabletRoster.Text

def digit? (c : Char) : Option Nat :=
  if '0' ≤ c ∧ c ≤ '9' then some (c.toNat - '0'.toNat) else none

def digits? : List Char → Option Nat
  | [] => none
  | row => row.foldlM (fun value c => (digit? c).map (value * 10 + ·)) 0

def natural? (limit : Nat) (text : List Char) : Option Nat :=
  let row := match text with
    | '+' :: row => row
    | row => row
  (digits? row).filter (· < limit)

theorem digit_of_isDigit {c : Char} (digit : c.isDigit = true) :
    digit? c = some (c.toNat - '0'.toNat) := by
  have bounds : '0' ≤ c ∧ c ≤ '9' := by
    simp only [Char.isDigit, Bool.and_eq_true, decide_eq_true_eq] at digit
    exact digit
  simp [digit?, bounds]

theorem digits_fold {row : List Char} (all : ∀ c ∈ row, c.isDigit = true) (value : Nat) :
    row.foldlM (fun value c => (digit? c).map (value * 10 + ·)) value =
      some (Nat.ofDigitChars 10 row value) := by
  induction row generalizing value with
  | nil => simp
  | cons c rest ih =>
    have digit := digit_of_isDigit (all c (by simp))
    rw [List.foldlM_cons, digit, Nat.ofDigitChars_cons, Nat.mul_comm]
    exact ih (fun c member => all c (List.mem_cons_of_mem _ member)) _

theorem natural_toDigits {limit n : Nat} (small : n < limit) :
    natural? limit (Nat.toDigits 10 n) = some n := by
  have all : ∀ c ∈ Nat.toDigits 10 n, c.isDigit = true :=
    fun c member => Nat.isDigit_of_mem_toDigits (by decide) (by decide) member
  have value : digits? (Nat.toDigits 10 n) = some n := by
    have fold := digits_fold all 0
    rw [Nat.ofDigitChars_ten_toDigits] at fold
    rw [digits?.eq_def]
    split
    · rename_i empty
      exact absurd empty Nat.toDigits_ne_nil
    · exact fold
  unfold natural?
  split
  · rename_i row found
    have sign := all '+' (by rw [found]; exact List.mem_cons_self)
    simp at sign
  · simp [value, small]

def integer? (bound : Nat) (text : List Char) : Option Int :=
  match text with
  | '-' :: row => (digits? row).bind fun n => if n ≤ bound then some (-(n : Int)) else none
  | row => (natural? bound row).map Int.ofNat

def hexDigit? (c : Char) : Option Nat :=
  if '0' ≤ c ∧ c ≤ '9' then some (c.toNat - '0'.toNat)
  else if 'a' ≤ c ∧ c ≤ 'f' then some (c.toNat - 'a'.toNat + 10)
  else if 'A' ≤ c ∧ c ≤ 'F' then some (c.toNat - 'A'.toNat + 10)
  else none

def hex (n : Nat) : String :=
  String.ofList (Nat.toDigits 16 n)

def hexBytes (bytes : List UInt8) : String :=
  String.ofList (bytes.flatMap fun b => [Nat.digitChar (b.toNat / 16), Nat.digitChar (b.toNat % 16)])

def unhex? : List Char → Option (List UInt8)
  | [] => some []
  | [_] => none
  | high :: low :: rest => do
    return (16 * (← hexDigit? high) + (← hexDigit? low)).toUInt8 :: (← unhex? rest)

def hexWord (word : Int64) : String :=
  hex word.toUInt64.toNat

end TabletRoster.Text
