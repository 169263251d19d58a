namespace TabletRoster.Text

/-- The reals that round to a positive double, in units of `1 / scale`: the double itself, the
bounds, and whether the bounds belong to them. -/
structure Reach where
  center : Nat
  low : Nat
  high : Nat
  scale : Nat
  closed : Bool

def Reach.of (m : Nat) (q : Int) (closer : Bool) : Reach :=
  let up := Nat.pow 2 (q - 2).toNat
  ⟨4 * m * up, (4 * m - if closer then 1 else 2) * up, (4 * m + 2) * up,
    Nat.pow 2 (2 - q).toNat, m % 2 == 0⟩

def Reach.holds (r : Reach) (n : Nat) : Bool :=
  if r.closed then r.low ≤ n && n ≤ r.high else r.low < n && n < r.high

def magnitude (r : Reach) : Int :=
  let whole := r.center / r.scale
  if whole = 0 then
    let rec zeros : Nat → Nat → Int → Int
      | 0, _, found => found
      | fuel + 1, n, found => if r.scale ≤ n * 10 then found else zeros fuel (n * 10) (found - 1)
    zeros 400 r.center 0
  else (Nat.toDigits 10 whole).length

def gridPoint? (r : Reach) (size : Int) (count : Nat) : Option Nat :=
  let place := size - count
  let grid := Nat.pow 10 place.toNat * r.scale
  let fine := Nat.pow 10 (-place).toNat
  let below := r.center * fine / grid
  let holds (n : Nat) : Bool :=
    Reach.holds { r with low := r.low * fine, high := r.high * fine } (n * grid)
  let rest := r.center * fine % grid
  let nearer := if 2 * rest < grid then below
    else if 2 * rest > grid then below + 1
    else if below % 2 = 0 then below else below + 1
  let other := if nearer = below then below + 1 else below
  if holds nearer then some nearer else if holds other then some other else none

/-- Digits and the place of the point before them, so that the value is `0.digits · 10 ^ place`. -/
def shortest (r : Reach) : List Char × Int :=
  let size := magnitude r
  let found := (List.range 17).findSome? fun n => gridPoint? r size (n + 1)
  let digits := Nat.toDigits 10 (found.getD 0)
  let count := ((List.range 17).find? fun n => (gridPoint? r size (n + 1)).isSome).getD 0 + 1
  let place := size + (digits.length - count : Int)
  let kept := (digits.reverse.dropWhile (· = '0')).reverse
  (kept, place)

/-- Digits around the point for values that need at most sixteen places before it or so many zeros
after it, an exponent otherwise. A whole number keeps one zero after the point. -/
def layoutDecimal (zeros : Nat) (digits : List Char) (place : Int) : List Char :=
  let count : Int := digits.length
  if count ≤ place ∧ place ≤ 16 then
    digits ++ List.replicate (place - count).toNat '0' ++ ['.', '0']
  else if 0 < place ∧ place ≤ 16 then
    digits.take place.toNat ++ '.' :: digits.drop place.toNat
  else if -zeros ≤ place ∧ place ≤ 0 then
    ['0', '.'] ++ List.replicate (-place).toNat '0' ++ digits
  else
    let mantissa := match digits with
      | first :: second :: rest => first :: '.' :: second :: rest
      | few => few
    mantissa ++ 'e' :: (toString (place - 1)).toList

def reach? (x : Float) : Option Reach :=
  let bits := x.toBits.toNat
  let exponent : Nat := bits / Nat.pow 2 52 % Nat.pow 2 11
  let fraction : Nat := bits % Nat.pow 2 52
  if exponent = 0 ∧ fraction = 0 then none
  else if exponent = 0 then some (.of fraction (-1074) false)
  else some (.of (Nat.pow 2 52 + fraction) ((exponent : Int) - 1075) (fraction == 0 && exponent > 1))

def decimalWith (zeros : Nat) (x : Float) : String :=
  let sign := if x.toBits.toNat / Nat.pow 2 63 = 1 then ['-'] else []
  let body := match reach? x with
    | none => ['0', '.', '0']
    | some reach =>
      let (digits, place) := shortest reach
      layoutDecimal zeros digits place
  String.ofList (sign ++ body)

def decimal (x : Float) : String :=
  decimalWith 4 x

def debugDecimal (x : Float) : String :=
  decimalWith 3 x

end TabletRoster.Text
