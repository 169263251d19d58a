import TabletRoster.Text.Scan
import TabletRoster.Text.Numeral
import TabletRoster.Text.Shortest

namespace TabletRoster.Text

/-- The whole number next to `n / d`; of two equally near ones the even one. -/
def nearest (n d : Nat) : Nat :=
  let q := n / d
  let rest := n % d
  if 2 * rest < d then q
  else if d < 2 * rest then q + 1
  else q + q % 2

def ratioLog (n d : Nat) : Int :=
  let log : Int := (n.log2 : Int) - d.log2
  if n * Nat.pow 2 (-log).toNat < d * Nat.pow 2 log.toNat then log - 1 else log

def ofRatio (n d : Nat) : Float :=
  let place := max (ratioLog n d - 52) (-1074)
  (Float.ofNat (nearest (n * Nat.pow 2 (-place).toNat) (d * Nat.pow 2 place.toNat))).scaleB place

def ofDecimal (n : Nat) (exponent : Int) : Float :=
  let size := (Nat.toDigits 10 n).length + exponent
  if n = 0 ∨ size < -330 then 0
  else if 310 < size then 1 / 0
  else ofRatio (n * Nat.pow 10 exponent.toNat) (Nat.pow 10 (-exponent).toNat)

def isDigit (c : Char) : Bool :=
  '0' ≤ c && c ≤ '9'

def minus : Scan Bool :=
  (do Scan.mark '-'; return true) <|> (do Scan.mark '+'; return false) <|> pure false

def exponentPart : Scan Int := do
  let _ ← Scan.charWhere fun c => c = 'e' || c = 'E'
  let below ← minus
  let digits ← Scan.run1 isDigit
  let size : Int := (digits? digits).getD 0
  return if below then -size else size

def decimalPart : Scan Float := do
  let whole ← Scan.run isDigit
  let after ← (do Scan.mark '.'; Scan.run isDigit) <|> pure []
  if whole.isEmpty && after.isEmpty then failure
  let exponent ← exponentPart <|> pure 0
  return ofDecimal ((digits? (whole ++ after)).getD 0) (exponent - after.length)

def wordFloat? (text : List Char) : Option Float :=
  match (String.ofList text).toLower with
  | "inf" => some (1 / 0)
  | "infinity" => some (1 / 0)
  | "nan" => some (0 / 0)
  | _ => none

def float? (text : List Char) : Option Float := do
  let (below, rest) ← minus text
  let size ← wordFloat? rest <|> Scan.whole decimalPart rest
  return if below then -size else size

def positional (x : Float) : String :=
  if x.isNaN then "NaN"
  else if x.isInf then (if x < 0 then "-inf" else "inf")
  else
    let sign := if x.toBits.toNat / Nat.pow 2 63 = 1 then "-" else ""
    match reach? x with
    | none => sign ++ "0"
    | some reach =>
      let (digits, place) := shortest reach
      let count : Int := digits.length
      let body :=
        if count ≤ place then digits ++ List.replicate (place - count).toNat '0'
        else if 0 < place then digits.take place.toNat ++ '.' :: digits.drop place.toNat
        else ['0', '.'] ++ List.replicate (-place).toNat '0' ++ digits
      sign ++ String.ofList body

def pointed (x : Float) : String :=
  let text := positional x
  if x.isFinite && !text.contains '.' then text ++ ".0" else text

end TabletRoster.Text
