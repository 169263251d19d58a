import TabletRoster.Settings.Value
import TabletRoster.Text.Fraction
import TabletRoster.Text.Blank

namespace TabletRoster.Settings.Relaxed

open Text (Scan)

def isSpace (c : Char) : Bool :=
  Text.isBlank c || c = '\uFEFF'

def lineComment : Scan Unit := do
  Scan.word "//"
  let _ ← Scan.run (· ≠ '\n')

def blockComment : Scan Unit := do
  Scan.word "/*"
  let rec close : List Char → Option (Unit × List Char)
    | '*' :: '/' :: rest => some ((), rest)
    | _ :: rest => close rest
    | [] => none
  close

def gap : Scan Unit := do
  let space : Scan Unit := do let _ ← Scan.charWhere isSpace
  let _ ← Scan.many (space <|> lineComment <|> blockComment) (← Scan.left)

def listed {α : Type} (item : Scan α) (close : Char) : Scan (List α) := do
  let padded : Scan α := do gap; let found ← item; gap; return found
  let items ← (do
    let first ← padded
    let rest ← Scan.many (do Scan.mark ','; padded) (← Scan.left)
    let _ ← Scan.optional (Scan.mark ',')
    return first :: rest) <|> pure []
  gap
  Scan.mark close
  return items

def isHex (c : Char) : Bool :=
  (Text.hexDigit? c).isSome

def code (digits : List Char) : Nat :=
  digits.foldl (fun n c => 16 * n + (Text.hexDigit? c).getD 0) 0

def charOf (digits : List Char) : Scan Char := do
  if (code digits).isValidChar then return Char.ofNat (code digits) else failure

def letter? : Char → Option Char
  | 'n' => some '\n'
  | 'r' => some '\r'
  | 't' => some '\t'
  | '0' => some '\x00'
  | '\\' => some '\\'
  | '\'' => some '\''
  | '"' => some '"'
  | _ => none

def word (text : String) (value : Value) : Scan Value := do
  Scan.word text
  return value

def sign : Scan (List Char) :=
  (do Scan.mark '-'; return ['-']) <|> (do Scan.mark '+'; return ['+']) <|> pure []

def isNumberChar (c : Char) : Bool :=
  c.isAlphanum || c = '.'

def numeral : Scan (List Char) := do
  let first ← Scan.charWhere fun c => c.isDigit || c = '.'
  let rest ← Scan.many
    ((do
      let e ← Scan.charWhere fun c => c = 'e' || c = 'E'
      return e :: (← sign)) <|>
      do return [← Scan.charWhere isNumberChar]) (← Scan.left)
  return first :: rest.flatten

def decimal (text : List Char) : Scan Value :=
  if text.any fun c => c = '.' || c = 'e' || c = 'E' then
    match Text.float? text with
    | some x => return .real x
    | none => failure
  else
    match Text.integer? (Nat.pow 2 63) text with
    | some n => return .integer n
    | none => failure

def based (mark : String) (base : Nat) (text : List Char) : Scan Value := do
  match Text.after? mark.toList text with
  | some (c :: rest) =>
    let digits := c :: rest
    if digits.any fun c => !((Text.hexDigit? c).any (· < base)) then failure
    let n := digits.foldl (fun n c => base * n + (Text.hexDigit? c).getD 0) 0
    if n < Nat.pow 2 63 then return .integer n else failure
  | _ => failure

def whole (value : Scan Value) (text : List Char) : Option Value :=
  Scan.whole (do gap; let found ← value; gap; return found) text

end TabletRoster.Settings.Relaxed
