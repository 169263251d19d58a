import TabletRoster.Settings.Relaxed

namespace TabletRoster.Settings.Ron

open Text (Scan)
open Relaxed

def escape : Scan (List Char) := do
  match ← Scan.charWhere fun _ => true with
  | 'x' => return [← charOf (← Scan.exactly isHex 2)]
  | 'u' =>
    Scan.mark '\x7b'
    let digits ← Scan.run1 isHex
    Scan.mark '\x7d'
    return [← charOf digits]
  | '\n' =>
    let _ ← Scan.run isSpace
    return []
  | c =>
    match letter? c with
    | some c => return [c]
    | none => failure

def text : Scan String :=
  (do
    Scan.mark '"'
    let piece : Scan (List Char) :=
      (do Scan.mark '\\'; escape) <|> do return [← Scan.charWhere fun c => c ≠ '"' && c ≠ '\\']
    let pieces ← Scan.many piece (← Scan.left)
    Scan.mark '"'
    return String.ofList pieces.flatten) <|> do
  Scan.mark 'r'
  let signs ← Scan.run (· = '#')
  Scan.mark '"'
  let close := String.ofList ('"' :: signs)
  let inside : Scan Char := fun rest =>
    if (Text.after? close.toList rest).isSome then none else Scan.charWhere (fun _ => true) rest
  let found ← Scan.many inside (← Scan.left)
  Scan.word close
  return String.ofList found

def character : Scan String := do
  Scan.mark '\''
  let c ← (do Scan.mark '\\'; escape) <|> do return [← Scan.charWhere fun c => c ≠ '\\']
  Scan.mark '\''
  return String.ofList c

def isNameChar (c : Char) : Bool :=
  c.isAlphanum || c = '_'

def name : Scan String := do
  let first ← Scan.charWhere fun c => c.isAlpha || c = '_'
  return String.ofList (first :: (← Scan.run isNameChar))

def number : Scan Value := do
  let sign ← sign
  let text := (← numeral).filter (· ≠ '_')
  (if sign.isEmpty then based "0x" 16 text <|> based "0o" 8 text <|> based "0b" 2 text
    else failure) <|> decimal (sign ++ text)

def value : (depth : Nat) → Scan Value
  | 0 => failure
  | depth + 1 =>
    let colon : Scan Unit := do gap; Scan.mark ':'; gap
    let field : Scan (String × Value) := do
      let key ← name
      colon
      return (key, ← value depth)
    let pair : Scan (String × Value) := do
      let key ← text <|> character
      colon
      return (key, ← value depth)
    let some : Scan Value := do
      Scan.word "Some"
      gap
      Scan.mark '('
      gap
      let inner ← value depth
      gap
      Scan.mark ')'
      return inner
    let record : Scan Value := do
      let _ ← Scan.optional (do let _ ← name; gap)
      Scan.mark '('
      (do gap; Scan.mark ')'; return .null) <|>
        (do return Value.ofPairs (← listed field ')')) <|> do return .list (← listed (value depth) ')')
    (do Scan.mark '\x7b'; return Value.ofPairs (← listed pair '\x7d')) <|>
    (do Scan.mark '['; return .list (← listed (value depth) ']')) <|>
    (do return .text (← text)) <|> (do return .text (← character)) <|> some <|>
    word "None" .null <|> word "true" (.boolean true) <|> word "false" (.boolean false) <|>
    record <|> number

def parse (text : List Char) : Option Value :=
  whole (value 128) text

end TabletRoster.Settings.Ron
