import TabletRoster.Settings.Relaxed

namespace TabletRoster.Settings.Json5

open Text (Scan)
open Relaxed

def escape (quote : Char) : Scan (List Char) := do
  match ← Scan.charWhere fun _ => true with
  | 'x' => return [← charOf (← Scan.exactly isHex 2)]
  | 'u' => return [← charOf (← Scan.exactly isHex 4)]
  | 'b' => return ['\x08']
  | 'f' => return ['\x0C']
  | 'v' => return ['\x0B']
  | '\n' => return []
  | c => return [if c = quote then quote else (letter? c).getD c]

def quoted (quote : Char) : Scan String := do
  Scan.mark quote
  let piece : Scan (List Char) :=
    (do Scan.mark '\\'; escape quote) <|>
      do return [← Scan.charWhere fun c => c ≠ quote && c ≠ '\\' && c ≠ '\n' && c ≠ '\r']
  let pieces ← Scan.many piece (← Scan.left)
  Scan.mark quote
  return String.ofList pieces.flatten

def text : Scan String :=
  quoted '"' <|> quoted '\''

def isNameStart (c : Char) : Bool :=
  c.isAlpha || c = '_' || c = '$' || '\x80' ≤ c

def key : Scan String :=
  text <|> do
    let first ← Scan.charWhere isNameStart
    return String.ofList (first :: (← Scan.run fun c => isNameStart c || c.isDigit))

def number : Scan Value := do
  let sign ← sign
  (do
    let size : Float ←
      (do Scan.word "Infinity"; return 1 / 0) <|> (do Scan.word "NaN"; return 0 / 0)
    return .real (if sign = ['-'] then -size else size)) <|> do
    let text ← numeral
    match text with
    | '0' :: d :: _ => if d.isDigit then failure
    | _ => pure ()
    (if sign.isEmpty then based "0x" 16 text <|> based "0X" 16 text else failure) <|>
      decimal (sign ++ text)

def value : (depth : Nat) → Scan Value
  | 0 => failure
  | depth + 1 =>
    let pair : Scan (String × Value) := do
      let key ← key
      gap
      Scan.mark ':'
      gap
      return (key, ← value depth)
    (do Scan.mark '\x7b'; return Value.ofPairs (← listed pair '\x7d')) <|>
    (do Scan.mark '['; return .list (← listed (value depth) ']')) <|>
    (do return .text (← text)) <|> word "null" .null <|> word "true" (.boolean true) <|>
    word "false" (.boolean false) <|> number

def parse (text : List Char) : Option Value :=
  whole (value 128) text

end TabletRoster.Settings.Json5
