import TabletRoster.Settings.Value
import TabletRoster.Text.Fraction

namespace TabletRoster.Settings.Yaml

open Text (Scan)

/-! ### Scalars -/

def based? (stem : String) (base : Nat) (text : List Char) : Option Int := do
  let digits ← Text.after? stem.toList text
  if digits.isEmpty then none
  let n ← digits.foldlM (fun n c => do
    let d ← Text.hexDigit? c
    if d < base then some (base * n + d) else none) 0
  if n < Nat.pow 2 63 then some n else none

def infinite? (text : List Char) : Option Unit :=
  let signed := (Text.after? ['-'] text <|> Text.after? ['+'] text).getD text
  if [".inf", ".Inf", ".INF"].contains (String.ofList signed) then some () else none

/-- The value of a plain scalar. The words for an infinite number are known, but stand for nothing
that settings can hold. -/
def plain (text : List Char) : Option Value :=
  match based? "0x" 16 text <|> based? "0o" 8 text <|> Text.integer? (Nat.pow 2 63) text with
  | some n => some (.integer n)
  | none =>
    match String.ofList text with
    | "" => some .null
    | "~" => some .null
    | "null" => some .null
    | "true" => some (.boolean true)
    | "false" => some (.boolean false)
    | word =>
      if (infinite? text).isSome || word = ".nan" || word = ".NAN" then none
      else match Text.float? text with
        | some x => some (.real x)
        | none => some (.text word)

def isBlank (c : Char) : Bool :=
  c = ' ' || c = '\t'

def trim (text : List Char) : List Char :=
  ((text.dropWhile isBlank).reverse.dropWhile isBlank).reverse

/-- Joins lines: a line end between two of them is a blank, and empty lines are line ends. -/
def fold : List (List Char) → List Char
  | [] => []
  | [line] => line
  | line :: [] :: rest => line ++ '\n' :: (foldEmpty rest)
  | line :: next :: rest => line ++ ' ' :: fold (next :: rest)
where
  foldEmpty : List (List Char) → List Char
    | [] => []
    | [] :: rest => '\n' :: foldEmpty rest
    | line :: rest => fold (line :: rest)

def splitLines (text : List Char) : List (List Char) :=
  text.splitOn '\n'

def foldQuoted (text : List Char) : List Char :=
  match splitLines text with
  | [] => []
  | [line] => line
  | first :: rest =>
    let last := (rest.getLastD []).dropWhile isBlank
    fold ((first.reverse.dropWhile isBlank).reverse :: rest.dropLast.map trim ++ [last])

def hexCode (count : Nat) (text : List Char) : Option (Char × List Char) := do
  let digits := text.take count
  if digits.length < count then none
  let code ← digits.foldlM (fun n c => do return 16 * n + (← Text.hexDigit? c)) 0
  if code.isValidChar then some (Char.ofNat code, text.drop count) else none

def escape? : Char → Option Char
  | '0' => some '\x00'
  | 'a' => some '\x07'
  | 'b' => some '\x08'
  | 't' => some '\t'
  | 'n' => some '\n'
  | 'v' => some '\x0B'
  | 'f' => some '\x0C'
  | 'r' => some '\r'
  | 'e' => some '\x1B'
  | ' ' => some ' '
  | '"' => some '"'
  | '/' => some '/'
  | '\\' => some '\\'
  | 'N' => some '\x85'
  | '_' => some '\xA0'
  | 'L' => some '\u2028'
  | 'P' => some '\u2029'
  | _ => none

def unescape : (fuel : Nat) → List Char → Option (List Char)
  | 0, _ => some []
  | fuel + 1, text =>
    match text with
    | [] => some []
    | '\\' :: 'x' :: rest => do
      let (c, rest) ← hexCode 2 rest
      return c :: (← unescape fuel rest)
    | '\\' :: 'u' :: rest => do
      let (c, rest) ← hexCode 4 rest
      return c :: (← unescape fuel rest)
    | '\\' :: 'U' :: rest => do
      let (c, rest) ← hexCode 8 rest
      return c :: (← unescape fuel rest)
    | '\\' :: c :: rest => do return (← escape? c) :: (← unescape fuel rest)
    | c :: rest => do return c :: (← unescape fuel rest)

def doubleQuoted : Scan String := do
  Scan.mark '"'
  let piece : Scan (List Char) :=
    (do Scan.mark '\\'; return ['\\', ← Scan.charWhere fun c => c ≠ '\n']) <|>
      do return [← Scan.charWhere fun c => c ≠ '"' && c ≠ '\\']
  let text := foldQuoted (← Scan.many piece (← Scan.left)).flatten
  Scan.mark '"'
  match unescape (text.length + 1) text with
  | some text => return String.ofList text
  | none => failure

def singleQuoted : Scan String := do
  Scan.mark '\''
  let piece : Scan Char := (do Scan.word "''"; return '\'') <|> Scan.charWhere fun c => c ≠ '\''
  let text ← Scan.many piece (← Scan.left)
  Scan.mark '\''
  return String.ofList (foldQuoted text)

def quoted : Scan String :=
  doubleQuoted <|> singleQuoted

def plainKey (text : List Char) : Option String :=
  match plain text with
  | some (.text s) => some s
  | some (.integer n) => some (toString n)
  | _ => none

/-! ### Flow style -/

def gap : Scan Unit := do
  let comment : Scan Unit := do
    Scan.mark '#'
    let _ ← Scan.run (· ≠ '\n')
  let piece : Scan Unit :=
    (do let _ ← Scan.charWhere fun c => isBlank c || c = '\n') <|> comment
  let _ ← Scan.many piece (← Scan.left)

def endsFlow (c : Char) : Bool :=
  [',', '[', ']', '\x7b', '\x7d'].contains c

def takeFlow : List Char → List Char × List Char
  | [] => ([], [])
  | [c] => if endsFlow c || c = ':' then ([], [c]) else ([c], [])
  | c :: next :: rest =>
    if endsFlow c then ([], c :: next :: rest)
    else if c = ':' && (isBlank next || next = '\n' || endsFlow next) then ([], c :: next :: rest)
    else if (isBlank c || c = '\n') && next = '#' then ([], c :: next :: rest)
    else
      let (text, rest) := takeFlow (next :: rest)
      (c :: text, rest)

def startsPlain (text : List Char) : Bool :=
  match text with
  | [] => false
  | c :: rest =>
    if ['-', '?', ':'].contains c then
      match rest with
      | next :: _ => !isBlank next && !endsFlow next && next ≠ '\n'
      | [] => false
    else
      !([',', '[', ']', '\x7b', '\x7d', '#', '&', '*', '!', '|', '>', '\'', '"', '%', '@', '\x60'].contains c)

def plainText : Scan (List Char) := fun text =>
  if startsPlain text then
    let (found, rest) := takeFlow text
    some (trim (fold ((splitLines found).map trim)), rest)
  else none

def colon : Scan Unit := do
  gap
  Scan.mark ':'
  match ← Scan.peek with
  | some c => if isBlank c || c = '\n' || endsFlow c then pure () else failure
  | none => pure ()

def flowKey : Scan String :=
  quoted <|> do
    match plainKey (← plainText) with
    | some key => return key
    | none => failure

def listed {α : Type} (item : Scan α) (close : Char) : Scan (List α) := do
  let padded : Scan α := do gap; let found ← item; gap; return found
  let items ← (do
    let first ← padded
    return first :: (← Scan.many (do Scan.mark ','; padded) (← Scan.left))) <|> pure []
  let _ ← Scan.optional (Scan.mark ',')
  gap
  Scan.mark close
  return items

def flow : (depth : Nat) → Scan Value
  | 0 => failure
  | depth + 1 =>
    (do Scan.mark '['; return .list (← listed (flow depth) ']')) <|>
    (do
      Scan.mark '\x7b'
      let pair : Scan (String × Value) := do
        let key ← flowKey
        let value ← (do colon; gap; flow depth <|> pure .null) <|> pure .null
        return (key, value)
      return Value.ofPairs (← listed pair '\x7d')) <|>
    (do return .text (← quoted)) <|> do
      match plain (← plainText) with
      | some value => return value
      | none => failure

/-! ### Block style -/

structure Line where
  indent : Nat
  text : List Char

def Line.of (raw : List Char) : Line :=
  let raw := if raw.getLast? = some '\r' then raw.dropLast else raw
  let text := raw.dropWhile (· = ' ')
  ⟨raw.length - text.length, if text.all isBlank then [] else text⟩

def Line.isEmpty (line : Line) : Bool :=
  line.text.isEmpty

def Line.isComment (line : Line) : Bool :=
  line.text.head? = some '#'

def Line.isMarker (line : Line) : Bool :=
  line.indent = 0 &&
    ["---", "..."].any fun mark =>
      match Text.after? mark.toList line.text with
      | some [] => true
      | some (c :: _) => isBlank c
      | none => false

def skip (lines : List Line) : List Line :=
  lines.dropWhile fun line => line.isEmpty || line.isComment

def isItem : List Char → Bool
  | ['-'] => true
  | '-' :: c :: _ => isBlank c
  | _ => false

def dropComment : List Char → List Char
  | [] => []
  | c :: rest =>
    if isBlank c && rest.head? = some '#' then [] else c :: dropComment rest

def isOver (text : List Char) : Bool :=
  match text.dropWhile isBlank with
  | [] => true
  | c :: _ => c = '#' && (text.head?.map isBlank).getD true

def cutKey : List Char → Option (List Char × List Char)
  | [] => none
  | [':'] => some ([], [])
  | c :: rest =>
    if c = ':' && (rest.head?.map isBlank).getD false then some ([], rest)
    else if isBlank c && rest.head? = some '#' then none
    else (cutKey rest).map fun (key, after) => (c :: key, after)

def key? (text : List Char) : Option (String × List Char) :=
  match (do let key ← quoted; colon; return key : Scan String) text with
  | some found => some found
  | none => do
    if !startsPlain text then none
    let (key, rest) ← cutKey text
    return (← plainKey (trim key), rest)

def isPair (text : List Char) : Bool :=
  (key? text).isSome

def flowLines (text : List Char) (rest : List Line) : Option (Value × List Line) := do
  let joined := ['\n'].intercalate (text :: rest.map Line.text)
  let (value, after) ← flow 1000 joined
  if !isOver (after.takeWhile (· ≠ '\n')) then none
  return (value, rest.drop (rest.length - after.count '\n'))

inductive Chomp where
  | clip
  | strip
  | keep
  deriving DecidableEq

def blockScalar (folded : Bool) (chomp : Chomp) (least : Nat) (rest : List Line) :
    Value × List Line :=
  let indent := match rest.find? fun line => !line.isEmpty with
    | some line => max least line.indent
    | none => least
  let belongs (line : Line) : Bool := line.isEmpty || indent ≤ line.indent
  let lines := (rest.takeWhile belongs).map fun line =>
    if line.isEmpty then [] else List.replicate (line.indent - indent) ' ' ++ line.text
  let body := (lines.reverse.dropWhile List.isEmpty).reverse
  let ends := lines.length - body.length
  let text := if folded then fold body else ['\n'].intercalate body
  let tail := match chomp with
    | .clip => if body.isEmpty then [] else ['\n']
    | .strip => []
    | .keep => List.replicate (if body.isEmpty then ends else ends + 1) '\n'
  (.text (String.ofList (text ++ tail)), rest.dropWhile belongs)

def plainLines (text : List Char) (least : Nat) (rest : List Line) : Option (Value × List Line) :=
  let first := trim (dropComment text)
  if !startsPlain text || isPair text || (cutKey text).isSome then none
  else
    let belongs (line : Line) : Bool :=
      line.isEmpty || (least ≤ line.indent && !line.isComment && !line.isMarker)
    let further := if (dropComment text).length < text.length then [] else rest.takeWhile belongs
    if further.any fun line => (cutKey line.text).isSome then none
    else do
      let lines := further.map fun line => trim (dropComment line.text)
      let body := ((first :: lines).reverse.dropWhile List.isEmpty).reverse
      return (← plain (fold body), rest.drop further.length)

/-- The value that begins in a line, where lines below it are indented at least by `least`. -/
def begun (text : List Char) (least : Nat) (rest : List Line) : Option (Value × List Line) :=
  match text with
  | [] => none
  | c :: after =>
    if c = '|' ∨ c = '>' then
      let header := trim (dropComment after)
      if header = [] then some (blockScalar (c = '>') .clip least rest)
      else if header = ['-'] then some (blockScalar (c = '>') .strip least rest)
      else if header = ['+'] then some (blockScalar (c = '>') .keep least rest)
      else none
    else if ['[', '\x7b', '"', '\''].contains c then flowLines text rest
    else plainLines text least rest

mutual

def node : (fuel : Nat) → (least : Nat) → List Line → Option (Value × List Line)
  | 0, _, _ => none
  | fuel + 1, least, lines =>
    match skip lines with
    | [] => some (.null, [])
    | line :: rest =>
      if line.indent < least || line.isMarker then some (.null, line :: rest)
      else if line.text.head? = some '\t' then none
      else if isItem line.text then do
        let (values, rest) ← items fuel line.indent (line :: rest)
        return (.list values, rest)
      else if isPair line.text then do
        let (members, rest) ← pairs fuel line.indent (line :: rest)
        return (Value.ofPairs members, rest)
      else begun line.text least rest

def items : (fuel : Nat) → (indent : Nat) → List Line → Option (List Value × List Line)
  | 0, _, _ => none
  | fuel + 1, indent, lines =>
    match skip lines with
    | [] => some ([], [])
    | line :: rest =>
      if line.indent < indent || line.isMarker then some ([], line :: rest)
      else if indent < line.indent then none
      else if !isItem line.text then some ([], line :: rest)
      else do
        let after := line.text.drop 1
        let inner := after.dropWhile isBlank
        let lines := if isOver after then rest
          else ⟨indent + 1 + (after.length - inner.length), inner⟩ :: rest
        let (value, rest) ← node fuel (indent + 1) lines
        let (values, rest) ← items fuel indent rest
        return (value :: values, rest)

/-- The members of a mapping that is indented by `indent`. A sequence as a value need not be
indented further. -/
def pairs : (fuel : Nat) → (indent : Nat) → List Line → Option (List (String × Value) × List Line)
  | 0, _, _ => none
  | fuel + 1, indent, lines =>
    match skip lines with
    | [] => some ([], [])
    | line :: rest =>
      if line.indent < indent || line.isMarker then some ([], line :: rest)
      else if indent < line.indent then none
      else do
        let (key, after) ← key? line.text
        let (value, rest) ←
          if isOver after then
            match skip rest with
            | next :: further =>
              if next.indent = indent && isItem next.text then do
                let (values, rest) ← items fuel indent (next :: further)
                pure (Value.list values, rest)
              else node fuel (indent + 1) rest
            | [] => pure (Value.null, [])
          else begun (after.dropWhile isBlank) (indent + 1) rest
        let (members, rest) ← pairs fuel indent rest
        return ((key, value) :: members, rest)

end

def ends (lines : List Line) : Bool :=
  match skip lines with
  | [] => true
  | line :: rest => line.text = ['.', '.', '.'] && (skip rest).isEmpty

def parse (text : List Char) : Option Value :=
  let lines := (splitLines text).map Line.of
  let size := 2 * text.length + 2
  match skip lines with
  | [] => some .empty
  | line :: rest => do
    let lines := if line.indent = 0 && trim (dropComment line.text) = ['-', '-', '-'] then rest
      else line :: rest
    let (value, rest) ← node size 0 lines
    if ends rest then some value else none

end TabletRoster.Settings.Yaml
