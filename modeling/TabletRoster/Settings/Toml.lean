import TabletRoster.Settings.Value
import TabletRoster.Text.Fraction

namespace TabletRoster.Settings.Toml

open Text (Scan)

/-! ### Tables -/

/-- How a table came about. -/
inductive Origin where
  | header
  | implied
  | dotted
  deriving DecidableEq, Repr

inductive Entry where
  | value (v : Value)
  | table (origin : Origin) (members : List (String × Entry))
  | tables (items : List (List (String × Entry)))

abbrev Members := List (String × Entry)

mutual

def Entry.toValue : Entry → Value
  | .value v => v
  | .table _ members => .table (memberValues members)
  | .tables items => .list (tableValues items).reverse

def memberValues : List (String × Entry) → List (String × Value)
  | [] => []
  | (key, entry) :: rest => (key, entry.toValue) :: memberValues rest

def tableValues : List (List (String × Entry)) → List Value
  | [] => []
  | members :: rest => .table (memberValues members) :: tableValues rest

end

/-- Sets a pair under a dotted key. Only tables that dotted keys have opened take it. -/
def setPair (value : Value) : List String → Members → Option Members
  | [], _ => none
  | [key], members =>
    if (members.lookup key).isSome then none else some (assign key (.value value) members)
  | key :: rest, members =>
    match members.lookup key with
    | none => do return assign key (.table .dotted (← setPair value rest [])) members
    | some (.table .dotted inner) => do
      return assign key (.table .dotted (← setPair value rest inner)) members
    | some (.table .implied inner) =>
      if rest.length = 1 then none
      else do return assign key (.table .implied (← setPair value rest inner)) members
    | some (.tables (last :: former)) =>
      if rest.length = 1 then none
      else do return assign key (.tables ((← setPair value rest last) :: former)) members
    | some _ => none

/-- Changes the table that a header's names lead to; in a list of tables it is the last one. -/
def within (change : Members → Option Members) : List String → Members → Option Members
  | [], members => change members
  | key :: rest, members =>
    match members.lookup key with
    | none => do return assign key (.table .implied (← within change rest [])) members
    | some (.table origin inner) => do
      return assign key (.table origin (← within change rest inner)) members
    | some (.tables (last :: former)) => do
      return assign key (.tables ((← within change rest last) :: former)) members
    | some _ => none

def openTable (key : String) (members : Members) : Option Members :=
  match members.lookup key with
  | none => some (assign key (.table .header []) members)
  | some (.table .implied inner) => some (assign key (.table .header inner) members)
  | some _ => none

def openNext (key : String) (members : Members) : Option Members :=
  match members.lookup key with
  | none => some (assign key (.tables [[]]) members)
  | some (.tables items) => some (assign key (.tables ([] :: items)) members)
  | some _ => none

/-! ### Blanks, keys and strings -/

def isBlank (c : Char) : Bool :=
  c = ' ' || c = '\t'

def blanks : Scan Unit := do
  let _ ← Scan.run isBlank

def newline : Scan Unit :=
  Scan.mark '\n' <|> Scan.word "\r\n"

def isPlain (c : Char) : Bool :=
  c = '\t' || (' ' ≤ c && c ≤ '~') || '\x80' ≤ c

def comment : Scan Unit := do
  Scan.mark '#'
  let _ ← Scan.run isPlain

def gap : Scan Unit := do
  let piece : Scan Unit := newline <|> comment <|> do let _ ← Scan.charWhere isBlank
  let _ ← Scan.many piece (← Scan.left)

def unicode (count : Nat) : Scan Char := do
  let digits ← Scan.exactly (fun c => (Text.hexDigit? c).isSome) count
  let code := digits.foldl (fun n c => 16 * n + (Text.hexDigit? c).getD 0) 0
  if code.isValidChar then return Char.ofNat code else failure

def escape : Scan Char := do
  match ← Scan.charWhere fun _ => true with
  | 'b' => return '\x08'
  | 't' => return '\t'
  | 'n' => return '\n'
  | 'f' => return '\x0C'
  | 'r' => return '\r'
  | '"' => return '"'
  | '\\' => return '\\'
  | 'u' => unicode 4
  | 'U' => unicode 8
  | _ => failure

def basicString : Scan String := do
  let piece : Scan Char :=
    (do Scan.mark '\\'; escape) <|> Scan.charWhere fun c => isPlain c && c ≠ '"' && c ≠ '\\'
  let text ← Scan.many piece (← Scan.left)
  Scan.mark '"'
  return String.ofList text

def literalString : Scan String := do
  let text ← Scan.run fun c => isPlain c && c ≠ '\''
  Scan.mark '\''
  return String.ofList text

def lineJoint : Scan (List Char) := do
  Scan.mark '\\'
  blanks
  newline
  let _ ← Scan.many (newline <|> do let _ ← Scan.charWhere isBlank) (← Scan.left)
  return []

/-- What stands between three quotes each, behind the first three. Up to two quotes may stand next
to each other in it, also before the last three. -/
def between (quote : Char) (piece : Scan (List Char)) : (fuel : Nat) → Scan (List Char)
  | 0 => failure
  | fuel + 1 => do
    let quotes ← Scan.run (· = quote)
    let count := quotes.length
    if 6 ≤ count then failure
    else if 3 ≤ count then return List.replicate (count - 3) quote
    else
      let text ← piece
      return quotes ++ text ++ (← between quote piece fuel)

def multiline (quote : Char) (piece : Scan (List Char)) : Scan String := do
  let _ ← Scan.optional newline
  return String.ofList (← between quote piece ((← Scan.left) + 1))

def lineEnd : Scan (List Char) := do
  newline
  return ['\n']

def basicPiece : Scan (List Char) :=
  lineJoint <|> (do Scan.mark '\\'; return [← escape]) <|> lineEnd <|>
    (do return [← Scan.charWhere fun c => isPlain c && c ≠ '"' && c ≠ '\\'])

def literalPiece : Scan (List Char) :=
  lineEnd <|> do return [← Scan.charWhere fun c => isPlain c && c ≠ '\'']

def text : Scan String :=
  (do Scan.word "\"\"\""; multiline '"' basicPiece) <|>
    (do Scan.word "'''"; multiline '\'' literalPiece) <|>
    (do Scan.mark '"'; basicString) <|> (do Scan.mark '\''; literalString)

def isKeyChar (c : Char) : Bool :=
  c.isAlphanum || c = '_' || c = '-'

def simpleKey : Scan String :=
  (do Scan.mark '"'; basicString) <|> (do Scan.mark '\''; literalString) <|>
    (do return String.ofList (← Scan.run1 isKeyChar))

def limit : Nat := 79

def key : Scan (List String) := do
  let first ← simpleKey
  let further : Scan String := do blanks; Scan.mark '.'; blanks; simpleKey
  let names := first :: (← Scan.many further (← Scan.left))
  blanks
  if names.length ≤ limit then return names else failure

/-! ### Numbers and dates -/

def digitsWhere (fits : Char → Bool) : Scan (List Char) := do
  let first ← Scan.charWhere fits
  let further : Scan Char := Scan.charWhere fits <|> do Scan.mark '_'; Scan.charWhere fits
  return first :: (← Scan.many further (← Scan.left))

def sign : Scan (List Char) :=
  (do Scan.mark '-'; return ['-']) <|> (do Scan.mark '+'; return ['+']) <|> pure []

def wholeDigits : Scan (List Char) := do
  let digits ← (do Scan.mark '0'; return ['0']) <|> digitsWhere Text.isDigit
  match ← Scan.peek with
  | some c => if Text.isDigit c || c = '_' then failure else return digits
  | none => return digits

def isIn64Bits (n : Int) : Bool :=
  -Nat.pow 2 63 ≤ n && n < Nat.pow 2 63

def decimalInteger : Scan Value := do
  let text := (← sign) ++ (← wholeDigits)
  match Text.integer? (Nat.pow 2 63) text with
  | some n => return .integer n
  | none => failure

def basedInteger (mark : String) (base : Nat) : Scan Value := do
  Scan.word mark
  let digits ← digitsWhere fun c => (Text.hexDigit? c).any (· < base)
  let n := digits.foldl (fun n c => base * n + (Text.hexDigit? c).getD 0) 0
  if isIn64Bits n then return .integer n else failure

def integer : Scan Value :=
  basedInteger "0x" 16 <|> basedInteger "0o" 8 <|> basedInteger "0b" 2 <|> decimalInteger

def exponentDigits : Scan (List Char) := do
  let _ ← Scan.charWhere fun c => c = 'e' || c = 'E'
  return 'e' :: (← sign) ++ (← digitsWhere Text.isDigit)

def fractionDigits : Scan (List Char) := do
  Scan.mark '.'
  return '.' :: (← digitsWhere Text.isDigit)

def finite : Scan Value := do
  let whole := (← sign) ++ (← wholeDigits)
  let after ← Scan.optional fractionDigits
  let exponent ← Scan.optional exponentDigits
  if after.isNone && exponent.isNone then failure
  match Text.float? (whole ++ after.getD [] ++ exponent.getD []) with
  | some x => if x.isInf then failure else return .real x
  | none => failure

def special : Scan Value := do
  let below := (← sign) = ['-']
  let size : Float ← (do Scan.word "inf"; return 1 / 0) <|> (do Scan.word "nan"; return 0 / 0)
  return .real (if below then -size else size)

def daysIn (year month : Nat) : Nat :=
  if month = 2 then (if year % 4 = 0 ∧ (year % 100 ≠ 0 ∨ year % 400 = 0) then 29 else 28)
  else if [4, 6, 9, 11].contains month then 30 else 31

def part (count low high : Nat) : Scan (List Char) := do
  let digits ← Scan.exactly Text.isDigit count
  let n := (Text.digits? digits).getD 0
  if low ≤ n ∧ n ≤ high then return digits else failure

def date : Scan (List Char) := do
  let year ← Scan.exactly Text.isDigit 4
  Scan.mark '-'
  let month ← part 2 1 12
  Scan.mark '-'
  let day ← part 2 1 (daysIn ((Text.digits? year).getD 0) ((Text.digits? month).getD 0))
  return year ++ '-' :: month ++ '-' :: day

/-- A time of day; nine digits of the second's fraction count, and zeros at its end do not. -/
def time : Scan (List Char) := do
  let hour ← part 2 0 23
  Scan.mark ':'
  let minute ← part 2 0 59
  Scan.mark ':'
  let second ← part 2 0 60
  let after ← (do Scan.mark '.'; Scan.run1 Text.isDigit) <|> pure []
  let kept := ((after.take 9).reverse.dropWhile (· = '0')).reverse
  return hour ++ ':' :: minute ++ ':' :: second ++ if kept.isEmpty then [] else '.' :: kept

def offset : Scan (List Char) :=
  (do let _ ← Scan.charWhere fun c => c = 'Z' || c = 'z'; return ['Z']) <|> do
    let sign ← Scan.charWhere fun c => c = '+' || c = '-'
    let hours ← part 2 0 23
    Scan.mark ':'
    let minutes ← part 2 0 59
    let zero := (hours ++ minutes).all (· = '0')
    return (if zero then '+' else sign) :: hours ++ ':' :: minutes

def moment : Scan (List Char) := do
  let _ ← Scan.charWhere fun c => c = 'T' || c = 't' || c = ' '
  let time ← time
  return 'T' :: time ++ (← offset <|> pure [])

def dateTime : Scan Value := do
  let both : Scan (List Char) := do
    let date ← date
    return date ++ (← moment <|> pure [])
  return .text (String.ofList (← both <|> time))

/-! ### Values and lines -/

def boolean : Scan Value :=
  (do Scan.word "true"; return .boolean true) <|> (do Scan.word "false"; return .boolean false)

def scalar : Scan Value :=
  (do return .text (← text)) <|> boolean <|> dateTime <|> finite <|> special <|> integer

def list (item : Scan Value) : Scan Value := do
  Scan.mark '['
  let padded : Scan Value := do gap; let value ← item; gap; return value
  let first ← Scan.optional padded
  match first with
  | none => gap; Scan.mark ']'; return .list []
  | some first =>
    let rest ← Scan.many (do Scan.mark ','; padded) (← Scan.left)
    let _ ← Scan.optional (Scan.mark ',')
    gap
    Scan.mark ']'
    return .list (first :: rest)

def pair (item : Scan Value) : Scan (List String × Value) := do
  let names ← key
  Scan.mark '='
  blanks
  return (names, ← item)

def inlineTable (item : Scan Value) : Scan Value := do
  Scan.mark '\x7b'
  let padded : Scan (List String × Value) := do
    blanks
    let found ← pair item
    blanks
    return found
  let pairs ← (do
    let first ← padded
    return first :: (← Scan.many (do Scan.mark ','; padded) (← Scan.left))) <|> pure []
  blanks
  Scan.mark '\x7d'
  match pairs.foldlM (fun members (names, value) => setPair value names members) [] with
  | some members => return .table (memberValues members)
  | none => failure

def value : (depth : Nat) → Scan Value
  | 0 => scalar
  | depth + 1 => list (value depth) <|> inlineTable (value depth) <|> scalar

inductive Line where
  | blank
  | table (names : List String)
  | next (names : List String)
  | pair (names : List String) (value : Value)

def header : Scan (List String) := do
  blanks
  key

def line : Scan Line := do
  blanks
  let found ←
    (do Scan.word "[["; let names ← header; Scan.word "]]"; return .next names) <|>
    (do Scan.mark '['; let names ← header; Scan.mark ']'; return .table names) <|>
    (do let (names, found) ← pair (value limit); return Line.pair names found) <|>
    pure Line.blank
  blanks
  let _ ← Scan.optional comment
  return found

def lines : Scan (List Line) := do
  let first ← line
  return first :: (← Scan.many (do newline; line) (← Scan.left))

structure Document where
  root : Members
  header : List String

def Document.empty : Document := ⟨[], []⟩

def Document.start (document : Document) (names : List String)
    (change : String → Members → Option Members) : Option Document := do
  let last ← names.getLast?
  return ⟨← within (change last) names.dropLast document.root, names⟩

def Document.add (document : Document) : Line → Option Document
  | .blank => some document
  | .table names => document.start names openTable
  | .next names => document.start names openNext
  | .pair names value => do
    let root ← within (setPair value names) document.header document.root
    return { document with root := root }

def parse (text : List Char) : Option Value := do
  let text := match text with
    | '\uFEFF' :: rest => rest
    | text => text
  let document ← (← Scan.whole lines text).foldlM Document.add .empty
  return .table (memberValues document.root)

end TabletRoster.Settings.Toml
