import TabletRoster.Settings.Value
import TabletRoster.Text.Blank
import TabletRoster.Text.Numeral

namespace TabletRoster.Settings.Ini

open Text (Scan)

structure Document where
  loose : List (String × Value)
  sections : List (String × List (String × Value))

def Document.empty : Document := ⟨[], []⟩

def Document.add (document : Document) (key value : String) : Document :=
  match document.sections with
  | [] => { document with loose := assign key (.text value) document.loose }
  | (name, pairs) :: rest =>
    { document with sections := (name, assign key (.text value) pairs) :: rest }

/-- A section counts as a whole; one with the name of an earlier section replaces it. -/
def Document.toValue (document : Document) : Value :=
  .table (document.sections.reverse.foldl
    (fun members (name, pairs) => assign name (.table pairs) members) document.loose)

def escape : Scan (List Char) := do
  match ← Scan.charWhere fun _ => true with
  | '0' => return ['\x00']
  | 'a' => return ['\x07']
  | 'b' => return ['\x08']
  | 't' => return ['\t']
  | 'r' => return ['\r']
  | 'n' => return ['\n']
  | '\n' => return []
  | 'x' =>
    let digits ← Scan.exactly (fun c => (Text.hexDigit? c).isSome) 4
    let code := digits.foldl (fun n c => 16 * n + (Text.hexDigit? c).getD 0) 0
    if code.isValidChar then return [Char.ofNat code] else failure
  | c => return [c]

def before (marks : List Char) : Scan (List Char) := do
  let piece : Scan (List Char) :=
    (do Scan.mark '\\'; escape) <|>
      do return [← Scan.charWhere fun c => c ≠ '\\' && !marks.contains c]
  return (← Scan.many piece (← Scan.left)).flatten

def quoted (quote : Char) : Scan (List Char) := do
  Scan.mark quote
  let text ← before [quote]
  Scan.mark quote
  return text

def value : Scan String := do
  let _ ← Scan.run fun c => Text.isBlank c && c ≠ '\n' && c ≠ '\r'
  let parts ← Scan.many (quoted '"' <|> quoted '\'') (← Scan.left)
  match ← Scan.peek with
  | some '"' => failure
  | some '\'' => failure
  | _ =>
    let rest ← before ['\n', '\r']
    return String.ofList (parts.flatten ++ Text.trim rest)

def ofTrimmed (text : List Char) : String :=
  String.ofList (Text.trim text)

def entry (atLineStart : Bool) (document : Document) : Scan Document := do
  match ← Scan.peek with
  | none => return document
  | some ';' => if atLineStart then comment else failure
  | some '#' => if atLineStart then comment else failure
  | some '[' =>
    Scan.mark '['
    let name ← before [']']
    Scan.mark ']'
    return { document with sections := (ofTrimmed name, []) :: document.sections }
  | some _ =>
    let key := ofTrimmed (← before ['=', ':'])
    let _ ← Scan.charWhere fun c => c = '=' || c = ':'
    if key.isEmpty then failure
    return document.add key (← value)
where
  comment : Scan Document := do
    let _ ← Scan.run (· ≠ '\n')
    return document

/-- Entries up to the end of the text. A comment must be the first thing in its line. -/
def entries : (fuel : Nat) → (lineStart : Bool) → Document → Scan Document
  | 0, _, document => pure document
  | fuel + 1, lineStart, document => do
    let space ← Scan.run Text.isBlank
    let lineStart := match space.getLast? with
      | some c => c = '\n'
      | none => lineStart
    if (← Scan.left) = 0 then return document
    entries fuel false (← entry lineStart document)

def parse (text : List Char) : Option Value :=
  (Scan.whole (entries (text.length + 1) true .empty) text).map Document.toValue

end TabletRoster.Settings.Ini
