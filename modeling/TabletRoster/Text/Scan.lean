import TabletRoster.Text.Cut

namespace TabletRoster.Text

abbrev Scan := StateT (List Char) Option

namespace Scan

def peek : Scan (Option Char) := fun text => some (text.head?, text)

def charWhere (fits : Char → Bool) : Scan Char
  | [] => none
  | c :: rest => if fits c then some (c, rest) else none

def mark (c : Char) : Scan Unit := do
  let _ ← charWhere (· = c)

def word (word : String) : Scan Unit := fun text =>
  (after? word.toList text).map fun rest => ((), rest)

def run (fits : Char → Bool) : Scan (List Char) := fun text =>
  some (text.takeWhile fits, text.dropWhile fits)

def run1 (fits : Char → Bool) : Scan (List Char) := do
  let found ← run fits
  if found.isEmpty then failure else return found

def exactly (fits : Char → Bool) : Nat → Scan (List Char)
  | 0 => pure []
  | n + 1 => do
    let c ← charWhere fits
    return c :: (← exactly fits n)

def optional {α : Type} (item : Scan α) : Scan (Option α) :=
  (some <$> item) <|> pure none

def many {α : Type} (item : Scan α) : (fuel : Nat) → Scan (List α)
  | 0 => pure []
  | fuel + 1 => do
    match ← optional item with
    | some first => return first :: (← many item fuel)
    | none => return []

/-- How much text is left: enough fuel for a loop that takes something off in every turn. -/
def left : Scan Nat := fun text => some (text.length, text)

def atEnd : Scan Unit
  | [] => some ((), [])
  | _ :: _ => none

def whole {α : Type} (scan : Scan α) (text : List Char) : Option α :=
  match scan text with
  | some (value, []) => some value
  | _ => none

end Scan
end TabletRoster.Text
