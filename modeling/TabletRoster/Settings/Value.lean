import TabletRoster.Json.Tree
import TabletRoster.Text.Scan

namespace TabletRoster.Settings

inductive Value where
  | null
  | boolean (b : Bool)
  | integer (n : Int)
  | real (x : Float)
  | text (s : String)
  | list (items : List Value)
  | table (members : List (String × Value))
  deriving Inhabited

inductive Step where
  | key (name : String)
  | index (n : Int)
  deriving DecidableEq, Repr

def assign {α : Type} (key : String) (value : α) : List (String × α) → List (String × α)
  | [] => [(key, value)]
  | (other, former) :: rest =>
    if other = key then (key, value) :: rest else (other, former) :: assign key value rest

namespace Value

def empty : Value := .table []

/-- A table of pairs; of two pairs with one key the later one counts. -/
def ofPairs (pairs : List (String × Value)) : Value :=
  .table (pairs.foldl (fun members (key, value) => assign key value members) [])

def members : Value → List (String × Value)
  | .table members => members
  | _ => []

def items : Value → List Value
  | .list items => items
  | _ => []

def member? (value : Value) (key : String) : Option Value :=
  value.members.lookup key

def put (root : Value) (key : String) (member : Value) : Value :=
  .table (assign key member root.members)

mutual

def cover (key : String) : Value → Value → Value
  | .table members, root =>
    root.put key.toLower (coverAll members ((root.member? key.toLower).getD empty))
  | value, root => root.put key.toLower value

def coverAll : List (String × Value) → Value → Value
  | [], target => target
  | (key, value) :: rest, target => coverAll rest (cover key value target)

end

def pad (size : Nat) (items : List Value) : List Value :=
  items ++ List.replicate (size - items.length) .null

def place? (n : Int) (size : Nat) : Option Nat :=
  if 0 ≤ n then some n.toNat
  else if -n ≤ size then some (size + n).toNat
  else none

/-- Lays a value over the part that a path leads to; what is missing on the way is made. None when
an index counts back beyond the begin of its list. -/
def coverPath (value : Value) : List Step → Value → Option Value
  | [], _ => some value
  | [.key name], root => some (cover name value root)
  | .key name :: rest, root => do
    let child := (root.member? name.toLower).getD .null
    return root.put name.toLower (← coverPath value rest child)
  | .index n :: rest, root => do
    let spot ← place? n root.items.length
    let items := pad (spot + 1) root.items
    return .list (items.set spot (← coverPath value rest (items.getD spot .null)))

/-- A whole number outside 64 bits with sign is only kept as a float. -/
def ofJson : Json.Tree → Value
  | .null => .null
  | .boolean b => .boolean b
  | .number (.natural n) => if n.toNat < Nat.pow 2 63 then .integer n.toNat else .real n.toFloat
  | .number (.negative n) => .integer n.toInt
  | .number (.decimal x) => .real x
  | .text s => .text s
  | .list items => .list (ofItems items)
  | .record members => .table (ofMembers members)
where
  ofItems : List Json.Tree → List Value
    | [] => []
    | item :: rest => ofJson item :: ofItems rest
  ofMembers : List (String × Json.Tree) → List (String × Value)
    | [] => []
    | (key, value) :: rest => (key, ofJson value) :: ofMembers rest

end Value

namespace Step

def isNameChar (c : Char) : Bool :=
  c.isAlphanum || c = ' ' || c = '_' || c = '-'

def isSpace (c : Char) : Bool :=
  c = ' ' || c = '\t' || c = '\r' || c = '\n'

def name : Text.Scan Step := do
  return .key (String.ofList (← Text.Scan.run1 isNameChar))

def bracketed : Text.Scan Step := do
  Text.Scan.mark '['
  let _ ← Text.Scan.run isSpace
  let sign ← Text.Scan.optional (Text.Scan.mark '-')
  let digits ← Text.Scan.run1 Char.isDigit
  let _ ← Text.Scan.run isSpace
  Text.Scan.mark ']'
  match Text.integer? (Nat.pow 2 63) (if sign.isSome then '-' :: digits else digits) with
  | some n => return .index n
  | none => failure

def path : Text.Scan (List Step) := do
  let first ← name
  let further := (do Text.Scan.mark '.'; name) <|> bracketed
  return first :: (← Text.Scan.many further (← Text.Scan.left))

/-- A key as a path; a key that is no path is a name as a whole. -/
def parse (key : String) : List Step :=
  (Text.Scan.whole path key.toList).getD [.key key]

end Step
end TabletRoster.Settings
