import TabletRoster.Json.Reader

namespace TabletRoster.Json

/-- How a field is read into what is known of a record of type `σ`. -/
structure Field (σ : Type) where
  name : String
  isRead : σ → Bool
  read : σ → Reader σ

structure Record (σ α : Type) where
  title : String
  arrayTitle : String
  /-- Whether a field that is not listed is a fault; otherwise it is passed over. -/
  closed : Bool
  empty : σ
  fields : List (Field σ)
  finish : σ → Except Fault α

def choices : List String → String
  | [a, b] => s!"`{a}` or `{b}`"
  | [a] => s!"`{a}`"
  | names => "one of " ++ String.intercalate ", " (names.map fun name => s!"`{name}`")

def arrayTitle (title : String) (count : Nat) : String :=
  let noun := if count = 1 then "element" else "elements"
  s!"{title} with {count} {noun}"

def required {α : Type} (name : String) : Option α → Except Fault α
  | some value => .ok value
  | none => .error (.shape s!"missing field `{name}`")

def nextKey (first : Bool) : Reader Bool := fun text =>
  match dropSpace text with
  | [] => .error .truncated
  | 0x7D :: rest => .ok (false, 0x7D :: rest)
  | 0x22 :: rest => if first then .ok (true, rest) else .error .malformed
  | 0x2C :: rest =>
    if first then .error .malformed
    else match dropSpace rest with
      | [] => .error .truncated
      | 0x22 :: rest => .ok (true, rest)
      | _ => .error .malformed
  | _ => .error .malformed

namespace Record

variable {σ α : Type}

/-- Reads the members of an object. A second value for a field is a fault at its key. -/
def members (r : Record σ α) : (fuel : Nat) → (first : Bool) → σ → Reader σ
  | 0, _, _ => throw .malformed
  | fuel + 1, first, known => do
    if ← nextKey first then
      let key ← string
      match r.fields.find? (·.name = key) with
      | some field =>
        if field.isRead known then throw (.shape s!"duplicate field `{key}`")
        mark 0x3A .truncated
        members r fuel false (← field.read known)
      | none =>
        if r.closed then
          throw (.shape s!"unknown field `{key}`, expected {choices (r.fields.map (·.name))}")
        mark 0x3A .truncated
        skip
        members r fuel false known
    else return known

def inOrder (r : Record σ α) : List (Field σ) → (index : Nat) → σ → Reader σ
  | [], _, known => return known
  | field :: later, index, known => do
    if ← nextElement (index = 0) then
      inOrder r later (index + 1) (← field.read known)
    else throw (.shape s!"invalid length {index}, expected {r.arrayTitle}")

def read (r : Record σ α) : Reader α := fun text =>
  match dropSpace text with
  | 0x7B :: rest => (do
      let value ← r.finish (← r.members (rest.length + 1) true r.empty)
      mark 0x7D .truncated
      return value : Reader α) rest
  | 0x5B :: rest => (do
      let value ← r.finish (← r.inOrder r.fields 0 r.empty)
      mark 0x5D .truncated
      return value : Reader α) rest
  | text => mismatch r.title text

end Record

/-- What stands behind the name of a variant. -/
inductive Payload (α : Type) where
  | unit (value : α)
  | value (read : Reader α)
  | record (read : Reader α)

def variant {α : Type} (variants : List (String × Payload α)) (name : String) : Reader (Payload α) :=
  match variants.lookup name with
  | some payload => return payload
  | none => throw (.shape s!"unknown variant `{name}`, expected {choices (variants.map (·.1))}")

def null : Reader Unit := fun text =>
  match dropSpace text with
  | 0x6E :: rest => word ull rest
  | text => mismatch "unit" text

def Payload.alone {α : Type} : Payload α → Except Fault α
  | .unit chosen => .ok chosen
  | .value _ => wrongType "unit variant" "newtype variant"
  | .record _ => wrongType "unit variant" "struct variant"

def Payload.read {α : Type} : Payload α → Reader α
  | .unit chosen => do null; return chosen
  | .value read => read
  | .record read => read

def union {α : Type} (variants : List (String × Payload α)) : Reader α := fun text =>
  match dropSpace text with
  | [] => .error .truncated
  | 0x22 :: rest => (do
      let payload ← variant variants (← string)
      payload.alone : Reader α) rest
  | 0x7B :: rest => (do
      let payload ← variant variants (← stringOr "variant identifier")
      mark 0x3A .truncated
      let value ← payload.read
      mark 0x7D .truncated
      return value : Reader α) rest
  | _ => .error .malformed

def entriesFrom {α : Type} (read : Reader α) : (fuel : Nat) → (first : Bool) →
    Reader (List (String × α))
  | 0, _ => throw .malformed
  | fuel + 1, first => do
    if ← nextKey first then
      let key ← string
      mark 0x3A .truncated
      let value ← read
      return (key, value) :: (← entriesFrom read fuel false)
    else return []

/-- Reads an object with any keys, in the order of the text. -/
def entries {α : Type} (read : Reader α) : Reader (List (String × α)) := fun text =>
  match dropSpace text with
  | 0x7B :: rest => (do
      let values ← entriesFrom read (rest.length + 1) true
      mark 0x7D .truncated
      return values : Reader (List (String × α))) rest
  | text => mismatch "a map" text

end TabletRoster.Json
