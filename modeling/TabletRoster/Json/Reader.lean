import TabletRoster.Text.Numeral
import TabletRoster.Text.Quoted
import TabletRoster.Text.Shortest
import TabletRoster.Text.Utf8

namespace TabletRoster.Json

inductive Fault where
  | malformed
  | truncated
  /-- The JSON is fine, but not of the expected shape. -/
  | shape (message : String)
  deriving DecidableEq, Repr

def Fault.text : Fault → String
  | .malformed => "<malformed json>"
  | .truncated => "<malformed json>"
  | .shape message => message

abbrev Reader := StateT Bytes (Except Fault)

def isSpace (b : UInt8) : Bool :=
  b = 0x20 || b = 0x0A || b = 0x0D || b = 0x09

def dropSpace (text : Bytes) : Bytes :=
  text.dropWhile isSpace

def digit? (b : UInt8) : Option Nat :=
  if 0x30 ≤ b ∧ b ≤ 0x39 then some (b.toNat - 0x30) else none

def startsDigit (text : Bytes) : Bool :=
  (text.head?.bind digit?).isSome

def mark (b : UInt8) (atEnd : Fault) : Reader Unit := fun text =>
  match dropSpace text with
  | [] => .error atEnd
  | c :: rest => if c = b then .ok ((), rest) else .error .malformed

def word : (tail : Bytes) → Reader Unit
  | [], text => .ok ((), text)
  | _ :: _, [] => .error .truncated
  | w :: tail, b :: text => if w = b then word tail text else .error .malformed

def ull : Bytes := [0x75, 0x6C, 0x6C]
def rue : Bytes := [0x72, 0x75, 0x65]
def alse : Bytes := [0x61, 0x6C, 0x73, 0x65]

/-! ### Strings -/

def hexDigit? (b : UInt8) : Option Nat :=
  Text.hexDigit? (Char.ofNat b.toNat)

def unit? (a b c d : UInt8) : Option Nat := do
  return (← hexDigit? a) * 4096 + (← hexDigit? b) * 256 + (← hexDigit? c) * 16 + (← hexDigit? d)

def escape? (b : UInt8) : Option UInt8 :=
  if b = 0x22 ∨ b = 0x5C ∨ b = 0x2F then some b
  else if b = 0x62 then some 0x08
  else if b = 0x66 then some 0x0C
  else if b = 0x6E then some 0x0A
  else if b = 0x72 then some 0x0D
  else if b = 0x74 then some 0x09
  else none

def unitBytes (code : Nat) : Bytes :=
  (String.utf8EncodeChar (Char.ofNat code))

/-- Reads string bytes up to the closing quote; `read` holds those read so far, last one first.
After the first half of a surrogate pair only its second half may follow. -/
def content (high : Option Nat) (read : Bytes) : Reader Bytes
  | [] => .error .truncated
  | 0x5C :: 0x75 :: a :: b :: c :: d :: rest =>
    match unit? a b c d, high with
    | none, _ => .error .malformed
    | some code, none =>
      if 0xDC00 ≤ code ∧ code ≤ 0xDFFF then .error .malformed
      else if 0xD800 ≤ code ∧ code ≤ 0xDBFF then content (some code) read rest
      else content none ((unitBytes code).reverse ++ read) rest
    | some code, some first =>
      if 0xDC00 ≤ code ∧ code ≤ 0xDFFF then
        let joined := (first - 0xD800) * 1024 + (code - 0xDC00) + 0x10000
        content none ((unitBytes joined).reverse ++ read) rest
      else .error .malformed
  | 0x5C :: 0x75 :: _ => .error .truncated
  | 0x5C :: b :: rest =>
    match high, escape? b with
    | none, some byte => content none (byte :: read) rest
    | _, _ => .error .malformed
  | [0x5C] => .error .truncated
  | b :: rest =>
    if high.isSome then .error .malformed
    else if b = 0x22 then .ok (read.reverse, rest)
    else if b < 0x20 then .error .malformed
    else content none (b :: read) rest

def string : Reader String := do
  match Text.Utf8.decode? (← content none []) with
  | some text => return text
  | none => throw .malformed

def skipString : Reader Unit
  | [] => .error .truncated
  | 0x5C :: 0x75 :: a :: b :: c :: d :: rest =>
    if (unit? a b c d).isSome then skipString rest else .error .malformed
  | 0x5C :: 0x75 :: _ => .error .truncated
  | 0x5C :: b :: rest => if (escape? b).isSome then skipString rest else .error .malformed
  | [0x5C] => .error .truncated
  | b :: rest =>
    if b = 0x22 then .ok ((), rest)
    else if b < 0x20 then .error .malformed
    else skipString rest

/-! ### Numbers -/

inductive Number where
  | natural (n : UInt64)
  | negative (n : Int64)
  | decimal (x : Float)
  deriving Repr

/-- What a run of digits adds to a 64-bit significand: the new significand, how many digits it
took up, how many more came after it was full, and the rest. -/
def significand (value taken dropped : Nat) : Bytes → Nat × Nat × Nat × Bytes
  | [] => (value, taken, dropped, [])
  | b :: rest =>
    match digit? b with
    | none => (value, taken, dropped, b :: rest)
    | some d =>
      if dropped = 0 ∧ value * 10 + d < UInt64.size then
        significand (value * 10 + d) (taken + 1) 0 rest
      else significand value taken (dropped + 1) rest

def scale (x : Float) (exponent : Int) : Option Float :=
  if 308 < exponent then if x == 0 then some x else none
  else if 0 ≤ exponent then
    let y := x * Float.ofScientific 1 false exponent.toNat
    if y.isInf then none else some y
  else if -308 ≤ exponent then some (x / Float.ofScientific 1 false (-exponent).toNat)
  else if x == 0 then some x
  else scale (x / 1e308) (exponent + 308)
termination_by (-exponent).toNat

def signed (positive : Bool) (x : Float) : Float :=
  if positive then x else -x

def scaled (positive : Bool) (value : Nat) (exponent : Int) : Reader Number := fun text =>
  match scale value.toUInt64.toFloat exponent with
  | some x => .ok (.decimal (signed positive x), text)
  | none => .error .malformed

def exponent (positive : Bool) (value : Nat) (shift : Int) : Reader Number := fun text =>
  let (up, text) := match text with
    | 0x2B :: rest => (true, rest)
    | 0x2D :: rest => (false, rest)
    | rest => (true, rest)
  match text with
  | [] => .error .truncated
  | _ =>
    if !startsDigit text then .error .malformed
    else
      let digits := text.takeWhile fun b => (digit? b).isSome
      let rest := text.dropWhile fun b => (digit? b).isSome
      let size := digits.foldl (fun n b => n * 10 + (digit? b).getD 0) 0
      if size < Nat.pow 2 31 then scaled positive value (if up then shift + size else shift - size) rest
      else if up ∧ value ≠ 0 then .error .malformed
      else .ok (.decimal (signed positive 0), rest)

def fraction (positive : Bool) (value : Nat) (shift : Nat) : Reader Number
  | 0x2E :: text =>
    match text with
    | [] => .error .truncated
    | _ =>
      if !startsDigit text then .error .malformed
      else
        let (value, taken, _, rest) := significand value 0 0 text
        let shift : Int := shift - taken
        match rest with
        | 0x65 :: rest => exponent positive value shift rest
        | 0x45 :: rest => exponent positive value shift rest
        | rest => scaled positive value shift rest
  | 0x65 :: text => exponent positive value shift text
  | 0x45 :: text => exponent positive value shift text
  | text =>
    if shift ≠ 0 then scaled positive value shift text
    else if positive then .ok (.natural value.toUInt64, text)
    else if value = 0 ∨ Nat.pow 2 63 < value then .ok (.decimal (-value.toUInt64.toFloat), text)
    else .ok (.negative (Int64.ofInt (-(value : Int))), text)

def number (positive : Bool) : Reader Number
  | [] => .error .truncated
  | 0x30 :: rest => if startsDigit rest then .error .malformed else fraction positive 0 0 rest
  | text =>
    if startsDigit text then
      let (value, _, dropped, rest) := significand 0 0 0 text
      fraction positive value dropped rest
    else .error .malformed

def dropDigits (text : Bytes) : Bytes :=
  text.dropWhile fun b => (digit? b).isSome

def skipDigits : Reader Unit := fun text =>
  if startsDigit text then .ok ((), dropDigits text) else .error .malformed

def skipExponent : Reader Unit
  | 0x65 :: 0x2B :: rest => skipDigits rest
  | 0x65 :: 0x2D :: rest => skipDigits rest
  | 0x65 :: rest => skipDigits rest
  | 0x45 :: 0x2B :: rest => skipDigits rest
  | 0x45 :: 0x2D :: rest => skipDigits rest
  | 0x45 :: rest => skipDigits rest
  | text => .ok ((), text)

def skipFraction : Reader Unit
  | 0x2E :: rest => do skipExponent (← skipDigits rest).2
  | text => skipExponent text

def skipNumber : Reader Unit
  | 0x30 :: rest => if startsDigit rest then .error .malformed else skipFraction rest
  | text => do skipFraction (← skipDigits text).2

/-! ### Values that nobody asked for -/

inductive Nest where
  | list
  | record
  deriving DecidableEq, Repr

def skipKey : Reader Unit := do
  mark 0x22 .truncated
  skipString
  mark 0x3A .truncated

/-- Passes over a value and whatever closes the nests around it. `comma` tells that a value has
just ended in the innermost nest. -/
def skipIn : (fuel : Nat) → List Nest → (comma : Bool) → Reader Unit
  | 0, _, _, _ => .error .malformed
  | _ + 1, [], true, text => .ok ((), text)
  | fuel + 1, nest :: outer, true, text =>
    match nest, dropSpace text with
    | _, [] => .error .truncated
    | .list, 0x5D :: rest => skipIn fuel outer true rest
    | .record, 0x7D :: rest => skipIn fuel outer true rest
    | .list, 0x2C :: rest => skipIn fuel (.list :: outer) false rest
    | .record, 0x2C :: rest => do
      let (_, rest) ← skipKey rest
      skipIn fuel (.record :: outer) false rest
    | _, _ => .error .malformed
  | fuel + 1, nests, false, text =>
    match dropSpace text with
    | [] => .error .truncated
    | 0x6E :: rest => do skipIn fuel nests true (← word ull rest).2
    | 0x74 :: rest => do skipIn fuel nests true (← word rue rest).2
    | 0x66 :: rest => do skipIn fuel nests true (← word alse rest).2
    | 0x22 :: rest => do skipIn fuel nests true (← skipString rest).2
    | 0x2D :: rest => do skipIn fuel nests true (← skipNumber rest).2
    | 0x5B :: rest =>
      match dropSpace rest with
      | [] => .error .truncated
      | 0x5D :: rest => skipIn fuel nests true rest
      | rest => skipIn fuel (.list :: nests) false rest
    | 0x7B :: rest =>
      match dropSpace rest with
      | [] => .error .truncated
      | 0x7D :: rest => skipIn fuel nests true rest
      | rest => do
        let (_, rest) ← skipKey rest
        skipIn fuel (.record :: nests) false rest
    | text => if startsDigit text then do skipIn fuel nests true (← skipNumber text).2
      else .error .malformed

def skip : Reader Unit := fun text =>
  skipIn (2 * text.length + 2) [] false text

/-! ### Scalars of a given type -/

def Number.describe : Number → String
  | .natural n => s!"integer `{n.toNat}`"
  | .negative n => s!"integer `{n.toInt}`"
  | .decimal x => s!"floating point `{Text.decimal x}`"

def wrongType {α : Type} (found expected : String) : Except Fault α :=
  .error (.shape s!"invalid type: {found}, expected {expected}")

/-- The fault of a value that is not what was expected; spaces are passed already. Only the begin
of an array or object is looked at, but a scalar is read to its end. -/
def mismatch {α : Type} (expected : String) : Reader α
  | [] => .error .truncated
  | 0x6E :: rest => do let _ ← word ull rest; wrongType "null" expected
  | 0x74 :: rest => do let _ ← word rue rest; wrongType "boolean `true`" expected
  | 0x66 :: rest => do let _ ← word alse rest; wrongType "boolean `false`" expected
  | 0x2D :: rest => do wrongType (← number false rest).1.describe expected
  | 0x22 :: rest => do wrongType s!"string {Text.quoted (← string rest).1}" expected
  | 0x5B :: _ => wrongType "sequence" expected
  | 0x7B :: _ => wrongType "map" expected
  | text => if startsDigit text then do wrongType (← number true text).1.describe expected
    else .error .malformed

def stringOr (expected : String) : Reader String := fun text =>
  match dropSpace text with
  | 0x22 :: rest => string rest
  | text => mismatch expected text

def text : Reader String :=
  stringOr "a string"

def anyNumber (expected : String) : Reader Number := fun text =>
  match dropSpace text with
  | 0x2D :: rest => number false rest
  | text => if startsDigit text then number true text else mismatch expected text

def Number.toNatural (bits : Nat) : Number → Except Fault Nat
  | .natural n =>
    if n.toNat < Nat.pow 2 bits then .ok n.toNat
    else .error (.shape s!"invalid value: integer `{n.toNat}`, expected u{bits}")
  | .negative n => .error (.shape s!"invalid value: integer `{n.toInt}`, expected u{bits}")
  | .decimal x => wrongType (Number.decimal x).describe s!"u{bits}"

def Number.toFloat : Number → Float
  | .natural n => n.toFloat
  | .negative n => Float.ofInt n.toInt
  | .decimal x => x

def natural (bits : Nat) : Reader Nat := do
  (← anyNumber s!"u{bits}").toNatural bits

def float : Reader Float := do
  return (← anyNumber "f64").toFloat

def optional {α : Type} (read : Reader α) : Reader (Option α) := fun text =>
  match dropSpace text with
  | 0x6E :: rest => do return (none, (← word ull rest).2)
  | text => do
    let (value, rest) ← read text
    return (some value, rest)

/-! ### Lists -/

def nextElement (first : Bool) : Reader Bool := fun text =>
  match dropSpace text with
  | [] => .error .truncated
  | 0x5D :: rest => .ok (false, 0x5D :: rest)
  | 0x2C :: rest =>
    if first then .ok (true, 0x2C :: rest)
    else match dropSpace rest with
      | [] => .error .truncated
      | 0x5D :: _ => .error .malformed
      | rest => .ok (true, rest)
  | text => if first then .ok (true, text) else .error .malformed

def elements {α : Type} (read : Reader α) : (fuel : Nat) → (first : Bool) → Reader (List α)
  | 0, _ => throw .malformed
  | fuel + 1, first => do
    if ← nextElement first then
      let value ← read
      return value :: (← elements read fuel false)
    else return []

def list {α : Type} (read : Reader α) : Reader (List α) := fun text =>
  match dropSpace text with
  | 0x5B :: rest => (do
      let values ← elements read (rest.length + 1) true
      mark 0x5D .truncated
      return values : Reader (List α)) rest
  | text => mismatch "a sequence" text

def readAll {α : Type} (read : Reader α) (text : Bytes) : Except Fault α := do
  let (value, rest) ← read text
  if (dropSpace rest).isEmpty then return value else throw .malformed

end TabletRoster.Json
