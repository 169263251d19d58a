import TabletRoster.Json.Tree

namespace TabletRoster

structure Span where
  minutes : Option UInt64
  seconds : Option UInt64
  milliseconds : Option UInt64
  deriving DecidableEq, Repr, Inhabited

namespace Span

def ofMinutes (n : UInt64) : Span := ⟨some n, none, none⟩
def ofSeconds (n : UInt64) : Span := ⟨none, some n, none⟩
def ofMilliseconds (n : UInt64) : Span := ⟨none, none, some n⟩

def count (unit : Option UInt64) : Nat :=
  (unit.getD 0).toNat

def total (span : Span) : Nat :=
  60000 * count span.minutes + 1000 * count span.seconds + count span.milliseconds

/-- The length in nanoseconds; none when the minutes, the minutes with the seconds, or the whole
seconds of the sum exceed 64 bits. -/
def nanoseconds? (span : Span) : Option Nat :=
  let seconds := count span.minutes * 60 + count span.seconds
  if UInt64.size ≤ seconds then none
  else if UInt64.size ≤ seconds + count span.milliseconds / 1000 then none
  else some (seconds * 1000000000 + count span.milliseconds * 1000000)

def write (span : Span) : Json.Tree :=
  let unit (name : String) (value : Option UInt64) : List (String × Json.Tree) :=
    match value with
    | some n => [(name, .number (.natural n))]
    | none => []
  .record (unit "milliseconds" span.milliseconds ++ unit "minutes" span.minutes ++
    unit "seconds" span.seconds)

def unitOf : Json.Tree → Except Json.Fault (Option UInt64)
  | .null => .ok none
  | .number n => do return some (← n.toNatural 64).toUInt64
  | value => Json.wrongType value.describe "u64"

def setUnit (span : Span) (name : String) (value : Json.Tree) : Except Json.Fault Span :=
  match name with
  | "minutes" => do return { span with minutes := ← unitOf value }
  | "seconds" => do return { span with seconds := ← unitOf value }
  | "milliseconds" => do return { span with milliseconds := ← unitOf value }
  | _ => .ok span

def read : Json.Tree → Except Json.Fault Span
  | .record members => members.foldlM (fun span (name, value) => setUnit span name value) default
  | .list items => do
    let named := ["minutes", "seconds", "milliseconds"].zip items
    let span ← named.foldlM (fun span (name, value) => setUnit span name value) default
    if items.length ≤ 3 then return span
    else throw (.shape s!"invalid length {items.length}, expected fewer elements in array")
  | value => Json.wrongType value.describe "struct ConfigDuration"

end Span
end TabletRoster
