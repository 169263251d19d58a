import TabletRoster.Settings
import TabletRoster.Settings.Value
import TabletRoster.Text.Fraction

namespace TabletRoster.Settings

abbrev Reading := Except String

structure Part where
  place : String
  value : Value

namespace Part

def member (part : Part) (key : String) (value : Value) : Part :=
  ⟨if part.place.isEmpty then key else s!"{part.place}.{key}", value⟩

def item (part : Part) (n : Nat) (value : Value) : Part :=
  ⟨s!"{part.place}[{n}]", value⟩

def wrong {α : Type} (part : Part) (found expected : String) : Reading α :=
  .error s!"invalid type: {found}, expected {expected} for key `{part.place}`"

def text (part : Part) : Reading String :=
  match part.value with
  | .text s => .ok s
  | .boolean b => .ok (toString b)
  | .integer n => .ok (toString n)
  | .real x => .ok (Text.positional x)
  | .null => part.wrong "unit value" "a string"
  | .list _ => part.wrong "sequence" "a string"
  | .table _ => part.wrong "map" "a string"

def wordNumber? (word : String) : Option UInt64 :=
  if ["true", "on", "yes"].contains word then some 1
  else if ["false", "off", "no"].contains word then some 0
  else none

/-- The whole number next to a float, away from zero half way, and kept in 64 bits. -/
def rounded (x : Float) : UInt64 :=
  x.round.toUInt64

def natural (part : Part) : Reading UInt64 :=
  match part.value with
  | .integer n =>
    if 0 ≤ n then .ok n.toNat.toUInt64
    else part.wrong s!"64-bit integer `{n}`" "an unsigned 64 bit or less integer"
  | .boolean b => .ok (if b then 1 else 0)
  | .real x => .ok (rounded x)
  | .text s =>
    match wordNumber? s.toLower, Text.natural? UInt64.size s.toList with
    | some n, _ => .ok n
    | none, some n => .ok n.toUInt64
    | none, none => part.wrong s!"string {Text.quoted s}" "an integer"
  | .null => part.wrong "unit value" "an integer"
  | .list _ => part.wrong "sequence" "an integer"
  | .table _ => part.wrong "map" "an integer"

def natural? (part : Part) : Reading (Option UInt64) :=
  match part.value with
  | .null => .ok none
  | _ => some <$> part.natural

end Part

def Value.describe : Value → String
  | .null => "unit value"
  | .boolean b => s!"boolean `{b}`"
  | .integer n => s!"integer `{n}`"
  | .real x => s!"floating point `{Text.pointed x}`"
  | .text s => s!"string {Text.quoted s}"
  | .list _ => "sequence"
  | .table _ => "map"

def Part.mismatch {α : Type} (part : Part) (expected : String) : Reading α :=
  .error s!"invalid type: {part.value.describe}, expected {expected}"

/-- The fields of a record: those of a table by name, those of a list by position. -/
structure Fields where
  find : String → Option Part
  missing : String → String

def Part.fields (part : Part) (kind : String) (names : List String) : Reading Fields :=
  match part.value with
  | .table members => .ok
    { find := fun name => (members.lookup name).map (part.member name)
      missing := fun name => s!"missing field `{name}`" }
  | .list items => .ok
    { find := fun name => do
        let n ← names.idxOf? name
        return part.item n (← items[n]?)
      missing := fun name =>
        let n := (names.idxOf? name).getD 0
        let count := if names.length = 1 then "1 element" else s!"{names.length} elements"
        s!"invalid length {n}, expected struct {kind} with {count}" }
  | _ => part.mismatch s!"struct {kind}"

namespace Fields

def read? {α : Type} (fields : Fields) (name : String) (read : Part → Reading α) :
    Reading (Option α) :=
  match fields.find name with
  | some part => some <$> read part
  | none => .ok none

def require {α : Type} (fields : Fields) (name : String) : Option α → Reading α
  | some value => .ok value
  | none => .error (fields.missing name)

end Fields

def readSpan (part : Part) : Reading Span := do
  let fields ← part.fields "ConfigDuration" ["minutes", "seconds", "milliseconds"]
  let unit (name : String) : Reading (Option UInt64) := do
    return (← fields.read? name Part.natural?).join
  return ⟨← unit "minutes", ← unit "seconds", ← unit "milliseconds"⟩

def readPool (part : Part) : Reading (UInt64 × Span) := do
  let fields ← part.fields "PoolConfig" ["max_idle_per_address", "idle_timeout"]
  let most ← fields.read? "max_idle_per_address" Part.natural
  let timeout ← fields.read? "idle_timeout" readSpan
  return (← fields.require "max_idle_per_address" most, ← fields.require "idle_timeout" timeout)

def readTexts (part : Part) : Reading (List String) :=
  match part.value with
  | .list items => (items.zipIdx.map fun (value, n) => part.item n value).mapM Part.text
  | _ => part.mismatch "a sequence"

def readEndpoints (part : Part) : Reading (List String) := do
  let fields ← part.fields "EtcdConfig" ["endpoints"]
  let endpoints ← fields.read? "endpoints" readTexts
  fields.require "endpoints" endpoints

def read (value : Value) : Reading Settings := do
  let fields ← Part.fields ⟨"", value⟩ "MembershipConfig" ["namespace_root",
    "reconcile_queue_capacity", "scan_interval", "stale_grace_period", "watch_retry_delay", "pool",
    "etcd"]
  let root ← fields.read? "namespace_root" Part.text
  let queueCapacity ← fields.read? "reconcile_queue_capacity" Part.natural
  let scanInterval ← fields.read? "scan_interval" readSpan
  let grace ← fields.read? "stale_grace_period" readSpan
  let retryDelay ← fields.read? "watch_retry_delay" readSpan
  let pool ← fields.read? "pool" readPool
  let endpoints ← fields.read? "etcd" readEndpoints
  let (maxIdle, idleTimeout) ← fields.require "pool" pool
  return {
    root := ← fields.require "namespace_root" root
    queueCapacity := ← fields.require "reconcile_queue_capacity" queueCapacity
    scanInterval := ← fields.require "scan_interval" scanInterval
    grace := ← fields.require "stale_grace_period" grace
    retryDelay := ← fields.require "watch_retry_delay" retryDelay
    maxIdle, idleTimeout
    endpoints := ← fields.require "etcd" endpoints }

end TabletRoster.Settings
