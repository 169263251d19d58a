import TabletRoster.Settings

namespace TabletRoster.Settings

open Json (Tree Fault)

def natural (n : UInt64) : Tree := .number (.natural n)

def write (settings : Settings) : List (String × Tree) :=
  [("namespace_root", .text settings.root),
    ("reconcile_queue_capacity", natural settings.queueCapacity),
    ("scan_interval", settings.scanInterval.write),
    ("stale_grace_period", settings.grace.write),
    ("watch_retry_delay", settings.retryDelay.write),
    ("pool", .record [("max_idle_per_address", natural settings.maxIdle),
      ("idle_timeout", settings.idleTimeout.write)]),
    ("etcd", .record [("endpoints", .list (settings.endpoints.map .text))])]

def spans? (settings : Settings) : Option (List Nat) :=
  [settings.scanInterval, settings.grace, settings.retryDelay, settings.idleTimeout].mapM
    Span.nanoseconds?

def asText : Tree → Except Fault String
  | .text s => .ok s
  | value => Json.wrongType value.describe "a string"

def asNatural : Tree → Except Fault UInt64
  | .number n => do return (← n.toNatural 64).toUInt64
  | value => Json.wrongType value.describe "usize"

def asTexts : Tree → Except Fault (List String)
  | .list items => items.mapM asText
  | value => Json.wrongType value.describe "a sequence"

def member (value : Tree) (name : String) : Except Fault Tree :=
  match value.member? name with
  | some found => .ok found
  | none => .error (.shape s!"missing field `{name}`")

def replace (settings : Settings) (name : String) (value : Tree) : Except Fault Settings :=
  match name with
  | "namespace_root" => do return { settings with root := ← asText value }
  | "reconcile_queue_capacity" => do return { settings with queueCapacity := ← asNatural value }
  | "scan_interval" => do return { settings with scanInterval := ← Span.read value }
  | "stale_grace_period" => do return { settings with grace := ← Span.read value }
  | "watch_retry_delay" => do return { settings with retryDelay := ← Span.read value }
  | "pool" => do
    return { settings with
      maxIdle := ← asNatural (← member value "max_idle_per_address")
      idleTimeout := ← Span.read (← member value "idle_timeout") }
  | "etcd" => do return { settings with endpoints := ← asTexts (← member value "endpoints") }
  | _ => .ok settings

def replaced (members : List (String × Tree)) : Except Fault Settings :=
  members.foldlM (fun settings (name, value) => settings.replace name value) standard

end TabletRoster.Settings
