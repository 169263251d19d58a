import TabletRoster.Settings.Ini
import TabletRoster.Settings.Json5
import TabletRoster.Settings.Read
import TabletRoster.Settings.Ron
import TabletRoster.Settings.Toml
import TabletRoster.Settings.Yaml

/-!
Settings in layers: the standard ones below, files and environments above them in their order. Each
layer is laid over those below it, key by key.
-/
namespace TabletRoster.Settings

inductive Format where
  | toml
  | json
  | yaml
  | ini
  | json5
  | ron
  deriving DecidableEq, Repr

def Format.parse (format : Format) (text : String) : Option Value :=
  match format with
  | .toml => Toml.parse text.toList
  | .json => (Json.Tree.parse (Text.Utf8.encode text)).toOption.map Value.ofJson
  | .yaml => Yaml.parse text.toList
  | .ini => Ini.parse text.toList
  | .json5 => Json5.parse text.toList
  | .ron => Ron.parse text.toList

def endings : List (String × Format) :=
  [("toml", .toml), ("json", .json), ("yaml", .yaml), ("yml", .yaml), ("ini", .ini), ("ron", .ron),
    ("json5", .json5)]

/-- A source of settings: text in some format, or the variables of an environment. -/
inductive Source where
  | file (format : Format) (text : String)
  | environment (assignments : List (String × String))

inductive Failure where
  | missing
  | malformed
  | outside
  | shape (message : String)
  | refused (refusal : Refusal)
  deriving DecidableEq, Repr

def ending? (path : String) : Option String := do
  let name := match Text.cutLast '/' path.toList with
    | some (_, name) => name
    | none => path.toList
  let (stem, ending) ← Text.cutLast '.' name
  if stem.isEmpty then none else some (String.ofList ending)

/-- The file that a path means: the one of that name, or else the first one that is there with an
ending of a known format behind the name. `contents` gives the text of a file that is there. -/
def locate (contents : String → Option String) (path : String) : Except Failure Source :=
  let found := match contents path with
    | some text => do return .file (← endings.lookup (← ending? path)) text
    | none => endings.findSome? fun (ending, format) =>
        (contents s!"{path}.{ending}").map (.file format ·)
  match found with
  | some source => .ok source
  | none => .error .missing

def Failure.message : Failure → String
  | .missing => "the settings file is not there or of no known format"
  | .malformed => "the settings file is malformed"
  | .outside => "a key leads out of its list"
  | .shape message => message
  | .refused refusal => refusal.message

def variableStem : String := "tserver__"

def dotted : List Char → List Char
  | '_' :: '_' :: rest => '.' :: dotted rest
  | c :: rest => c :: dotted rest
  | [] => []

def variableKey? (name : String) : Option String := do
  let rest ← Text.after? variableStem.toList name.toLower.toList
  return String.ofList (dotted rest)

def variableMembers (assignments : List (String × String)) : List (String × Value) :=
  assignments.filterMap fun (name, value) => (variableKey? name).map fun key => (key, .text value)

def variableNames : List String :=
  let spans := ["SCAN_INTERVAL", "STALE_GRACE_PERIOD", "WATCH_RETRY_DELAY", "POOL__IDLE_TIMEOUT"]
  let units := ["MINUTES", "SECONDS", "MILLISECONDS"]
  (["NAMESPACE_ROOT", "RECONCILE_QUEUE_CAPACITY", "POOL__MAX_IDLE_PER_ADDRESS"] ++
    spans.flatMap fun span => units.map fun unit => s!"{span}__{unit}").map ("TSERVER__" ++ ·)

def Source.members : Source → Except Failure (List (String × Value))
  | .file format text =>
    match format.parse text with
    | some (.table members) => .ok members
    | _ => .error .malformed
  | .environment assignments => .ok (variableMembers assignments)

/-- Lays members over a value; their keys are paths. -/
def lay (below : Value) (members : List (String × Value)) : Except Failure Value :=
  match members.foldlM (fun below (key, value) => Value.coverPath value (Step.parse key) below) below with
  | some value => .ok value
  | none => .error .outside

def Value.ofSpan (span : Span) : Value :=
  let unit (name : String) : Option UInt64 → List (String × Value)
    | some n => [(name, .integer n.toNat)]
    | none => []
  .table (unit "minutes" span.minutes ++ unit "seconds" span.seconds ++
    unit "milliseconds" span.milliseconds)

def toValue (settings : Settings) : Value :=
  .table [("namespace_root", .text settings.root),
    ("reconcile_queue_capacity", .integer settings.queueCapacity.toNat),
    ("scan_interval", .ofSpan settings.scanInterval),
    ("stale_grace_period", .ofSpan settings.grace),
    ("watch_retry_delay", .ofSpan settings.retryDelay),
    ("pool", .table [("max_idle_per_address", .integer settings.maxIdle.toNat),
      ("idle_timeout", .ofSpan settings.idleTimeout)]),
    ("etcd", .table [("endpoints", .list (settings.endpoints.map .text))])]

/-- The value of all sources over the standard settings. -/
def layered (sources : List Source) : Except Failure Value :=
  sources.foldlM (fun below source => do lay below (← source.members)) standard.toValue

def build (sources : List Source) : Except Failure Settings := do
  match read (← layered sources) with
  | .error message => .error (.shape message)
  | .ok settings =>
    match settings.validate with
    | .ok () => return settings
    | .error refusal => .error (.refused refusal)

end TabletRoster.Settings
