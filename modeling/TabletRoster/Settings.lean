import TabletRoster.Span

namespace TabletRoster

structure Settings where
  root : String
  queueCapacity : UInt64
  scanInterval : Span
  /-- How long a path may stand without a lock before it is deleted. -/
  grace : Span
  retryDelay : Span
  maxIdle : UInt64
  idleTimeout : Span
  endpoints : List String
  deriving DecidableEq, Repr

namespace Settings

def standard : Settings where
  root := "/cluster/tservers"
  queueCapacity := 1024
  scanInterval := .ofSeconds 5
  grace := .ofMinutes 10
  retryDelay := .ofSeconds 3
  maxIdle := 10
  idleTimeout := .ofMinutes 2
  endpoints := ["127.0.0.1:2379"]

inductive Refusal where
  | overflow
  | zeroScanInterval
  deriving DecidableEq, Repr

def Refusal.message : Refusal → String
  | .overflow => "overflow when adding durations"
  | .zeroScanInterval => "scan_interval must be greater than zero"

/-- Only the scan interval is looked at. -/
def validate (settings : Settings) : Except Refusal Unit :=
  match settings.scanInterval.nanoseconds? with
  | none => .error .overflow
  | some 0 => .error .zeroScanInterval
  | some _ => .ok ()

end Settings
end TabletRoster
