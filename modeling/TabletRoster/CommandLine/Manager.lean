import TabletRoster.CommandLine.Options
import TabletRoster.Settings.Layers

namespace TabletRoster.CommandLine

structure Manager where
  etcd : Option String
  root : Option String
  config : Option String
  lock : String
  statusInterval : UInt64
  maxFailures : UInt32
  deriving DecidableEq, Repr

namespace Manager

def natural? (bits : Nat) (value : String) : Option Nat :=
  Text.natural? (Nat.pow 2 bits) value.toList

def count? (value : String) : Option Nat := do
  let n ← Text.integer? (Nat.pow 2 63) value.toList
  if 0 ≤ n ∧ n < Nat.pow 2 32 then some n.toNat else none

def flags : List Flag :=
  [⟨"etcd", some 'e', anyText⟩, ⟨"root", some 'r', anyText⟩, ⟨"config", some 'c', nonempty⟩,
    ⟨"manager-lock", none, anyText⟩, ⟨"status-interval", none, readable (natural? 64)⟩,
    ⟨"max-failures", none, readable count?⟩]

def parse (arguments : List String) : Parsing Manager := do
  let values ← CommandLine.parse flags arguments
  return {
    etcd := values.lookup "etcd"
    root := values.lookup "root"
    config := values.lookup "config"
    lock := (values.lookup "manager-lock").getD "/cluster/managers/lock"
    statusInterval := (((values.lookup "status-interval").bind (natural? 64)).getD 10).toUInt64
    maxFailures := (((values.lookup "max-failures").bind count?).getD 3).toUInt32 }

/-- The settings of a manager. `contents` gives the text of a file that is there. -/
def settings (manager : Manager) (contents : String → Option String)
    (environment : List (String × String)) : Except Settings.Failure Settings := do
  let file ← match manager.config with
    | some path => do pure [← Settings.locate contents path]
    | none => pure []
  let settings ← Settings.build (file ++ [.environment environment])
  return { settings with
    endpoints := (manager.etcd.map ([·])).getD settings.endpoints
    root := manager.root.getD settings.root }

end Manager
end TabletRoster.CommandLine
