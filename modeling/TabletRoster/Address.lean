import TabletRoster.Text.Cut
import TabletRoster.Text.Numeral

namespace TabletRoster

structure Address where
  host : String
  port : UInt16
  deriving DecidableEq, Repr, Hashable, Inhabited

inductive AddressError where
  | missingPort (text : String)
  | invalidPort (text : String)
  | emptyHost (text : String)
  | openSession (text : String)
  deriving DecidableEq, Repr

def AddressError.message : AddressError → String
  | .missingPort text => s!"address {text} is missing a port"
  | .invalidPort text => s!"address {text} has an invalid port"
  | .emptyHost text => s!"address {text} has an empty host"
  | .openSession text => s!"address {text} has an unterminated session suffix"

namespace Address

def order (a b : Address) : Ordering :=
  (compare a.host b.host).then (compare a.port b.port)

instance : Ord Address := ⟨order⟩

instance : Std.TransOrd Address :=
  inferInstanceAs (Std.TransCmp (compareLex
    (compareOn fun a : Address => a.host) (compareOn fun a : Address => a.port)))

instance : Std.LawfulEqOrd Address where
  eq_of_compare {a b} same := by
    have parts := Ordering.then_eq_eq.mp (show (compare a.host b.host).then _ = .eq from same)
    cases a; cases b
    simp_all

def unbracket : List Char → List Char
  | '[' :: inner => if inner.getLast? = some ']' then inner.dropLast else '[' :: inner
  | host => host

/-- Reads `host:port`; the last colon separates. An empty host is reported before a bad port. -/
def parse (text : String) : Except AddressError Address :=
  match Text.cutLast ':' text.toList with
  | none => .error (.missingPort text)
  | some (host, port) =>
    let host := unbracket host
    if host.isEmpty then .error (.emptyHost text)
    else match Text.natural? UInt16.size port with
      | none => .error (.invalidPort text)
      | some port => .ok ⟨String.ofList host, port.toUInt16⟩

def text (a : Address) : String :=
  if a.host.toList.contains ':' then s!"[{a.host}]:{a.port.toNat}" else s!"{a.host}:{a.port.toNat}"

instance : ToString Address := ⟨text⟩

end Address
end TabletRoster
