import TabletRoster.Address
import TabletRoster.Text.Blank

namespace TabletRoster

/-- A restart on the same address gets another session and so is another instance. -/
structure Instance where
  address : Address
  session : String
  deriving DecidableEq, Repr, Hashable, Inhabited

namespace Instance

def order (a b : Instance) : Ordering :=
  (compare a.address b.address).then (compare a.session b.session)

instance : Ord Instance := ⟨order⟩

instance : Std.TransOrd Instance :=
  inferInstanceAs (Std.TransCmp (compareLex
    (compareOn fun a : Instance => a.address) (compareOn fun a : Instance => a.session)))

instance : Std.LawfulEqOrd Instance where
  eq_of_compare {a b} same := by
    have parts := Ordering.then_eq_eq.mp (show (compare a.address b.address).then _ = .eq from same)
    cases a; cases b
    simp_all

def text (i : Instance) : String :=
  s!"{i.address}[{i.session}]"

instance : ToString Instance := ⟨text⟩

end Instance

/-- Selects the instances on an address, or the one of a given session there. -/
structure Lookup where
  address : Address
  session : Option String
  deriving DecidableEq, Repr

namespace Lookup

def selects (lookup : Lookup) (i : Instance) : Bool :=
  i.address = lookup.address && lookup.session.all (· = i.session)

def cutSession (text : List Char) : Option (List Char × List Char) := do
  let (host, tail) ← Text.cutLast ':' text
  let (port, session) ← Text.cutFirst '[' tail
  return (host ++ ':' :: port, session)

/-- Reads `host:port` or `host:port[session]`, blanks around it aside. -/
def parse (text : String) : Except AddressError Lookup :=
  let trimmed := Text.trim text.toList
  match cutSession trimmed with
  | none => do
    return ⟨← Address.parse (String.ofList trimmed), none⟩
  | some (address, session) =>
    if session.getLast? = some ']' then do
      return ⟨← Address.parse (String.ofList address), some (String.ofList session.dropLast)⟩
    else .error (.openSession (String.ofList trimmed))

end Lookup
end TabletRoster
