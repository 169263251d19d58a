import TabletRoster.Instance

namespace TabletRoster

structure ServerPath where
  group : String
  address : Address
  deriving DecidableEq, Repr, Hashable, Inhabited

namespace ServerPath

def order (a b : ServerPath) : Ordering :=
  (compare a.group b.group).then (compare a.address b.address)

instance : Ord ServerPath := ⟨order⟩

instance : Std.TransOrd ServerPath :=
  inferInstanceAs (Std.TransCmp (compareLex
    (compareOn fun a : ServerPath => a.group) (compareOn fun a : ServerPath => a.address)))

instance : Std.LawfulEqOrd ServerPath where
  eq_of_compare {a b} same := by
    have parts := Ordering.then_eq_eq.mp (show (compare a.group b.group).then _ = .eq from same)
    cases a; cases b
    simp_all

def text (path : ServerPath) : String :=
  s!"{path.group}/{path.address}"

instance : ToString ServerPath := ⟨text⟩

end ServerPath

inductive KeyFault where
  | emptyGroup
  | address (error : AddressError)
  deriving DecidableEq, Repr

/-- What a key stands for, seen from the root. -/
inductive Place where
  | root
  | group (name : String)
  | server (path : ServerPath)
  | unrelated
  | malformed (key : String) (fault : KeyFault)
  deriving DecidableEq, Repr

def KeyFault.message (key : String) : KeyFault → String
  | .emptyGroup => s!"{key} has an empty resource group"
  | .address error => s!"{key} {error.message}"

structure Layout where
  root : String
  deriving DecidableEq, Repr

namespace Layout

def dropSlashes : List Char → List Char
  | '/' :: c :: rest => dropSlashes (c :: rest)
  | text => text

/-- Slashes at the end of a root do not count, except in the root `/`. -/
def of (root : String) : Layout :=
  ⟨String.ofList (dropSlashes root.toList.reverse).reverse⟩

def serverKey (layout : Layout) (path : ServerPath) : String :=
  s!"{layout.root}/{path}"

def below (layout : Layout) (path : ServerPath) : String :=
  s!"{layout.serverKey path}/"

def lockStem (layout : Layout) (path : ServerPath) : String :=
  s!"{layout.serverKey path}/lock/"

def lockKey (layout : Layout) (path : ServerPath) (session : String) : String :=
  layout.lockStem path ++ session

/-- What a key below the root stands for; `rest` is the key without root and slash. -/
def placeBelow (key : String) (rest : List Char) : Place :=
  match Text.cutFirst '/' rest with
  | none => if rest.isEmpty then .malformed key .emptyGroup else .group (String.ofList rest)
  | some (group, tail) =>
    if group.isEmpty then .malformed key .emptyGroup
    else
      let address := match Text.cutFirst '/' tail with
        | some (address, _) => address
        | none => tail
      match Address.parse (String.ofList address) with
      | .ok address => .server ⟨String.ofList group, address⟩
      | .error error => .malformed key (.address error)

def place (layout : Layout) (key : String) : Place :=
  if key = layout.root then .root
  else match Text.after? (layout.root.toList ++ ['/']) key.toList with
    | none => .unrelated
    | some rest => placeBelow key rest

def server? (layout : Layout) (key : String) : Option ServerPath :=
  match layout.place key with
  | .server path => some path
  | _ => none

end Layout
end TabletRoster
