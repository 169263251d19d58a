import TabletRoster.CommandLine.Options
import TabletRoster.Text.Cut
import TabletRoster.Text.Numeral

namespace TabletRoster.CommandLine

structure Socket where
  octets : List Nat
  port : UInt16
  deriving DecidableEq, Repr

namespace Socket

def octet? (text : List Char) : Option Nat := do
  let n ← Text.digits? text
  if n < 256 ∧ (text.length = 1 ∨ text.head? ≠ some '0') then some n else none

def port? (text : List Char) : Option UInt16 := do
  let n ← Text.digits? text
  if n < Nat.pow 2 16 then some n.toUInt16 else none

def parse? (text : String) : Option Socket := do
  let (host, port) ← Text.cutLast ':' text.toList
  let octets ← (host.splitOn '.').mapM octet?
  if octets.length = 4 then return ⟨octets, ← port? port⟩ else none

def text (socket : Socket) : String :=
  String.intercalate "." (socket.octets.map toString) ++ s!":{socket.port}"

end Socket

structure Server where
  address : Socket
  etcd : String
  root : String
  group : String
  ttl : Int
  deriving DecidableEq, Repr

namespace Server

def seconds? (value : String) : Option Int :=
  Text.integer? (Nat.pow 2 63) value.toList

def flags : List Flag :=
  [⟨"addr", some 'a', readable Socket.parse?⟩, ⟨"etcd", some 'e', anyText⟩,
    ⟨"root", some 'r', anyText⟩, ⟨"group", some 'g', anyText⟩, ⟨"ttl", none, readable seconds?⟩]

def parse (arguments : List String) : Parsing Server := do
  let values ← CommandLine.parse flags arguments
  match (values.lookup "addr").bind Socket.parse? with
  | none => throw .missingRequiredArgument
  | some address => return {
      address
      etcd := (values.lookup "etcd").getD "127.0.0.1:2379"
      root := (values.lookup "root").getD "/cluster/tservers"
      group := (values.lookup "group").getD "default"
      ttl := ((values.lookup "ttl").bind seconds?).getD 10 }

end Server
end TabletRoster.CommandLine
