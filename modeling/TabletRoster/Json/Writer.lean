import TabletRoster.Text.Shortest
import TabletRoster.Text.Utf8

namespace TabletRoster.Json

def digits (n : Nat) : Bytes :=
  if n < 10 then [(0x30 + n).toUInt8] else digits (n / 10) ++ [(0x30 + n % 10).toUInt8]

def hexLetter (n : Nat) : UInt8 :=
  if n < 10 then (0x30 + n).toUInt8 else (0x57 + n).toUInt8

def escape (c : Char) : Bytes :=
  if c = '"' then [0x5C, 0x22]
  else if c = '\\' then [0x5C, 0x5C]
  else if c = '\x08' then [0x5C, 0x62]
  else if c = '\x0C' then [0x5C, 0x66]
  else if c = '\n' then [0x5C, 0x6E]
  else if c = '\r' then [0x5C, 0x72]
  else if c = '\t' then [0x5C, 0x74]
  else if c.toNat < 0x20 then
    [0x5C, 0x75, 0x30, 0x30, hexLetter (c.toNat / 16), hexLetter (c.toNat % 16)]
  else String.utf8EncodeChar c

def writeString (text : String) : Bytes :=
  0x22 :: text.toList.flatMap escape ++ [0x22]

def writeNull : Bytes :=
  [0x6E, 0x75, 0x6C, 0x6C]

def writeInt : Int → Bytes
  | .ofNat n => digits n
  | .negSucc n => 0x2D :: digits (n + 1)

def writeFloat (x : Float) : Bytes :=
  Text.Utf8.encode (Text.decimal x)

def separated : List Bytes → Bytes
  | [] => []
  | [value] => value
  | value :: rest => value ++ 0x2C :: separated rest

def writeList (values : List Bytes) : Bytes :=
  0x5B :: separated values ++ [0x5D]

def writeMember : String × Bytes → Bytes
  | (key, value) => writeString key ++ 0x3A :: value

def writeRecord (members : List (String × Bytes)) : Bytes :=
  0x7B :: separated (members.map writeMember) ++ [0x7D]

def writeOptional {α : Type} (write : α → Bytes) : Option α → Bytes
  | none => writeNull
  | some value => write value

end TabletRoster.Json
