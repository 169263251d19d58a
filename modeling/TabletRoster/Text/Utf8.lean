namespace TabletRoster

abbrev Bytes := List UInt8

namespace Text.Utf8

def encode (text : String) : Bytes :=
  text.toUTF8.data.toList

def decode? (bytes : Bytes) : Option String :=
  String.fromUTF8? ⟨bytes.toArray⟩

theorem decode_encode (text : String) : decode? (encode text) = some text := by
  have whole : (⟨(encode text).toArray⟩ : ByteArray) = text.toUTF8 := by simp [encode]
  simp only [decode?, whole, String.fromUTF8?, String.toUTF8]
  simp [text.isValidUTF8, String.fromUTF8]

/-- A character whose first bytes are read: its bits so far, how many bytes are missing, and
between which bounds the next one lies. -/
structure Begun where
  bits : Nat
  missing : Nat
  low : UInt8
  high : UInt8

def start (b : UInt8) : List Char × Option Begun :=
  if b < 0x80 then ([Char.ofNat b.toNat], none)
  else if b < 0xC2 then (['\uFFFD'], none)
  else if b < 0xE0 then ([], some ⟨b.toNat - 0xC0, 1, 0x80, 0xBF⟩)
  else if b < 0xF0 then
    ([], some ⟨b.toNat - 0xE0, 2, if b = 0xE0 then 0xA0 else 0x80, if b = 0xED then 0x9F else 0xBF⟩)
  else if b < 0xF5 then
    ([], some ⟨b.toNat - 0xF0, 3, if b = 0xF0 then 0x90 else 0x80, if b = 0xF4 then 0x8F else 0xBF⟩)
  else (['\uFFFD'], none)

def lossyFrom : Option Begun → Bytes → List Char
  | none, [] => []
  | some _, [] => ['\uFFFD']
  | none, b :: rest => (start b).1 ++ lossyFrom (start b).2 rest
  | some begun, b :: rest =>
    if begun.low ≤ b ∧ b ≤ begun.high then
      let bits := begun.bits * 64 + (b.toNat - 0x80)
      if begun.missing ≤ 1 then Char.ofNat bits :: lossyFrom none rest
      else lossyFrom (some ⟨bits, begun.missing - 1, 0x80, 0xBF⟩) rest
    else '\uFFFD' :: ((start b).1 ++ lossyFrom (start b).2 rest)

def lossy (bytes : Bytes) : String :=
  String.ofList (lossyFrom none bytes)

end Text.Utf8
end TabletRoster
