/-!
Packets on a stream of bytes. A packet is written as its length, four bytes with the highest
first, and its body; bodies are limited to sixteen mebibytes.
-/
namespace TabletRoster.Framing

def limit : Nat := 16 * 1024 * 1024

inductive FrameError where
  | tooLargeToSend (size : Nat)
  | tooLargeToRead (size : Nat)
  | cutOff
  deriving DecidableEq, Repr

def FrameError.message : FrameError → String
  | .tooLargeToSend size => s!"packet of {size} bytes too large"
  | .tooLargeToRead size => s!"packet of {size} bytes too large"
  | .cutOff => "bytes remaining on stream"

def lengthBytes (n : Nat) : ByteArray :=
  ⟨#[(n / 16777216).toUInt8, (n / 65536).toUInt8, (n / 256).toUInt8, n.toUInt8]⟩

def announced (a b c d : UInt8) : Nat :=
  a.toNat * 16777216 + b.toNat * 65536 + c.toNat * 256 + d.toNat

def encode (body buffer : ByteArray) : Except FrameError ByteArray :=
  if limit < body.size then .error (.tooLargeToSend body.size)
  else .ok (buffer ++ (lengthBytes body.size ++ body))

def decode (buffer : ByteArray) : Except FrameError (Option (ByteArray × ByteArray)) :=
  if enough : 4 ≤ buffer.size then
    let size := announced buffer[0] buffer[1] buffer[2] buffer[3]
    if limit < size then .error (.tooLargeToRead size)
    else if buffer.size < 4 + size then .ok none
    else .ok (some (buffer.extract 4 (4 + size), buffer.extract (4 + size) buffer.size))
  else .ok none

/-- As `decode`, when no more bytes will come: what is no packet then is a fault. -/
def decodeLast (buffer : ByteArray) : Except FrameError (Option (ByteArray × ByteArray)) := do
  match ← decode buffer with
  | some packet => return some packet
  | none => if buffer.isEmpty then return none else throw .cutOff

end TabletRoster.Framing
