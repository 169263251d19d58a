import TabletRoster.Framing

namespace TabletRoster.Framing

/-- The bytes that have arrived and are no packet yet. -/
structure Inbox where
  buffer : ByteArray
  isReadable : Bool
  hasEnded : Bool
  /-- Whether the last packet was a fault, after which the reader pauses once. -/
  hasFailed : Bool

structure Arrivals where
  pieces : List ByteArray
  closes : Bool

inductive Delivery where
  | packet (body : ByteArray)
  | fault (error : FrameError)
  /-- The stream is over, or the reader pauses after a fault. -/
  | finished
  | waiting

namespace Inbox

def empty : Inbox := ⟨.empty, false, false, false⟩

def unpack (inbox : Inbox) : Option Delivery × Inbox :=
  match if inbox.hasEnded then decodeLast inbox.buffer else decode inbox.buffer with
  | .error error => (some (.fault error), { inbox with hasFailed := true })
  | .ok (some (body, rest)) => (some (.packet body), { inbox with buffer := rest })
  | .ok none =>
    (if inbox.hasEnded then some .finished else none, { inbox with isReadable := false })

def receive (inbox : Inbox) (closes : Bool) : List ByteArray → Delivery × Inbox × Arrivals
  | piece :: rest =>
    let inbox := { inbox with
      buffer := inbox.buffer ++ piece, hasEnded := false, isReadable := true }
    match inbox.unpack with
    | (some delivery, inbox) => (delivery, inbox, ⟨rest, closes⟩)
    | (none, inbox) => receive inbox closes rest
  | [] =>
    if !closes then (.waiting, inbox, ⟨[], closes⟩)
    else if inbox.hasEnded then (.finished, inbox, ⟨[], closes⟩)
    else
      match { inbox with hasEnded := true, isReadable := true }.unpack with
      | (some delivery, inbox) => (delivery, inbox, ⟨[], closes⟩)
      | (none, inbox) => (.finished, inbox, ⟨[], closes⟩)

def next (inbox : Inbox) (arrivals : Arrivals) : Delivery × Inbox × Arrivals :=
  if inbox.hasFailed then
    (.finished, { inbox with isReadable := false, hasFailed := false }, arrivals)
  else if inbox.isReadable then
    match inbox.unpack with
    | (some delivery, inbox) => (delivery, inbox, arrivals)
    | (none, inbox) => receive inbox arrivals.closes arrivals.pieces
  else receive inbox arrivals.closes arrivals.pieces

end Inbox
end TabletRoster.Framing
