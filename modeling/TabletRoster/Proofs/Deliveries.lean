import TabletRoster.Proofs.Chunks

namespace TabletRoster.Framing

theorem joined_append (pieces : List ByteArray) (buffer : ByteArray) :
    pieces.foldl (· ++ ·) buffer = buffer ++ pieces.foldl (· ++ ·) .empty := by
  induction pieces generalizing buffer with
  | nil => exact ByteArray.append_empty.symm
  | cons piece rest ih =>
    rw [List.foldl_cons, List.foldl_cons, ih, ih (.empty ++ piece), ByteArray.empty_append,
      ByteArray.append_assoc]

theorem decode_error_append {buffer : ByteArray} {error : FrameError}
    (fault : decode buffer = .error error) (more : ByteArray) :
    decode (buffer ++ more) = .error error := by
  rcases short_or_headed buffer with short | ⟨n, rest, small, rfl⟩
  · rw [decode_short short] at fault
    cases fault
  · rw [decode_headed small] at fault
    rw [ByteArray.append_assoc, decode_headed small]
    split at fault
    · rename_i large
      rw [if_pos large]
      exact fault
    · split at fault <;> cases fault

theorem decode_error_joined {buffer : ByteArray} {error : FrameError}
    (fault : decode buffer = .error error) (pieces : List ByteArray) :
    decode (pieces.foldl (· ++ ·) buffer) = .error error := by
  rw [joined_append]
  exact decode_error_append fault _

theorem decode_joined {buffer body rest : ByteArray}
    (taken : decode buffer = .ok (some (body, rest))) (pieces : List ByteArray) :
    decode (pieces.foldl (· ++ ·) buffer) = .ok (some (body, pieces.foldl (· ++ ·) rest)) := by
  rw [joined_append, joined_append pieces rest]
  exact decode_append taken _

namespace Inbox

/-- No fault and no end was met, and what the buffer may hold will be looked at. -/
structure Ready (inbox : Inbox) : Prop where
  unended : inbox.hasEnded = false
  sound : inbox.hasFailed = false
  looked : inbox.isReadable = true ∨ decode inbox.buffer = .ok none

theorem ready_empty : Ready .empty :=
  ⟨rfl, rfl, .inr (decode_short (by decide))⟩

def stream (inbox : Inbox) (arrivals : Arrivals) : ByteArray :=
  arrivals.pieces.foldl (· ++ ·) inbox.buffer

/-- What is delivered off the front of a stream. -/
inductive Delivers (closes : Bool) (stream : ByteArray) : Delivery × Inbox × Arrivals → Prop where
  | packet {body rest : ByteArray} {inbox : Inbox} {arrivals : Arrivals}
      (taken : decode stream = .ok (some (body, rest))) (ready : inbox.Ready)
      (same : arrivals.closes = closes) (left : inbox.stream arrivals = rest) :
      Delivers closes stream (.packet body, inbox, arrivals)
  | fault {error : FrameError} {inbox : Inbox} {arrivals : Arrivals}
      (fault : decode stream = .error error) :
      Delivers closes stream (.fault error, inbox, arrivals)
  | cutOff {inbox : Inbox} {arrivals : Arrivals} (closing : closes = true)
      (short : decode stream = .ok none) (some : stream.isEmpty = false) :
      Delivers closes stream (.fault .cutOff, inbox, arrivals)
  | finished {inbox : Inbox} {arrivals : Arrivals} (closing : closes = true)
      (none : stream.isEmpty = true) : Delivers closes stream (.finished, inbox, arrivals)
  | waiting {inbox : Inbox} {arrivals : Arrivals} (lasting : closes = false)
      (short : decode stream = .ok none) : Delivers closes stream (.waiting, inbox, arrivals)

section

variable {closes : Bool} {stream : ByteArray} {outcome : Delivery × Inbox × Arrivals}

theorem Delivers.of_packet (delivers : Delivers closes stream outcome) {body rest : ByteArray}
    (taken : decode stream = .ok (some (body, rest))) :
    ∃ inbox arrivals, outcome = (.packet body, inbox, arrivals) ∧ inbox.Ready ∧
      arrivals.closes = closes ∧ inbox.stream arrivals = rest := by
  cases delivers with
  | @packet _ _ inbox arrivals found ready same left =>
    rw [taken] at found
    cases found
    exact ⟨inbox, arrivals, rfl, ready, same, left⟩
  | fault found => simp [taken] at found
  | cutOff _ short _ => simp [taken] at short
  | finished _ none =>
    rw [ByteArray.isEmpty, beq_iff_eq] at none
    rw [decode_short (by omega)] at taken
    cases taken
  | waiting _ short => simp [taken] at short

theorem Delivers.of_fault (delivers : Delivers closes stream outcome) {error : FrameError}
    (fault : decode stream = .error error) : outcome.1 = .fault error := by
  cases delivers with
  | packet taken => simp [fault] at taken
  | fault found =>
    rw [fault] at found
    cases found
    rfl
  | cutOff _ short _ => simp [fault] at short
  | finished _ none =>
    rw [ByteArray.isEmpty, beq_iff_eq] at none
    rw [decode_short (by omega)] at fault
    cases fault
  | waiting _ short => simp [fault] at short

theorem Delivers.of_short (delivers : Delivers closes stream outcome)
    (short : decode stream = .ok none) :
    outcome.1 =
      if closes then if stream.isEmpty then .finished else .fault .cutOff else .waiting := by
  cases delivers with
  | packet taken => simp [short] at taken
  | fault fault => simp [short] at fault
  | cutOff closing _ some => simp [closing, some]
  | finished closing none => simp [closing, none]
  | waiting lasting _ => simp [lasting]

end

variable {inbox : Inbox}

theorem unpack_packet (unended : inbox.hasEnded = false) {body rest : ByteArray}
    (taken : decode inbox.buffer = .ok (some (body, rest))) :
    inbox.unpack = (some (.packet body), { inbox with buffer := rest }) := by
  simp [unpack, unended, taken]

theorem unpack_fault (unended : inbox.hasEnded = false) {error : FrameError}
    (fault : decode inbox.buffer = .error error) :
    inbox.unpack = (some (.fault error), { inbox with hasFailed := true }) := by
  simp [unpack, unended, fault]

theorem unpack_short (unended : inbox.hasEnded = false) (short : decode inbox.buffer = .ok none) :
    inbox.unpack = (none, { inbox with isReadable := false }) := by
  simp [unpack, unended, short]

theorem short_of_unpack (unended : inbox.hasEnded = false) {after : Inbox}
    (unpacked : inbox.unpack = (none, after)) :
    decode inbox.buffer = .ok none ∧ after = { inbox with isReadable := false } := by
  match taken : decode inbox.buffer with
  | .ok (some (body, rest)) =>
    rw [unpack_packet unended taken] at unpacked
    cases unpacked
  | .error error =>
    rw [unpack_fault unended taken] at unpacked
    cases unpacked
  | .ok none =>
    rw [unpack_short unended taken] at unpacked
    cases unpacked
    exact ⟨rfl, rfl⟩

theorem delivers_unpacked (arrivals : Arrivals) (unended : inbox.hasEnded = false)
    (sound : inbox.hasFailed = false) (readable : inbox.isReadable = true) {delivery : Delivery}
    {after : Inbox} (unpacked : inbox.unpack = (some delivery, after)) :
    Delivers arrivals.closes (inbox.stream arrivals) (delivery, after, arrivals) := by
  match taken : decode inbox.buffer with
  | .ok (some (body, rest)) =>
    rw [unpack_packet unended taken] at unpacked
    cases unpacked
    exact .packet (decode_joined taken arrivals.pieces) ⟨unended, sound, .inl readable⟩ rfl rfl
  | .error error =>
    rw [unpack_fault unended taken] at unpacked
    cases unpacked
    exact .fault (decode_error_joined taken arrivals.pieces)
  | .ok none =>
    rw [unpack_short unended taken] at unpacked
    cases unpacked

theorem receive_delivers (unended : inbox.hasEnded = false) (sound : inbox.hasFailed = false)
    (short : decode inbox.buffer = .ok none) (closes : Bool) (pieces : List ByteArray) :
    Delivers closes (inbox.stream ⟨pieces, closes⟩) (inbox.receive closes pieces) := by
  induction pieces generalizing inbox with
  | nil =>
    cases closes with
    | false => exact .waiting rfl short
    | true =>
      -- The buffer is looked at once more, and now what is no packet is a fault.
      have stream : inbox.stream ⟨[], true⟩ = inbox.buffer := rfl
      cases empty : inbox.buffer.isEmpty with
      | true =>
        have last : decodeLast inbox.buffer = .ok none := by
          simp [decodeLast, short, empty]
          rfl
        simp only [receive, unended, unpack, last]
        exact .finished rfl empty
      | false =>
        have last : decodeLast inbox.buffer = .error .cutOff := by
          simp [decodeLast, short, empty]
          rfl
        simp only [receive, unended, unpack, last]
        exact .cutOff rfl short empty
  | cons piece rest ih =>
    let filled : Inbox :=
      { inbox with buffer := inbox.buffer ++ piece, hasEnded := false, isReadable := true }
    have stream : inbox.stream ⟨piece :: rest, closes⟩ = filled.stream ⟨rest, closes⟩ := rfl
    rw [stream, receive]
    have fresh : filled.hasEnded = false := rfl
    have still : filled.hasFailed = false := sound
    split
    · rename_i delivery after unpacked
      exact delivers_unpacked ⟨rest, closes⟩ fresh still rfl unpacked
    · rename_i after unpacked
      obtain ⟨short, rfl⟩ := short_of_unpack fresh unpacked
      let blind : Inbox := { filled with isReadable := false }
      have fresh : blind.hasEnded = false := rfl
      exact ih fresh still short

/-- However a stream arrives, what comes next is what stands at its front. -/
theorem next_delivers (ready : inbox.Ready) (arrivals : Arrivals) :
    Delivers arrivals.closes (inbox.stream arrivals) (inbox.next arrivals) := by
  obtain ⟨unended, sound, looked⟩ := ready
  unfold next
  rw [if_neg (by simp [sound])]
  by_cases readable : inbox.isReadable = true
  · rw [if_pos readable]
    split
    · rename_i delivery after unpacked
      exact delivers_unpacked arrivals unended sound readable unpacked
    · rename_i after unpacked
      obtain ⟨short, rfl⟩ := short_of_unpack unended unpacked
      let blind : Inbox := { inbox with isReadable := false }
      have unended : blind.hasEnded = false := unended
      exact receive_delivers unended sound short arrivals.closes arrivals.pieces
  · rw [if_neg readable]
    have short := looked.resolve_left readable
    exact receive_delivers unended sound short arrivals.closes arrivals.pieces

end Inbox
end TabletRoster.Framing
