import TabletRoster.Framing.Inbox

namespace TabletRoster.Framing

def frame (body : ByteArray) : ByteArray :=
  lengthBytes body.size ++ body

theorem toUInt8_eq_of_mod {n : Nat} {b : UInt8} (same : n % 256 = b.toNat) : n.toUInt8 = b := by
  apply UInt8.toNat_inj.mp
  simpa using same

theorem lengthBytes_announced (a b c d : UInt8) :
    lengthBytes (announced a b c d) = ⟨#[a, b, c, d]⟩ := by
  have ha := a.toNat_lt
  have hb := b.toNat_lt
  have hc := c.toNat_lt
  have hd := d.toNat_lt
  have first : (announced a b c d / 16777216).toUInt8 = a :=
    toUInt8_eq_of_mod (by unfold announced; omega)
  have second : (announced a b c d / 65536).toUInt8 = b :=
    toUInt8_eq_of_mod (by unfold announced; omega)
  have third : (announced a b c d / 256).toUInt8 = c :=
    toUInt8_eq_of_mod (by unfold announced; omega)
  have fourth : (announced a b c d).toUInt8 = d :=
    toUInt8_eq_of_mod (by unfold announced; omega)
  rw [lengthBytes, first, second, third, fourth]

theorem announced_lengthBytes {n : Nat} (short : n < UInt32.size) :
    announced (n / 16777216).toUInt8 (n / 65536).toUInt8 (n / 256).toUInt8 n.toUInt8 = n := by
  unfold UInt32.size at short
  simp only [announced, Nat.toUInt8_eq, UInt8.toNat_ofNat']
  omega

theorem announced_lt (a b c d : UInt8) : announced a b c d < UInt32.size := by
  have ha := a.toNat_lt
  have hb := b.toNat_lt
  have hc := c.toNat_lt
  have hd := d.toNat_lt
  unfold announced UInt32.size
  omega

theorem size_lengthBytes (n : Nat) : (lengthBytes n).size = 4 := rfl

theorem size_frame (body : ByteArray) : (frame body).size = 4 + body.size := by
  rw [frame, ByteArray.size_append, size_lengthBytes]

theorem short_or_headed (buffer : ByteArray) :
    buffer.size < 4 ∨ ∃ n rest, n < UInt32.size ∧ buffer = lengthBytes n ++ rest := by
  by_cases enough : 4 ≤ buffer.size
  · right
    refine ⟨announced buffer[0] buffer[1] buffer[2] buffer[3], buffer.extract 4 buffer.size,
      announced_lt _ _ _ _, ?_⟩
    have head : buffer.extract 0 4 = ⟨#[buffer[0], buffer[1], buffer[2], buffer[3]]⟩ := by
      apply ByteArray.ext_getElem
      · rw [ByteArray.size_extract, Nat.min_eq_left enough]
        rfl
      · intro i inside inside'
        have cases : i = 0 ∨ i = 1 ∨ i = 2 ∨ i = 3 := by
          have four : (ByteArray.mk #[buffer[0], buffer[1], buffer[2], buffer[3]]).size = 4 := rfl
          omega
        rw [ByteArray.getElem_extract]
        rcases cases with rfl | rfl | rfl | rfl <;> rfl
    rw [lengthBytes_announced, ← head,
      ← ByteArray.extract_eq_extract_append_extract 4 (Nat.zero_le 4) enough,
      ByteArray.extract_zero_size]
  · left
    omega

theorem decode_short {buffer : ByteArray} (short : buffer.size < 4) : decode buffer = .ok none := by
  unfold decode
  rw [dif_neg (by omega)]

theorem decode_headed {n : Nat} (short : n < UInt32.size) (rest : ByteArray) :
    decode (lengthBytes n ++ rest) =
      if limit < n then .error (.tooLargeToRead n)
      else if rest.size < n then .ok none
      else .ok (some (rest.extract 0 n, rest.extract n rest.size)) := by
  have size : (lengthBytes n ++ rest).size = 4 + rest.size := by
    rw [ByteArray.size_append, size_lengthBytes]
  have enough : 4 ≤ (lengthBytes n ++ rest).size := by omega
  have body : (lengthBytes n ++ rest).extract 4 (4 + n) = rest.extract 0 n :=
    ByteArray.extract_append_size_add' (i := 0) (size_lengthBytes n).symm
  have left : (lengthBytes n ++ rest).extract (4 + n) (4 + rest.size) = rest.extract n rest.size :=
    ByteArray.extract_append_size_add' (size_lengthBytes n).symm
  have length : announced (lengthBytes n ++ rest)[0] (lengthBytes n ++ rest)[1]
      (lengthBytes n ++ rest)[2] (lengthBytes n ++ rest)[3] = n := by
    have early (i : Nat) (small : i < 4) : i < (lengthBytes n).size := small
    rw [ByteArray.getElem_append_left (early 0 (by decide)),
      ByteArray.getElem_append_left (early 1 (by decide)),
      ByteArray.getElem_append_left (early 2 (by decide)),
      ByteArray.getElem_append_left (early 3 (by decide))]
    exact announced_lengthBytes short
  unfold decode
  rw [dif_pos enough]
  simp only [length, size, body, left, Nat.add_lt_add_iff_left]

theorem encode_fits {body : ByteArray} (fits : body.size ≤ limit) (buffer : ByteArray) :
    encode body buffer = .ok (buffer ++ frame body) := by
  unfold encode frame
  rw [if_neg (by omega)]

theorem encode_refuses {body : ByteArray} (large : limit < body.size) (buffer : ByteArray) :
    encode body buffer = .error (.tooLargeToSend body.size) := by
  unfold encode
  rw [if_pos large]

theorem decode_eq_some_iff {buffer body rest : ByteArray} :
    decode buffer = .ok (some (body, rest)) ↔ body.size ≤ limit ∧ buffer = frame body ++ rest := by
  constructor
  · intro taken
    rcases short_or_headed buffer with short | ⟨n, tail, small, rfl⟩
    · rw [decode_short short] at taken
      cases taken
    · rw [decode_headed small] at taken
      split at taken
      · cases taken
      · rename_i allowed
        split at taken
        · cases taken
        · rename_i whole
          cases taken
          have size : (tail.extract 0 n).size = n := by
            rw [ByteArray.size_extract]
            omega
          refine ⟨by omega, ?_⟩
          rw [frame, size, ByteArray.append_assoc,
            ← ByteArray.extract_eq_extract_append_extract n (Nat.zero_le n) (by omega),
            ByteArray.extract_zero_size]
  · intro ⟨fits, whole⟩
    have short : body.size < UInt32.size := Nat.lt_of_le_of_lt fits (by decide)
    rw [whole, frame, ByteArray.append_assoc, decode_headed short, if_neg (by omega), if_neg]
    · rw [ByteArray.extract_append_eq_left rfl, ByteArray.extract_append_eq_right rfl
        ByteArray.size_append]
    · rw [ByteArray.size_append]
      omega

theorem decode_append {buffer body rest : ByteArray}
    (taken : decode buffer = .ok (some (body, rest))) (more : ByteArray) :
    decode (buffer ++ more) = .ok (some (body, rest ++ more)) := by
  obtain ⟨fits, whole⟩ := decode_eq_some_iff.mp taken
  apply decode_eq_some_iff.mpr
  exact ⟨fits, by rw [whole, ByteArray.append_assoc]⟩

theorem size_of_decode {buffer body rest : ByteArray}
    (taken : decode buffer = .ok (some (body, rest))) : rest.size < buffer.size := by
  obtain ⟨_, whole⟩ := decode_eq_some_iff.mp taken
  rw [whole, ByteArray.size_append, size_frame]
  omega

/-- What is left when no packet can be taken off any more. -/
structure Drained where
  packets : List ByteArray
  fault : Option FrameError
  buffer : ByteArray

def drain (buffer : ByteArray) : Drained :=
  match _taken : decode buffer with
  | .ok (some (body, rest)) =>
    let drained := drain rest
    { drained with packets := body :: drained.packets }
  | .ok none => ⟨[], none, buffer⟩
  | .error error => ⟨[], some error, buffer⟩
termination_by buffer.size
decreasing_by exact size_of_decode _taken

/-- A piece arrives, and all packets that are then whole are taken off. -/
def Drained.feed (drained : Drained) (piece : ByteArray) : Drained :=
  let next := drain (drained.buffer ++ piece)
  { next with packets := drained.packets ++ next.packets }

def feedAll (pieces : List ByteArray) : Drained :=
  pieces.foldl Drained.feed ⟨[], none, .empty⟩

theorem drain_packet {buffer body rest : ByteArray}
    (taken : decode buffer = .ok (some (body, rest))) :
    drain buffer = { drain rest with packets := body :: (drain rest).packets } := by
  rw [drain]
  split <;> simp_all

theorem drain_waiting {buffer : ByteArray} (waiting : decode buffer = .ok none) :
    drain buffer = ⟨[], none, buffer⟩ := by
  rw [drain]
  split <;> simp_all

theorem drain_fault {buffer : ByteArray} {error : FrameError}
    (fault : decode buffer = .error error) : drain buffer = ⟨[], some error, buffer⟩ := by
  rw [drain]
  split <;> simp_all

theorem drain_empty : drain .empty = ⟨[], none, .empty⟩ :=
  drain_waiting (decode_short (by decide))

/-- What was taken off before more bytes came need not be taken off again. -/
theorem feed_drain (buffer piece : ByteArray) :
    (drain buffer).feed piece = drain (buffer ++ piece) := by
  induction size : buffer.size using Nat.strongRecOn generalizing buffer with
  | ind n ih =>
    match taken : decode buffer with
    | .ok (some (body, rest)) =>
      have tail := ih rest.size (size ▸ size_of_decode taken) rest rfl
      rw [drain_packet taken, drain_packet (decode_append taken piece), ← tail]
      rfl
    | .ok none =>
      rw [drain_waiting taken]
      rfl
    | .error error =>
      rw [drain_fault taken]
      rfl

theorem feedAll_from (pieces : List ByteArray) (buffer : ByteArray) :
    pieces.foldl Drained.feed (drain buffer) = drain (pieces.foldl (· ++ ·) buffer) := by
  induction pieces generalizing buffer with
  | nil => rfl
  | cons piece rest ih => rw [List.foldl_cons, feed_drain, ih, List.foldl_cons]

theorem feedAll_eq (pieces : List ByteArray) :
    feedAll pieces = drain (pieces.foldl (· ++ ·) .empty) := by
  rw [← feedAll_from, drain_empty]
  rfl

def write (buffer body : ByteArray) : ByteArray :=
  (encode body buffer).toOption.getD buffer

theorem write_fits {body : ByteArray} (fits : body.size ≤ limit) (buffer : ByteArray) :
    write buffer body = buffer ++ frame body := by
  rw [write, encode_fits fits]
  rfl

theorem write_refused {body buffer : ByteArray} {error : FrameError}
    (refused : encode body buffer = .error error) : write buffer body = buffer := by
  rw [write, refused]
  rfl

theorem fits_of_encode {body buffer written : ByteArray}
    (accepted : encode body buffer = .ok written) : body.size ≤ limit := by
  apply Nat.le_of_not_lt
  intro large
  rw [encode_refuses large] at accepted
  cases accepted

theorem drain_frame {body : ByteArray} (fits : body.size ≤ limit) :
    drain (frame body) = ⟨[body], none, .empty⟩ := by
  have taken : decode (frame body) = .ok (some (body, .empty)) :=
    decode_eq_some_iff.mpr ⟨fits, ByteArray.append_empty.symm⟩
  rw [drain_packet taken, drain_empty]

theorem feed_frame {body : ByteArray} (fits : body.size ≤ limit) (packets : List ByteArray) :
    Drained.feed ⟨packets, none, .empty⟩ (frame body) = ⟨packets ++ [body], none, .empty⟩ := by
  simp only [Drained.feed, ByteArray.empty_append, drain_frame fits]

theorem drain_written {buffer : ByteArray} {packets : List ByteArray}
    (drained : drain buffer = ⟨packets, none, .empty⟩) {bodies : List ByteArray}
    (fit : ∀ body ∈ bodies, body.size ≤ limit) :
    drain (bodies.foldl write buffer) = ⟨packets ++ bodies, none, .empty⟩ := by
  induction bodies generalizing buffer packets with
  | nil => rw [List.foldl_nil, List.append_nil, drained]
  | cons body rest ih =>
    have fits := fit body List.mem_cons_self
    have longer : drain (write buffer body) = ⟨packets ++ [body], none, .empty⟩ := by
      rw [write_fits fits, ← feed_drain, drained, feed_frame fits]
    have later := ih longer fun other member => fit other (List.mem_cons_of_mem _ member)
    rw [List.foldl_cons, later, List.append_assoc, List.singleton_append]

theorem write_append (bodies : List ByteArray) (buffer : ByteArray) :
    bodies.foldl write buffer = buffer ++ bodies.foldl write .empty := by
  induction bodies generalizing buffer with
  | nil => exact ByteArray.append_empty.symm
  | cons body rest ih =>
    rw [List.foldl_cons, List.foldl_cons, ih, ih (write .empty body)]
    by_cases fits : body.size ≤ limit
    · rw [write_fits fits, write_fits fits, ByteArray.empty_append, ByteArray.append_assoc]
    · have refused (buffer : ByteArray) : write buffer body = buffer :=
        write_refused (encode_refuses (by omega) buffer)
      rw [refused, refused, ByteArray.empty_append]

/-- The packets of a stream, written again, and what is left make up the stream. -/
theorem drain_consumes (buffer : ByteArray) :
    (drain buffer).packets.foldl write .empty ++ (drain buffer).buffer = buffer := by
  induction size : buffer.size using Nat.strongRecOn generalizing buffer with
  | ind n ih =>
    match taken : decode buffer with
    | .ok (some (body, rest)) =>
      obtain ⟨fits, whole⟩ := decode_eq_some_iff.mp taken
      have tail := ih rest.size (size ▸ size_of_decode taken) rest rfl
      rw [drain_packet taken, List.foldl_cons, write_append, write_fits fits,
        ByteArray.empty_append, ByteArray.append_assoc, tail, whole]
    | .ok none =>
      rw [drain_waiting taken]
      exact ByteArray.empty_append
    | .error error =>
      rw [drain_fault taken]
      exact ByteArray.empty_append

theorem unpack_keeps {inbox : Inbox} (kept : ∀ body, inbox.unpack.1 ≠ some (.packet body)) :
    inbox.unpack.2.buffer = inbox.buffer := by
  unfold Inbox.unpack at kept ⊢
  split
  · rfl
  · rename_i body rest taken
    simp [taken] at kept
  · rfl

theorem refused_iff {body buffer : ByteArray} :
    (∃ error, encode body buffer = .error error) ↔
      ∀ a b c d rest, announced a b c d = body.size →
        ∃ error, decode (⟨#[a, b, c, d]⟩ ++ rest) = .error error := by
  constructor
  · rintro ⟨error, refused⟩ a b c d rest length
    have large : limit < body.size := by
      apply Nat.lt_of_not_le
      intro fits
      rw [encode_fits fits] at refused
      cases refused
    rw [← lengthBytes_announced, decode_headed (announced_lt a b c d), length, if_pos large]
    exact ⟨_, rfl⟩
  · intro refused
    by_cases large : limit < body.size
    · exact ⟨_, encode_refuses large buffer⟩
    · have short : body.size < UInt32.size := Nat.lt_of_not_le fun long =>
        large (Nat.lt_of_lt_of_le (by decide) long)
      obtain ⟨error, fault⟩ := refused _ _ _ _ body (announced_lengthBytes short)
      have taken : decode (frame body) = .ok (some (body, .empty)) :=
        decode_eq_some_iff.mpr ⟨by omega, ByteArray.append_empty.symm⟩
      rw [show (⟨#[_, _, _, _]⟩ : ByteArray) ++ body = frame body from rfl, taken] at fault
      cases fault

/-- However a stream is cut into pieces, the same packets, the same fault and the same rest come
out as of the whole stream, and packets take up just what was written for them. A length can be
read just if a packet of that length may be written. -/
theorem framing_exact :
    (∀ pieces : List ByteArray, feedAll pieces = feedAll [pieces.foldl (· ++ ·) .empty]) ∧
    (∀ stream : ByteArray, feedAll [stream] = drain stream ∧
      (drain stream).packets.foldl write .empty ++ (drain stream).buffer = stream) ∧
    (∀ buffer body rest, decode buffer = .ok (some (body, rest)) →
      ∃ written, (∀ earlier, encode body earlier = .ok (earlier ++ written)) ∧
        buffer = written ++ rest) ∧
    (∀ inbox : Inbox, (∀ body, inbox.unpack.1 ≠ some (.packet body)) →
      inbox.unpack.2.buffer = inbox.buffer) ∧
    (∀ bodies : List ByteArray, (∀ body ∈ bodies, ∃ written, encode body .empty = .ok written) →
      drain (bodies.foldl write .empty) = ⟨bodies, none, .empty⟩) ∧
    (∀ body buffer, (∃ error, encode body buffer = .error error) ↔
      ∀ a b c d rest, announced a b c d = body.size →
        ∃ error, decode (⟨#[a, b, c, d]⟩ ++ rest) = .error error) ∧
    ∀ body buffer error, encode body buffer = .error error → write buffer body = buffer := by
  have whole (stream : ByteArray) : feedAll [stream] = drain stream := by
    rw [feedAll_eq, List.foldl_cons, List.foldl_nil, ByteArray.empty_append]
  refine ⟨?_, ?_, ?_, ?_, ?_, ?_, ?_⟩
  · intro pieces
    rw [whole, feedAll_eq]
  · intro stream
    exact ⟨whole stream, drain_consumes stream⟩
  · intro buffer body rest taken
    obtain ⟨fits, bytes⟩ := decode_eq_some_iff.mp taken
    exact ⟨frame body, encode_fits fits, bytes⟩
  · intro inbox kept
    exact unpack_keeps kept
  · intro bodies accepted
    apply drain_written drain_empty
    intro body member
    obtain ⟨written, encoded⟩ := accepted body member
    exact fits_of_encode encoded
  · intro body buffer
    exact refused_iff
  · intro body buffer error refused
    exact write_refused refused

theorem framing_exact_three_pieces :
    (∃ written, encode ⟨#[7]⟩ .empty = .ok written) ∧
      feedAll [⟨#[0, 0]⟩, ⟨#[0, 1, 7, 0, 0]⟩, ⟨#[0, 0]⟩] = ⟨[⟨#[7]⟩, .empty], none, .empty⟩ := by
  obtain ⟨cut, whole, _, _, packets, _⟩ := framing_exact
  have accepted : ∀ body ∈ [⟨#[7]⟩, ByteArray.empty], ∃ written, encode body .empty = .ok written := by
    intro body member
    simp only [List.mem_cons, List.not_mem_nil, or_false] at member
    rcases member with rfl | rfl
    · exact ⟨_, rfl⟩
    · exact ⟨_, rfl⟩
  refine ⟨accepted _ List.mem_cons_self, ?_⟩
  rw [cut, (whole _).1]
  exact packets [⟨#[7]⟩, .empty] accepted

end TabletRoster.Framing
