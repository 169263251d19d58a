import TabletRoster.Json.Record
import TabletRoster.Proofs.Json.Scalars

/-!
Lists, records and unions are read back as they were written, as soon as their parts are. What a
record's fields leave behind one after another is a relation of its own, so that a layout is
checked field by field.
-/
namespace TabletRoster.Json

variable {σ α β : Type}

theorem run_lift (outcome : Except Fault α) (text : Bytes) :
    (liftM outcome : Reader α) text = outcome.map fun value => (value, text) := by
  cases outcome <;> rfl

theorem bind_fails {read : Reader α} {text : Bytes} {fault : Fault}
    (failed : read text = .error fault) (next : α → Reader β) :
    (read >>= next) text = .error fault := by
  change (read text >>= fun taken => next taken.1 taken.2) = _
  rw [failed]
  rfl

theorem of_bind {read : Reader α} {next : α → Reader β} {text rest : Bytes} {value : β}
    (done : (read >>= next) text = .ok (value, rest)) :
    ∃ taken middle, read text = .ok (taken, middle) ∧ next taken middle = .ok (value, rest) := by
  change (read text >>= fun taken => next taken.1 taken.2) = _ at done
  cases first : read text with
  | error fault =>
    rw [first] at done
    cases done
  | ok taken =>
    rw [first] at done
    exact ⟨taken.1, taken.2, rfl, done⟩

theorem mark_here (b : UInt8) (visible : isSpace b = false) (atEnd : Fault) (rest : Bytes) :
    mark b atEnd (b :: rest) = .ok ((), rest) := by
  unfold mark
  rw [dropSpace_cons visible]
  exact if_pos rfl

def behind : List Bytes → Bytes
  | [] => []
  | value :: rest => 0x2C :: value ++ behind rest

theorem separated_cons (value : Bytes) (rest : List Bytes) :
    separated (value :: rest) = value ++ behind rest := by
  induction rest generalizing value with
  | nil => exact (List.append_nil value).symm
  | cons next rest ih =>
    change value ++ 0x2C :: separated (next :: rest) = _
    rw [ih]
    rfl

theorem delimited_behind {last : UInt8} (closing : last = 0x5D ∨ last = 0x7D) (values : List Bytes)
    (rest : Bytes) : Delimited (behind values ++ last :: rest) := by
  cases values with
  | nil => exact .inr closing
  | cons value values => exact .inl rfl

/-! ### Lists -/

def Opening : Bytes → Prop
  | [] => False
  | b :: _ => isSpace b = false ∧ b ≠ 0x2C ∧ b ≠ 0x5D

theorem digits_opening (n : Nat) : Opening (digits n) := by
  obtain ⟨d, tail, high, _, head⟩ := digits_head n
  have separate : ∀ d < 10, (0x30 + d).toUInt8 ≠ 0x2C ∧ (0x30 + d).toUInt8 ≠ 0x5D := by decide
  rw [head]
  exact ⟨digit_visible d high, separate d high⟩

theorem nextElement_first {written : Bytes} (opening : Opening written) (rest : Bytes) :
    nextElement true (written ++ rest) = .ok (true, written ++ rest) := by
  cases written with
  | nil => exact opening.elim
  | cons b tail =>
    obtain ⟨visible, comma, close⟩ := opening
    unfold nextElement
    rw [List.cons_append, dropSpace_cons visible]
    split <;> simp_all

theorem nextElement_later {written : Bytes} (opening : Opening written) (rest : Bytes) :
    nextElement false (0x2C :: (written ++ rest)) = .ok (true, written ++ rest) := by
  cases written with
  | nil => exact opening.elim
  | cons b tail =>
    obtain ⟨visible, comma, close⟩ := opening
    unfold nextElement
    rw [dropSpace_cons (by decide), List.cons_append]
    simp only [Bool.false_eq_true, if_false, dropSpace_cons visible]
    split <;> simp_all

theorem nextElement_end (first : Bool) (rest : Bytes) :
    nextElement first (0x5D :: rest) = .ok (false, 0x5D :: rest) := by
  unfold nextElement
  rw [dropSpace_cons (by decide)]
  rfl

theorem elements_next {read : Reader α} {first : Bool} {text written tail rest : Bytes} {value : α}
    {later : List α} {fuel : Nat} (next : nextElement first text = .ok (true, written ++ tail))
    (reads : ReadsBack read written value) (delimited : Delimited tail)
    (others : elements read fuel false tail = .ok (later, rest)) :
    elements read (fuel + 1) first text = .ok (value :: later, rest) := by
  rw [elements, run_bind next, if_pos rfl, run_bind (reads tail delimited), run_bind others]
  rfl

theorem elements_end (read : Reader α) (fuel : Nat) (first : Bool) (rest : Bytes) :
    elements read (fuel + 1) first (0x5D :: rest) = .ok ([], 0x5D :: rest) := by
  rw [elements, run_bind (nextElement_end first rest)]
  rfl

section

variable {read : Reader α} {write : α → Bytes} {values : List α}

theorem elements_behind (reads : ∀ value ∈ values, ReadsBack read (write value) value)
    (opening : ∀ value ∈ values, Opening (write value)) {fuel : Nat}
    (enough : values.length < fuel) (rest : Bytes) :
    elements read fuel false (behind (values.map write) ++ 0x5D :: rest) =
      .ok (values, 0x5D :: rest) := by
  induction values generalizing fuel with
  | nil =>
    obtain ⟨fuel, rfl⟩ := Nat.exists_eq_succ_of_ne_zero (Nat.ne_of_gt enough)
    exact elements_end read fuel false rest
  | cons value later ih =>
    obtain ⟨fuel, rfl⟩ := Nat.exists_eq_succ_of_ne_zero (Nat.ne_of_gt (Nat.zero_lt_of_lt enough))
    have others := ih (fun other member => reads other (List.mem_cons_of_mem _ member))
      (fun other member => opening other (List.mem_cons_of_mem _ member))
      (Nat.lt_of_succ_lt_succ enough)
    have next := nextElement_later (opening value List.mem_cons_self)
      (behind (later.map write) ++ 0x5D :: rest)
    rw [List.map_cons, behind, List.append_assoc, List.cons_append]
    exact elements_next next (reads value List.mem_cons_self)
      (delimited_behind (.inl rfl) _ rest) others

theorem elements_written (reads : ∀ value ∈ values, ReadsBack read (write value) value)
    (opening : ∀ value ∈ values, Opening (write value)) {fuel : Nat}
    (enough : values.length < fuel) (rest : Bytes) :
    elements read fuel true (separated (values.map write) ++ 0x5D :: rest) =
      .ok (values, 0x5D :: rest) := by
  obtain ⟨fuel, rfl⟩ := Nat.exists_eq_succ_of_ne_zero (Nat.ne_of_gt (Nat.zero_lt_of_lt enough))
  cases values with
  | nil => exact elements_end read fuel true rest
  | cons value later =>
    have others := elements_behind (fun other member => reads other (List.mem_cons_of_mem _ member))
      (fun other member => opening other (List.mem_cons_of_mem _ member))
      (Nat.lt_of_succ_lt_succ enough) rest
    have next := nextElement_first (opening value List.mem_cons_self)
      (behind (later.map write) ++ 0x5D :: rest)
    rw [List.map_cons, separated_cons, List.append_assoc]
    exact elements_next next (reads value List.mem_cons_self)
      (delimited_behind (.inl rfl) _ rest) others

end

theorem length_behind (values : List Bytes) : values.length ≤ (behind values).length := by
  induction values with
  | nil => exact Nat.le_refl 0
  | cons value rest ih =>
    simp only [behind, List.length_cons, List.length_append]
    omega

theorem length_separated (values : List Bytes) : values.length ≤ (separated values).length + 1 := by
  cases values with
  | nil => exact Nat.zero_le _
  | cons value rest =>
    have others := length_behind rest
    rw [separated_cons, List.length_cons, List.length_append]
    omega

theorem list_here (read : Reader α) (rest : Bytes) :
    Json.list read (0x5B :: rest) = (elements read (rest.length + 1) true >>= fun values =>
      mark 0x5D .truncated >>= fun _ => pure values) rest := by
  unfold Json.list
  rw [dropSpace_cons (by decide)]
  rfl

theorem list_written {read : Reader α} {write : α → Bytes} {values : List α}
    (reads : ∀ value ∈ values, ReadsBack read (write value) value)
    (opening : ∀ value ∈ values, Opening (write value)) :
    ReadsBack (Json.list read) (writeList (values.map write)) values := by
  intro rest _
  have size := length_separated (values.map write)
  have shape : writeList (values.map write) ++ rest =
      0x5B :: (separated (values.map write) ++ 0x5D :: rest) := by
    simp [writeList]
  have enough : values.length < (separated (values.map write) ++ 0x5D :: rest).length + 1 := by
    rw [List.length_map] at size
    rw [List.length_append, List.length_cons]
    omega
  rw [shape, list_here, run_bind (elements_written reads opening enough rest),
    run_bind (mark_here 0x5D (by decide) .truncated rest)]
  rfl

/-! ### Records -/

namespace Record

/-- What the members of a written object leave behind, one after another: each is a field that is
not known yet. -/
inductive Fills (r : Record σ α) : σ → List (String × Bytes) → σ → Prop where
  | done (known : σ) : Fills r known [] known
  | next {known following last : σ} {key : String} {written : Bytes}
      {later : List (String × Bytes)} {field : Field σ}
      (found : r.fields.find? (·.name = key) = some field) (unread : field.isRead known = false)
      (reads : ReadsBack (field.read known) written following)
      (others : Fills r following later last) :
      Fills r known ((key, written) :: later) last

end Record

theorem nextKey_end (first : Bool) (rest : Bytes) :
    nextKey first (0x7D :: rest) = .ok (false, 0x7D :: rest) := by
  unfold nextKey
  rw [dropSpace_cons (by decide)]
  rfl

theorem nextKey_first (rest : Bytes) : nextKey true (0x22 :: rest) = .ok (true, rest) := by
  unfold nextKey
  rw [dropSpace_cons (by decide)]
  rfl

theorem nextKey_later (rest : Bytes) : nextKey false (0x2C :: 0x22 :: rest) = .ok (true, rest) := by
  unfold nextKey
  rw [dropSpace_cons (by decide)]
  simp only [Bool.false_eq_true, if_false, dropSpace_cons (show isSpace 0x22 = false by decide)]

namespace Record

variable {r : Record σ α}

theorem members_end (fuel : Nat) (first : Bool) (known : σ) (rest : Bytes) :
    r.members (fuel + 1) first known (0x7D :: rest) = .ok (known, 0x7D :: rest) := by
  rw [members, run_bind (nextKey_end first rest)]
  rfl

theorem members_next {first : Bool} {known following : σ} {text written tail : Bytes} {key : String}
    {field : Field σ}
    (next : nextKey first text = .ok (true, afterQuote key ++ 0x3A :: (written ++ tail)))
    (found : r.fields.find? (·.name = key) = some field) (unread : field.isRead known = false)
    (reads : ReadsBack (field.read known) written following) (delimited : Delimited tail)
    (fuel : Nat) : r.members (fuel + 1) first known text = r.members fuel false following tail := by
  rw [members, run_bind next, if_pos rfl, run_bind (string_afterQuote key _)]
  simp only [found, unread, Bool.false_eq_true, if_false]
  rw [run_bind (mark_here 0x3A (by decide) .truncated _), run_bind (reads tail delimited)]

theorem members_behind {known last : σ} {entries : List (String × Bytes)}
    (fills : r.Fills known entries last) {fuel : Nat} (enough : entries.length < fuel)
    (rest : Bytes) :
    r.members fuel false known (behind (entries.map writeMember) ++ 0x7D :: rest) =
      .ok (last, 0x7D :: rest) := by
  induction fills generalizing fuel with
  | done known =>
    obtain ⟨fuel, rfl⟩ := Nat.exists_eq_succ_of_ne_zero (Nat.ne_of_gt enough)
    exact members_end fuel false known rest
  | @next known following last key written later field found unread reads others ih =>
    obtain ⟨fuel, rfl⟩ := Nat.exists_eq_succ_of_ne_zero (Nat.ne_of_gt (Nat.zero_lt_of_lt enough))
    have shape : behind (((key, written) :: later).map writeMember) ++ 0x7D :: rest =
        0x2C :: 0x22 :: (afterQuote key ++
          0x3A :: (written ++ (behind (later.map writeMember) ++ 0x7D :: rest))) := by
      simp [behind, writeMember, writeString_eq]
    have delimited := delimited_behind (.inr rfl) (later.map writeMember) rest
    rw [shape, members_next (nextKey_later _) found unread reads delimited]
    exact ih (Nat.lt_of_succ_lt_succ enough)

theorem members_written {known last : σ} {entries : List (String × Bytes)}
    (fills : r.Fills known entries last) {fuel : Nat} (enough : entries.length < fuel)
    (rest : Bytes) :
    r.members fuel true known (separated (entries.map writeMember) ++ 0x7D :: rest) =
      .ok (last, 0x7D :: rest) := by
  obtain ⟨fuel, rfl⟩ := Nat.exists_eq_succ_of_ne_zero (Nat.ne_of_gt (Nat.zero_lt_of_lt enough))
  cases fills with
  | done => exact members_end fuel true known rest
  | @next _ following _ key written later field found unread reads others =>
    have shape : separated (((key, written) :: later).map writeMember) ++ 0x7D :: rest =
        0x22 :: (afterQuote key ++
          0x3A :: (written ++ (behind (later.map writeMember) ++ 0x7D :: rest))) := by
      simp [separated_cons, writeMember, writeString_eq]
    have delimited := delimited_behind (.inr rfl) (later.map writeMember) rest
    rw [shape, members_next (nextKey_first _) found unread reads delimited]
    exact members_behind others (Nat.lt_of_succ_lt_succ enough) rest

theorem read_here (r : Record σ α) (rest : Bytes) :
    r.read (0x7B :: rest) = (r.members (rest.length + 1) true r.empty >>= fun known =>
      liftM (r.finish known) >>= fun value =>
        mark 0x7D .truncated >>= fun _ => pure value) rest := by
  unfold Record.read
  rw [dropSpace_cons (by decide)]
  rfl

theorem writeRecord_append (entries : List (String × Bytes)) (rest : Bytes) :
    writeRecord entries ++ rest =
      0x7B :: (separated (entries.map writeMember) ++ 0x7D :: rest) := by
  simp [writeRecord]

/-- A record is read back when its fields are, and when they make up the record. -/
theorem read_written (last : σ) {entries : List (String × Bytes)} {value : α}
    (fills : r.Fills r.empty entries last) (finished : r.finish last = .ok value) :
    ReadsBack r.read (writeRecord entries) value := by
  intro rest _
  have size := length_separated (entries.map writeMember)
  have enough : entries.length <
      (separated (entries.map writeMember) ++ 0x7D :: rest).length + 1 := by
    rw [List.length_map] at size
    rw [List.length_append, List.length_cons]
    omega
  have made : (liftM (r.finish last) : Reader α) (0x7D :: rest) = .ok (value, 0x7D :: rest) := by
    rw [run_lift, finished]
    rfl
  rw [writeRecord_append, read_here, run_bind (members_written fills enough rest), run_bind made,
    run_bind (mark_here 0x7D (by decide) .truncated rest)]
  rfl

end Record

/-! ### Objects with any keys -/

section

variable {read : Reader α} {write : α → Bytes} {values : List (String × α)}

theorem entriesFrom_end (fuel : Nat) (first : Bool) (rest : Bytes) :
    entriesFrom read (fuel + 1) first (0x7D :: rest) = .ok ([], 0x7D :: rest) := by
  rw [entriesFrom, run_bind (nextKey_end first rest)]
  rfl

theorem entriesFrom_next {first : Bool} {text written tail rest : Bytes} {key : String} {value : α}
    {later : List (String × α)} {fuel : Nat}
    (next : nextKey first text = .ok (true, afterQuote key ++ 0x3A :: (written ++ tail)))
    (reads : ReadsBack read written value) (delimited : Delimited tail)
    (others : entriesFrom read fuel false tail = .ok (later, rest)) :
    entriesFrom read (fuel + 1) first text = .ok ((key, value) :: later, rest) := by
  rw [entriesFrom, run_bind next, if_pos rfl, run_bind (string_afterQuote key _),
    run_bind (mark_here 0x3A (by decide) .truncated _), run_bind (reads tail delimited),
    run_bind others]
  rfl

def writeEntry (write : α → Bytes) (entry : String × α) : Bytes :=
  writeMember (entry.1, write entry.2)

theorem entriesFrom_behind (reads : ∀ entry ∈ values, ReadsBack read (write entry.2) entry.2)
    {fuel : Nat} (enough : values.length < fuel) (rest : Bytes) :
    entriesFrom read fuel false (behind (values.map (writeEntry write)) ++ 0x7D :: rest) =
      .ok (values, 0x7D :: rest) := by
  induction values generalizing fuel with
  | nil =>
    obtain ⟨fuel, rfl⟩ := Nat.exists_eq_succ_of_ne_zero (Nat.ne_of_gt enough)
    exact entriesFrom_end fuel false rest
  | cons entry later ih =>
    obtain ⟨fuel, rfl⟩ := Nat.exists_eq_succ_of_ne_zero (Nat.ne_of_gt (Nat.zero_lt_of_lt enough))
    have others := ih (fun other member => reads other (List.mem_cons_of_mem _ member))
      (Nat.lt_of_succ_lt_succ enough)
    have shape : behind ((entry :: later).map (writeEntry write)) ++ 0x7D :: rest =
        0x2C :: 0x22 :: (afterQuote entry.1 ++
          0x3A :: (write entry.2 ++ (behind (later.map (writeEntry write)) ++ 0x7D :: rest))) := by
      simp [behind, writeEntry, writeMember, writeString_eq]
    rw [shape]
    exact entriesFrom_next (nextKey_later _) (reads entry List.mem_cons_self)
      (delimited_behind (.inr rfl) _ rest) others

theorem entriesFrom_written (reads : ∀ entry ∈ values, ReadsBack read (write entry.2) entry.2)
    {fuel : Nat} (enough : values.length < fuel) (rest : Bytes) :
    entriesFrom read fuel true (separated (values.map (writeEntry write)) ++ 0x7D :: rest) =
      .ok (values, 0x7D :: rest) := by
  obtain ⟨fuel, rfl⟩ := Nat.exists_eq_succ_of_ne_zero (Nat.ne_of_gt (Nat.zero_lt_of_lt enough))
  cases values with
  | nil => exact entriesFrom_end fuel true rest
  | cons entry later =>
    have others := entriesFrom_behind
      (fun other member => reads other (List.mem_cons_of_mem _ member))
      (Nat.lt_of_succ_lt_succ enough) rest
    have shape : separated ((entry :: later).map (writeEntry write)) ++ 0x7D :: rest =
        0x22 :: (afterQuote entry.1 ++
          0x3A :: (write entry.2 ++ (behind (later.map (writeEntry write)) ++ 0x7D :: rest))) := by
      simp [separated_cons, writeEntry, writeMember, writeString_eq]
    rw [shape]
    exact entriesFrom_next (nextKey_first _) (reads entry List.mem_cons_self)
      (delimited_behind (.inr rfl) _ rest) others

theorem entries_here (read : Reader α) (rest : Bytes) :
    entries read (0x7B :: rest) = (entriesFrom read (rest.length + 1) true >>= fun values =>
      mark 0x7D .truncated >>= fun _ => pure values) rest := by
  unfold entries
  rw [dropSpace_cons (by decide)]
  rfl

/-- An object is read back as its members, in their order. -/
theorem entries_written (reads : ∀ entry ∈ values, ReadsBack read (write entry.2) entry.2) :
    ReadsBack (entries read)
      (writeRecord (values.map fun entry => (entry.1, write entry.2))) values := by
  intro rest _
  have size := length_separated (values.map (writeEntry write))
  have enough : values.length <
      (separated (values.map (writeEntry write)) ++ 0x7D :: rest).length + 1 := by
    rw [List.length_map] at size
    rw [List.length_append, List.length_cons]
    omega
  rw [Record.writeRecord_append, List.map_map, entries_here]
  change (entriesFrom read ((separated (values.map (writeEntry write)) ++ 0x7D :: rest).length + 1)
    true >>= _) (separated (values.map (writeEntry write)) ++ 0x7D :: rest) = _
  rw [run_bind (entriesFrom_written reads enough rest),
    run_bind (mark_here 0x7D (by decide) .truncated rest)]
  rfl

end

theorem mismatch_fails (expected : String) (text : Bytes) :
    ∃ fault, (mismatch expected : Reader α) text = .error fault := by
  have behind {β : Type} {x : Except Fault β} {found : β → String} :
      ∃ fault, (x >>= fun b => (wrongType (found b) expected : Except Fault (α × Bytes))) =
        .error fault := by
    cases x with
    | error fault => exact ⟨fault, rfl⟩
    | ok b => exact ⟨_, rfl⟩
  unfold mismatch
  split
  · exact ⟨_, rfl⟩
  · exact behind
  · exact behind
  · exact behind
  · exact behind
  · exact behind
  · exact ⟨_, rfl⟩
  · exact ⟨_, rfl⟩
  · split
    · exact behind
    · exact ⟨_, rfl⟩

namespace Record

variable {r : Record σ α} {P : σ → Prop}

def Keeps (r : Record σ α) (P : σ → Prop) : Prop :=
  ∀ field ∈ r.fields, ∀ known text next rest,
    P known → field.read known text = .ok (next, rest) → P next

theorem members_keeps (keeps : r.Keeps P) {fuel : Nat} {first : Bool} {known last : σ}
    {text rest : Bytes} (holds : P known)
    (done : r.members fuel first known text = .ok (last, rest)) : P last := by
  induction fuel generalizing first known text with
  | zero => cases done
  | succ fuel ih =>
    obtain ⟨more, _, _, done⟩ := of_bind done
    split at done
    · obtain ⟨key, _, _, done⟩ := of_bind done
      cases found : r.fields.find? (·.name = key) with
      | some field =>
        simp only [found] at done
        split at done
        · cases done
        · obtain ⟨_, _, _, done⟩ := of_bind done
          obtain ⟨next, _, read, done⟩ := of_bind done
          exact ih (keeps field (List.mem_of_find?_eq_some found) _ _ _ _ holds read) done
      | none =>
        simp only [found] at done
        split at done
        · cases done
        · obtain ⟨_, _, _, done⟩ := of_bind done
          obtain ⟨_, _, _, done⟩ := of_bind done
          exact ih holds done
    · cases done
      exact holds

theorem inOrder_keeps (keeps : r.Keeps P) {fields : List (Field σ)} (listed : fields ⊆ r.fields)
    {index : Nat} {known last : σ} {text rest : Bytes} (holds : P known)
    (done : r.inOrder fields index known text = .ok (last, rest)) : P last := by
  induction fields generalizing index known text with
  | nil =>
    cases done
    exact holds
  | cons field later ih =>
    obtain ⟨more, _, _, done⟩ := of_bind done
    split at done
    · obtain ⟨next, _, read, done⟩ := of_bind done
      exact ih (fun other member => listed (List.mem_cons_of_mem _ member))
        (keeps field (listed List.mem_cons_self) _ _ _ _ holds read) done
    · cases done

theorem finished {known : σ} {text rest : Bytes} {value : α} {b : UInt8}
    (done : (liftM (r.finish known) >>= fun value => mark b .truncated >>= fun _ =>
      (pure value : Reader α)) text = .ok (value, rest)) : r.finish known = .ok value := by
  obtain ⟨made, _, finish, done⟩ := of_bind done
  obtain ⟨_, _, _, done⟩ := of_bind done
  cases done
  rw [run_lift] at finish
  cases result : r.finish known with
  | error fault =>
    rw [result] at finish
    cases finish
  | ok found =>
    rw [result] at finish
    cases finish
    rfl

/-- A record that was read was made of fields that were read, from an object or an array. -/
theorem of_read (keeps : r.Keeps P) (empty : P r.empty) {text rest : Bytes} {value : α}
    (done : r.read text = .ok (value, rest)) : ∃ known, P known ∧ r.finish known = .ok value := by
  unfold Record.read at done
  split at done
  · obtain ⟨known, _, members, done⟩ := of_bind done
    exact ⟨known, members_keeps keeps empty members, finished done⟩
  · obtain ⟨known, _, fields, done⟩ := of_bind done
    exact ⟨known, inOrder_keeps keeps (fun _ member => member) empty fields, finished done⟩
  · obtain ⟨fault, failed⟩ := mismatch_fails (α := α) r.title (dropSpace text)
    rw [failed] at done
    cases done

theorem read_fails {key : String} {written : Bytes} {later : List (String × Bytes)}
    {field : Field σ} {fault : Fault} (found : r.fields.find? (·.name = key) = some field)
    (unread : field.isRead r.empty = false)
    (failed : ∀ rest, Delimited rest → field.read r.empty (written ++ rest) = .error fault)
    (rest : Bytes) : r.read (writeRecord ((key, written) :: later) ++ rest) = .error fault := by
  have shape : separated (((key, written) :: later).map writeMember) ++ 0x7D :: rest =
      0x22 :: (afterQuote key ++
        0x3A :: (written ++ (behind (later.map writeMember) ++ 0x7D :: rest))) := by
    simp [separated_cons, writeMember, writeString_eq]
  have delimited := delimited_behind (.inr rfl) (later.map writeMember) rest
  rw [writeRecord_append, read_here]
  refine bind_fails ?_ _
  rw [shape, members, run_bind (nextKey_first _), if_pos rfl, run_bind (string_afterQuote key _)]
  simp only [found, unread, Bool.false_eq_true, if_false]
  rw [run_bind (mark_here 0x3A (by decide) .truncated _)]
  exact bind_fails (failed _ delimited) _

end Record

/-! ### Unions and absent values -/

theorem union_here (variants : List (String × Payload α)) (rest : Bytes) :
    union variants (0x7B :: rest) = (stringOr "variant identifier" >>= fun name =>
      variant variants name >>= fun payload => mark 0x3A .truncated >>= fun _ =>
        payload.read >>= fun value => mark 0x7D .truncated >>= fun _ => pure value) rest := by
  unfold union
  rw [dropSpace_cons (by decide)]
  rfl

theorem variant_known {variants : List (String × Payload α)} {name : String} {payload : Payload α}
    (known : variants.lookup name = some payload) (text : Bytes) :
    variant variants name text = .ok (payload, text) := by
  unfold variant
  rw [known]
  rfl

theorem union_written {variants : List (String × Payload α)} {name : String}
    {payload : Payload α} {written : Bytes} {value : α}
    (known : variants.lookup name = some payload) (reads : ReadsBack payload.read written value) :
    ReadsBack (union variants) (writeRecord [(name, written)]) value := by
  intro rest _
  have shape : writeRecord [(name, written)] ++ rest =
      0x7B :: (writeString name ++ 0x3A :: (written ++ 0x7D :: rest)) := by
    simp [writeRecord, separated, writeMember]
  have closing : Delimited (0x7D :: rest) := .inr (.inr rfl)
  rw [shape, union_here, run_bind (stringOr_here _ name _), run_bind (variant_known known _),
    run_bind (mark_here 0x3A (by decide) .truncated _), run_bind (reads _ closing),
    run_bind (mark_here 0x7D (by decide) .truncated rest)]
  rfl

theorem union_alone (variants : List (String × Payload α)) (rest : Bytes) :
    union variants (0x22 :: rest) = (string >>= fun name =>
      variant variants name >>= fun payload => liftM payload.alone) rest := by
  unfold union
  rw [dropSpace_cons (by decide)]
  rfl

theorem unit_written {variants : List (String × Payload α)} {name : String} {value : α}
    (known : variants.lookup name = some (.unit value)) :
    ReadsBack (union variants) (writeString name) value := by
  intro rest _
  rw [writeString_eq, List.cons_append, union_alone, run_bind (string_afterQuote name rest),
    run_bind (variant_known known rest), run_lift]
  rfl

theorem absent_written (read : Reader α) : ReadsBack (optional read) writeNull none :=
  fun _ _ => rfl

theorem present_written {read : Reader α} {b : UInt8} {tail : Bytes} {value : α}
    (visible : isSpace b = false) (other : b ≠ 0x6E) (reads : ReadsBack read (b :: tail) value) :
    ReadsBack (optional read) (b :: tail) (some value) := by
  intro rest delimited
  have found := reads rest delimited
  rw [List.cons_append] at found ⊢
  unfold optional
  rw [dropSpace_cons visible]
  split
  · rename_i same
    exact absurd (List.cons.inj same).1 other
  · rw [found]
    rfl

theorem readAll_written {read : Reader α} {written : Bytes} {value : α}
    (reads : ReadsBack read written value) : readAll read written = .ok value := by
  have found := reads [] trivial
  rw [List.append_nil] at found
  unfold readAll
  rw [found]
  rfl

theorem readAll_fails {read : Reader α} {text : Bytes} {fault : Fault}
    (failed : read text = .error fault) : readAll read text = .error fault := by
  unfold readAll
  rw [failed]
  rfl

theorem of_readAll {read : Reader α} {text : Bytes} {value : α}
    (done : readAll read text = .ok value) : ∃ rest, read text = .ok (value, rest) := by
  unfold readAll at done
  cases found : read text with
  | error fault =>
    rw [found] at done
    cases done
  | ok taken =>
    obtain ⟨first, rest⟩ := taken
    rw [found] at done
    simp only [bind, Except.bind] at done
    split at done
    · cases done
      exact ⟨rest, rfl⟩
    · cases done

end TabletRoster.Json
