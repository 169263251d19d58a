import TabletRoster.Lock
import TabletRoster.Proofs.Json.Records
import TabletRoster.Proofs.Lookups

namespace TabletRoster

open Json (ReadsBack)

namespace Address

variable {text : String} {a : Address} {inner : List Char}

def Settled (a : Address) : Prop :=
  ':' ∉ a.host.toList → ¬ Bracketed a.host.toList

/-- A text with a host in two pairs of brackets that would do without. -/
def Doubled (inner text : List Char) : Prop :=
  ∃ port, text = '[' :: ('[' :: inner ++ [']']) ++ [']'] ++ ':' :: port ∧ ':' ∉ inner ∧ ':' ∉ port

theorem host_of_parse (parsed : parse text = .ok a) :
    ∃ host port, Text.cutLast ':' text.toList = some (host, port) ∧
      a.host.toList = unbracket host ∧ unbracket host ≠ [] := by
  simp only [parse] at parsed
  split at parsed
  · cases parsed
  · rename_i host port cut
    split at parsed
    · cases parsed
    · rename_i letters
      split at parsed
      · cases parsed
      · cases parsed
        exact ⟨host, port, cut, String.toList_ofList, by simpa using letters⟩

theorem parse_shown (a : Address) :
    parse a.text = if unbracket (shown a.host.toList) = [] then .error (.emptyHost a.text)
      else .ok ⟨String.ofList (unbracket (shown a.host.toList)), a.port⟩ := by
  have spelt :
      a.text = String.ofList (shown a.host.toList ++ ':' :: Nat.toDigits 10 a.port.toNat) := by
    rw [← text_toList, String.ofList_toList]
  have read := parse_spelt (shown a.host.toList) a.port
  rw [← spelt] at read
  simpa using read

theorem parse_bracketed (host : a.host.toList = '[' :: inner ++ [']']) (plain : ':' ∉ inner) :
    parse a.text = if inner = [] then .error (.emptyHost a.text)
      else .ok ⟨String.ofList inner, a.port⟩ := by
  have bare : ':' ∉ '[' :: inner ++ [']'] := by simp [plain]
  rw [parse_shown, host, shown, if_neg bare, unbracket_bracketed]

theorem settled_iff (named : a.host ≠ "") : parse a.text = .ok a ↔ a.Settled := by
  constructor
  · intro again plain bracketed
    obtain ⟨inner, host⟩ := bracketed
    rw [host] at plain
    rw [parse_bracketed host (by simpa using plain)] at again
    split at again
    · cases again
    · have shorter := congrArg (·.host.toList.length) (Except.ok.inj again)
      simp [host] at shorter
      omega
  · exact fun settled => parse_text named settled

theorem unsettled_iff_doubled (parsed : parse text = .ok a) :
    Doubled inner text.toList ↔ a.host.toList = '[' :: inner ++ [']'] ∧ ':' ∉ inner := by
  obtain ⟨host, port, cut, same, _⟩ := host_of_parse parsed
  rw [same]
  constructor
  · rintro ⟨last, whole, plain, unmarked⟩
    rw [whole, Text.cutLast_at _ unmarked] at cut
    cases cut
    exact ⟨unbracket_bracketed _, plain⟩
  · rintro ⟨read, plain⟩
    refine ⟨port, ?_, plain, Text.cutLast_behind cut⟩
    by_cases outer : Bracketed host
    · obtain ⟨middle, rfl⟩ := outer
      rw [unbracket_bracketed] at read
      rw [Text.cutLast_join cut, read]
    · rw [unbracket_plain outer] at read
      exact absurd ⟨inner, read⟩ outer

theorem settled_iff_undoubled (parsed : parse text = .ok a) :
    a.Settled ↔ ¬ ∃ inner, Doubled inner text.toList := by
  simp only [unsettled_iff_doubled parsed, not_exists, not_and]
  constructor
  · intro settled inner host plain
    exact settled (by simp [host, plain]) ⟨inner, host⟩
  · rintro undoubled plain ⟨inner, host⟩
    rw [host] at plain
    exact undoubled inner host (by simpa using plain)

theorem named_of_parse (parsed : parse text = .ok a) : a.host ≠ "" := by
  obtain ⟨host, port, _, same, letters⟩ := host_of_parse parsed
  rw [← same] at letters
  simpa using letters

/-! ### Tickets -/

theorem fromJson_toJson (a : Address) {rest : Bytes} (delimited : Json.Delimited rest) :
    fromJson (a.toJson ++ rest) = match parse a.text with
      | .ok b => .ok (b, rest)
      | .error error => .error (.shape error.message) := by
  unfold fromJson
  rw [show a.toJson = Json.writeString a.text from rfl,
    Json.run_bind (Json.text_written a.text rest delimited)]
  cases parse a.text <;> rfl

theorem fromJson_written {b : Address} (read : parse a.text = .ok b) :
    ReadsBack fromJson a.toJson b := by
  intro rest delimited
  rw [fromJson_toJson a delimited, read]

theorem fromJson_fails {error : AddressError} (failed : parse a.text = .error error) (rest : Bytes)
    (delimited : Json.Delimited rest) :
    fromJson (a.toJson ++ rest) = .error (.shape error.message) := by
  rw [fromJson_toJson a delimited, failed]

theorem of_fromJson {text rest : Bytes} (read : fromJson text = .ok (a, rest)) :
    ∃ spelt, parse spelt = .ok a := by
  obtain ⟨spelt, _, _, done⟩ := Json.of_bind read
  cases parsed : parse spelt with
  | error error =>
    simp only [parsed] at done
    cases done
  | ok address =>
    simp only [parsed] at done
    cases done
    exact ⟨spelt, parsed⟩

end Address

namespace Ticket

variable {ticket : Ticket} {data : Bytes}

/-- A ticket is read back with the address that its address's text is read as, and not at all if
that text is not read. -/
theorem decode_encode (ticket : Ticket) : decode ticket.encode =
    match Address.parse ticket.address.text with
    | .ok address => .ok ⟨address, ticket.group⟩
    | .error error => .error (.shape error.message) := by
  cases read : Address.parse ticket.address.text with
  | ok address =>
    refine Json.readAll_written (Json.Record.read_written ⟨some address, some ticket.group⟩ ?_ rfl)
    refine .next rfl rfl ((Address.fromJson_written read).map _) ?_
    refine .next rfl rfl ((Json.text_written ticket.group).map _) ?_
    exact .done _
  | error error =>
    have failed := @Json.Record.read_fails _ _ layout "address" ticket.address.toJson
      [("group", Json.writeString ticket.group)] _ (.shape error.message) rfl rfl
      (fun rest delimited => Json.bind_fails (Address.fromJson_fails read rest delimited) _) []
    rw [List.append_nil] at failed
    exact Json.readAll_fails failed

theorem parsed_of_decode (decoded : decode data = .ok ticket) :
    ∃ spelt, Address.parse spelt = .ok ticket.address := by
  obtain ⟨rest, read⟩ := Json.of_readAll decoded
  have keeps : layout.Keeps fun draft =>
      ∀ address, draft.address = some address → ∃ spelt, Address.parse spelt = .ok address := by
    intro field member known text next rest holds read
    simp only [layout, List.mem_cons, List.not_mem_nil, or_false] at member
    rcases member with rfl | rfl
    · obtain ⟨address, _, read, done⟩ := Json.of_bind read
      cases done
      intro other same
      cases same
      exact Address.of_fromJson read
    · obtain ⟨group, _, _, done⟩ := Json.of_bind read
      cases done
      exact holds
  obtain ⟨⟨address, group⟩, holds, finished⟩ := Json.Record.of_read keeps nofun read
  cases address with
  | none => cases finished
  | some address =>
    cases group with
    | none => cases finished
    | some group =>
      cases finished
      exact holds _ rfl

end Ticket

/-- An address that was read from a text is named by its own text again just if it was not spelt
with two pairs of brackets around a host without a colon. If it was, what is read again has the
host inside both of them, or is no address when there is none. The same goes for the address of a
ticket that was read from a lock entry and is written once more; its group is left alone. -/
theorem reread_unless_doubled (text : String) (data : Bytes) :
    (∀ a, Address.parse text = .ok a →
      (Address.parse a.text = .ok a ↔ ¬ ∃ inner, Address.Doubled inner text.toList) ∧
      ∀ inner, Address.Doubled inner text.toList →
        Address.parse a.text = if inner = [] then .error (.emptyHost a.text)
          else .ok ⟨String.ofList inner, a.port⟩) ∧
    ∀ ticket, Ticket.decode data = .ok ticket →
      (Ticket.decode ticket.encode = .ok ticket ↔ ticket.address.Settled) ∧
      ∀ inner, ticket.address.host.toList = '[' :: inner ++ [']'] → ':' ∉ inner →
        Ticket.decode ticket.encode =
          if inner = [] then
            .error (.shape (AddressError.emptyHost ticket.address.text).message)
          else .ok ⟨⟨String.ofList inner, ticket.address.port⟩, ticket.group⟩ := by
  constructor
  · intro a parsed
    refine ⟨?_, fun inner doubled => ?_⟩
    · rw [Address.settled_iff (Address.named_of_parse parsed),
        Address.settled_iff_undoubled parsed]
    · obtain ⟨host, plain⟩ := (Address.unsettled_iff_doubled parsed).mp doubled
      exact Address.parse_bracketed host plain
  · intro ticket decoded
    obtain ⟨spelt, parsed⟩ := Ticket.parsed_of_decode decoded
    rw [Ticket.decode_encode]
    refine ⟨?_, fun inner host plain => ?_⟩
    · rw [← Address.settled_iff (Address.named_of_parse parsed)]
      cases Address.parse ticket.address.text with
      | error error => exact iff_of_false nofun nofun
      | ok address =>
        obtain ⟨own, group⟩ := ticket
        simp
    · rw [Address.parse_bracketed host plain]
      by_cases empty : inner = []
      · simp [empty]
      · simp [empty]

def doubled : Bytes :=
  Text.Utf8.encode "\x7b\"address\":\"[[h]]:1\",\"group\":\"g\"\x7d"

theorem reread_unless_doubled_lock :
    Address.parse "[[h]]:1" = .ok ⟨"[h]", 1⟩ ∧
      Address.parse (Address.text ⟨"[h]", 1⟩) = .ok ⟨"h", 1⟩ ∧
      Ticket.decode doubled = .ok ⟨⟨"[h]", 1⟩, "g"⟩ ∧
      Ticket.decode (Ticket.encode ⟨⟨"[h]", 1⟩, "g"⟩) = .ok ⟨⟨"h", 1⟩, "g"⟩ := by
  have parsed : Address.parse "[[h]]:1" = .ok ⟨"[h]", 1⟩ := rfl
  have decoded : Ticket.decode doubled = .ok ⟨⟨"[h]", 1⟩, "g"⟩ := rfl
  have twice : Address.Doubled ['h'] "[[h]]:1".toList := ⟨['1'], by decide, by decide, by decide⟩
  have again := ((reread_unless_doubled _ doubled).1 _ parsed).2 ['h'] twice
  have rewritten :=
    ((reread_unless_doubled "[[h]]:1" _).2 _ decoded).2 ['h'] (by decide) (by decide)
  exact ⟨parsed, again, decoded, rewritten⟩

end TabletRoster
