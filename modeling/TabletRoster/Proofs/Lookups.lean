import TabletRoster.Instance
import TabletRoster.Proofs.Addresses

namespace TabletRoster

namespace Address

variable {host : List Char}

theorem parse_spelt (host : List Char) (port : UInt16) :
    parse (String.ofList (host ++ ':' :: Nat.toDigits 10 port.toNat)) =
      if (unbracket host).isEmpty then
        .error (.emptyHost (String.ofList (host ++ ':' :: Nat.toDigits 10 port.toNat)))
      else .ok ⟨String.ofList (unbracket host), port⟩ := by
  have colon : ':' ∉ Nat.toDigits 10 port.toNat := not_mem_toDigits (by decide)
  have number := Text.natural_toDigits port.toNat_lt
  simp only [parse, String.toList_ofList, Text.cutLast_at host colon]
  simp [number]

theorem length_unbracket (host : List Char) : (unbracket host).length ≤ host.length := by
  unfold unbracket
  split
  · split
    · rw [List.length_dropLast, List.length_cons]
      omega
    · exact Nat.le_refl _
  · exact Nat.le_refl _

theorem unbracket_eq_iff : unbracket host = host ↔ ¬ Bracketed host := by
  constructor
  · rintro same ⟨inner, rfl⟩
    rw [unbracket_bracketed] at same
    have lengths := congrArg List.length same
    simp only [List.length_cons, List.length_append] at lengths
    omega
  · exact unbracket_plain

def BlankFirst (host : List Char) : Prop :=
  ∃ c rest, host = c :: rest ∧ Text.isBlank c = true

theorem trimStart_eq_iff : Text.trimStart host = host ↔ ¬ BlankFirst host := by
  cases host with
  | nil => simp [Text.trimStart, BlankFirst]
  | cons c rest =>
    rw [BlankFirst, Text.trimStart, List.dropWhile_cons]
    by_cases blank : Text.isBlank c = true
    · have shorter := Text.length_trimStart rest
      have shrunk : (Text.trimStart rest).length ≠ (c :: rest).length := by
        rw [List.length_cons]
        omega
      rw [if_pos blank]
      exact iff_of_false (fun same => shrunk (congrArg List.length same))
        (fun none => none ⟨c, rest, rfl, blank⟩)
    · rw [if_neg blank]
      refine iff_of_true rfl ?_
      rintro ⟨_, _, same, first⟩
      cases same
      exact blank first

theorem unbracket_trimmed : unbracket (Text.trimStart (shown host)) = host ↔
    ':' ∈ host ∨ ¬ BlankFirst host ∧ ¬ Bracketed host := by
  unfold shown
  split
  · rename_i colon
    have kept : Text.trimStart ('[' :: host ++ [']']) = '[' :: host ++ [']'] := by
      rw [trimStart_eq_iff]
      rintro ⟨_, _, same, blank⟩
      cases same
      cases blank
    rw [kept, unbracket_bracketed]
    exact iff_of_true rfl (.inl colon)
  · rename_i bare
    rw [or_iff_right bare, ← trimStart_eq_iff, ← unbracket_eq_iff]
    constructor
    · intro read
      have outer := length_unbracket (Text.trimStart host)
      have inner := Text.length_trimStart host
      rw [read] at outer
      have kept : Text.trimStart host = host :=
        (List.dropWhile_suffix _).eq_of_length (Nat.le_antisymm inner outer)
      rw [kept] at read
      exact ⟨kept, read⟩
    · rintro ⟨kept, read⟩
      rw [kept, read]

end Address

namespace Instance

theorem text_toList (i : Instance) : i.text.toList =
    Address.shown i.address.host.toList ++
      ':' :: (Nat.toDigits 10 i.address.port.toNat ++ '[' :: (i.session.toList ++ [']'])) := by
  have whole : i.text = i.address.text ++ "[" ++ i.session ++ "]" := by
    simp [text, toString]
  rw [whole]
  simp [String.toList_append, Address.text_toList]

/-- An instance that its text tells from all others. -/
structure Named (i : Instance) : Prop where
  session : ':' ∉ i.session.toList
  host : i.address.host ≠ ""
  plain : ':' ∈ i.address.host.toList ∨
    ¬ Address.BlankFirst i.address.host.toList ∧ ¬ Address.Bracketed i.address.host.toList

end Instance

namespace Lookup

theorem cutSession_uncoloned {text address session : List Char}
    (cut : cutSession text = some (address, session)) : ':' ∉ session := by
  obtain ⟨⟨host, tail⟩, last, cut⟩ := Option.bind_eq_some_iff.mp cut
  obtain ⟨⟨port, rest⟩, first, same⟩ := Option.bind_eq_some_iff.mp cut
  cases same
  have behind := Text.cutLast_behind last
  rw [(Text.cutFirst_join first).1] at behind
  intro colon
  exact behind (List.mem_append_right _ (List.mem_cons_of_mem _ colon))

theorem cutSession_spelt (host : List Char) (port : UInt16) {session : List Char}
    (plain : ':' ∉ session) :
    cutSession (host ++ ':' :: (Nat.toDigits 10 port.toNat ++ '[' :: session)) =
      some (host ++ ':' :: Nat.toDigits 10 port.toNat, session) := by
  have colon : ':' ∉ Nat.toDigits 10 port.toNat := Address.not_mem_toDigits (by decide)
  have bracket : '[' ∉ Nat.toDigits 10 port.toNat := Address.not_mem_toDigits (by decide)
  have behind : ':' ∉ Nat.toDigits 10 port.toNat ++ '[' :: session := by simp [colon, plain]
  simp [cutSession, Text.cutLast_at host behind, Text.cutFirst_at bracket session]

theorem session_uncoloned {text : String} {address : Address} {session : String}
    (parsed : parse text = .ok ⟨address, some session⟩) : ':' ∉ session.toList := by
  unfold parse at parsed
  dsimp only at parsed
  split at parsed
  · cases read : Address.parse (String.ofList (Text.trim text.toList)) <;>
      rw [read] at parsed <;> cases parsed
  · rename_i spelt rest cut
    split at parsed
    · cases read : Address.parse (String.ofList spelt) with
      | error fault =>
        rw [read] at parsed
        cases parsed
      | ok found =>
        rw [read] at parsed
        cases parsed
        rw [String.toList_ofList]
        exact fun colon => cutSession_uncoloned cut (List.dropLast_subset _ colon)
    · cases parsed

/-- The text of an instance whose session has no colon is cut where it was put together. -/
theorem parse_text {i : Instance} (plain : ':' ∉ i.session.toList) :
    parse i.text = (Address.parse (String.ofList (Text.trimStart (Address.shown i.address.host.toList) ++
      ':' :: Nat.toDigits 10 i.address.port.toNat))).map (⟨·, some i.session⟩) := by
  have closed : i.text.toList = (Address.shown i.address.host.toList ++
      ':' :: (Nat.toDigits 10 i.address.port.toNat ++ '[' :: i.session.toList)) ++ [']'] := by
    rw [Instance.text_toList]
    simp
  have trimmed : Text.trim i.text.toList = Text.trimStart (Address.shown i.address.host.toList) ++
      ':' :: (Nat.toDigits 10 i.address.port.toNat ++ '[' :: (i.session.toList ++ [']'])) := by
    rw [closed, Text.trim_before (by decide), Text.trimStart_before (by decide)]
    simp
  have unclosed : ':' ∉ i.session.toList ++ [']'] := by simp [plain]
  unfold parse
  dsimp only
  rw [trimmed, cutSession_spelt _ _ unclosed]
  simp only [List.getLast?_concat, if_true, List.dropLast_concat, String.ofList_toList]
  cases Address.parse (String.ofList (Text.trimStart (Address.shown i.address.host.toList) ++
    ':' :: Nat.toDigits 10 i.address.port.toNat)) <;> rfl

theorem selects_iff {address : Address} {session : String} {i : Instance} :
    (⟨address, some session⟩ : Lookup).selects i = true ↔ i = ⟨address, session⟩ := by
  cases i
  simp [selects, @eq_comm _ session]

theorem parse_named (i : Instance) :
    parse i.text = .ok ⟨i.address, some i.session⟩ ↔ i.Named := by
  by_cases plain : ':' ∈ i.session.toList
  · exact iff_of_false (fun parsed => session_uncoloned parsed plain) (fun named => named.session plain)
  · rw [parse_text plain, Address.parse_spelt]
    constructor
    · intro read
      split at read
      · cases read
      · rename_i letters
        simp only [Except.map, Except.ok.injEq, Lookup.mk.injEq] at read
        have host := congrArg (·.host.toList) read.1
        simp only [String.toList_ofList] at host
        refine ⟨plain, ?_, Address.unbracket_trimmed.mp host⟩
        rw [host] at letters
        simpa using letters
    · intro named
      have letters : i.address.host.toList.isEmpty = false := by simpa using named.host
      rw [Address.unbracket_trimmed.mpr named.plain, letters, String.ofList_toList]
      rfl

theorem eq_of_selects {lookup : Lookup} {i : Instance}
    (alone : ∀ other, lookup.selects other = true ↔ other = i) :
    lookup = ⟨i.address, some i.session⟩ := by
  obtain ⟨address, session⟩ := lookup
  have own := (alone i).mpr rfl
  cases session with
  | none =>
    -- then a further session on the same address is selected as well
    have further := (alone ⟨address, i.session.push 'x'⟩).mp (by simp [selects])
    have lengths := congrArg (·.session.length) further
    simp at lengths
  | some session =>
    rw [selects_iff.mp own]

/-- The text of an instance reads back as its address and session just if it is named by it, and
just then what is read selects this instance and no other. -/
theorem text_names_instance (i : Instance) :
    (parse i.text = .ok ⟨i.address, some i.session⟩ ↔ i.Named) ∧
      ((∃ lookup, parse i.text = .ok lookup ∧ ∀ other, lookup.selects other = true ↔ other = i) ↔
        i.Named) := by
  refine ⟨parse_named i, ?_⟩
  constructor
  · rintro ⟨lookup, parsed, alone⟩
    rw [eq_of_selects alone] at parsed
    exact (parse_named i).mp parsed
  · intro named
    exact ⟨_, (parse_named i).mpr named, fun other => selects_iff⟩

-- A host in brackets comes through if it has a colon; otherwise another host is read.
example : (parse (Instance.text ⟨⟨"[::1]", 80⟩, "a[b]"⟩)).toOption =
      some ⟨⟨"[::1]", 80⟩, some "a[b]"⟩ ∧
    (parse (Instance.text ⟨⟨"[h]", 80⟩, "s"⟩)).toOption = some ⟨⟨"h", 80⟩, some "s"⟩ := by
  decide +kernel

end Lookup
end TabletRoster
