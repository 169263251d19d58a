import TabletRoster.Proofs.Checks
import TabletRoster.Proofs.Mirror
import TabletRoster.Proofs.Numerals

namespace TabletRoster

namespace Address

variable {host : List Char} {text : String} {a : Address}

/-- A text as addresses are written: brackets stand around a host with a colon and around no other,
and the port has neither a sign nor zeros before it. -/
def Spelt (text : List Char) : Prop :=
  ∃ host port, Text.cutLast ':' text = some (host, port) ∧ (':' ∈ host ↔ Bracketed host) ∧
    Text.PlainNumeral port

theorem shown_unbracket : shown (unbracket host) = host ↔ (':' ∈ host ↔ Bracketed host) := by
  unfold shown
  by_cases bracketed : Bracketed host
  · obtain ⟨inner, rfl⟩ := bracketed
    have whole : Bracketed ('[' :: inner ++ [']']) := ⟨inner, rfl⟩
    rw [unbracket_bracketed]
    split
    · rename_i colon
      exact iff_of_true rfl (iff_of_true (by simp [colon]) whole)
    · rename_i absent
      constructor
      · intro same
        have lengths := congrArg List.length same
        simp at lengths
        omega
      · intro brackets
        exact absurd (by simpa using brackets.mpr whole) absent
  · rw [unbracket_plain bracketed]
    split
    · rename_i colon
      constructor
      · intro same
        have lengths := congrArg List.length same
        simp at lengths
        omega
      · intro brackets
        exact absurd (brackets.mp colon) bracketed
    · rename_i absent
      exact iff_of_true rfl (iff_of_false absent bracketed)

theorem spelt_iff (parsed : parse text = .ok a) : Spelt text.toList ↔ text = a.text := by
  simp only [parse] at parsed
  split at parsed
  · cases parsed
  · rename_i host port cut
    split at parsed
    · cases parsed
    · split at parsed
      · cases parsed
      · rename_i n read
        cases parsed
        have small : n < UInt16.size := by
          simpa using (Option.filter_eq_some_iff.mp read).2
        have number : n.toUInt16.toNat = n := UInt16.toNat_ofNat_of_lt' small
        have spelt : Spelt text.toList ↔
            (shown (unbracket host) = host ∧ port = Nat.toDigits 10 n) := by
          rw [shown_unbracket, Text.natural_plain_iff read]
          simp [Spelt, cut]
        have unsigned : ':' ∉ Nat.toDigits 10 n := not_mem_toDigits (by decide)
        rw [spelt, ← String.toList_inj, text_toList, String.toList_ofList, number]
        constructor
        · intro parts
          rw [Text.cutLast_join cut, parts.1, ← parts.2]
        · intro same
          rw [same, Text.cutLast_at _ unsigned] at cut
          simp only [Option.some.injEq, Prod.mk.injEq] at cut
          exact ⟨cut.1, cut.2.symm⟩

end Address

namespace Layout

variable {layout : Layout} {path : ServerPath} {key : String}

def Spelt (layout : Layout) (key : String) : Prop :=
  ∃ group address tail, Tail tail ∧ '/' ∉ group ∧ '/' ∉ address ∧
    key.toList = layout.root.toList ++ '/' :: (group ++ '/' :: (address ++ tail)) ∧
    Address.Spelt address

/-- Among the keys that are placed at a path, its own are those that are spelt as it is written. -/
theorem owns_iff_spelt (placed : layout.place key = .server path) :
    layout.Owns path key ↔ layout.Spelt key := by
  obtain ⟨address, tail, ends, group, plain, whole, parsed⟩ := parts_of_place placed
  have written := Address.spelt_iff parsed
  rw [String.toList_ofList] at written
  constructor
  · intro owned
    obtain ⟨rest, further, spelt⟩ := owns_iff.mp owned
    have unslashed := address_unslashed (unslashed_of_place placed)
    rw [whole, serverKey_toList, List.append_assoc, List.append_cancel_left_eq, List.cons_append,
      List.cons.injEq, List.append_assoc, List.append_cancel_left_eq, List.cons_append,
      List.cons.injEq] at spelt
    have same := before_tail ends further plain unslashed spelt.2.2
    refine ⟨path.group.toList, address, tail, ends, group, plain, whole, written.mpr ?_⟩
    rw [same, String.ofList_toList]
  · intro spelt
    obtain ⟨other, letters, rest, further, otherPlain, unslashed, split, spelt⟩ := spelt
    rw [whole, List.append_cancel_left_eq, List.cons.injEq] at split
    have cut := Text.cutFirst_at group (address ++ tail)
    rw [split.2, Text.cutFirst_at otherPlain] at cut
    simp only [Option.some.injEq, Prod.mk.injEq] at cut
    have same := before_tail ends further plain unslashed cut.2.symm
    rw [← same] at spelt
    have text := congrArg String.toList (written.mp spelt)
    rw [String.toList_ofList] at text
    refine owns_iff.mpr ⟨tail, ends, ?_⟩
    rw [whole, serverKey_toList, text]
    simp

end Layout

namespace Namespace

variable {layout : Layout} {path : ServerPath} {space left : Namespace}

theorem list_online (online : space.offline = false) :
    (coordinator layout).list space = (.ok (space.servers layout), space) :=
  Keys.asking_online online fun space => .ok (space.servers layout)

theorem contains_online (online : space.offline = false) (path : ServerPath) :
    (coordinator layout).contains path space = (.ok (space.containsServer layout path), space) :=
  Keys.asking_online online fun space => .ok (space.containsServer layout path)

structure Cleared (layout : Layout) (path : ServerPath) (space left : Namespace) : Prop where
  offline : left.offline = space.offline
  nodes : ∀ key : String,
    left.nodes[key]? = if layout.Owns path key then none else space.nodes[key]?

theorem cleared_of_deleteTree (deleted : space.deleteTree layout path = (.ok (), left)) :
    Cleared layout path space left := by
  have outcome := felled layout path space
  rw [deleted] at outcome
  cases outcome with
  | felled after online obliging nodes =>
    rw [Keys.deleteTree_online online obliging] at deleted
    cases deleted
    exact ⟨(Keys.removeAll_switches _ space).1, nodes⟩

theorem cleared_of_delete (answer : space.delete layout path = (.ok (), left)) :
    Cleared layout path space left := by
  have outcome := deleted layout path space
  rw [answer] at outcome
  cases outcome with
  | removed childless =>
    refine ⟨(Keys.remove_switches _ space).1, fun key => ?_⟩
    rw [getElem_remove]
    by_cases node : key = layout.serverKey path
    · rw [if_pos node, if_pos (.inl node)]
    · rw [if_neg node]
      split
      · rename_i owned
        have below := owned.resolve_left node
        cases found : space.nodes[key]? with
        | none => rfl
        | some entry =>
          have member := mem_below.mpr ⟨found, below⟩
          rw [childless] at member
          cases member
      · rfl

theorem mem_iff_getElem {key : String} : key ∈ space.nodes ↔ ∃ node, space.nodes[key]? = some node := by
  rw [Std.ExtTreeMap.mem_iff_isSome_getElem?, Option.isSome_iff_exists]

theorem Cleared.mem (cleared : Cleared layout path space left) {key : String} :
    key ∈ left.nodes ↔ key ∈ space.nodes ∧ ¬ layout.Owns path key := by
  rw [mem_iff_getElem, mem_iff_getElem, cleared.nodes]
  split
  · rename_i owned
    simp [owned]
  · rename_i foreign
    simp [foreign]

theorem Cleared.contains (cleared : Cleared layout path space left) :
    left.containsServer layout path = false := by
  rw [Bool.eq_false_iff, ne_eq, contains_iff_owns]
  intro owned
  obtain ⟨key, there, owns⟩ := owned
  exact (cleared.mem.mp there).2 owns

theorem Cleared.listed (cleared : Cleared layout path space left) :
    path ∈ left.servers layout ↔
      ∃ key ∈ space.nodes, layout.place key = .server path ∧ ¬ layout.Spelt key := by
  rw [mem_servers]
  constructor
  · intro still
    obtain ⟨key, there, placed⟩ := still
    obtain ⟨old, foreign⟩ := cleared.mem.mp there
    exact ⟨key, old, placed, fun spelt => foreign ((Layout.owns_iff_spelt placed).mpr spelt)⟩
  · intro misspelt
    obtain ⟨key, there, placed, wrong⟩ := misspelt
    refine ⟨key, cleared.mem.mpr ⟨there, fun owned => ?_⟩, placed⟩
    exact wrong ((Layout.owns_iff_spelt placed).mp owned)

/-- A listed path is found just if one of its own keys is there, so whenever a key that lists it is
spelt as it is written. Its deletion leaves it unfound, and listed just if a key that lists it is
spelt otherwise. -/
theorem listed_as_spelt {listed : PathSet}
    (answer : (coordinator layout).list space = (.ok listed, space))
    (member : path ∈ listed) :
    (∃ there, (coordinator layout).contains path space = (.ok there, space) ∧
      (there = true ↔ ∃ key ∈ space.nodes, layout.Owns path key) ∧
      ((∃ key ∈ space.nodes, layout.place key = .server path ∧ layout.Spelt key) → there = true)) ∧
      ∀ left, ((coordinator layout).deleteTree path space = (.ok (), left) ∨
          (coordinator layout).delete path space = (.ok (), left)) →
        (coordinator layout).contains path left = (.ok false, left) ∧
          ∃ still, (coordinator layout).list left = (.ok still, left) ∧
            (path ∈ still ↔
              ∃ key ∈ space.nodes, layout.place key = .server path ∧ ¬ layout.Spelt key) := by
  obtain ⟨_, ⟨_, _, refused⟩ | ⟨online, same⟩⟩ := list_answer answer
  · cases refused
  cases same
  constructor
  · refine ⟨_, contains_online online path, contains_iff_owns, ?_⟩
    intro spelt
    obtain ⟨key, there, placed, written⟩ := spelt
    exact contains_iff_owns.mpr ⟨key, there, (Layout.owns_iff_spelt placed).mpr written⟩
  · intro left deletion
    have cleared : Cleared layout path space left :=
      deletion.elim cleared_of_deleteTree cleared_of_delete
    have online : left.offline = false := cleared.offline.trans online
    have found : (coordinator layout).contains path left =
        (.ok (left.containsServer layout path), left) := contains_online online path
    rw [cleared.contains] at found
    exact ⟨found, _, list_online online, cleared.listed⟩

def misspelt : Namespace :=
  empty.put "/t/g/[h]:1" [] none

theorem listed_as_spelt_bracketed :
    ∃ listed, (coordinator ⟨"/t"⟩).list misspelt = (.ok listed, misspelt) ∧
      ServerPath.sample "h" ∈ listed ∧
      (coordinator ⟨"/t"⟩).contains (.sample "h") misspelt = (.ok false, misspelt) ∧
      ∃ left still, (coordinator ⟨"/t"⟩).deleteTree (.sample "h") misspelt = (.ok (), left) ∧
        (coordinator ⟨"/t"⟩).list left = (.ok still, left) ∧ ServerPath.sample "h" ∈ still := by
  have placed : (Layout.mk "/t").place "/t/g/[h]:1" = .server (.sample "h") := by decide +kernel
  have foreign : ¬ (Layout.mk "/t").Owns (.sample "h") "/t/g/[h]:1" := by decide +kernel
  have only : ∀ key, key ∈ misspelt.nodes ↔ key = "/t/g/[h]:1" := by
    intro key
    simp [misspelt, put, publish, empty, Std.ExtTreeMap.mem_insert, eq_comm (a := key)]
  have answer : (coordinator ⟨"/t"⟩).list misspelt = (.ok (misspelt.servers ⟨"/t"⟩), misspelt) :=
    list_online rfl
  have member : ServerPath.sample "h" ∈ misspelt.servers ⟨"/t"⟩ :=
    mem_servers.mpr ⟨_, (only _).mpr rfl, placed⟩
  obtain ⟨⟨there, found, own, _⟩, deletions⟩ := listed_as_spelt answer member
  have absent : there = false := by
    rw [Bool.eq_false_iff, ne_eq, own]
    intro owned
    obtain ⟨key, known, owns⟩ := owned
    exact foreign ((only key).mp known ▸ owns)
  have online : misspelt.offline = false := rfl
  have obliging : misspelt.failDeletes = false := rfl
  have deletion : misspelt.deleteTree ⟨"/t"⟩ (.sample "h") = (.ok (), _) :=
    Keys.deleteTree_online online obliging (.sample "h")
  obtain ⟨_, still, again, kept⟩ := deletions _ (.inl deletion)
  have wrong : ¬ (Layout.mk "/t").Spelt "/t/g/[h]:1" :=
    fun spelt => foreign ((Layout.owns_iff_spelt placed).mpr spelt)
  exact ⟨_, answer, member, absent ▸ found, _, still, deletion, again,
    kept.mpr ⟨_, (only _).mpr rfl, placed, wrong⟩⟩

end Namespace
end TabletRoster
