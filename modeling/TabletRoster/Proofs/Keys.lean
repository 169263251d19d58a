import TabletRoster.Proofs.Addresses
import TabletRoster.ServerPath

namespace TabletRoster

structure ServerPath.WellFormed (path : ServerPath) : Prop where
  named : path.group ≠ ""
  unslashed : '/' ∉ path.group.toList
  address : path.address.WellFormed

def ServerPath.sample (host : String) : ServerPath :=
  ⟨"g", ⟨host, 1⟩⟩

theorem ServerPath.sample_formed {host : String} (named : host ≠ "")
    (plain : '/' ∉ host.toList ∧ '[' ∉ host.toList) : (sample host).WellFormed := by
  refine ⟨by simp [sample], by simp [sample], ⟨named, plain.1, ?_⟩⟩
  intro _ literal
  obtain ⟨inner, bracketed⟩ := literal
  have opened : '[' ∈ host.toList := by
    rw [show host.toList = _ from bracketed]
    simp
  exact plain.2 opened

namespace Layout

theorem serverKey_toList (layout : Layout) (path : ServerPath) :
    (layout.serverKey path).toList =
      layout.root.toList ++ '/' :: (path.group.toList ++ '/' :: path.address.text.toList) := by
  have whole : layout.serverKey path =
      layout.root ++ "/" ++ (path.group ++ "/" ++ path.address.text) := by
    simp [serverKey, toString, ServerPath.text, String.append_assoc]
  rw [whole]
  simp [String.toList_append]

theorem lockKey_toList (layout : Layout) (path : ServerPath) (session : String) :
    (layout.lockKey path session).toList =
      (layout.serverKey path).toList ++ '/' :: ("lock/".toList ++ session.toList) := by
  have whole : layout.lockKey path session = layout.serverKey path ++ "/lock/" ++ session := by
    simp [lockKey, lockStem, toString]
  rw [whole]
  simp [String.toList_append]

def Tail (tail : List Char) : Prop :=
  tail = [] ∨ ∃ rest, tail = '/' :: rest

theorem placeBelow_server {path : ServerPath} (formed : path.WellFormed) (key : String)
    {tail : List Char} (below : Tail tail) :
    placeBelow key (path.group.toList ++ '/' :: (path.address.text.toList ++ tail)) =
      .server path := by
  have named : path.group.toList.isEmpty = false := by simpa using formed.named
  have parsed := Address.parse_text formed.address.named formed.address.unbracketed
  have unslashed := Address.text_unslashed formed.address.unslashed
  have cut := Text.cutFirst_at formed.unslashed (path.address.text.toList ++ tail)
  rcases below with rfl | ⟨rest, rfl⟩
  · rw [List.append_nil] at cut ⊢
    simp only [placeBelow, cut, named, Text.cutFirst_absent unslashed, String.ofList_toList, parsed]
    rfl
  · simp only [placeBelow, cut, named, Text.cutFirst_at unslashed rest, String.ofList_toList, parsed]
    rfl

theorem place_server (layout : Layout) {path : ServerPath} (formed : path.WellFormed) {key : String}
    {tail : List Char} (below : Tail tail) (spelt : key.toList = (layout.serverKey path).toList ++ tail) :
    layout.place key = .server path := by
  rw [serverKey_toList, List.append_assoc] at spelt
  have longer : key ≠ layout.root := by
    intro same
    have lengths := congrArg List.length spelt
    simp [same] at lengths
  have rest : Text.after? (layout.root.toList ++ ['/']) key.toList =
      some (path.group.toList ++ '/' :: (path.address.text.toList ++ tail)) := by
    rw [Text.after_iff, spelt]
    simp
  simp only [place, longer, rest]
  exact placeBelow_server formed key below

theorem place_serverKey (layout : Layout) {path : ServerPath} (formed : path.WellFormed) :
    layout.place (layout.serverKey path) = .server path :=
  place_server layout formed (.inl rfl) (List.append_nil _).symm

theorem place_lockKey (layout : Layout) {path : ServerPath} (formed : path.WellFormed) (session : String) :
    layout.place (layout.lockKey path session) = .server path :=
  place_server layout formed (.inr ⟨_, rfl⟩) (lockKey_toList layout path session)

end Layout
end TabletRoster
