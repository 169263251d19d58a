import TabletRoster.Proofs.Mirror
import TabletRoster.Proofs.Numerals

namespace TabletRoster

namespace Layout

variable {layout : Layout} {path other : ServerPath} {session further : String}

theorem owns_lockKey (layout : Layout) (path : ServerPath) (session : String) :
    layout.Owns path (layout.lockKey path session) :=
  .inr (below_of_lockStem (layout.lockStem_lockKey path session))

theorem lockKey_inj (plain : path.Unslashed) (otherPlain : other.Unslashed)
    (same : layout.lockKey path session = layout.lockKey other further) :
    path = other ∧ session = further := by
  have owner := owner_unique plain otherPlain (layout.owns_lockKey path session)
    (same ▸ layout.owns_lockKey other further)
  subst owner
  have spelt := congrArg String.toList same
  rw [lockKey_toList, lockKey_toList, List.append_cancel_left_eq, List.cons.injEq,
    List.append_cancel_left_eq] at spelt
  exact ⟨rfl, String.toList_inj.mp spelt.2⟩

theorem serverKey_ne_lockKey (plain : path.Unslashed) (other : ServerPath) (session : String) :
    layout.serverKey path ≠ layout.lockKey other session := by
  intro same
  have below := below_of_lockStem (layout.lockStem_lockKey other session)
  exact serverKey_outside plain other (same ▸ below)

end Layout

namespace Namespace

variable {layout : Layout} {path : ServerPath} {key : String}

theorem delete_spares (foreign : ¬ layout.Owns path key) (space : Namespace) :
    (space.delete layout path).2.nodes[key]? = space.nodes[key]? := by
  have outcome := deleted layout path space
  generalize space.delete layout path = answer at outcome
  cases outcome with
  | refused reason switch => rfl
  | kept node children => rfl
  | removed childless =>
    rw [getElem_remove, if_neg]
    intro own
    exact foreign (.inl own)

theorem deleteTree_spares (foreign : ¬ layout.Owns path key) (space : Namespace) :
    (space.deleteTree layout path).2.nodes[key]? = space.nodes[key]? := by
  have outcome := felled layout path space
  generalize space.deleteTree layout path = answer at outcome
  cases outcome with
  | refused reason switch => rfl
  | felled after online obliging nodes => rw [nodes, if_neg foreign]

end Namespace

namespace Keys

variable {σ : Type} [Engine σ] {layout : Layout} {path : ServerPath} {key : String}

theorem serverKey_ne (foreign : ¬ layout.Owns path key) :
    Text.Utf8.encode key ≠ serverKey layout path :=
  fun same => foreign (.inl (Text.Utf8.encode_inj.mp same))

theorem delete_spares (foreign : ¬ layout.Owns path key) (service : Service σ) :
    (delete layout path service).2.entries[Text.Utf8.encode key]? =
      service.entries[Text.Utf8.encode key]? := by
  unfold delete
  split
  · rfl
  · split
    · rw [Service.entries, getElem_remove, if_neg (serverKey_ne foreign), Service.entries]
    · rfl

theorem deleteTree_spares (foreign : ¬ layout.Owns path key) (service : Service σ) :
    (deleteTree layout path service).2.entries[Text.Utf8.encode key]? =
      service.entries[Text.Utf8.encode key]? := by
  have outside : ¬ stem layout path <+: Text.Utf8.encode key :=
    fun starts => foreign (.inr (startsWith_encode.mpr starts))
  by_cases answers : service.answers = true
  · rw [deleteTree_of_answers answers, Service.entries, getElem_remove,
      if_neg (serverKey_ne foreign), Engine.entries_removeBelow, if_neg outside, Service.entries]
  · simp [deleteTree, writing, answers]

end Keys

/-- Whatever the root is: the keys of a well-formed path are placed at it, a lock entry tells its
path and its session or lease, no node is a lock entry, no key is at or below two nodes, and the
deletions of a path leave every key of any other path as it is. -/
theorem Layout.keys_apart (σ : Type) [Keys.Engine σ] (layout : Layout) {path other : ServerPath}
    (formed : path.WellFormed) (otherFormed : other.WellFormed) :
    layout.place (layout.serverKey path) = .server path ∧
      (∀ session : String, layout.place (layout.lockKey path session) = .server path) ∧
      (∀ session further : String, layout.lockKey path session = layout.lockKey other further →
        path = other ∧ session = further) ∧
      (∀ session : String, layout.serverKey path ≠ layout.lockKey other session) ∧
      (∀ key : String, layout.Owns path key → layout.Owns other key → path = other) ∧
      (path ≠ other → ∀ key : String, layout.Owns other key →
        (∀ space : Namespace,
          (space.delete layout path).2.nodes[key]? = space.nodes[key]? ∧
            (space.deleteTree layout path).2.nodes[key]? = space.nodes[key]?) ∧
        ∀ service : Keys.Service σ,
          (Keys.delete layout path service).2.entries[Text.Utf8.encode key]? =
              service.entries[Text.Utf8.encode key]? ∧
            (Keys.deleteTree layout path service).2.entries[Text.Utf8.encode key]? =
              service.entries[Text.Utf8.encode key]?) ∧
      ∀ lease later : Int64,
        layout.lockKey path (Keys.sessionOf lease) = layout.lockKey other (Keys.sessionOf later) →
          path = other ∧ lease = later := by
  have locks (session further : String)
      (same : layout.lockKey path session = layout.lockKey other further) :=
    lockKey_inj formed.plain otherFormed.plain same
  refine ⟨place_serverKey layout formed, place_lockKey layout formed, locks,
    serverKey_ne_lockKey formed.plain other,
    fun key mine theirs => owner_unique formed.plain otherFormed.plain mine theirs, ?_, ?_⟩
  · intro different key theirs
    have foreign : ¬ layout.Owns path key :=
      fun mine => different (owner_unique formed.plain otherFormed.plain mine theirs)
    constructor
    · intro space
      exact ⟨Namespace.delete_spares foreign space, Namespace.deleteTree_spares foreign space⟩
    · intro service
      exact ⟨Keys.delete_spares foreign service, Keys.deleteTree_spares foreign service⟩
  · intro lease later same
    obtain ⟨owner, sessions⟩ := locks _ _ same
    exact ⟨owner, Text.hexWord_inj sessions⟩

def ServerPath.bracketed : ServerPath :=
  ⟨"g", ⟨"[h:1]", 10⟩⟩

theorem Layout.keys_apart_bracketed :
    (ServerPath.sample "h").WellFormed ∧ ServerPath.bracketed.WellFormed ∧
      (Layout.of "//").place ((Layout.of "//").lockKey .bracketed "a/b") = .server .bracketed ∧
      ∀ space : Namespace,
        (space.deleteTree (.of "//") (.sample "h")).2.nodes[
            (Layout.of "//").lockKey .bracketed "a/b"]? =
          space.nodes[(Layout.of "//").lockKey .bracketed "a/b"]? := by
  have sample : (ServerPath.sample "h").WellFormed :=
    ServerPath.sample_formed (by decide) (by decide)
  have bracketed : ServerPath.bracketed.WellFormed :=
    ⟨by decide, by decide, by decide, by decide, fun plain => absurd (by decide) plain⟩
  obtain ⟨_, _, _, _, _, spared, _⟩ := keys_apart Keys.Store (.of "//") sample bracketed
  obtain ⟨_, placed, _⟩ := keys_apart Keys.Store (.of "//") bracketed sample
  have entry := (Layout.of "//").owns_lockKey .bracketed "a/b"
  exact ⟨sample, bracketed, placed "a/b", fun space => ((spared (by decide) _ entry).1 space).2⟩

end TabletRoster
