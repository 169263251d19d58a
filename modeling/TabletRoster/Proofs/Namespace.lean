import TabletRoster.Namespace
import TabletRoster.Proofs.Keys

namespace TabletRoster

def Layout.Admits (layout : Layout) (key : String) : Prop :=
  Namespace.startsWith (layout.root ++ "/") key →
    ∃ path : ServerPath, path.WellFormed ∧
      (key = layout.serverKey path ∨ ∃ session, key = layout.lockKey path session)

theorem Layout.admits_lockKey (layout : Layout) {path : ServerPath} (formed : path.WellFormed)
    (session : String) : layout.Admits (layout.lockKey path session) :=
  fun _ => ⟨path, formed, .inr ⟨session, rfl⟩⟩

theorem Layout.startsWith_of_place {layout : Layout} {key : String} {path : ServerPath}
    (placed : layout.place key = .server path) :
    Namespace.startsWith (layout.root ++ "/") key := by
  unfold place at placed
  split at placed
  · cases placed
  · split at placed
    · cases placed
    · rename_i rest found
      have stem : (layout.root ++ "/").toList = layout.root.toList ++ ['/'] := by simp
      simp [Namespace.startsWith, stem, found]

theorem Layout.server_iff {layout : Layout} {key : String} {path : ServerPath} :
    layout.server? key = some path ↔ layout.place key = .server path := by
  unfold server?
  split <;> simp_all

theorem Layout.wellFormed_of_place {layout : Layout} {key : String} (admitted : layout.Admits key)
    {path : ServerPath} (placed : layout.place key = .server path) : path.WellFormed := by
  obtain ⟨owner, formed, spelt⟩ := admitted (startsWith_of_place placed)
  have there : layout.place key = .server owner := by
    rcases spelt with rfl | ⟨session, rfl⟩
    · exact place_serverKey layout formed
    · exact place_lockKey layout formed session
  rw [there] at placed
  cases placed
  exact formed

theorem Layout.place_of_lockStem {layout : Layout} {path : ServerPath} (formed : path.WellFormed)
    {key : String} (starts : Namespace.startsWith (layout.lockStem path) key) :
    layout.place key = .server path := by
  obtain ⟨session, found⟩ := Option.isSome_iff_exists.mp starts
  have spelt : key = layout.lockKey path (String.ofList session) := by
    rw [← String.toList_inj, Text.after_join found]
    simp [lockKey, String.toList_append]
  rw [spelt]
  exact place_lockKey layout formed _

namespace Namespace

theorem below_eq_filter (stem : String) (space : Namespace) :
    space.below stem = (space.nodes.filter fun key _ => startsWith stem key).toList := by
  rw [Std.ExtTreeMap.toList_filter]
  rfl

theorem below_congr {stem : String} {a b : Namespace}
    (same : ∀ key, startsWith stem key → a.nodes[key]? = b.nodes[key]?) :
    a.below stem = b.below stem := by
  have maps : a.nodes.filter (fun key _ => startsWith stem key) =
      b.nodes.filter (fun key _ => startsWith stem key) := by
    apply Std.ExtTreeMap.ext_getElem?
    intro key
    rw [Std.ExtTreeMap.getElem?_filter', Std.ExtTreeMap.getElem?_filter']
    by_cases starts : startsWith stem key = true
    · rw [same key starts]
    · simp [starts]
  rw [below_eq_filter, below_eq_filter, maps]

theorem readLock_congr {layout : Layout} {path : ServerPath} (formed : path.WellFormed)
    {a b : Namespace}
    (same : ∀ key, layout.place key = .server path → a.nodes[key]? = b.nodes[key]?) :
    a.readLock layout path = b.readLock layout path := by
  have below : a.below (layout.lockStem path) = b.below (layout.lockStem path) :=
    below_congr fun key starts => same key (Layout.place_of_lockStem formed starts)
  unfold readLock holder?
  rw [below]

theorem mem_servers {layout : Layout} {space : Namespace} {path : ServerPath} :
    path ∈ space.servers layout ↔ ∃ key ∈ space.nodes, layout.place key = .server path := by
  unfold servers
  rw [Std.ExtTreeSet.mem_ofList, List.contains_iff_mem, List.mem_filterMap]
  simp only [Std.ExtTreeMap.mem_keys, Layout.server_iff]

theorem oldest_mem {entries : List (String × Node)} {entry : String × Node}
    (found : oldest entries = some entry) : entry ∈ entries := by
  induction entries generalizing entry with
  | nil => cases found
  | cons first rest ih =>
    unfold oldest at found
    split at found
    · rename_i other later
      split at found
      · cases found
        exact List.mem_cons_of_mem _ (ih later)
      · cases found
        exact List.mem_cons_self
    · cases found
      exact List.mem_cons_self

theorem listed_of_held {layout : Layout} {path : ServerPath} (formed : path.WellFormed)
    {space : Namespace} {holder : Holder} (held : space.readLock layout path = .ok (some holder)) :
    path ∈ space.servers layout := by
  unfold readLock at held
  split at held
  · cases held
  · rename_i key node first
    have entry := oldest_mem first
    obtain ⟨there, starts⟩ := List.mem_filter.mp entry
    have lookup := Std.ExtTreeMap.mem_toList_iff_getElem?_eq_some.mp there
    refine mem_servers.mpr ⟨key, ?_, Layout.place_of_lockStem formed starts⟩
    rw [Std.ExtTreeMap.mem_iff_isSome_getElem?, lookup]
    rfl

/-- One namespace came from another by edits, and all that they changed was published. -/
structure Extends (earlier later : Namespace) : Prop where
  kept : ∀ (index : Nat) (change : Change), earlier.published[index]? = some change →
    later.published[index]? = some change
  longer : earlier.published.size ≤ later.published.size
  told : ∀ key, earlier.nodes[key]? ≠ later.nodes[key]? → ∃ (index : Nat) (change : Change),
    earlier.published.size ≤ index ∧ later.published[index]? = some change ∧ change.key = key

theorem Extends.refl (space : Namespace) : Extends space space :=
  ⟨fun _ _ found => found, Nat.le_refl _, fun _ differs => absurd rfl differs⟩

theorem Extends.same {a b : Namespace} (nodes : b.nodes = a.nodes)
    (published : b.published = a.published) : Extends a b := by
  refine ⟨?_, Nat.le_of_eq (by rw [published]), ?_⟩
  · rw [published]
    exact fun _ _ found => found
  · rw [nodes]
    exact fun _ differs => absurd rfl differs

theorem Extends.trans {a b c : Namespace} (first : Extends a b) (second : Extends b c) :
    Extends a c := by
  refine ⟨fun index change found => second.kept index change (first.kept index change found),
    Nat.le_trans first.longer second.longer, ?_⟩
  intro key differs
  by_cases same : a.nodes[key]? = b.nodes[key]?
  · obtain ⟨index, change, late, found, spelt⟩ := second.told key (same ▸ differs)
    exact ⟨index, change, Nat.le_trans first.longer late, found, spelt⟩
  · obtain ⟨index, change, late, found, spelt⟩ := first.told key same
    exact ⟨index, change, late, second.kept index change found, spelt⟩

theorem extends_of_edit {a b : Namespace} {kind : ChangeKind} {key : String}
    (pushed : b.published = a.published.push ⟨key, kind⟩)
    (others : ∀ other, other ≠ key → a.nodes[other]? = b.nodes[other]?) : Extends a b := by
  refine ⟨?_, by simp [pushed], ?_⟩
  · intro index change found
    obtain ⟨inside, _⟩ := Array.getElem?_eq_some_iff.mp found
    rw [pushed, Array.getElem?_push_lt inside]
    rwa [Array.getElem?_eq_getElem inside] at found
  · intro other differs
    have same : other = key :=
      Decidable.byContradiction fun different => differs (others other different)
    exact ⟨a.published.size, ⟨key, kind⟩, Nat.le_refl _, by simp [pushed], same.symm⟩

theorem put_extends (key : String) (value : Bytes) (session : Option String) (space : Namespace) :
    Extends space (space.put key value session) := by
  apply extends_of_edit rfl
  intro other different
  simp only [put, publish]
  rw [Std.ExtTreeMap.getElem?_insert]
  simp [Ne.symm different]

theorem remove_extends (key : String) (space : Namespace) : Extends space (space.remove key) := by
  unfold remove
  split
  · apply extends_of_edit rfl
    intro other different
    simp only [publish]
    rw [Std.ExtTreeMap.getElem?_erase]
    simp [Ne.symm different]
  · exact .refl space

theorem removeAll_extends (keys : List String) (space : Namespace) :
    Extends space (keys.foldl (fun space key => space.remove key) space) := by
  induction keys generalizing space with
  | nil => exact .refl space
  | cons key rest ih => exact (remove_extends key space).trans (ih _)

theorem delete_extends (layout : Layout) (path : ServerPath) (space : Namespace) :
    Extends space (space.delete layout path).2 := by
  simp only [delete]
  split
  · exact .refl space
  · split
    · exact remove_extends _ space
    · exact .refl space

theorem deleteTree_extends (layout : Layout) (path : ServerPath) (space : Namespace) :
    Extends space (space.deleteTree layout path).2 := by
  simp only [deleteTree]
  split
  · exact .refl space
  · exact removeAll_extends _ space

/-- Below the root there are, and have been, only keys of well-formed paths. -/
structure Tidy (layout : Layout) (space : Namespace) : Prop where
  nodes : ∀ key ∈ space.nodes, layout.Admits key
  published : ∀ change ∈ space.published, layout.Admits change.key

theorem tidy_empty (layout : Layout) : Tidy layout .empty := by
  constructor <;> simp [empty]

theorem Tidy.same {layout : Layout} {a b : Namespace} (tidy : a.Tidy layout)
    (nodes : b.nodes = a.nodes) (published : b.published = a.published) : b.Tidy layout :=
  ⟨nodes ▸ tidy.nodes, published ▸ tidy.published⟩

theorem Tidy.put {layout : Layout} {space : Namespace} (tidy : space.Tidy layout) {key : String}
    (admitted : layout.Admits key) (value : Bytes) (session : Option String) :
    (space.put key value session).Tidy layout := by
  constructor
  · intro other member
    rcases Std.ExtTreeMap.mem_insert.mp member with same | old
    · rwa [← Std.LawfulEqOrd.eq_of_compare same]
    · exact tidy.nodes other old
  · intro change member
    rcases Array.mem_push.mp member with old | rfl
    · exact tidy.published change old
    · exact admitted

theorem Tidy.remove {layout : Layout} {space : Namespace} (tidy : space.Tidy layout)
    (key : String) : (space.remove key).Tidy layout := by
  unfold Namespace.remove
  split
  · rename_i there
    constructor
    · intro other member
      exact tidy.nodes other (Std.ExtTreeMap.mem_of_mem_erase member)
    · intro change member
      rcases Array.mem_push.mp member with old | rfl
      · exact tidy.published change old
      · exact tidy.nodes key there
  · exact tidy

theorem Tidy.removeAll {layout : Layout} {space : Namespace} (tidy : space.Tidy layout)
    (keys : List String) :
    (keys.foldl (fun space key => space.remove key) space).Tidy layout := by
  induction keys generalizing space with
  | nil => exact tidy
  | cons key rest ih => exact ih (tidy.remove key)

theorem Tidy.delete {layout : Layout} {space : Namespace} (tidy : space.Tidy layout)
    (path : ServerPath) : (space.delete layout path).2.Tidy layout := by
  simp only [Namespace.delete]
  split
  · exact tidy
  · split
    · exact tidy.remove _
    · exact tidy

theorem Tidy.deleteTree {layout : Layout} {space : Namespace} (tidy : space.Tidy layout)
    (path : ServerPath) : (space.deleteTree layout path).2.Tidy layout := by
  simp only [Namespace.deleteTree]
  split
  · exact tidy
  · exact tidy.removeAll _

theorem Tidy.listed {layout : Layout} {space : Namespace} (tidy : space.Tidy layout)
    {path : ServerPath} (listed : path ∈ space.servers layout) : path.WellFormed := by
  obtain ⟨key, member, placed⟩ := mem_servers.mp listed
  exact Layout.wellFormed_of_place (tidy.nodes key member) placed

end Namespace
end TabletRoster
