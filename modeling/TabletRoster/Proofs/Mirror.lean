import TabletRoster.Proofs.LockQueue
import TabletRoster.Proofs.Stores

/-!
Coordination in memory beside coordination by a key-value store. Both are given the same acts in
the same order. Unless a key is written while it is there, they hold the same keys, their locks
have the same holders, and all their answers are the same, apart from the revisions.
-/
namespace TabletRoster

def Holder.undated (holder : Holder) : Holder :=
  { holder with revision := 0 }

theorem Ticket.decode_nothing : ∃ fault, Ticket.decode [] = .error fault :=
  ⟨_, rfl⟩

namespace Keys

inductive Act where
  | create (path : ServerPath)
  | lock (path : ServerPath) (ticket : Ticket) (lease : Int64)
  | unlock (path : ServerPath) (session : String)
  | remove (key : String)
  | delete (path : ServerPath)
  | deleteTree (path : ServerPath)

def Act.edit : Act → Namespace.Edit
  | .create path => .write (.create path)
  | .lock path ticket lease => .write (.lock path ticket (sessionOf lease))
  | .unlock path session => .write (.unlock path session)
  | .remove key => .write (.remove key)
  | .delete path => .delete path
  | .deleteTree path => .deleteTree path

variable {σ : Type} [Engine σ]

def act (layout : Layout) (service : Service σ) : Act → Service σ
  | .create path => (writing (createServer layout path) service).2
  | .lock path ticket lease => (writing (acquireLock layout path ticket lease) service).2
  | .unlock path session =>
    (writing (Engine.remove (Text.Utf8.encode (layout.lockKey path session))) service).2
  | .remove key => (writing (Engine.remove (Text.Utf8.encode key)) service).2
  | .delete path => ((coordinator layout).delete path service).2
  | .deleteTree path => ((coordinator layout).deleteTree path service).2

def Service.skip (revisions : Nat) (service : Service σ) : Service σ :=
  { service with store := Engine.skip revisions service.store }

abbrev Run := List (Nat × Act)

def Run.edits (run : Run) : List Namespace.Edit :=
  run.map (·.2.edit)

def inMemory (layout : Layout) (run : Run) : Namespace :=
  Namespace.edited layout run.edits

def inStore (σ : Type) [Engine σ] (wording : Wording) (layout : Layout) (run : Run) : Service σ :=
  run.foldl (fun service step => act layout (service.skip step.1) step.2)
    ⟨Engine.empty, true, false, wording⟩

/-- Two services of coordination that cannot be told apart, whatever is asked of them next. -/
structure Agree (layout : Layout) (space : Namespace) (service : Service σ) : Prop where
  list : ((Namespace.coordinator layout).list space).1 = ((coordinator layout).list service).1
  readLock : ∀ path : ServerPath,
    ((Namespace.coordinator layout).readLock path space).1.map (Option.map Holder.undated) =
      ((coordinator layout).readLock path service).1.map (Option.map Holder.undated)
  contains : ∀ path : ServerPath,
    ((Namespace.coordinator layout).contains path space).1 =
      ((coordinator layout).contains path service).1
  delete : ∀ path : ServerPath,
    ((Namespace.coordinator layout).delete path space).1 =
      ((coordinator layout).delete path service).1
  deleteTree : ∀ path : ServerPath,
    ((Namespace.coordinator layout).deleteTree path space).1 =
      ((coordinator layout).deleteTree path service).1
  keys : ∀ bytes : Bytes,
    bytes ∈ service.entries ↔ ∃ key ∈ space.nodes, Text.Utf8.encode key = bytes
  values : ∀ key : String,
    space.nodes[key]?.map (·.value) = service.entries[Text.Utf8.encode key]?.map (·.value)

structure Twin (node : Node) (entry : Entry) : Prop where
  value : node.value = entry.value
  session : node.session = some (sessionOf entry.lease) ∨ node.value = []

/-- Each key is in both or in neither, and both wrote their keys in the same order. -/
structure Mirrors (space : Namespace) (service : Service σ) : Prop where
  online : space.offline = false
  obliging : space.failDeletes = false
  answers : service.answers = true
  dated : space.Dated
  node : ∀ (key : String) (node : Node), space.nodes[key]? = some node →
    ∃ entry, service.entries[Text.Utf8.encode key]? = some entry ∧ Twin node entry
  entry : ∀ (bytes : Bytes) (entry : Entry), service.entries[bytes]? = some entry →
    ∃ key node, Text.Utf8.encode key = bytes ∧ space.nodes[key]? = some node
  order : ∀ (key other : String) (node later : Node) (entry after : Entry),
    space.nodes[key]? = some node → space.nodes[other]? = some later →
    service.entries[Text.Utf8.encode key]? = some entry →
    service.entries[Text.Utf8.encode other]? = some after →
    node.created < later.created → entry.created < after.created

variable {layout : Layout} {path : ServerPath} {space after : Namespace} {service later : Service σ}
  {start key : String} {node : Node}

theorem startsWith_encode :
    Namespace.startsWith start key ↔ Text.Utf8.encode start <+: Text.Utf8.encode key := by
  rw [Layout.startsWith_iff, Text.Utf8.encode_prefix]
  constructor
  · intro ⟨rest, whole⟩
    exact ⟨rest, whole.symm⟩
  · intro ⟨rest, whole⟩
    exact ⟨rest, whole.symm⟩

theorem serversOf_texts (layout : Layout) (wording : Wording) {keys : List Bytes}
    (texts : ∀ bytes ∈ keys, ∃ key, Text.Utf8.encode key = bytes) :
    ∃ servers, serversOf layout wording keys = .ok servers ∧ ∀ path : ServerPath,
      path ∈ servers ↔ ∃ key, Text.Utf8.encode key ∈ keys ∧ layout.server? key = some path := by
  induction keys with
  | nil => exact ⟨∅, rfl, by simp⟩
  | cons bytes rest ih =>
    obtain ⟨servers, listed, known⟩ := ih fun bytes member =>
      texts bytes (List.mem_cons_of_mem _ member)
    obtain ⟨key, rfl⟩ := texts bytes List.mem_cons_self
    simp only [serversOf, Text.Utf8.decode_encode, listed, List.mem_cons, Text.Utf8.encode_inj,
      or_and_right, exists_or, exists_eq_left]
    cases own : layout.server? key with
    | none =>
      refine ⟨servers, rfl, ?_⟩
      intro path
      simp [known]
    | some first =>
      refine ⟨servers.insert first, rfl, ?_⟩
      intro path
      simp [known, Std.ExtTreeSet.mem_insert]

section Queries

variable (mirrors : Mirrors space service)
include mirrors

theorem Mirrors.mem (key : String) :
    key ∈ space.nodes ↔ Text.Utf8.encode key ∈ service.entries := by
  constructor
  · intro there
    obtain ⟨entry, found, _⟩ :=
      mirrors.node key _ (Std.ExtTreeMap.getElem?_eq_some_getElem there)
    exact (Std.ExtTreeMap.getElem?_eq_some_iff.mp found).1
  · intro there
    obtain ⟨other, node, same, found⟩ :=
      mirrors.entry _ _ (Std.ExtTreeMap.getElem?_eq_some_getElem there)
    rw [Text.Utf8.encode_inj.mp same] at found
    exact (Std.ExtTreeMap.getElem?_eq_some_iff.mp found).1

theorem Mirrors.keys (bytes : Bytes) :
    bytes ∈ service.entries ↔ ∃ key ∈ space.nodes, Text.Utf8.encode key = bytes := by
  constructor
  · intro there
    obtain ⟨key, _, same, _⟩ :=
      mirrors.entry bytes _ (Std.ExtTreeMap.getElem?_eq_some_getElem there)
    rw [← same] at there
    exact ⟨key, (mirrors.mem key).mpr there, same⟩
  · intro ⟨key, there, same⟩
    rw [← same]
    exact (mirrors.mem key).mp there

theorem Mirrors.values (key : String) :
    space.nodes[key]?.map (·.value) =
      service.entries[Text.Utf8.encode key]?.map (·.value) := by
  cases found : space.nodes[key]? with
  | some node =>
    obtain ⟨entry, there, twin⟩ := mirrors.node key node found
    simp only [there, Option.map_some, twin.value]
  | none =>
    have absent : key ∉ space.nodes := by
      intro there
      rw [Std.ExtTreeMap.getElem?_eq_some_getElem there] at found
      cases found
    rw [Std.ExtTreeMap.getElem?_eq_none (mt (mirrors.mem key).mpr absent)]
    rfl

theorem Mirrors.below_nil (start : String) :
    space.below start = [] ↔ below (Text.Utf8.encode start) service.entries = [] := by
  rw [List.eq_nil_iff_forall_not_mem, List.eq_nil_iff_forall_not_mem]
  constructor
  · intro nothing ⟨bytes, entry⟩ member
    obtain ⟨found, starts⟩ := Keys.mem_below.mp member
    obtain ⟨key, node, rfl, there⟩ := mirrors.entry bytes entry found
    exact nothing (key, node) (Namespace.mem_below.mpr ⟨there, startsWith_encode.mpr starts⟩)
  · intro nothing ⟨key, node⟩ member
    obtain ⟨found, starts⟩ := Namespace.mem_below.mp member
    obtain ⟨entry, there, _⟩ := mirrors.node key node found
    exact nothing (_, entry) (Keys.mem_below.mpr ⟨there, startsWith_encode.mp starts⟩)

theorem Mirrors.holder (held : space.holder? layout path = some (key, node)) :
    ∃ entry, oldest (below (Text.Utf8.encode (layout.lockStem path)) service.entries) =
      some (Text.Utf8.encode key, entry) ∧ Twin node entry := by
  have first := (Namespace.holder_iff mirrors.dated).mp held
  obtain ⟨found, starts⟩ := Namespace.mem_below.mp first.there
  obtain ⟨entry, there, twin⟩ := mirrors.node key node found
  refine ⟨entry, ?_, twin⟩
  apply oldest_of_first (Keys.mem_below.mpr ⟨there, startsWith_encode.mp starts⟩)
  intro ⟨bytes, rival⟩ member different
  obtain ⟨also, under⟩ := Keys.mem_below.mp member
  obtain ⟨other, late, rfl, known⟩ := mirrors.entry bytes rival also
  have early : node.created ≤ late.created := first.before (other, late)
    (Namespace.mem_below.mpr ⟨known, startsWith_encode.mpr under⟩)
  have apart : node.created ≠ late.created := by
    intro same
    have one := mirrors.dated.apart key other node late found known same
    subst one
    rw [there] at also
    cases also
    exact different rfl
  exact mirrors.order key other node late entry rival found known there also (by omega)

theorem Mirrors.readLock (path : ServerPath) :
    (space.readLock layout path).map (Option.map Holder.undated) =
      (readLock layout service.wording path service.entries).map (Option.map Holder.undated) := by
  cases held : space.holder? layout path with
  | none =>
    have nobody : space.below (layout.lockStem path) = [] := by
      rw [Namespace.holder?, Namespace.oldest_eq_argmin] at held
      exact List.argmin_eq_none.mp held
    rw [Namespace.readLock, held, Keys.readLock, (mirrors.below_nil _).mp nobody]
    rfl
  | some first =>
    obtain ⟨key, node⟩ := first
    obtain ⟨entry, oldest, twin⟩ := mirrors.holder held
    rw [Namespace.readLock, held, Keys.readLock, oldest]
    simp only [Text.Utf8.decode_encode, ← twin.value]
    cases read : Ticket.decode node.value with
    | error fault => rfl
    | ok ticket =>
      rcases twin.session with named | blank
      · simp [Namespace.sessionOf, named, Except.map, Holder.of, Holder.undated]
      · obtain ⟨fault, failed⟩ := Ticket.decode_nothing
        rw [blank, failed] at read
        cases read

theorem Mirrors.contains (path : ServerPath) :
    contains layout path service.entries = .ok (space.containsServer layout path) := by
  have own : service.entries.contains (serverKey layout path) =
      space.nodes.contains (layout.serverKey path) :=
    Bool.eq_iff_iff.mpr (mirrors.mem (layout.serverKey path)).symm
  have below : (below (stem layout path) service.entries).isEmpty =
      (space.below (layout.below path)).isEmpty := by
    rw [Bool.eq_iff_iff, List.isEmpty_iff, List.isEmpty_iff]
    exact (mirrors.below_nil _).symm
  rw [Keys.contains, Namespace.containsServer, own, below]

theorem Mirrors.list :
    list layout service.wording service.entries = .ok (space.servers layout) := by
  have texts : ∀ bytes ∈ (below (Text.Utf8.encode s!"{layout.root}/") service.entries).map (·.1),
      ∃ key, Text.Utf8.encode key = bytes := by
    intro bytes member
    obtain ⟨⟨_, entry⟩, below, rfl⟩ := List.mem_map.mp member
    obtain ⟨key, _, same, _⟩ := mirrors.entry _ entry (Keys.mem_below.mp below).1
    exact ⟨key, same⟩
  obtain ⟨servers, listed, known⟩ := serversOf_texts layout service.wording texts
  rw [Keys.list, listed]
  congr 1
  apply Std.ExtTreeSet.ext_mem
  intro path
  rw [known, Namespace.mem_servers]
  constructor
  · intro ⟨key, member, own⟩
    obtain ⟨⟨bytes, entry⟩, below, same⟩ := List.mem_map.mp member
    obtain ⟨found, _⟩ := Keys.mem_below.mp below
    rw [show bytes = _ from same] at found
    have there := (Std.ExtTreeMap.getElem?_eq_some_iff.mp found).1
    exact ⟨key, (mirrors.mem key).mpr there, Layout.server_iff.mp own⟩
  · intro ⟨key, there, placed⟩
    have found := Std.ExtTreeMap.getElem?_eq_some_getElem ((mirrors.mem key).mp there)
    have starts := startsWith_encode.mp (Layout.startsWith_of_place placed)
    have below := Keys.mem_below.mpr ⟨found, starts⟩
    exact ⟨key, List.mem_map.mpr ⟨_, below, rfl⟩, Layout.server_iff.mpr placed⟩

theorem Mirrors.delete (layout : Layout) (path : ServerPath) :
    (space.delete layout path = (.ok (), space.remove (layout.serverKey path)) ∧
      Keys.delete layout path service =
        (.ok (), { service with store := Engine.remove (serverKey layout path) service.store })) ∨
    (space.delete layout path = (.error (.notEmpty (layout.serverKey path)), space) ∧
      Keys.delete layout path service = (.error (.notEmpty (layout.serverKey path)), service)) := by
  have answers := mirrors.answers
  by_cases childless : space.below (layout.below path) = []
  · have alike := (mirrors.below_nil _).mp childless
    left
    simp [childless, Namespace.delete, Namespace.checkOnline, Namespace.checkDelete,
      mirrors.online, mirrors.obliging, bind, Except.bind, Keys.delete, answers, stem, alike]
  · have alike := mt (mirrors.below_nil _).mpr childless
    right
    simp [childless, Namespace.delete, Namespace.checkOnline, Namespace.checkDelete,
      mirrors.online, mirrors.obliging, bind, Except.bind, Keys.delete, answers, stem, alike]

end Queries

theorem asking_online {α : Type} (online : space.offline = false)
    (question : Namespace → Except CoordinationError α) :
    Namespace.asking layout question space = (question space, space) := by
  simp [Namespace.asking, Namespace.checkOnline, online, bind, Except.bind]

theorem reading_of_answers {α : Type} (answers : service.answers = true)
    (question : Entries → Except CoordinationError α) :
    reading question service = (question service.entries, service) := by
  rw [reading, if_pos answers]

omit [Engine σ] in
theorem writing_of_answers (answers : service.answers = true) (change : σ → σ) :
    writing change service = (.ok (), { service with store := change service.store }) := by
  rw [writing, if_pos answers]

theorem deleteTree_online (online : space.offline = false) (obliging : space.failDeletes = false)
    (path : ServerPath) :
    space.deleteTree layout path =
      (.ok (), ((space.below (layout.below path)).map (·.1) ++ [layout.serverKey path]).foldl
        (fun space key => space.remove key) space) := by
  simp only [Namespace.deleteTree, Namespace.checkOnline, Namespace.checkDelete, online, obliging,
    bind, Except.bind, Bool.false_eq_true, if_false]

theorem deleteTree_of_answers (answers : service.answers = true) (path : ServerPath) :
    deleteTree layout path service = (.ok (), { service with
      store := Engine.remove (serverKey layout path)
        (Engine.removeBelow (stem layout path) service.store) }) := by
  unfold deleteTree writing
  rw [if_pos answers]
  exact if_pos answers

/-- Mirrors answer alike. -/
theorem Mirrors.agree (mirrors : Mirrors space service) (layout : Layout) :
    Agree layout space service := by
  have online := mirrors.online
  have answers := mirrors.answers
  constructor
  · show (Namespace.asking layout _ space).1 = (reading (Keys.list layout service.wording) service).1
    rw [asking_online online, reading_of_answers answers, mirrors.list]
  · intro path
    show (Namespace.asking layout _ space).1.map _ =
      (reading (Keys.readLock layout service.wording path) service).1.map _
    rw [asking_online online, reading_of_answers answers]
    exact mirrors.readLock path
  · intro path
    show (Namespace.asking layout _ space).1 = (reading (Keys.contains layout path) service).1
    rw [asking_online online, reading_of_answers answers, mirrors.contains]
  · intro path
    show (space.delete layout path).1 = (Keys.delete layout path service).1
    obtain ⟨here, there⟩ | ⟨here, there⟩ := mirrors.delete layout path
    · rw [here, there]
    · rw [here, there]
  · intro path
    show (space.deleteTree layout path).1 = (Keys.deleteTree layout path service).1
    rw [deleteTree_online online mirrors.obliging, deleteTree_of_answers answers]
  · exact mirrors.keys
  · exact mirrors.values

theorem Mirrors.wrote (mirrors : Mirrors space service) (absent : key ∉ space.nodes)
    {value : Bytes} {session : Option String} {lease : Int64}
    (twin : session = some (sessionOf lease) ∨ value = [])
    (edited : Namespace.Edited space (some (key, value, session)) after)
    (online : after.offline = false) (obliging : after.failDeletes = false) :
    Mirrors after
      { service with store := Engine.put (Text.Utf8.encode key) value lease service.store } := by
  obtain ⟨young, written, entries⟩ :=
    getElem_put (Text.Utf8.encode key) value lease service.store
  have youngest := written.young
    (Std.ExtTreeMap.getElem?_eq_none (mt (mirrors.mem key).mpr absent))
  generalize Engine.put (Text.Utf8.encode key) value lease service.store = store at entries
  have textual (other : String) := entries (Text.Utf8.encode other)
  simp only [Text.Utf8.encode_inj] at textual
  have dated := Namespace.dated_edited mirrors.dated edited
  cases edited with
  | wrote _ _ _ _ revision nodes =>
    have parted (other : String) (node : Node) (entry : Entry)
        (found : after.nodes[other]? = some node)
        (there : (Engine.entries store)[Text.Utf8.encode other]? = some entry) :
        (node.created = space.revision + 1 ∧ entry = young) ∨
          (space.nodes[other]? = some node ∧
            service.entries[Text.Utf8.encode other]? = some entry) := by
      rw [nodes] at found
      rw [textual] at there
      by_cases same : other = key
      · rw [if_pos same] at found there
        cases found
        cases there
        exact .inl ⟨rfl, rfl⟩
      · rw [if_neg same] at found there
        exact .inr ⟨found, there⟩
    constructor
    · exact online
    · exact obliging
    · exact mirrors.answers
    · exact dated
    · intro other node found
      rw [nodes] at found
      simp only [Service.entries, textual]
      split at found
      · rename_i same
        cases found
        refine ⟨young, if_pos same, written.value.symm, ?_⟩
        rwa [written.lease]
      · rename_i different
        rw [if_neg different]
        exact mirrors.node other node found
    · intro bytes entry found
      simp only [Service.entries, entries] at found
      split at found
      · rename_i same
        exact ⟨key, _, same.symm, by rw [nodes, if_pos rfl]⟩
      · rename_i different
        obtain ⟨other, node, rfl, there⟩ := mirrors.entry bytes entry found
        rw [Text.Utf8.encode_inj] at different
        exact ⟨other, node, rfl, by rw [nodes, if_neg different, there]⟩
    · intro first second node later entry last found also foundEntry alsoEntry before
      rcases parted first node entry found foundEntry with ⟨new, _⟩ | ⟨old, oldEntry⟩
      · -- what is written now is the latest, so it is before nothing
        rcases parted second later last also alsoEntry with ⟨same, _⟩ | ⟨old, _⟩
        · omega
        · have past := mirrors.dated.past second later old
          omega
      · rcases parted second later last also alsoEntry with ⟨_, rfl⟩ | ⟨alsoOld, alsoOldEntry⟩
        · exact youngest _ entry oldEntry
        · exact mirrors.order first second node later entry last old alsoOld oldEntry alsoOldEntry
            before

theorem Mirrors.thinned (mirrors : Mirrors space service) (gone : Bytes → Prop)
    [DecidablePred gone] (dated : after.Dated) (online : after.offline = false)
    (obliging : after.failDeletes = false) (answers : later.answers = true)
    (nodes : ∀ key : String, after.nodes[key]? =
      if gone (Text.Utf8.encode key) then none else space.nodes[key]?)
    (entries : ∀ bytes : Bytes, later.entries[bytes]? =
      if gone bytes then none else service.entries[bytes]?) : Mirrors after later := by
  constructor
  · exact online
  · exact obliging
  · exact answers
  · exact dated
  · intro key node found
    rw [nodes] at found
    split at found
    · cases found
    · rename_i kept
      obtain ⟨entry, there, twin⟩ := mirrors.node key node found
      exact ⟨entry, by rw [entries, if_neg kept, there], twin⟩
  · intro bytes entry found
    rw [entries] at found
    split at found
    · cases found
    · rename_i kept
      obtain ⟨key, node, rfl, there⟩ := mirrors.entry bytes entry found
      exact ⟨key, node, rfl, by rw [nodes, if_neg kept, there]⟩
  · intro key other node second entry last found also foundEntry alsoEntry before
    rw [nodes] at found also
    rw [entries] at foundEntry alsoEntry
    split at found
    · cases found
    · split at also
      · cases also
      · simp_all only [if_false]
        exact mirrors.order key other node second entry last found also foundEntry alsoEntry before

theorem remove_switches (key : String) (space : Namespace) :
    (space.remove key).offline = space.offline ∧
      (space.remove key).failDeletes = space.failDeletes := by
  unfold Namespace.remove
  split <;> exact ⟨rfl, rfl⟩

theorem removeAll_switches (keys : List String) (space : Namespace) :
    (keys.foldl (fun space key => space.remove key) space).offline = space.offline ∧
      (keys.foldl (fun space key => space.remove key) space).failDeletes = space.failDeletes := by
  induction keys generalizing space with
  | nil => exact ⟨rfl, rfl⟩
  | cons key rest ih =>
    obtain ⟨offline, failing⟩ := ih (space.remove key)
    obtain ⟨here, there⟩ := remove_switches key space
    exact ⟨offline.trans here, failing.trans there⟩

theorem Mirrors.remove (mirrors : Mirrors space service) (key : String) :
    Mirrors (space.remove key)
      { service with store := Engine.remove (Text.Utf8.encode key) service.store } := by
  obtain ⟨online, obliging⟩ := remove_switches key space
  refine mirrors.thinned (· = Text.Utf8.encode key)
    (Namespace.dated_edited mirrors.dated (Namespace.remove_edited key space))
    (online.trans mirrors.online) (obliging.trans mirrors.obliging) mirrors.answers ?_ ?_
  · intro other
    simp only [Namespace.getElem_remove, Text.Utf8.encode_inj]
  · intro bytes
    exact getElem_remove _ _ bytes

theorem Mirrors.deleteTree (mirrors : Mirrors space service) (path : ServerPath) :
    Mirrors (space.deleteTree layout path).2 (Keys.deleteTree layout path service).2 := by
  have outcome := Namespace.felled layout path space
  have dated : (space.deleteTree layout path).2.Dated :=
    Namespace.dated_edited mirrors.dated (Namespace.edit_edited layout space (.deleteTree path))
  have switches : (space.deleteTree layout path).2.offline = false ∧
      (space.deleteTree layout path).2.failDeletes = false := by
    rw [deleteTree_online mirrors.online mirrors.obliging]
    obtain ⟨offline, failing⟩ := removeAll_switches _ space
    exact ⟨offline.trans mirrors.online, failing.trans mirrors.obliging⟩
  generalize space.deleteTree layout path = answer at outcome dated switches
  rw [deleteTree_of_answers mirrors.answers]
  cases outcome with
  | refused reason switch =>
    rw [mirrors.online, mirrors.obliging] at switch
    simp at switch
  | felled after _ _ nodes =>
    refine mirrors.thinned (fun bytes => bytes = serverKey layout path ∨ stem layout path <+: bytes)
      dated switches.1 switches.2 mirrors.answers ?_ ?_
    · intro key
      simp only [nodes, Layout.Owns, serverKey, stem, Text.Utf8.encode_inj, startsWith_encode]
    · intro bytes
      rw [Service.entries, getElem_remove, Engine.entries_removeBelow, ite_or]
      rfl

theorem entries_skip (revisions : Nat) (service : Service σ) :
    (service.skip revisions).entries = service.entries :=
  Engine.entries_skip revisions service.store

theorem Mirrors.skip (mirrors : Mirrors space service) (revisions : Nat) :
    Mirrors space (service.skip revisions) where
  online := mirrors.online
  obliging := mirrors.obliging
  answers := mirrors.answers
  dated := mirrors.dated
  node := by simpa only [entries_skip] using mirrors.node
  entry := by simpa only [entries_skip] using mirrors.entry
  order := by simpa only [entries_skip] using mirrors.order

/-- An act keeps mirrors, unless it writes a key that is there. -/
theorem Mirrors.act (mirrors : Mirrors space service) (one : Act)
    (fresh : ∀ key value session, one.edit.written? layout = some (key, value, session) →
      key ∉ space.nodes) :
    Mirrors (space.edit layout one.edit) (act layout service one) := by
  have writes := writing_of_answers mirrors.answers
  cases one with
  | create path =>
    rw [Keys.act, writes]
    exact mirrors.wrote (fresh _ _ _ rfl) (.inr rfl) (Namespace.put_edited _ _ _ space)
      mirrors.online mirrors.obliging
  | lock path ticket lease =>
    rw [Keys.act, writes]
    exact mirrors.wrote (fresh _ _ _ rfl) (.inl rfl) (Namespace.put_edited _ _ _ space)
      mirrors.online mirrors.obliging
  | unlock path session =>
    rw [Keys.act, writes]
    exact mirrors.remove _
  | remove key =>
    rw [Keys.act, writes]
    exact mirrors.remove key
  | delete path =>
    show Mirrors (space.delete layout path).2 (Keys.delete layout path service).2
    obtain ⟨here, there⟩ | ⟨here, there⟩ := mirrors.delete layout path
    · rw [here, there]
      exact mirrors.remove _
    · rw [here, there]
      exact mirrors
  | deleteTree path => exact mirrors.deleteTree path

theorem inMemory_snoc (layout : Layout) (run : Run) (step : Nat × Act) :
    inMemory layout (run ++ [step]) = (inMemory layout run).edit layout step.2.edit := by
  unfold inMemory Run.edits
  rw [List.map_append]
  exact Namespace.edited_snoc layout _ step.2.edit

theorem mirrors_empty (wording : Wording) :
    Mirrors .empty (⟨Engine.empty, true, false, wording⟩ : Service σ) := by
  constructor
  · rfl
  · rfl
  · rfl
  · exact Namespace.dated_history ⟨""⟩ []
  all_goals simp [Namespace.empty, Service.entries, Engine.entries_empty]

theorem run_mirrors (wording : Wording) (layout : Layout) (run : Run)
    (fresh : Namespace.Fresh layout (fun _ => true) run.edits) :
    Mirrors (inMemory layout run) (inStore σ wording layout run) := by
  induction run using List.reverseRecOn with
  | nil => exact mirrors_empty wording
  | append_singleton run step ih =>
    have whole : Run.edits (run ++ [step]) = Run.edits run ++ [step.2.edit] := List.map_append
    rw [whole, Namespace.fresh_snoc] at fresh
    obtain ⟨before, absent⟩ := fresh
    rw [inMemory_snoc, inStore, List.foldl_append]
    exact ((ih before).skip step.1).act step.2 fun key value session written =>
      absent key value session written rfl

/-- After each act of a run, memory and the store agree, unless the run writes a key that is
there. The store is any one that does what is relied on. -/
theorem coordinators_agree (σ : Type) [Engine σ] (wording : Wording) (layout : Layout) (run : Run)
    (fresh : Namespace.Fresh layout (fun _ => true) run.edits) :
    ∀ past : Run, past <+: run →
      Agree layout (inMemory layout past) (inStore σ wording layout past) := by
  intro past early
  obtain ⟨later, rfl⟩ := early
  have whole : Run.edits (past ++ later) = past.edits ++ Run.edits later := List.map_append
  rw [whole] at fresh
  exact (run_mirrors wording layout past fresh.before).agree layout

/-- Two sessions queue for a lock, the first under a lease below zero, and the first leaves. -/
def handover : Run :=
  [(0, .create (.sample "a")), (5, .lock (.sample "a") ⟨⟨"a", 1⟩, "g"⟩ (-2)),
    (0, .lock (.sample "a") ⟨⟨"b", 1⟩, "g"⟩ 7), (1, .unlock (.sample "a") (sessionOf (-2)))]

theorem coordinators_agree_handover :
    Namespace.Fresh ⟨"/t"⟩ (fun _ => true) handover.edits ∧
      Agree ⟨"/t"⟩ (inMemory ⟨"/t"⟩ handover) (inStore Store .terse ⟨"/t"⟩ handover) ∧
      readLock ⟨"/t"⟩ .terse (.sample "a") (inStore Store .terse ⟨"/t"⟩ (handover.take 3)).entries =
        .ok (some ⟨⟨"a", 1⟩, "g", "fffffffffffffffe", 7⟩) ∧
      (inMemory ⟨"/t"⟩ (handover.take 3)).readLock ⟨"/t"⟩ (.sample "a") =
        .ok (some ⟨⟨"a", 1⟩, "g", "fffffffffffffffe", 2⟩) := by
  have fresh : Namespace.Fresh ⟨"/t"⟩ (fun _ => true) handover.edits := by decide +kernel
  have agree := coordinators_agree Store .terse ⟨"/t"⟩ handover fresh handover (List.prefix_refl _)
  exact ⟨fresh, agree, by decide +kernel, by decide +kernel⟩

end Keys
end TabletRoster
