import Mathlib.Data.List.Induction
import Mathlib.Data.List.MinMax
import TabletRoster.Proofs.Following.Basic
import TabletRoster.Proofs.Subtrees

/-!
Who holds a lock. The entries of a lock stand in line in the order in which they were last written,
and the first of them holds the lock. So a holder keeps its lock through all edits that leave its
entry alone. An edit that writes this entry anew sends it to the end of the line.
-/
namespace TabletRoster.Namespace

theorem oldest_eq_argmin (entries : List (String × Node)) :
    oldest entries = entries.argmin (·.2.created) := by
  induction entries with
  | nil => rfl
  | cons entry rest ih =>
    rw [oldest, ih, List.argmin_cons]
    cases rest.argmin (·.2.created) <;> rfl

theorem oldest_le {entries : List (String × Node)} {entry other : String × Node}
    (found : oldest entries = some entry) (member : other ∈ entries) :
    entry.2.created ≤ other.2.created := by
  rw [oldest_eq_argmin] at found
  exact List.le_of_mem_argmin (f := fun entry : String × Node => entry.2.created) member found

theorem oldest_exists {entries : List (String × Node)} (entry : String × Node)
    (member : entry ∈ entries) : ∃ first, oldest entries = some first := by
  cases found : oldest entries with
  | some first => exact ⟨first, rfl⟩
  | none =>
    rw [oldest_eq_argmin, List.argmin_eq_none] at found
    rw [found] at member
    cases member

inductive Edit where
  | write (change : Write)
  | delete (path : ServerPath)
  | deleteTree (path : ServerPath)
  | offline (on : Bool)
  | failDeletes (on : Bool)

def edit (layout : Layout) (space : Namespace) : Edit → Namespace
  | .write change => space.write layout change
  | .delete path => (space.delete layout path).2
  | .deleteTree path => (space.deleteTree layout path).2
  | .offline on => { space with offline := on }
  | .failDeletes on => { space with failDeletes := on }

def edited (layout : Layout) (history : List Edit) : Namespace :=
  history.foldl (edit layout) .empty

def Edit.written? (layout : Layout) : Edit → Option (String × Bytes × Option String)
  | .write (.create path) => some (layout.serverKey path, [], none)
  | .write (.lock path ticket session) =>
    some (layout.lockKey path session, ticket.encode, some session)
  | .write (.put key value) => some (key, value, none)
  | _ => none

inductive Edited (space : Namespace) : Option (String × Bytes × Option String) → Namespace → Prop
  where
  | wrote (key : String) (value : Bytes) (session : Option String) (after : Namespace)
      (revision : after.revision = space.revision + 1)
      (nodes : ∀ other, after.nodes[other]? =
        if other = key then some ⟨value, session, space.revision + 1⟩ else space.nodes[other]?) :
      Edited space (some (key, value, session)) after
  | thinned (after : Namespace) (revision : after.revision = space.revision)
      (nodes : ∀ (key : String) (node : Node),
        after.nodes[key]? = some node → space.nodes[key]? = some node) :
      Edited space none after

variable {layout : Layout} {path : ServerPath} {space after : Namespace} {stem key : String}
  {node : Node} {written : Option (String × Bytes × Option String)}

theorem put_edited (key : String) (value : Bytes) (session : Option String) (space : Namespace) :
    Edited space (some (key, value, session)) (space.put key value session) := by
  refine .wrote key value session _ rfl fun other => ?_
  simp only [put, publish, Std.ExtTreeMap.getElem?_insert, Std.compare_eq_iff_eq,
    eq_comm (a := other)]

theorem remove_edited (key : String) (space : Namespace) :
    Edited space none (space.remove key) := by
  refine .thinned _ ?_ ?_
  · unfold remove
    split <;> rfl
  · intro other node found
    rw [getElem_remove] at found
    split at found
    · cases found
    · exact found

theorem Edited.refl (space : Namespace) : Edited space none space :=
  .thinned space rfl fun _ _ found => found

theorem Edited.thin {middle : Namespace} (first : Edited space none middle)
    (second : Edited middle none after) : Edited space none after := by
  cases first with
  | thinned _ revision nodes =>
    cases second with
    | thinned _ later fewer =>
      exact .thinned _ (later.trans revision) fun key node found =>
        nodes key node (fewer key node found)

theorem removeAll_edited (keys : List String) (space : Namespace) :
    Edited space none (keys.foldl (fun space key => space.remove key) space) := by
  induction keys generalizing space with
  | nil => exact .refl space
  | cons key rest ih => exact (remove_edited key space).thin (ih _)

theorem edit_edited (layout : Layout) (space : Namespace) (edit : Edit) :
    Edited space (edit.written? layout) (space.edit layout edit) := by
  cases edit with
  | write change =>
    cases change with
    | create path => exact put_edited _ _ _ space
    | lock path ticket session => exact put_edited _ _ _ space
    | put key value => exact put_edited _ _ _ space
    | unlock path session => exact remove_edited _ space
    | remove key => exact remove_edited key space
  | delete path =>
    show Edited space none (space.delete layout path).2
    simp only [delete]
    split
    · exact .refl space
    · split
      · exact remove_edited _ space
      · exact .refl space
  | deleteTree path =>
    show Edited space none (space.deleteTree layout path).2
    simp only [deleteTree]
    split
    · exact .refl space
    · exact removeAll_edited _ space
  | offline on => exact .thinned _ rfl fun _ _ found => found
  | failDeletes on => exact .thinned _ rfl fun _ _ found => found

/-- Every node has a revision of its own, and none from the future. -/
structure Dated (space : Namespace) : Prop where
  past : ∀ (key : String) (node : Node), space.nodes[key]? = some node →
    node.created ≤ space.revision
  apart : ∀ (key other : String) (node twin : Node), space.nodes[key]? = some node →
    space.nodes[other]? = some twin → node.created = twin.created → key = other

theorem dated_edited (dated : space.Dated) (edited : Edited space written after) :
    after.Dated := by
  cases edited with
  | wrote key value session _ revision nodes =>
    constructor
    · intro other node found
      rw [nodes] at found
      split at found
      · cases found
        exact Nat.le_of_eq revision.symm
      · have old := dated.past other node found
        omega
    · intro first second node twin found other same
      rw [nodes] at found other
      split at found <;> split at other
      · simp_all
      · cases found
        have old := dated.past second twin other
        simp only at same
        omega
      · cases other
        have old := dated.past first node found
        simp only at same
        omega
      · exact dated.apart first second node twin found other same
  | thinned _ revision nodes =>
    constructor
    · intro key node found
      rw [revision]
      exact dated.past key node (nodes key node found)
    · intro key other node twin found also same
      exact dated.apart key other node twin (nodes key node found) (nodes other twin also) same

theorem dated_history (layout : Layout) (history : List Edit) : (edited layout history).Dated := by
  induction history using List.reverseRecOn with
  | nil =>
    constructor
    · simp [edited, empty]
    · simp [edited, empty]
  | append_singleton history edit ih =>
    unfold edited at ih ⊢
    rw [List.foldl_append]
    exact dated_edited ih (edit_edited layout _ edit)

structure First (space : Namespace) (stem key : String) (node : Node) : Prop where
  there : (key, node) ∈ space.below stem
  before : ∀ entry ∈ space.below stem, node.created ≤ entry.2.created

theorem holder_iff (dated : space.Dated) :
    space.holder? layout path = some (key, node) ↔ First space (layout.lockStem path) key node := by
  constructor
  · intro found
    exact ⟨oldest_mem found, fun entry member => oldest_le found member⟩
  · intro first
    obtain ⟨⟨other, twin⟩, found⟩ := oldest_exists _ first.there
    have mine := (mem_below.mp first.there).1
    have theirs := (mem_below.mp (oldest_mem found)).1
    have age : node.created = twin.created :=
      Nat.le_antisymm (first.before _ (oldest_mem found)) (oldest_le found first.there)
    have same := dated.apart key other node twin mine theirs age
    subst same
    rw [mine] at theirs
    cases theirs
    exact found

theorem First.stays (dated : space.Dated) (first : First space stem key node)
    (edited : Edited space written after) (there : key ∈ after.nodes)
    (spared : ∀ value session, written ≠ some (key, value, session)) :
    First after stem key node := by
  obtain ⟨found, starts⟩ := mem_below.mp first.there
  cases edited with
  | wrote other value session _ revision nodes =>
    have different : key ≠ other := by
      rintro rfl
      exact spared value session rfl
    constructor
    · apply mem_below.mpr
      rw [nodes, if_neg different]
      exact ⟨found, starts⟩
    · intro ⟨second, twin⟩ member
      obtain ⟨later, below⟩ := mem_below.mp member
      rw [nodes] at later
      split at later
      · cases later
        exact Nat.le_succ_of_le (dated.past key node found)
      · exact first.before (second, twin) (mem_below.mpr ⟨later, below⟩)
  | thinned _ revision nodes =>
    have still := Std.ExtTreeMap.getElem?_eq_some_getElem there
    have same := nodes key _ still
    rw [found] at same
    cases same
    constructor
    · exact mem_below.mpr ⟨still, starts⟩
    · intro ⟨second, twin⟩ member
      obtain ⟨later, below⟩ := mem_below.mp member
      exact first.before (second, twin) (mem_below.mpr ⟨nodes second twin later, below⟩)

/-- An entry that is written anew is behind all others, so it holds a lock only if it is alone. -/
theorem First.rewritten (dated : space.Dated) {value : Bytes} {session : Option String}
    (edited : Edited space (some (key, value, session)) after)
    (held : space.holder? layout path = some (key, node)) :
    ((∀ entry ∈ space.below (layout.lockStem path), entry.1 = key) →
      after.holder? layout path = some (key, ⟨value, session, space.revision + 1⟩)) ∧
    ((¬ ∀ entry ∈ space.below (layout.lockStem path), entry.1 = key) →
      ∃ heir ∈ space.below (layout.lockStem path), heir.1 ≠ key ∧
        after.holder? layout path = some heir) := by
  have later := dated_edited dated edited
  have starts := (mem_below.mp ((holder_iff dated).mp held).there).2
  cases edited with
  | wrote _ _ _ _ revision nodes =>
    have rewritten : (key, ⟨value, session, space.revision + 1⟩) ∈
        after.below (layout.lockStem path) :=
      mem_below.mpr ⟨by rw [nodes, if_pos rfl], starts⟩
    constructor
    · intro alone
      refine (holder_iff later).mpr ⟨rewritten, ?_⟩
      intro ⟨other, twin⟩ member
      obtain ⟨found, below⟩ := mem_below.mp member
      rw [nodes] at found
      split at found
      · cases found
        exact Nat.le_refl _
      · rename_i different
        exact absurd (alone (other, twin) (mem_below.mpr ⟨found, below⟩)) different
    · intro company
      simp only [Classical.not_forall] at company
      obtain ⟨⟨other, twin⟩, member, different⟩ := company
      obtain ⟨found, below⟩ := mem_below.mp member
      have stayed : (other, twin) ∈ after.below (layout.lockStem path) :=
        mem_below.mpr ⟨by rw [nodes, if_neg different, found], below⟩
      obtain ⟨⟨heir, kept⟩, first⟩ := oldest_exists _ stayed
      have entry := oldest_mem first
      have early : kept.created ≤ space.revision :=
        Nat.le_trans (oldest_le first stayed) (dated.past other twin found)
      obtain ⟨there, under⟩ := mem_below.mp entry
      rw [nodes] at there
      split at there
      · cases there
        exact absurd early (by simp)
      · rename_i another
        exact ⟨(heir, kept), mem_below.mpr ⟨there, under⟩, another, first⟩

structure Line where
  space : Namespace
  keys : List String

/-- A key that is written comes to the end of the line. If it stands there already, it stays where
it is, or it has to line up again. -/
def lineUp (again : Bool) (key : String) (keys : List String) : List String :=
  if again || key ∉ keys then keys.filter (· ≠ key) ++ [key] else keys

def Line.next (layout : Layout) (path : ServerPath) (again : Bool) (line : Line) (edit : Edit) :
    Line :=
  let after := line.space.edit layout edit
  let present := line.keys.filter (· ∈ after.nodes)
  ⟨after, match edit.written? layout with
    | some (key, _) =>
      if startsWith (layout.lockStem path) key then lineUp again key present else present
    | none => present⟩

def line (layout : Layout) (path : ServerPath) (again : Bool) (history : List Edit) : Line :=
  history.foldl (Line.next layout path again) ⟨.empty, []⟩

theorem line_snoc (layout : Layout) (path : ServerPath) (again : Bool) (history : List Edit)
    (edit : Edit) :
    line layout path again (history ++ [edit]) =
      (line layout path again history).next layout path again edit :=
  List.foldl_append

theorem edited_snoc (layout : Layout) (history : List Edit) (edit : Edit) :
    edited layout (history ++ [edit]) = (edited layout history).edit layout edit :=
  List.foldl_append

theorem line_space (layout : Layout) (path : ServerPath) (again : Bool) (history : List Edit) :
    (line layout path again history).space = edited layout history := by
  induction history using List.reverseRecOn with
  | nil => rfl
  | append_singleton history edit ih =>
    rw [line_snoc, edited_snoc, ← ih]
    rfl

/-- Keys are in line for those entries that are there, in the order of their revisions. -/
structure InLine (space : Namespace) (stem : String) (entries : List (String × Node)) : Prop where
  whole : ∀ entry, entry ∈ entries ↔ entry ∈ space.below stem
  sorted : entries.Pairwise fun entry later => entry.2.created < later.2.created

theorem InLine.thinned {entries : List (String × Node)} (inLine : InLine space stem entries)
    (edited : Edited space none after) :
    InLine after stem (entries.filter (·.1 ∈ after.nodes)) := by
  cases edited with
  | thinned _ revision nodes =>
    refine ⟨?_, inLine.sorted.filter _⟩
    intro ⟨key, node⟩
    rw [List.mem_filter, inLine.whole, mem_below, mem_below, decide_eq_true_eq,
      Std.ExtTreeMap.mem_iff_isSome_getElem?, Option.isSome_iff_exists]
    constructor
    · rintro ⟨⟨found, starts⟩, kept, still⟩
      have same := nodes key kept still
      rw [found] at same
      cases same
      exact ⟨still, starts⟩
    · rintro ⟨still, starts⟩
      exact ⟨⟨nodes key node still, starts⟩, node, still⟩

theorem InLine.wrote {entries : List (String × Node)} (inLine : InLine space stem entries)
    (dated : space.Dated) {value : Bytes} {session : Option String}
    (edited : Edited space (some (key, value, session)) after) (starts : startsWith stem key) :
    InLine after stem (entries.filter (·.1 ≠ key) ++
      [(key, ⟨value, session, space.revision + 1⟩)]) := by
  cases edited with
  | wrote _ _ _ _ revision nodes =>
    constructor
    · intro ⟨other, node⟩
      rw [List.mem_append, List.mem_filter, List.mem_singleton, inLine.whole, mem_below, mem_below,
        nodes]
      by_cases same : other = key
      · simp [same, starts, eq_comm]
      · simp [same]
    · rw [List.pairwise_append]
      refine ⟨inLine.sorted.filter _, List.pairwise_singleton _ _, ?_⟩
      intro ⟨other, node⟩ member last added
      rw [List.mem_singleton.mp added]
      have entry := (inLine.whole _).mp (List.mem_filter.mp member).1
      exact Nat.lt_succ_of_le (dated.past other node (mem_below.mp entry).1)

theorem InLine.elsewhere {entries : List (String × Node)} (inLine : InLine space stem entries)
    {value : Bytes} {session : Option String}
    (edited : Edited space (some (key, value, session)) after)
    (outside : ¬ startsWith stem key) : InLine after stem entries := by
  cases edited with
  | wrote _ _ _ _ revision nodes =>
    have same : after.below stem = space.below stem := by
      apply below_congr
      intro other starts
      rw [nodes, if_neg]
      rintro rfl
      exact outside starts
    exact ⟨fun entry => by rw [same, inLine.whole], inLine.sorted⟩

theorem Edited.keeps {value : Bytes} {session : Option String}
    (edited : Edited space (some (key, value, session)) after) {other : String}
    (there : other ∈ space.nodes) : other ∈ after.nodes := by
  cases edited with
  | wrote _ _ _ _ revision nodes =>
    rw [Std.ExtTreeMap.mem_iff_isSome_getElem?] at there ⊢
    rw [nodes]
    split
    · rfl
    · exact there

theorem InLine.there {entries : List (String × Node)} (inLine : InLine space stem entries)
    (member : key ∈ entries.map (·.1)) : key ∈ space.nodes := by
  obtain ⟨⟨_, node⟩, entry, rfl⟩ := List.mem_map.mp member
  have found := (mem_below.mp ((inLine.whole _).mp entry)).1
  exact (Std.ExtTreeMap.getElem?_eq_some_iff.mp found).1

theorem InLine.next {line : Line} {entries : List (String × Node)}
    (inLine : InLine line.space (layout.lockStem path) entries) (dated : line.space.Dated)
    (keys : line.keys = entries.map (·.1)) (edit : Edit) :
    ∃ later, (line.next layout path true edit).keys = later.map (·.1) ∧
      InLine (line.next layout path true edit).space (layout.lockStem path) later := by
  have edited := edit_edited layout line.space edit
  cases written : edit.written? layout with
  | none =>
    rw [written] at edited
    refine ⟨_, ?_, inLine.thinned edited⟩
    simp only [Line.next, written, keys, List.filter_map]
    rfl
  | some entry =>
    obtain ⟨key, value, session⟩ := entry
    rw [written] at edited
    have present : line.keys.filter (· ∈ (line.space.edit layout edit).nodes) = line.keys := by
      apply List.filter_eq_self.mpr
      intro other member
      rw [keys] at member
      exact decide_eq_true (edited.keeps (inLine.there member))
    by_cases starts : startsWith (layout.lockStem path) key
    · refine ⟨_, ?_, inLine.wrote dated edited starts⟩
      simp only [Line.next, written, present, if_pos starts, lineUp, Bool.true_or, if_true]
      rw [keys, List.map_append, List.filter_map]
      rfl
    · refine ⟨entries, ?_, inLine.elsewhere edited starts⟩
      simp only [Line.next, written, present, if_neg starts]
      exact keys

theorem line_inLine (layout : Layout) (path : ServerPath) (history : List Edit) :
    ∃ entries, (line layout path true history).keys = entries.map (·.1) ∧
      InLine (edited layout history) (layout.lockStem path) entries := by
  rw [← line_space layout path true]
  induction history using List.reverseRecOn with
  | nil =>
    refine ⟨[], rfl, ?_, .nil⟩
    intro ⟨key, node⟩
    simp [line, mem_below, empty]
  | append_singleton history edit ih =>
    obtain ⟨entries, keys, inLine⟩ := ih
    rw [line_snoc]
    refine inLine.next ?_ keys edit
    rw [line_space]
    exact dated_history layout history

theorem InLine.holder {entries : List (String × Node)} (dated : space.Dated)
    (inLine : InLine space (layout.lockStem path) entries) :
    space.holder? layout path = entries.head? := by
  cases entries with
  | nil =>
    have nobody : space.below (layout.lockStem path) = [] := by
      apply List.eq_nil_iff_forall_not_mem.mpr
      intro entry member
      exact absurd ((inLine.whole entry).mpr member) List.not_mem_nil
    rw [holder?, nobody]
    rfl
  | cons entry rest =>
    apply (holder_iff dated).mpr
    constructor
    · exact (inLine.whole _).mp List.mem_cons_self
    · intro other member
      rcases List.mem_cons.mp ((inLine.whole other).mpr member) with rfl | later
      · exact Nat.le_refl _
      · exact Nat.le_of_lt ((List.pairwise_cons.mp inLine.sorted).1 other later)

def Fresh (layout : Layout) (kind : String → Bool) (history : List Edit) : Prop :=
  ∀ earlier edit later key value session, history = earlier ++ edit :: later →
    edit.written? layout = some (key, value, session) → kind key →
    key ∉ (edited layout earlier).nodes

theorem fresh_iff {kind : String → Bool} {history : List Edit} :
    Fresh layout kind history ↔ ∀ (n : Nat) (inside : n < history.length),
      ∀ entry ∈ history[n].written? layout, kind entry.1 →
        entry.1 ∉ (edited layout (history.take n)).nodes := by
  constructor
  · intro fresh n inside entry written
    exact fresh (history.take n) history[n] (history.drop (n + 1)) entry.1 entry.2.1 entry.2.2
      (by simp) written
  · intro clear earlier edit later key value session whole written
    subst whole
    have absent := clear earlier.length (by simp) (key, value, session) (by simp [written])
    simpa using absent

instance (layout : Layout) (kind : String → Bool) (history : List Edit) :
    Decidable (Fresh layout kind history) :=
  decidable_of_iff _ fresh_iff.symm

theorem Fresh.before {kind : String → Bool} {past later : List Edit}
    (fresh : Fresh layout kind (past ++ later)) : Fresh layout kind past := by
  intro earlier edit rest key value session whole
  exact fresh earlier edit (rest ++ later) key value session (by simp [whole])

theorem fresh_snoc {kind : String → Bool} {history : List Edit} {last : Edit} :
    Fresh layout kind (history ++ [last]) ↔ Fresh layout kind history ∧
      ∀ key value session, last.written? layout = some (key, value, session) → kind key →
        key ∉ (edited layout history).nodes := by
  constructor
  · intro fresh
    constructor
    · exact fresh.before
    · intro key value session
      exact fresh history last [] key value session rfl
  · intro ⟨fresh, absent⟩ earlier edit later key value session whole
    rcases List.eq_nil_or_concat later with rfl | ⟨rest, final, rfl⟩
    · obtain ⟨rfl, same⟩ := List.append_inj' whole rfl
      cases same
      exact absent key value session
    · rw [List.concat_eq_append, ← List.cons_append, ← List.append_assoc] at whole
      obtain ⟨rfl, _⟩ := List.append_inj' whole rfl
      exact fresh earlier edit rest key value session rfl

theorem Fresh.line {history : List Edit}
    (fresh : Fresh layout (startsWith (layout.lockStem path)) history) :
    line layout path false history = line layout path true history := by
  induction history using List.reverseRecOn with
  | nil => rfl
  | append_singleton history last ih =>
    obtain ⟨before, absent⟩ := fresh_snoc.mp fresh
    rw [line_snoc, line_snoc, ih before]
    unfold Line.next
    rw [line_space]
    cases written : last.written? layout with
    | none => rfl
    | some entry =>
      obtain ⟨key, value, session⟩ := entry
      by_cases starts : startsWith (layout.lockStem path) key
      · obtain ⟨entries, keys, inLine⟩ := line_inLine layout path history
        have outside : key ∉ (Namespace.line layout path true history).keys.filter
            (· ∈ ((edited layout history).edit layout last).nodes) := by
          intro member
          have stood := (List.mem_filter.mp member).1
          rw [keys] at stood
          exact absent key value session written starts (inLine.there stood)
        simp only [if_pos starts, lineUp, outside, not_false_eq_true, decide_true, Bool.or_true,
          if_true]
      · simp only [if_neg starts]

/-- A holder keeps its lock as long as its entry is neither deleted nor written anew. If the entry
is written anew, it is the holder's still only if nobody else is in line; otherwise an heir has the
lock. So the holder is always the entry whose last write is the longest ago, and this is the one
that has been in line for the longest time if no entry is ever written while it is there. -/
theorem holder_keeps_lock (layout : Layout) (path : ServerPath) (history : List Edit) :
    (∀ (edit : Edit) (key : String) (node : Node),
      (edited layout history).holder? layout path = some (key, node) →
      key ∈ (edited layout (history ++ [edit])).nodes →
      (∀ value session, edit.written? layout ≠ some (key, value, session)) →
        (edited layout (history ++ [edit])).holder? layout path = some (key, node) ∧
        (edited layout (history ++ [edit])).readLock layout path =
          (edited layout history).readLock layout path) ∧
    (∀ (edit : Edit) (key : String) (node : Node) (value : Bytes) (session : Option String),
      (edited layout history).holder? layout path = some (key, node) →
      edit.written? layout = some (key, value, session) →
        ((∀ entry ∈ (edited layout history).below (layout.lockStem path), entry.1 = key) →
          (edited layout (history ++ [edit])).holder? layout path =
            some (key, ⟨value, session, (edited layout history).revision + 1⟩)) ∧
        ((¬ ∀ entry ∈ (edited layout history).below (layout.lockStem path), entry.1 = key) →
          ∃ heir ∈ (edited layout history).below (layout.lockStem path), heir.1 ≠ key ∧
            (edited layout (history ++ [edit])).holder? layout path = some heir)) ∧
    ((edited layout history).holder? layout path).map (·.1) =
      (line layout path true history).keys.head? ∧
    (Fresh layout (startsWith (layout.lockStem path)) history →
      ((edited layout history).holder? layout path).map (·.1) =
        (line layout path false history).keys.head?) := by
  have dated := dated_history layout history
  have step (edit : Edit) : Edited (edited layout history) (edit.written? layout)
      (edited layout (history ++ [edit])) := by
    rw [edited_snoc]
    exact edit_edited layout _ edit
  have first : ((edited layout history).holder? layout path).map (·.1) =
      (line layout path true history).keys.head? := by
    obtain ⟨entries, keys, inLine⟩ := line_inLine layout path history
    rw [inLine.holder dated, keys, List.head?_map]
  refine ⟨?_, ?_, first, ?_⟩
  · intro edit key node held there spared
    have stays := ((holder_iff dated).mp held).stays dated (step edit) there spared
    have still := (holder_iff (dated_edited dated (step edit))).mpr stays
    refine ⟨still, ?_⟩
    unfold readLock
    rw [held, still]
  · intro edit key node value session held written
    have edited := step edit
    rw [written] at edited
    exact First.rewritten dated edited held
  · intro fresh
    rw [fresh.line, first]

def locks (host session : String) : Edit :=
  .write (.lock (.sample host) ⟨⟨host, 1⟩, "g"⟩ session)

/-- The holder takes its lock once more, and so loses it to the session that was next. -/
theorem holder_keeps_lock_reacquired :
    (edited ⟨"/t"⟩ [locks "a" "2", locks "a" "1"]).holder? ⟨"/t"⟩ (.sample "a") =
        some ((Layout.mk "/t").lockKey (.sample "a") "2",
          ⟨Ticket.encode ⟨⟨"a", 1⟩, "g"⟩, some "2", 1⟩) ∧
      (Layout.mk "/t").lockKey (.sample "a") "2" ∈
        (edited ⟨"/t"⟩ [locks "a" "2", locks "a" "1", locks "a" "2"]).nodes ∧
      ∃ heir, (edited ⟨"/t"⟩ [locks "a" "2", locks "a" "1", locks "a" "2"]).holder? ⟨"/t"⟩
          (.sample "a") = some heir ∧ heir.1 ≠ (Layout.mk "/t").lockKey (.sample "a") "2" := by
  have held : (edited ⟨"/t"⟩ [locks "a" "2", locks "a" "1"]).holder? ⟨"/t"⟩ (.sample "a") =
      some ((Layout.mk "/t").lockKey (.sample "a") "2",
        ⟨Ticket.encode ⟨⟨"a", 1⟩, "g"⟩, some "2", 1⟩) := by
    decide +kernel
  have company : ¬ ∀ entry ∈ (edited ⟨"/t"⟩ [locks "a" "2", locks "a" "1"]).below
      ((Layout.mk "/t").lockStem (.sample "a")),
        entry.1 = (Layout.mk "/t").lockKey (.sample "a") "2" := by
    decide +kernel
  obtain ⟨_, rewritten, _⟩ :=
    holder_keeps_lock ⟨"/t"⟩ (.sample "a") [locks "a" "2", locks "a" "1"]
  obtain ⟨heir, _, another, first⟩ :=
    (rewritten (locks "a" "2") _ _ _ _ held rfl).2 company
  exact ⟨held, by decide +kernel, heir, first, another⟩

end TabletRoster.Namespace
