import TabletRoster.Proofs.LockQueue

/-!
What a watcher is given. Every edit publishes what it has done to the keys and nothing else, and a
watcher is given what has been published since it began to watch, change by change and without a
gap. A watcher that falls too far behind is told so, and then its stream is over.
-/
namespace TabletRoster

abbrev KeySet := Std.ExtTreeSet String compare

def Change.apply (keys : KeySet) (change : Change) : KeySet :=
  match change.kind with
  | .put => keys.insert change.key
  | .delete => keys.erase change.key

def KeySet.replay (keys : KeySet) (changes : List Change) : KeySet :=
  changes.foldl Change.apply keys

namespace Namespace

def keySet (space : Namespace) : KeySet :=
  .ofList space.nodes.keys compare

theorem mem_keySet {space : Namespace} {key : String} : key ∈ space.keySet ↔ key ∈ space.nodes := by
  unfold keySet
  rw [Std.ExtTreeSet.mem_ofList, List.contains_iff_mem, Std.ExtTreeMap.mem_keys]

/-- What an edit publishes, by what it does to the keys: the key that it writes, or the keys that
it takes away, each of them once. -/
inductive Announces (space : Namespace) : Option String → List Change → Namespace → Prop where
  | put (key : String) (after : Namespace)
      (published : after.published.toList = space.published.toList ++ [⟨key, .put⟩])
      (there : ∀ other, other ∈ after.nodes ↔ other = key ∨ other ∈ space.nodes) :
      Announces space (some key) [⟨key, .put⟩] after
  | deleted (keys : List String) (after : Namespace)
      (published : after.published.toList =
        space.published.toList ++ keys.map (⟨·, .delete⟩))
      (once : keys.Nodup) (gone : ∀ key, key ∈ keys ↔ key ∈ space.nodes ∧ key ∉ after.nodes)
      (kept : ∀ key, key ∈ after.nodes → key ∈ space.nodes) :
      Announces space none (keys.map (⟨·, .delete⟩)) after

variable {space middle after : Namespace} {written : Option String} {changes : List Change}

theorem Announces.published (announces : Announces space written changes after) :
    after.published.toList = space.published.toList ++ changes := by
  cases announces with
  | put key after published there => exact published
  | deleted keys after published once gone kept => exact published

theorem mem_replay_delete (keys : List String) (set : KeySet) (key : String) :
    key ∈ set.replay (keys.map (⟨·, .delete⟩)) ↔ key ∈ set ∧ key ∉ keys := by
  induction keys generalizing set with
  | nil => simp [KeySet.replay]
  | cons first rest ih =>
    have next := ih (set.erase first)
    rw [Std.ExtTreeSet.mem_erase, ne_eq, Std.compare_eq_iff_eq] at next
    rw [List.mem_cons, not_or]
    exact next.trans (by grind)

theorem Announces.replay (announces : Announces space written changes after) :
    space.keySet.replay changes = after.keySet := by
  apply Std.ExtTreeSet.ext_mem
  intro key
  rw [mem_keySet]
  cases announces with
  | put written after published there =>
    rw [there, eq_comm (a := key)]
    simp only [KeySet.replay, List.foldl_cons, List.foldl_nil, Change.apply,
      Std.ExtTreeSet.mem_insert, Std.compare_eq_iff_eq, mem_keySet]
  | deleted keys after published once gone kept =>
    rw [mem_replay_delete, mem_keySet, gone]
    have still := kept key
    grind

theorem Announces.still (nodes : after.nodes = space.nodes)
    (published : after.published = space.published) : Announces space none [] after :=
  .deleted [] after (by simp [published]) .nil (by simp [nodes]) (by simp [nodes])

theorem Announces.further {more : List Change} (first : Announces space none changes middle)
    (second : Announces middle none more after) : Announces space none (changes ++ more) after := by
  cases first with
  | deleted keys _ published once gone kept =>
    cases second with
    | deleted others _ further again went still =>
      rw [← List.map_append]
      refine .deleted (keys ++ others) after ?_ ?_ ?_ ?_
      · rw [further, published, List.map_append, List.append_assoc]
      · rw [List.nodup_append]
        refine ⟨once, again, ?_⟩
        rintro key early other late rfl
        exact ((gone key).mp early).2 ((went key).mp late).1
      · intro key
        rw [List.mem_append, gone, went]
        have here := kept key
        have there := still key
        grind
      · exact fun key there => kept key (still key there)

theorem announces_put (key : String) (value : Bytes) (session : Option String)
    (space : Namespace) :
    Announces space (some key) [⟨key, .put⟩] (space.put key value session) := by
  refine .put key _ (by simp [put, publish]) fun other => ?_
  simp only [put, publish, Std.ExtTreeMap.mem_insert, Std.compare_eq_iff_eq, eq_comm (a := other)]

theorem announces_remove (key : String) (space : Namespace) :
    ∃ changes, Announces space none changes (space.remove key) := by
  unfold remove
  split
  · rename_i there
    refine ⟨_, .deleted [key] _ (by simp [publish]) (by simp) ?_ ?_⟩
    · intro other
      simp only [publish, List.mem_singleton, Std.ExtTreeMap.mem_erase, ne_eq,
        Std.compare_eq_iff_eq]
      have there : key ∈ space.nodes := there
      grind
    · exact fun other => Std.ExtTreeMap.mem_of_mem_erase
  · exact ⟨_, .still rfl rfl⟩

theorem announces_removeAll (keys : List String) (space : Namespace) :
    ∃ changes, Announces space none changes
      (keys.foldl (fun space key => space.remove key) space) := by
  induction keys generalizing space with
  | nil => exact ⟨_, .still rfl rfl⟩
  | cons key rest ih =>
    obtain ⟨first, removed⟩ := announces_remove key space
    obtain ⟨more, others⟩ := ih (space.remove key)
    exact ⟨_, removed.further others⟩

theorem announces_edit (layout : Layout) (space : Namespace) (edit : Edit) :
    ∃ changes, Announces space ((edit.written? layout).map (·.1)) changes
      (space.edit layout edit) := by
  cases edit with
  | write change =>
    cases change with
    | create path => exact ⟨_, announces_put _ _ _ space⟩
    | lock path ticket session => exact ⟨_, announces_put _ _ _ space⟩
    | put key value => exact ⟨_, announces_put _ _ _ space⟩
    | unlock path session => exact announces_remove _ space
    | remove key => exact announces_remove key space
  | delete path =>
    show ∃ changes, Announces space none changes (space.delete layout path).2
    have outcome := deleted layout path space
    generalize space.delete layout path = answer at outcome
    cases outcome with
    | refused reason switch => exact ⟨_, .still rfl rfl⟩
    | kept key children => exact ⟨_, .still rfl rfl⟩
    | removed childless => exact announces_remove _ space
  | deleteTree path =>
    show ∃ changes, Announces space none changes (space.deleteTree layout path).2
    simp only [deleteTree]
    split
    · exact ⟨_, .still rfl rfl⟩
    · exact announces_removeAll _ space
  | offline on => exact ⟨_, .still rfl rfl⟩
  | failDeletes on => exact ⟨_, .still rfl rfl⟩

inductive Item where
  | change (change : Change)
  | lagged
  | ended
  deriving DecidableEq, Repr

def next? (space : Namespace) : Option Nat → Option (Item × Option Nat)
  | none => some (.ended, none)
  | some position =>
    match space.feed position with
    | .change change => some (.change change, some (position + 1))
    | .lagged => some (.lagged, none)
    | .nothing => none

def unread (space : Namespace) (position : Nat) : List Change :=
  space.published.toList.drop position

theorem length_unread (space : Namespace) (position : Nat) :
    (space.unread position).length = space.published.size - position := by
  simp [unread]

theorem unread_succ {position : Nat} {change : Change} {rest : List Change}
    (unread : space.unread position = change :: rest) : space.unread (position + 1) = rest := by
  unfold Namespace.unread at unread ⊢
  rw [← List.tail_drop, unread, List.tail_cons]

theorem feed_eq (space : Namespace) (position : Nat) : space.feed position =
    if 1024 < (space.unread position).length then .lagged
    else match space.unread position with
      | [] => .nothing
      | change :: _ => .change change := by
  have first : (space.unread position).head? = space.published[position]? := by
    simp [unread, List.head?_drop]
  have far : position + buffer < space.published.size ↔
      1024 < (space.unread position).length := by
    rw [length_unread, buffer]
    omega
  unfold feed
  simp only [far, ← first]
  split
  · rfl
  · cases space.unread position <;> rfl

theorem next_eq (space : Namespace) (position : Nat) : space.next? (some position) =
    if 1024 < (space.unread position).length then some (.lagged, none)
    else (space.unread position).head?.map fun change => (.change change, some (position + 1)) := by
  simp only [next?]
  rw [feed_eq]
  by_cases far : 1024 < (space.unread position).length
  · simp only [if_pos far]
  · simp only [if_neg far]
    cases space.unread position <;> rfl

theorem drain_eq (space : Namespace) (position : Nat) : space.drain position =
    if 1024 < (space.unread position).length then ([], none)
    else (space.unread position, some (position + (space.unread position).length)) := by
  have run (fuel position : Nat) (enough : (space.unread position).length < fuel)
      (near : (space.unread position).length ≤ 1024) : space.drainFor fuel position =
        (space.unread position, some (position + (space.unread position).length)) := by
    induction fuel generalizing position with
    | zero => omega
    | succ fuel ih =>
      unfold drainFor
      rw [feed_eq, if_neg (by omega)]
      cases ahead : space.unread position with
      | nil => rfl
      | cons change rest =>
        rw [ahead, List.length_cons] at enough near
        have further := ih (position + 1)
        rw [unread_succ ahead] at further
        simp only [further (by omega) (by omega), List.length_cons]
        rw [Nat.add_right_comm, Nat.add_assoc]
  split
  · rename_i far
    simp [drain, drainFor, feed_eq, far]
  · rename_i near
    refine run _ position ?_ (by omega)
    rw [length_unread]
    omega

end Namespace

structure Viewing where
  space : Namespace
  position : Option Nat
  items : List Namespace.Item

namespace Viewing

open Namespace (Edit Item edited)

inductive Move where
  | edit (edit : Edit)
  | next

def Move.edit? : Move → Option Edit
  | .edit made => some made
  | .next => none

def move (layout : Layout) (viewing : Viewing) : Move → Viewing
  | .edit edit => { viewing with space := viewing.space.edit layout edit }
  | .next =>
    match viewing.space.next? viewing.position with
    | some (item, position) =>
      { viewing with position := position, items := viewing.items ++ [item] }
    | none => viewing

def run (layout : Layout) (moves : List Move) (viewing : Viewing) : Viewing :=
  moves.foldl (move layout) viewing

/-- How a watcher stands to the changes since it began to watch: it has been given some, and the
others are ahead of it. Its stream is over only if these were too many. -/
structure Fed (before : Namespace) (viewing : Viewing) (given ahead : List Change) : Prop where
  whole : viewing.space.published.toList = before.published.toList ++ (given ++ ahead)
  keys : before.keySet.replay (given ++ ahead) = viewing.space.keySet
  course :
    (viewing.position = some (before.published.size + given.length) ∧
      viewing.items = given.map .change) ∨
    (viewing.position = none ∧ 1024 < ahead.length ∧
      ∃ times, viewing.items = given.map .change ++ .lagged :: List.replicate times .ended)

variable {layout : Layout} {before : Namespace} {viewing : Viewing} {given ahead : List Change}

theorem Fed.unread (fed : Fed before viewing given ahead) :
    viewing.space.unread (before.published.size + given.length) = ahead := by
  simp [Namespace.unread, fed.whole, ← List.append_assoc]

theorem Fed.edit (fed : Fed before viewing given ahead) (edit : Edit) :
    ∃ changes, Fed before (viewing.move layout (.edit edit)) given (ahead ++ changes) := by
  obtain ⟨changes, announces⟩ := Namespace.announces_edit layout viewing.space edit
  refine ⟨changes, ?_, ?_, ?_⟩
  · show (viewing.space.edit layout edit).published.toList = _
    rw [announces.published, fed.whole, List.append_assoc, List.append_assoc]
  · show _ = (viewing.space.edit layout edit).keySet
    rw [← announces.replay, ← fed.keys]
    simp [KeySet.replay, List.foldl_append]
  · rcases fed.course with live | ⟨position, far, items⟩
    · exact .inl live
    · refine .inr ⟨position, ?_, items⟩
      rw [List.length_append]
      omega

theorem Fed.next (fed : Fed before viewing given ahead) :
    ∃ given ahead, Fed before (viewing.move layout .next) given ahead := by
  obtain ⟨whole, keys, ⟨position, items⟩ | ⟨position, far, times, items⟩⟩ := fed
  · have answer := viewing.space.next_eq (before.published.size + given.length)
    rw [Fed.unread ⟨whole, keys, .inl ⟨position, items⟩⟩] at answer
    simp only [move, position, answer]
    split
    · rename_i item stand step
      split at step
      · rename_i far
        cases step
        exact ⟨given, ahead, whole, keys, .inr ⟨rfl, far, 0, by simp [items]⟩⟩
      · cases ahead with
        | nil => cases step
        | cons change rest =>
          cases step
          refine ⟨given ++ [change], rest, by simp [whole], by simp [← keys], .inl ⟨?_, ?_⟩⟩
          · rw [List.length_append, List.length_singleton, Nat.add_assoc]
          · simp [items]
    · exact ⟨given, ahead, whole, keys, .inl ⟨position, items⟩⟩
  · simp only [move, position, Namespace.next?]
    refine ⟨given, ahead, whole, keys, .inr ⟨rfl, far, times + 1, ?_⟩⟩
    rw [items, List.replicate_succ', List.append_assoc, List.cons_append]

theorem Fed.run (fed : Fed before viewing given ahead) (layout : Layout) (moves : List Move) :
    ∃ given ahead, Fed before (viewing.run layout moves) given ahead := by
  induction moves generalizing viewing given ahead with
  | nil => exact ⟨given, ahead, fed⟩
  | cons move rest ih =>
    cases move with
    | edit edit =>
      obtain ⟨changes, later⟩ := fed.edit edit
      exact ih later
    | next =>
      obtain ⟨given, ahead, later⟩ := fed.next
      exact ih later

theorem run_space (layout : Layout) (past : List Edit) (moves : List Move) {viewing : Viewing}
    (start : viewing.space = edited layout past) :
    (viewing.run layout moves).space = edited layout (past ++ moves.filterMap Move.edit?) := by
  induction moves generalizing past viewing with
  | nil => simpa [run] using start
  | cons move rest ih =>
    cases move with
    | edit edit =>
      have moved : (viewing.move layout (.edit edit)).space = edited layout (past ++ [edit]) := by
        simp [Viewing.move, start, Namespace.edited_snoc]
      simpa [Viewing.run, Move.edit?] using ih (past ++ [edit]) moved
    | next =>
      have same : (viewing.move layout .next).space = edited layout past := by
        rw [← start]
        simp only [Viewing.move]
        split <;> rfl
      rw [List.filterMap_cons_none rfl]
      exact ih past same

/-- Whatever happens to a namespace, every edit publishes just what it does to the keys, a question
publishes nothing, and a watcher has been given a first part of what has been published since it
began to watch, in that order. As long as its stream goes on, the next item is the first of the
changes ahead of it, and what it has been given brings the keys up to date once there is none. If
there are more than 1024, the next item says so, and no change follows. -/
theorem watch_skips_nothing (layout : Layout) (past : List Edit) {begun : Nat}
    (watched : (edited layout past).watch layout = .ok begun) (moves : List Move) :
    let before := edited layout past
    let viewing := run layout moves ⟨before, some begun, []⟩
    let space := viewing.space
    space = edited layout (past ++ moves.filterMap Move.edit?) ∧
    (∀ (space : Namespace) (edit : Edit), ∃ changes,
      space.Announces ((edit.written? layout).map (·.1)) changes (space.edit layout edit)) ∧
    (∀ (space : Namespace) (path : ServerPath),
      ((Namespace.coordinator layout).list space).2 = space ∧
      ((Namespace.coordinator layout).readLock path space).2 = space ∧
      ((Namespace.coordinator layout).contains path space).2 = space) ∧
    ∃ given ahead, space.published.toList = before.published.toList ++ (given ++ ahead) ∧
      ((viewing.items = given.map .change ∧
          (ahead = [] → before.keySet.replay given = space.keySet) ∧
          ∃ position, viewing.position = some position ∧
            space.next? viewing.position = (if 1024 < ahead.length then some (.lagged, none)
              else ahead.head?.map fun change => (.change change, some (position + 1))) ∧
            space.drain position = (if 1024 < ahead.length then ([], none)
              else (ahead, some (position + ahead.length)))) ∨
        (1024 < ahead.length ∧ viewing.position = none ∧
          space.next? viewing.position = some (.ended, none) ∧
          ∃ times, viewing.items =
            given.map .change ++ .lagged :: List.replicate times .ended)) := by
  intro before viewing space
  have begun_at : begun = before.published.size := by
    simp only [Namespace.watch, Namespace.checkOnline] at watched
    split at watched
    · cases watched
    · exact (Except.ok.inj watched).symm
  have start : Fed before ⟨before, some begun, []⟩ [] [] :=
    ⟨by simp, rfl, .inl ⟨by simp [begun_at], rfl⟩⟩
  obtain ⟨given, ahead, fed⟩ := start.run layout moves
  refine ⟨run_space layout past moves rfl, Namespace.announces_edit layout,
    fun space path => ⟨rfl, rfl, rfl⟩, given, ahead, fed.whole, ?_⟩
  rcases fed.course with ⟨position, items⟩ | ⟨position, far, items⟩
  · refine .inl ⟨items, ?_, _, position, ?_, ?_⟩
    · rintro rfl
      simpa using fed.keys
    · rw [position, Namespace.next_eq, fed.unread]
    · rw [Namespace.drain_eq, fed.unread]
  · refine .inr ⟨far, position, ?_, items⟩
    rw [position]
    rfl

def clearing : List Move :=
  [.edit (.write (.create (.sample "a"))), .next, .edit (.deleteTree (.sample "a")), .next, .next,
    .next]

theorem watch_skips_nothing_cleared :
    (edited ⟨"/t"⟩ [Namespace.locks "a" "1"]).watch ⟨"/t"⟩ = .ok 1 ∧
      ∃ given ahead, given = [⟨"/t/g/a:1", .put⟩,
          ⟨"/t/g/a:1/lock/1", .delete⟩, ⟨"/t/g/a:1", .delete⟩] ∧
        (run ⟨"/t"⟩ clearing ⟨edited ⟨"/t"⟩ [Namespace.locks "a" "1"], some 1, []⟩).items =
          given.map .change ∧
        (run ⟨"/t"⟩ clearing
            ⟨edited ⟨"/t"⟩ [Namespace.locks "a" "1"], some 1, []⟩).space.published.toList =
          (edited ⟨"/t"⟩ [Namespace.locks "a" "1"]).published.toList ++ (given ++ ahead) := by
  have watched : (edited ⟨"/t"⟩ [Namespace.locks "a" "1"]).watch ⟨"/t"⟩ = .ok 1 := by
    decide +kernel
  have items : (run ⟨"/t"⟩ clearing ⟨edited ⟨"/t"⟩ [Namespace.locks "a" "1"], some 1, []⟩).items =
      List.map .change [⟨"/t/g/a:1", .put⟩,
        ⟨"/t/g/a:1/lock/1", .delete⟩, ⟨"/t/g/a:1", .delete⟩] := by
    decide +kernel
  have stands : (run ⟨"/t"⟩ clearing
      ⟨edited ⟨"/t"⟩ [Namespace.locks "a" "1"], some 1, []⟩).position = some 4 := by
    decide +kernel
  obtain ⟨_, _, _, given, ahead, whole, course⟩ :=
    watch_skips_nothing ⟨"/t"⟩ [Namespace.locks "a" "1"] watched clearing
  rcases course with ⟨told, _⟩ | ⟨_, lost, _⟩
  · refine ⟨watched, given, ahead, ?_, told, whole⟩
    exact List.map_injective_iff.mpr (fun _ _ => Item.change.inj) (told.symm.trans items)
  · rw [stands] at lost
    cases lost

end Viewing
end TabletRoster
