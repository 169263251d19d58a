import TabletRoster.Proofs.Grace.Journal

/-!
A path stands with the roster as was last learnt about it. The lessons are the readings of its
lock, the listings of scans that lack it and its evictions; whatever else happens, answered or not,
given up or not, makes no member and starts no time.
-/
namespace TabletRoster

inductive Lesson where
  | held (path : ServerPath) (holder : Holder)
  | free (path : ServerPath)
  | malformed (path : ServerPath)
  | listed (paths : PathSet)
  | evicted (path : ServerPath)

namespace Lesson

def concerns (path : ServerPath) : Lesson → Bool
  | .held other _ | .free other | .malformed other | .evicted other => other = path
  | .listed paths => !paths.contains path

def latest? (lessons : List Lesson) (path : ServerPath) : Option Lesson :=
  (lessons.filter (·.concerns path)).getLast?

def member? : Lesson → Option Member
  | .held _ holder => some (.of holder)
  | _ => none

def Unheld : Lesson → Prop
  | .free _ | .malformed _ => True
  | _ => False

theorem member_of_unheld {lesson : Lesson} (unheld : lesson.Unheld) : lesson.member? = none := by
  cases lesson <;> first | rfl | cases unheld

theorem latest_append (lessons : List Lesson) (lesson : Lesson) (path : ServerPath) :
    latest? (lessons ++ [lesson]) path =
      if lesson.concerns path then some lesson else latest? lessons path := by
  simp only [latest?, List.filter_append]
  split <;> rename_i concerned <;> simp [concerned]

theorem concerns_of_latest {lessons : List Lesson} {lesson : Lesson} {path : ServerPath}
    (latest : latest? lessons path = some lesson) : lesson.concerns path :=
  (List.mem_filter.mp (List.mem_of_getLast? latest)).2

def ofReading? (path : ServerPath) : Except CoordinationError (Option Holder) → Option Lesson
  | .ok (some holder) => some (.held path holder)
  | .ok none => some (.free path)
  | .error (.malformedLock _ _) => some (.malformed path)
  | .error _ => none

end Lesson

variable {σ : Type}

def Pass.lesson? (service : Coordinator σ) (space : σ) : Stage → Option Lesson
  | .listing => (service.list space).1.toOption.map .listed
  | .reading path _ => Lesson.ofReading? path (service.readLock path space).1
  | _ => none

def Turns.lesson? (service : Coordinator σ) (turns : Turns σ) : Turns.Move → Option Lesson
  | .ask _ =>
    match turns.current with
    | some (_, .pass pass) => Pass.lesson? service turns.space pass.stage
    | _ => none
  | .enter =>
    match turns.current, turns.waiting with
    | none, (_, .evict i) :: _ => (turns.roster.pathOf? i).map .evicted
    | _, _ => none
  | _ => none

structure History (σ : Type) where
  turns : Turns σ
  lessons : List Lesson

namespace History

def start (grace : Nat) (space : σ) : History σ :=
  ⟨.start (.empty grace) space, []⟩

def move? (service : Coordinator σ) (history : History σ) : Journal.Move σ → Option (History σ)
  | .turn move =>
    (history.turns.move? service move).map fun next =>
      ⟨next, history.lessons ++ (history.turns.lesson? service move).toList⟩
  | .cancel ticket => some { history with turns := history.turns.cancel ticket }
  | .outside change =>
    some { history with turns := { history.turns with space := change history.turns.space } }

def run (service : Coordinator σ) (moves : List (Journal.Move σ)) (history : History σ) :
    History σ :=
  moves.foldl (fun history move => (history.move? service move).getD history) history

end History

/-- The roster knows of every path what was last learnt about it. -/
structure Roster.Recalls (roster : Roster) (lessons : List Lesson) : Prop where
  members : ∀ path : ServerPath,
    roster.members[path]? = (Lesson.latest? lessons path).bind Lesson.member?
  stale : ∀ (path : ServerPath) (since : Nat), roster.stale.firstSeen[path]? = some since →
    ∃ lesson, Lesson.latest? lessons path = some lesson ∧ lesson.Unheld

namespace Roster.Recalls

variable {roster after : Roster} {lessons : List Lesson} {lesson : Lesson}

theorem apart (recalls : roster.Recalls lessons) {path : ServerPath} {member : Member}
    (stands : roster.members[path]? = some member) : roster.stale.firstSeen[path]? = none := by
  cases running : roster.stale.firstSeen[path]? with
  | none => rfl
  | some since =>
    obtain ⟨lesson, latest, unheld⟩ := recalls.stale path since running
    rw [recalls.members, latest, Option.bind_some, Lesson.member_of_unheld unheld] at stands
    cases stands

theorem still (recalls : roster.Recalls lessons) (members : after.members = roster.members)
    (stale : ∀ (path : ServerPath) (since : Nat), after.stale.firstSeen[path]? = some since →
      roster.stale.firstSeen[path]? = some since) : after.Recalls lessons :=
  ⟨fun path => members ▸ recalls.members path,
    fun path since running => recalls.stale path since (stale path since running)⟩

theorem learn (recalls : roster.Recalls lessons)
    (members : ∀ path : ServerPath, after.members[path]? =
      if lesson.concerns path then lesson.member? else roster.members[path]?)
    (stale : ∀ (path : ServerPath) (since : Nat), after.stale.firstSeen[path]? = some since →
      if lesson.concerns path then lesson.Unheld
      else roster.stale.firstSeen[path]? = some since) :
    after.Recalls (lessons ++ [lesson]) := by
  constructor
  · intro path
    rw [members, Lesson.latest_append]
    split
    · rfl
    · exact recalls.members path
  · intro path since running
    have stale := stale path since running
    rw [Lesson.latest_append]
    split at stale
    · rename_i concerned
      exact ⟨lesson, if_pos concerned, stale⟩
    · rename_i other
      rw [if_neg other]
      exact recalls.stale path since stale

end Roster.Recalls

namespace Pass

variable {service : Coordinator σ} {now : Nat} {work : Work} {space after : σ} {stage : Stage}
  {next : Stage × Work} {lessons : List Lesson} {path : ServerPath}

theorem running_reclaim {later : Option (List ServerPath)} {other : ServerPath} {since : Nat}
    (running : (reclaim now path later work).2.roster.stale.firstSeen[other]? = some since) :
    other = path ∨ work.roster.stale.firstSeen[other]? = some since := by
  by_cases due : work.roster.stale.Due now path
  · rw [reclaim_due due] at running
    exact .inr running
  · rw [reclaim_undue due] at running
    simp only [Work.observe, StalePaths.getElem_observe] at running
    split at running
    · rename_i same
      exact .inl same
    · exact .inr running

theorem running_unlocked {later : Option (List ServerPath)} {other : ServerPath} {since : Nat}
    (running : (unlocked now path later work).2.roster.stale.firstSeen[other]? = some since) :
    other = path ∨ work.roster.stale.firstSeen[other]? = some since := by
  rw [← Work.stale_lose work path]
  unfold unlocked at running
  split at running
  · exact running_reclaim running
  · exact .inr running

theorem running_forget {stale : StalePaths} {other : ServerPath} {since : Nat}
    (running : (stale.forget path).firstSeen[other]? = some since) :
    other ≠ path ∧ stale.firstSeen[other]? = some since := by
  rw [StalePaths.getElem_forget] at running
  split at running
  · cases running
  · rename_i different
    exact ⟨different, running⟩

/-- A pass asks whether a path is there only while its latest lesson is a lock without a holder. -/
def Grounded (lessons : List Lesson) (stage : Stage) : Prop :=
  ∀ path, stage = .probing path →
    ∃ lesson, Lesson.latest? lessons path = some lesson ∧ lesson.Unheld

theorem grounded_proceed (lessons : List Lesson) (later : Option (List ServerPath)) :
    Grounded lessons (proceed later) := by
  unfold proceed
  split <;> nofun

theorem grounded_reclaim (lessons : List Lesson) (later : Option (List ServerPath)) :
    Grounded lessons (reclaim now path later work).1 := by
  obtain ⟨_, next | next⟩ := reclaim_same now path later work <;> rw [next]
  · nofun
  · exact grounded_proceed lessons later

theorem recalls_unlocked (recalls : work.roster.Recalls lessons)
    (later : Option (List ServerPath)) {lesson : Lesson}
    (about : ∀ other, lesson.concerns other = decide (path = other)) (unheld : lesson.Unheld) :
    (unlocked now path later work).2.roster.Recalls (lessons ++ [lesson]) ∧
      Grounded (lessons ++ [lesson]) (unlocked now path later work).1 := by
  obtain ⟨same, next⟩ := unlocked_visit now path later work
  constructor
  · refine recalls.learn ?_ ?_
    · intro other
      rw [same.members, about, Lesson.member_of_unheld unheld]
      by_cases equal : path = other
      · subst equal
        simpa using Work.lose_at work path
      · simpa [equal] using (Work.lose_visit work path).others (Ne.symm equal)
    · intro other since running
      rw [about]
      by_cases equal : path = other
      · simpa [equal] using unheld
      · simpa [equal] using (running_unlocked running).resolve_left (Ne.symm equal)
  · rcases next with next | next | ⟨_, next⟩ <;> rw [next]
    · nofun
    · exact grounded_proceed _ later
    · intro other probed
      cases probed
      exact ⟨lesson, by rw [Lesson.latest_append, about]; simp, unheld⟩

theorem recalls_asked (recalls : work.roster.Recalls lessons) (connected : work.roster.Connected)
    (grounded : Grounded lessons stage) (asked : Asked service now work space after stage next) :
    next.2.roster.Recalls (lessons ++ (lesson? service space stage).toList) ∧
      Grounded (lessons ++ (lesson? service space stage).toList) next.1 := by
  cases asked with
  | unlisted error answer =>
    simp only [lesson?, answer, Except.toOption, Option.map_none, Option.toList_none,
      List.append_nil]
    exact ⟨recalls, nofun⟩
  | listed listed answer =>
    simp only [lesson?, answer, Except.toOption, Option.map_some, Option.toList_some]
    refine ⟨recalls.learn ?_ ?_, grounded_proceed _ _⟩
    · intro path
      rw [Work.keepListed_at]
      cases shown : listed.contains path <;> simp [Lesson.concerns, Lesson.member?, shown]
    · intro path since running
      rw [Work.stale_keepListed, StalePaths.getElem_retain] at running
      split at running
      · rename_i shown
        simpa [Lesson.concerns, shown] using running
      · cases running
  | unread path later error answer legible =>
    have nothing : lesson? service space (.reading path later) = none := by
      cases error with
      | malformedLock key fault => exact absurd rfl (legible key fault)
      | _ => simp [lesson?, answer, Lesson.ofReading?]
    simp only [nothing, Option.toList_none, List.append_nil]
    exact ⟨recalls, nofun⟩
  | free path later found answer unheld =>
    rcases unheld with rfl | ⟨key, fault, rfl⟩ <;>
      simp only [lesson?, answer, Lesson.ofReading?, Option.toList_some]
    · exact recalls_unlocked recalls later (fun _ => rfl) trivial
    · exact recalls_unlocked recalls later (fun _ => rfl) trivial
  | held path later holder answer =>
    simp only [lesson?, answer, Lesson.ofReading?, Option.toList_some]
    refine ⟨recalls.learn ?_ ?_, grounded_proceed _ _⟩
    · intro other
      by_cases same : path = other
      · subst same
        rw [Work.hold_next, Member.next_connected connected]
        simp [Lesson.concerns, Lesson.member?]
      · simpa [Lesson.concerns, same] using
          (Work.hold_visit work path holder).others (Ne.symm same)
    · intro other since running
      rw [Work.stale_hold] at running
      obtain ⟨different, ran⟩ := running_forget running
      simpa [Lesson.concerns, Ne.symm different] using ran
  | there path answer =>
    simp only [lesson?, Option.toList_none, List.append_nil]
    refine ⟨⟨?_, ?_⟩, grounded_reclaim _ _⟩
    · intro other
      rw [(reclaim_same now path none work).1.members]
      exact recalls.members other
    · intro other since running
      rcases running_reclaim running with rfl | ran
      · exact grounded other rfl
      · exact recalls.stale other since ran
  | gone path answer =>
    simp only [lesson?, Option.toList_none, List.append_nil]
    exact ⟨recalls.still rfl fun other since running => (running_forget running).2, nofun⟩
  | deleted path later outcome answer settles =>
    simp only [lesson?, Option.toList_none, List.append_nil]
    exact ⟨recalls.still rfl fun other since running => (running_forget running).2,
      grounded_proceed _ _⟩
  | unprobed path error answer =>
    simp only [lesson?, Option.toList_none, List.append_nil]
    exact ⟨recalls, nofun⟩
  | undeleted path later error answer unsettled =>
    simp only [lesson?, Option.toList_none, List.append_nil]
    exact ⟨recalls, nofun⟩

end Pass

namespace History

variable {service : Coordinator σ} {grace : Nat} {history next : History σ}

structure Sound (service : Coordinator σ) (grace : Nat) (history : History σ) : Prop where
  reachable : history.turns.Reachable service grace
  recalls : history.turns.roster.Recalls history.lessons
  grounded : ∀ ticket stage delta, history.turns.current = some (ticket, .pass ⟨stage, delta⟩) →
    Pass.Grounded history.lessons stage

theorem sound_start (service : Coordinator σ) (grace : Nat) (space : σ) :
    (start grace space).Sound service grace := by
  refine ⟨.started space, ⟨?_, ?_⟩, nofun⟩
  · simp [start, Turns.start, Roster.empty, Lesson.latest?]
  · simp [start, Turns.start, Roster.empty, StalePaths.empty]

theorem Sound.still (sound : history.Sound service grace) {turns : Turns σ}
    (reachable : turns.Reachable service grace) (recalls : turns.roster.Recalls history.lessons)
    (current : ∀ ticket pass, turns.current = some (ticket, .pass pass) →
      history.turns.current = some (ticket, .pass pass)) :
    Sound service grace ⟨turns, history.lessons⟩ :=
  ⟨reachable, recalls, fun ticket stage delta at_work =>
    sound.grounded ticket stage delta (current ticket _ at_work)⟩

theorem Sound.silent (sound : history.Sound service grace) {move : Turns.Move} {turns : Turns σ}
    (moved : history.turns.move? service move = some turns)
    (nothing : history.turns.lesson? service move = none)
    (recalls : turns.roster.Recalls history.lessons)
    (current : ∀ ticket pass, turns.current = some (ticket, .pass pass) →
      history.turns.current = some (ticket, .pass pass)) :
    Sound service grace
      ⟨turns, history.lessons ++ (history.turns.lesson? service move).toList⟩ := by
  rw [nothing, Option.toList_none, List.append_nil]
  exact sound.still (sound.reachable.moved moved) recalls current

theorem sound_enter (sound : history.Sound service grace) {turns : Turns σ}
    (moved : history.turns.move? service .enter = some turns) :
    Sound service grace
      ⟨turns, history.lessons ++ (history.turns.lesson? service .enter).toList⟩ := by
  have reachable := sound.reachable.moved moved
  have recalls := sound.recalls
  cases Turns.step_of_move moved with
  | begun ticket job rest pass idle first asks =>
    have nothing : history.turns.lesson? service .enter = none := by
      cases job <;> cases asks <;> simp [Turns.lesson?, idle, first]
    have fresh : ∀ path, pass.stage ≠ .probing path := by
      cases job <;> cases asks <;> nofun
    rw [nothing, Option.toList_none, List.append_nil]
    refine ⟨reachable, recalls, ?_⟩
    intro holder stage delta current path probed
    cases current
    exact absurd probed (fresh path)
  | evicting ticket i path rest idle first found =>
    have evicted : history.turns.lesson? service .enter = some (.evicted path) := by
      simp [Turns.lesson?, idle, first, found]
    rw [evicted, Option.toList_some]
    refine ⟨reachable, recalls.learn ?_ ?_, by simp⟩
    · intro other
      simp [Roster.drop, Std.ExtTreeMap.getElem?_erase, Lesson.concerns, Lesson.member?]
    · intro other since running
      have running : history.turns.roster.stale.firstSeen[other]? = some since := running
      by_cases same : path = other
      · subst same
        obtain ⟨member, stands, _⟩ := Roster.member_of_pathOf found
        rw [recalls.apart stands] at running
        cases running
      · simpa [Lesson.concerns, same] using running
  | unknown ticket i rest idle first absent =>
    exact sound.silent moved (by simp [Turns.lesson?, idle, first, absent]) recalls
      (by simp [Turns.finish])
  | read ticket rest idle first =>
    refine sound.silent moved (by simp [Turns.lesson?, idle, first]) (recalls.still ?_ ?_)
      (by simp [Turns.finish])
    · exact Roster.snapshot_members history.turns.roster
    · intro path since running
      have same : history.turns.roster.snapshot.2.stale = history.turns.roster.stale := by
        unfold Roster.snapshot
        split <;> rfl
      exact same ▸ running
  | sought ticket lookup rest idle first =>
    exact sound.silent moved (by simp [Turns.lesson?, idle, first]) recalls (by simp [Turns.finish])

theorem sound_ask (sound : history.Sound service grace) {time : Nat} {turns : Turns σ}
    (moved : history.turns.move? service (.ask time) = some turns) :
    Sound service grace
      ⟨turns, history.lessons ++ (history.turns.lesson? service (.ask time)).toList⟩ := by
  have recalls := sound.recalls
  cases Turns.step_of_move moved with
  | told _ ticket failure delta current =>
    exact sound.silent moved (by simp [Turns.lesson?, current, Pass.lesson?]) recalls (by simp)
  | asked _ ticket stage delta next after current asked =>
    obtain ⟨kept, further⟩ := Pass.recalls_asked recalls sound.reachable.connected
      (sound.grounded ticket stage delta current) asked
    have same : history.turns.lesson? service (.ask time) =
        Pass.lesson? service history.turns.space stage := by
      simp [Turns.lesson?, current]
    rw [same]
    refine ⟨sound.reachable.moved moved, kept, ?_⟩
    intro holder other changes at_work
    cases at_work
    exact further
  | cleared _ ticket i path target after current answer =>
    exact sound.silent moved (by simp [Turns.lesson?, current])
      (recalls.still rfl fun other since running => (Pass.running_forget running).2)
      (by simp [Turns.finish])
  | located _ ticket i path target listed after current answer unique =>
    exact sound.silent moved (by simp [Turns.lesson?, current]) recalls (by simp)
  | unlisted _ ticket i path error after current answer =>
    exact sound.silent moved (by simp [Turns.lesson?, current]) recalls (by simp [Turns.finish])
  | ambiguous _ ticket i path listed after current answer several =>
    exact sound.silent moved (by simp [Turns.lesson?, current]) recalls (by simp [Turns.finish])
  | uncleared _ ticket i path target error after current answer =>
    exact sound.silent moved (by simp [Turns.lesson?, current]) recalls (by simp [Turns.finish])

theorem sound_move (sound : history.Sound service grace) {move : Journal.Move σ}
    (moved : history.move? service move = some next) : next.Sound service grace := by
  cases move with
  | turn move =>
    obtain ⟨turns, stepped, rfl⟩ := Option.map_eq_some_iff.mp moved
    cases move with
    | ask time => exact sound_ask sound stepped
    | enter => exact sound_enter sound stepped
    | come job =>
      refine sound.silent stepped rfl ?_ ?_ <;> cases Turns.step_of_move stepped
      · exact sound.recalls
      · exact sound.recalls
      · exact fun _ _ current => current
      · exact fun _ _ current => current
    | leave =>
      refine sound.silent stepped rfl ?_ ?_ <;> cases Turns.step_of_move stepped
      · exact sound.recalls
      · nofun
    | collect ticket =>
      refine sound.silent stepped rfl ?_ ?_ <;> cases Turns.step_of_move stepped
      · exact sound.recalls
      · exact fun _ _ current => current
  | cancel ticket =>
    cases moved
    exact sound.still (sound.reachable.cancelled ticket) sound.recalls
      fun _ _ current => Turns.current_cancel current
  | outside change =>
    cases moved
    exact sound.still (sound.reachable.changed change) sound.recalls fun _ _ current => current

theorem sound_run (service : Coordinator σ) (grace : Nat) (moves : List (Journal.Move σ))
    (sound : history.Sound service grace) : (history.run service moves).Sound service grace :=
  kept_by_moves (fun _ sound moved => sound_move sound moved) (fun _ _ => trivial) sound

/-- However the service answers, and wherever a pass or an eviction stops: no path is both a
member and stale, a path is a member exactly if the latest about it is a reading that gave a
holder, which is then the member, and a path is stale only if the latest about it is a reading
that gave none. -/
theorem known_as_learnt (service : Coordinator σ) (grace : Nat) (space : σ)
    (moves : List (Journal.Move σ)) (path : ServerPath) :
    let history := run service moves (start grace space)
    let roster := history.turns.roster
    let latest := Lesson.latest? history.lessons path
    ¬ (path ∈ roster.members ∧ roster.stale.contains path) ∧
      (∀ member, roster.members[path]? = some member ↔
        ∃ holder, latest = some (.held path holder) ∧ member.server = holder.instance ∧
          member.connection.address = holder.instance.address ∧ member.group = holder.group) ∧
      (roster.stale.contains path →
        latest = some (.free path) ∨ latest = some (.malformed path)) := by
  intro history roster latest
  have sound := sound_run service grace moves (sound_start service grace space)
  have members : roster.members[path]? = latest.bind Lesson.member? := sound.recalls.members path
  have stale : roster.stale.contains path →
      latest = some (.free path) ∨ latest = some (.malformed path) := by
    intro tracked
    obtain ⟨since, running⟩ := Option.isSome_iff_exists.mp
      (Std.ExtTreeMap.contains_eq_isSome_getElem?.symm.trans tracked)
    obtain ⟨lesson, known, unheld⟩ := sound.recalls.stale path since running
    have about := Lesson.concerns_of_latest known
    cases lesson with
    | free other =>
      rw [Lesson.concerns, decide_eq_true_eq] at about
      exact .inl (about ▸ known)
    | malformed other =>
      rw [Lesson.concerns, decide_eq_true_eq] at about
      exact .inr (about ▸ known)
    | _ => cases unheld
  refine ⟨?_, ?_, stale⟩
  · rintro ⟨stands, tracked⟩
    obtain ⟨member, stands⟩ := Option.isSome_iff_exists.mp
      (Std.ExtTreeMap.mem_iff_isSome_getElem?.mp stands)
    have still := sound.recalls.apart stands
    rw [StalePaths.contains, Std.ExtTreeMap.contains_eq_isSome_getElem?, still] at tracked
    cases tracked
  · intro member
    rw [members, Option.bind_eq_some_iff]
    constructor
    · rintro ⟨lesson, known, same⟩
      have about := Lesson.concerns_of_latest known
      cases lesson with
      | held other holder =>
        rw [Lesson.concerns, decide_eq_true_eq] at about
        cases same
        exact ⟨holder, about ▸ known, rfl, rfl, rfl⟩
      | _ => cases same
    · rintro ⟨holder, known, server, connection, group⟩
      obtain ⟨i, ⟨address⟩, name⟩ := member
      cases server
      cases connection
      cases group
      exact ⟨_, known, rfl⟩

-- an eviction that is given up before it asks where the keys are has evicted its member
example :
    let history := run (Namespace.coordinator ⟨"/t"⟩) [
      .outside fun space => space.acquireLock ⟨"/t"⟩ (.sample "a") ⟨⟨"a", 1⟩, "g"⟩ "s",
      .turn (.come .scan), .turn .enter, .turn (.ask 0), .turn (.ask 0), .turn (.ask 0),
      .turn .leave, .turn (.come (.evict ⟨⟨"a", 1⟩, "s"⟩)), .turn .enter, .cancel 1]
      (start 3 .empty)
    history.lessons.length = 3 ∧ history.turns.roster.members.isEmpty := by
  decide +kernel

end History
end TabletRoster
