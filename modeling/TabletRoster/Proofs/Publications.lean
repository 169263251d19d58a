import TabletRoster.Proofs.Finding
import TabletRoster.Proofs.Rereading
import TabletRoster.Proofs.Scans
import TabletRoster.Proofs.Spellings

/-!
Locks that are published. A ticket passes through the text of its address, the bytes of its entry
and the key of its session, and is read back unchanged. A server that has locked its path is there
for everybody who asks, and a scan makes it a member.
-/
namespace TabletRoster

namespace Namespace

variable {layout : Layout} {path : ServerPath} {session : String} {node : Node}
  {space after : Namespace}

/-! ### The only entry of a lock -/

structure Sole (layout : Layout) (path : ServerPath) (session : String) (node : Node)
    (space : Namespace) : Prop where
  there : space.nodes[layout.lockKey path session]? = some node
  alone : ∀ key ∈ space.nodes, startsWith (layout.lockStem path) key →
    key = layout.lockKey path session

theorem sole_acquireLock (unlocked : space.below (layout.lockStem path) = []) (ticket : Ticket)
    (session : String) : Sole layout path session
      ⟨ticket.encode, some session, space.revision + 1⟩
      (space.acquireLock layout path ticket session) := by
  have nodes (key : String) : (space.acquireLock layout path ticket session).nodes[key]? =
      if key = layout.lockKey path session then
        some ⟨ticket.encode, some session, space.revision + 1⟩
      else space.nodes[key]? := by
    cases put_edited (layout.lockKey path session) ticket.encode (some session) space with
    | wrote _ _ _ _ revision nodes => exact nodes key
  refine ⟨by rw [nodes, if_pos rfl], fun key there starts => ?_⟩
  rw [Std.ExtTreeMap.mem_iff_isSome_getElem?, nodes] at there
  split at there
  · assumption
  · obtain ⟨node, found⟩ := Option.isSome_iff_exists.mp there
    have entry := mem_below.mpr ⟨found, starts⟩
    rw [unlocked] at entry
    cases entry

theorem Sole.entry (sole : Sole layout path session node space) {entry : String × Node}
    (below : entry ∈ space.below (layout.lockStem path)) :
    entry = (layout.lockKey path session, node) := by
  obtain ⟨key, other⟩ := entry
  obtain ⟨found, starts⟩ := mem_below.mp below
  have there : key ∈ space.nodes := Std.ExtTreeMap.mem_iff_isSome_getElem?.mpr (by simp [found])
  obtain rfl := sole.alone key there starts
  rw [sole.there] at found
  cases found
  rfl

theorem Sole.holder (sole : Sole layout path session node space) :
    space.holder? layout path = some (layout.lockKey path session, node) := by
  have entry : (layout.lockKey path session, node) ∈ space.below (layout.lockStem path) :=
    mem_below.mpr ⟨sole.there, layout.lockStem_lockKey path session⟩
  obtain ⟨first, found⟩ := oldest_exists _ entry
  rw [holder?, found, sole.entry (oldest_mem found)]

theorem Sole.contained (sole : Sole layout path session node space) :
    space.containsServer layout path = true := by
  have entry := mem_below.mpr
    ⟨sole.there, Layout.below_of_lockStem (layout.lockStem_lockKey path session)⟩
  simp [containsServer, List.ne_nil_of_mem entry]

theorem Sole.released (sole : Sole layout path session node space) :
    (space.releaseLock layout path session).readLock layout path = .ok none := by
  have nothing : (space.releaseLock layout path session).below (layout.lockStem path) = [] := by
    refine List.eq_nil_iff_forall_not_mem.mpr fun ⟨key, other⟩ below => ?_
    obtain ⟨found, starts⟩ := mem_below.mp below
    rw [releaseLock, getElem_remove] at found
    split at found
    · cases found
    · rename_i different
      have entry := sole.entry (mem_below.mpr ⟨found, starts⟩)
      exact different (congrArg Prod.fst entry)
  rw [readLock, holder?, nothing]
  rfl

theorem Sole.scanned {now : Nat} {roster last : Roster}
    (sole : Sole layout path session node space)
    (scanned : Roster.Scanned layout now roster space last after) :
    Sole layout path session node after := by
  exact ⟨(scanned.entry path session).trans sole.there, fun key there =>
    sole.alone key (scanned.fewer key there)⟩

theorem Sole.read {ticket : Ticket} {revision : Nat} (named : ticket.address.host ≠ "")
    (plain : ':' ∉ ticket.address.host.toList → ¬ Address.Bracketed ticket.address.host.toList)
    (sole : Sole layout path session ⟨ticket.encode, some session, revision⟩ space) :
    space.readLock layout path =
      .ok (some ⟨ticket.address, ticket.group, session, revision⟩) := by
  have decoded : Ticket.decode ticket.encode = .ok ticket := by
    rw [Ticket.decode_encode, Address.parse_text named plain]
  simp only [readLock, sole.holder, decoded]
  rfl

/-! ### What is seen of a lock -/

/-- The holder of a lock is seen by all who ask, until its session releases the lock. -/
structure Published (layout : Layout) (path : ServerPath) (holder : Holder) (space : Namespace) :
    Prop where
  read : (coordinator layout).readLock path space = (.ok (some holder), space)
  contained : (coordinator layout).contains path space = (.ok true, space)
  listed : ∃ listed, (coordinator layout).list space = (.ok listed, space) ∧ path ∈ listed
  freed : (coordinator layout).readLock path (space.releaseLock layout path holder.session) =
    (.ok none, space.releaseLock layout path holder.session)

structure Withheld (layout : Layout) (path : ServerPath) (space : Namespace) : Prop where
  read : ∃ reason, (coordinator layout).readLock path space = (.error (.unavailable reason), space)
  contained : ∃ reason,
    (coordinator layout).contains path space = (.error (.unavailable reason), space)
  listed : ∃ reason, (coordinator layout).list space = (.error (.unavailable reason), space)

structure Joined (path : ServerPath) (holder : Holder) (roster : Roster) : Prop where
  member : roster.members[path]? = some ⟨holder.instance, ⟨holder.address⟩, holder.group⟩
  known : roster.snapshot.1.2.contains holder.instance = true
  grouped : (∀ other, other ≠ path → roster.members.server? other ≠ some holder.instance) →
    roster.groupOf? holder.instance = some holder.group

/-- What a scan comes to after a lock was published: the holder joins, unless deletions fail and
the scan has come to an expired path. -/
inductive Surveyed (layout : Layout) (path : ServerPath) (holder : Holder) (now : Nat)
    (turns : Turns Namespace) : Option CoordinationError → Turns Namespace → Prop where
  | joined (after : Turns Namespace) (joined : Joined path holder after.roster)
      (published : Published layout path holder after.space) :
      Surveyed layout path holder now turns none after
  | failed (error : CoordinationError) (after : Turns Namespace) (other : ServerPath)
      (failing : turns.space.failDeletes = true) (listed : other ∈ turns.space.servers layout)
      (due : turns.roster.stale.Due now other) :
      Surveyed layout path holder now turns (some error) after

theorem readLock_online (online : space.offline = false) (path : ServerPath) :
    (coordinator layout).readLock path space = (space.readLock layout path, space) :=
  Keys.asking_online online fun space => space.readLock layout path

theorem asking_offline {α : Type} (offline : space.offline = true)
    (question : Namespace → Except CoordinationError α) :
    ∃ reason, asking layout question space = (.error (.unavailable reason), space) := by
  simp [asking, checkOnline, offline, bind, Except.bind]

theorem withheld_of_offline (offline : space.offline = true) : Withheld layout path space where
  read := asking_offline offline fun space => space.readLock layout path
  contained := asking_offline offline fun space => .ok (space.containsServer layout path)
  listed := asking_offline offline fun space => .ok (space.servers layout)

theorem Sole.published {holder : Holder} (formed : path.WellFormed) (online : space.offline = false)
    (sole : Sole layout path holder.session node space)
    (held : space.readLock layout path = .ok (some holder)) :
    Published layout path holder space where
  read := by rw [readLock_online online, held]
  contained := by rw [contains_online online, sole.contained]
  listed := ⟨_, list_online online, listed_of_held formed held⟩
  freed := by
    have switch : (space.releaseLock layout path holder.session).offline = space.offline :=
      (Keys.remove_switches _ space).1
    rw [readLock_online (switch.trans online), sole.released]

theorem joined_of_member {roster : Roster} {holder : Holder} (faithful : roster.Faithful)
    (member : roster.members[path]? = some (.of holder)) : Joined path holder roster := by
  have stands : roster.members.server? path = some holder.instance := by
    rw [Members.server?, member]
    rfl
  refine ⟨member, ?_, fun alone => ?_⟩
  · rw [faithful.snapshot_eq]
    exact (Snapshot.known_build roster.members holder.instance).1.mpr ⟨path, stands⟩
  · obtain ⟨place, other, there, same, grouped⟩ := faithful.grouped stands
    have here : place = path := Decidable.byContradiction fun elsewhere =>
      alone place elsewhere (by rw [Members.server?, there, ← same]; rfl)
    rw [here, member] at there
    cases there
    exact grouped

/-- A scan by a roster at rest ends, and finds the holder of the only entry of a lock. -/
theorem Sole.surveyed {holder : Holder} {turns : Turns Namespace} {grace : Nat}
    (formed : path.WellFormed) (online : turns.space.offline = false)
    (sole : Sole layout path holder.session node turns.space)
    (held : turns.space.readLock layout path = .ok (some holder))
    (reachable : turns.Reachable (coordinator layout) grace) (resting : turns.Resting)
    (now fuel : Nat) (enough : 3 * (turns.space.servers layout).size + 4 ≤ fuel) :
    ∃ failure told after, turns.perform (coordinator layout) now fuel .scan =
        (some (.pass (Turns.verdict told failure)), after) ∧
      Surveyed layout path holder now turns failure after := by
  obtain ⟨failure, work, final, ends, performed⟩ :=
    Turns.performs_scan resting reachable.orderly online now fuel enough
  have next := reachable.performed now fuel .scan
  rw [performed] at next
  refine ⟨failure, work.delta, _, performed, ?_⟩
  rcases ends.scanned with ⟨rfl, scanned⟩ | ⟨failed, obstructed⟩
  · have member := scanned.member reachable.connected path
    rw [if_pos (listed_of_held formed held), member_of_held held] at member
    -- the scan has left the lock's entries alone, so the lock is published as before
    exact .joined _ (joined_of_member next.faithful member) ((sole.scanned scanned).published formed
      (scanned.switches.1.trans online) ((scanned.locks path).trans held))
  · obtain ⟨error, rfl⟩ := Option.isSome_iff_exists.mp failed
    rcases obstructed with offline | ⟨failing, other, listed, doomed⟩
    · rw [online] at offline
      cases offline
    · exact .failed error _ other failing (Std.ExtTreeSet.mem_toList.mp listed) doomed.due

/-- Whatever the group and the session are called, and whatever the host is, if it can be told from
one in brackets: a lock that is acquired while it has no entry is read back with the address, the
group and the session that were written, until the session releases it. A roster that was at rest
finds the holder with its next scan. While the service is offline nobody is told anything. -/
theorem acquired_lock_read_back (layout : Layout) {path : ServerPath} (formed : path.WellFormed)
    {ticket : Ticket} (named : ticket.address.host ≠ "")
    (plain : ':' ∉ ticket.address.host.toList → ¬ Address.Bracketed ticket.address.host.toList)
    (session : String) {space : Namespace} (unlocked : space.below (layout.lockStem path) = []) :
    let locked := space.acquireLock layout path ticket session
    let holder : Holder := ⟨ticket.address, ticket.group, session, space.revision + 1⟩
    (space.offline = true → Withheld layout path locked) ∧
    (space.offline = false → Published layout path holder locked ∧
      ∀ (grace : Nat) (turns : Turns Namespace), turns.Reachable (coordinator layout) grace →
        turns.Resting → turns.space = space → ∀ now fuel,
          3 * (locked.servers layout).size + 4 ≤ fuel → ∃ failure told after,
            Turns.perform (coordinator layout) now fuel .scan { turns with space := locked } =
              (some (.pass (Turns.verdict told failure)), after) ∧
            Surveyed layout path holder now { turns with space := locked } failure after) := by
  intro locked holder
  have sole : Sole layout path holder.session _ locked := sole_acquireLock unlocked ticket session
  have held : locked.readLock layout path = .ok (some holder) := sole.read named plain
  refine ⟨fun offline => withheld_of_offline offline, fun online => ?_⟩
  refine ⟨sole.published formed online held, ?_⟩
  intro grace turns reachable resting same now fuel enough
  have changed := reachable.changed fun space => space.acquireLock layout path ticket session
  rw [same] at changed
  exact sole.surveyed formed online held changed ⟨resting.idle, resting.alone⟩ now fuel enough

def awaited : Namespace :=
  (empty.createServer ⟨"/t"⟩ (.sample "h")).acquireLock ⟨"/t"⟩ (.sample "k") ⟨⟨"k", 1⟩, "g"⟩ "s"

theorem acquired_lock_read_back_quoted :
    let ticket : Ticket := ⟨⟨"[a:b]", 9⟩, "\"é\\\n𝔘"⟩
    let locked := awaited.acquireLock ⟨"/t"⟩ (.sample "h") ticket "s/1"
    ∃ told after, Turns.perform (coordinator ⟨"/t"⟩) 5 20 .scan (Turns.start (.empty 3) locked) =
        (some (.pass (.ok told)), after) ∧
      after.roster.members[ServerPath.sample "h"]? =
        some ⟨⟨⟨"[a:b]", 9⟩, "s/1"⟩, ⟨⟨"[a:b]", 9⟩⟩, "\"é\\\n𝔘"⟩ ∧
      Published ⟨"/t"⟩ (.sample "h") ⟨⟨"[a:b]", 9⟩, "\"é\\\n𝔘", "s/1", 3⟩ after.space := by
  intro ticket locked
  have formed : (ServerPath.sample "h").WellFormed :=
    ServerPath.sample_formed (by decide) (by decide)
  have unlocked : awaited.below (Layout.lockStem ⟨"/t"⟩ (.sample "h")) = [] := by decide +kernel
  have small : 3 * (locked.servers ⟨"/t"⟩).size + 4 ≤ 20 := by decide +kernel
  obtain ⟨_, online⟩ := @acquired_lock_read_back ⟨"/t"⟩ _ formed ticket (by decide)
    (fun bare => absurd (by decide) bare) "s/1" _ unlocked
  obtain ⟨_, scans⟩ := online rfl
  obtain ⟨failure, told, after, performed, outcome⟩ :=
    scans 3 (.start (.empty 3) awaited) (.started awaited) ⟨rfl, rfl⟩ rfl 5 20 small
  cases outcome with
  | joined _ joined published => exact ⟨told, after, performed, joined.member, published⟩
  | failed error _ other failing listed due => cases failing

end Namespace
end TabletRoster
