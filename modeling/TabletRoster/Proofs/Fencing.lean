import TabletRoster.Proofs.Stores
import TabletRoster.TabletServer

/-!
Fencing. A request is executed just if the key of its manager lock is there, whoever owns that key;
a request that is refused leaves the server as it was. So a manager is fenced off as long as its
key is gone, but no longer once somebody else holds the lock under the same key.
-/
namespace TabletRoster

def Rpc.Request.claiming (session : String) : Rpc.Request → Rpc.Request
  | .load lock extent => .load { lock with session := session } extent
  | .unload lock extent goal time => .unload { lock with session := session } extent goal time
  | .status lock => .status { lock with session := session }
  | .halt lock => .halt { lock with session := session }
  | .fastHalt lock => .fastHalt { lock with session := session }
  | .flush lock table startRow endRow =>
    .flush { lock with session := session } table startRow endRow

namespace TabletServer

variable {σ : Type} [Keys.Engine σ]

def Present (service : Keys.Service σ) (lock : Rpc.LockToken) : Prop :=
  service.answers = true ∧ Text.Utf8.encode lock.path ∈ service.entries

instance (service : Keys.Service σ) (lock : Rpc.LockToken) : Decidable (Present service lock) :=
  inferInstanceAs (Decidable (_ ∧ _))

/-- The key that the token names is owned by a lease, and the token's session is that lease's. -/
def Live (service : Keys.Service σ) (lock : Rpc.LockToken) : Prop :=
  service.answers = true ∧ ∃ entry,
    service.entries[Text.Utf8.encode lock.path]? = some entry ∧
      Keys.sessionOf entry.lease = lock.session

/-- The key that the token names is there, but under the lease of another session. -/
def Deposed (service : Keys.Service σ) (lock : Rpc.LockToken) : Prop :=
  service.answers = true ∧ ∃ entry,
    service.entries[Text.Utf8.encode lock.path]? = some entry ∧
      Keys.sessionOf entry.lease ≠ lock.session

variable {server : TabletServer} {service : Keys.Service σ} {lock : Rpc.LockToken} {now : Nat}
  {request : Rpc.Request}

theorem present_iff : Present service lock ↔ Live service lock ∨ Deposed service lock := by
  constructor
  · rintro ⟨answers, there⟩
    have found := Std.ExtTreeMap.getElem?_eq_some_getElem there
    by_cases same : Keys.sessionOf service.entries[Text.Utf8.encode lock.path].lease =
        lock.session
    · exact .inl ⟨answers, _, found, same⟩
    · exact .inr ⟨answers, _, found, same⟩
  · intro held
    obtain ⟨answers, entry, found, _⟩ | ⟨answers, entry, found, _⟩ := held
    all_goals exact ⟨answers, (Std.ExtTreeMap.getElem?_eq_some_iff.mp found).1⟩

theorem Deposed.not_live (deposed : Deposed service lock) : ¬ Live service lock := by
  intro live
  obtain ⟨_, entry, found, other⟩ := deposed
  obtain ⟨_, owner, same, own⟩ := live
  rw [found] at same
  cases same
  exact other own

def refusal (service : Keys.Service σ) (lock : Rpc.LockToken) : Refusal :=
  if service.answers then .notHeld lock.path else .store service.wording.outage

theorem checkLock_present (present : Present service lock) : checkLock service lock = .ok () := by
  obtain ⟨answers, there⟩ := present
  simp [checkLock, answers, there]

theorem checkLock_absent (absent : ¬ Present service lock) :
    checkLock service lock = .error (refusal service lock) := by
  unfold checkLock refusal
  by_cases answers : service.answers = true
  · have gone : Text.Utf8.encode lock.path ∉ service.entries :=
      fun there => absent ⟨answers, there⟩
    simp [answers, gone]
  · simp [answers]

theorem handle_present (present : Present service request.lock) :
    server.handle service now request = server.execute now request := by
  rw [handle, checkLock_present present]

theorem handle_absent (absent : ¬ Present service request.lock) :
    server.handle service now request =
      (.failed (refusal service request.lock).message, server) := by
  rw [handle, checkLock_absent absent]

theorem execute_answers (message : String) : (server.execute now request).1 ≠ .failed message := by
  intro failed
  cases request <;> cases failed

theorem handle_claiming (session : String) :
    server.handle service now (request.claiming session) = server.handle service now request := by
  cases request <;> rfl

/-- A request that arrives at some time, while the store holds what it holds. -/
structure Arrival (σ : Type) where
  service : Keys.Service σ
  now : Nat
  request : Rpc.Request

def serveAll (server : TabletServer) (arrivals : List (Arrival σ)) : TabletServer :=
  arrivals.foldl (fun server arrival =>
    (server.handle arrival.service arrival.now arrival.request).2) server

theorem serveAll_present (server : TabletServer) (arrivals : List (Arrival σ)) :
    server.serveAll arrivals =
      (arrivals.filter fun arrival => Present arrival.service arrival.request.lock).foldl
        (fun server arrival => (server.execute arrival.now arrival.request).2) server := by
  unfold serveAll
  induction arrivals generalizing server with
  | nil => rfl
  | cons arrival rest ih =>
    by_cases present : Present arrival.service arrival.request.lock
    · rw [List.filter_cons_of_pos (by simpa using present), List.foldl_cons, List.foldl_cons,
        handle_present present, ih]
    · rw [List.filter_cons_of_neg (by simpa using present), List.foldl_cons, handle_absent present,
        ih]

/-- The live holder is always served. All others are refused, and change nothing, except for those
whose key is there for another session: these are served like the holder. -/
theorem fenced_iff (server : TabletServer) (service : Keys.Service σ) (now : Nat)
    (request : Rpc.Request) (arrivals : List (Arrival σ)) :
    (Live service request.lock →
      server.handle service now request = server.execute now request) ∧
    ((¬ Live service request.lock → ∃ message,
        server.handle service now request = (.failed message, server)) ↔
      ¬ Deposed service request.lock) ∧
    (¬ Present service request.lock → server.handle service now request =
      (.failed (refusal service request.lock).message, server)) ∧
    (∀ session, server.handle service now (request.claiming session) =
      server.handle service now request) ∧
    server.serveAll arrivals =
      (arrivals.filter fun arrival => Present arrival.service arrival.request.lock).foldl
        (fun server arrival => (server.execute arrival.now arrival.request).2) server := by
  refine ⟨?_, ?_, handle_absent, handle_claiming, serveAll_present server arrivals⟩
  · intro live
    exact handle_present (present_iff.mpr (.inl live))
  · constructor
    · intro fenced deposed
      obtain ⟨message, refused⟩ := fenced deposed.not_live
      rw [handle_present (present_iff.mpr (.inr deposed))] at refused
      exact execute_answers message (congrArg Prod.fst refused)
    · intro owned stranger
      have absent : ¬ Present service request.lock := by
        intro present
        exact (present_iff.mp present).elim stranger owned
      exact ⟨_, handle_absent absent⟩

def taken : Keys.Service Keys.Store :=
  ⟨Keys.Store.empty.put (Text.Utf8.encode "/m") [] 7, true, false, .terse⟩

/-- A manager whose session is over loads a tablet while another one holds the lock. -/
theorem fenced_iff_deposed :
    Deposed taken ⟨"/m", "6"⟩ ∧
      ¬ (¬ Live taken ⟨"/m", "6"⟩ → ∃ message,
        (start ⟨"h", 1⟩).handle taken 0 (.load ⟨"/m", "6"⟩ ⟨"t", none, none⟩) =
          (.failed message, start ⟨"h", 1⟩)) ∧
      ((start ⟨"h", 1⟩).handle taken 0 (.load ⟨"/m", "6"⟩ ⟨"t", none, none⟩)).2.tablets =
        [⟨"t", none, none⟩] := by
  have deposed : Deposed taken ⟨"/m", "6"⟩ := by
    refine ⟨rfl, ⟨[], 7, 1, 1, 1⟩, ?_, ?_⟩
    · decide +kernel
    · decide +kernel
  obtain ⟨_, fenced, _⟩ := fenced_iff (start ⟨"h", 1⟩) taken 0
    (.load ⟨"/m", "6"⟩ ⟨"t", none, none⟩) []
  refine ⟨deposed, ?_, ?_⟩
  · intro refused
    exact fenced.mp refused deposed
  · decide +kernel

end TabletServer
end TabletRoster
