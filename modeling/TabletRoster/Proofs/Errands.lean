import TabletRoster.Management
import TabletRoster.Proofs.Lending

/-!
Errands: single management calls, whatever comes of them and whatever others do to the pool
meanwhile. A call goes out once at most, over a connection to its address, and only a call that has
run to its end can bring a client back.
-/
namespace TabletRoster

variable {ε κ : Type}

namespace Pool

variable {isOpen : κ → Bool} {now : Nat} {address : Address} {pool after : Pool κ}

def Led (leads : κ → Address) (pool : Pool κ) : Prop :=
  ∀ address, ∀ entry ∈ pool.idleOf address, leads entry.client = address

theorem Led.replaced {leads : κ → Address} {entries : List (Idle κ)} (led : pool.Led leads)
    (replaced : pool.Replaced address entries after)
    (own : ∀ entry ∈ entries, leads entry.client = address) : after.Led leads := by
  intro other entry member
  rw [replaced.idle] at member
  split at member
  · rename_i same
    rw [same]
    exact own entry member
  · exact led other entry member

theorem take_suffix {found : Option κ}
    (taken : pool.take isOpen now address = (found, after)) :
    after.idleOf address <:+ pool.idleOf address ∧
      pool.Replaced address (after.idleOf address) after := by
  have own {entries : List (Idle κ)} (replaced : pool.Replaced address entries after) :
      after.idleOf address = entries := by
    rw [replaced.idle, if_pos rfl]
  obtain ⟨above, entry, rest, _, stack, _, _, replaced, took⟩ | ⟨_, _, replaced, took⟩ :=
    pool.take_cases isOpen now address
  · cases taken.symm.trans took
    rw [own replaced, stack]
    exact ⟨(List.suffix_cons entry rest).trans (List.suffix_append ..), replaced⟩
  · cases taken.symm.trans took
    rw [own replaced]
    exact ⟨List.nil_suffix, replaced⟩

theorem take_some {client : κ} (taken : pool.take isOpen now address = (some client, after)) :
    ∃ entry ∈ pool.idleOf address, entry.client = client ∧
      pool.isFresh isOpen now entry = true := by
  obtain ⟨above, entry, rest, _, stack, _, fresh, _, took⟩ | ⟨_, _, _, took⟩ :=
    pool.take_cases isOpen now address
  · cases taken.symm.trans took
    exact ⟨entry, by simp [stack], rfl, fresh⟩
  · cases taken.symm.trans took

theorem kept (pool : Pool κ) (address : Address) :
    pool.Replaced address (pool.idleOf address) pool := by
  refine ⟨rfl, rfl, fun other => ?_⟩
  split
  · rename_i same
    rw [same]
  · rfl

theorem release_idle (isOpen : κ → Bool) (now : Nat) (address : Address) (client : κ)
    (pool : Pool κ) :
    pool.Replaced address
      (if isOpen client = true ∧ (pool.idleOf address).length < pool.maxIdle then
        ⟨client, now⟩ :: pool.idleOf address else pool.idleOf address)
      (pool.release isOpen now address client) := by
  cases room : isOpen client && decide ((pool.idleOf address).length < pool.maxIdle) with
  | true =>
    have both : isOpen client = true ∧ (pool.idleOf address).length < pool.maxIdle := by
      simpa using room
    rw [if_pos both]
    exact release_replaced room
  | false =>
    have short : ¬ (isOpen client = true ∧ (pool.idleOf address).length < pool.maxIdle) := by
      simpa using room
    rw [if_neg short, release_full room]
    exact pool.kept address

theorem drop_idle (isOpen : κ → Bool) (now : Nat) (loan : Loan κ) (pool : Pool κ) :
    pool.Replaced loan.address
      (if (loan.pooled && loan.completed) = true ∧ isOpen loan.client = true ∧
          (pool.idleOf loan.address).length < pool.maxIdle then
        ⟨loan.client, now⟩ :: pool.idleOf loan.address else pool.idleOf loan.address)
      (loan.drop isOpen now pool) := by
  unfold Loan.drop
  cases loan.pooled && loan.completed with
  | true => simpa using pool.release_idle isOpen now loan.address loan.client
  | false => simpa using pool.kept loan.address

theorem drop_gone {loan : Loan κ} (gone : loan.completed = false ∨ isOpen loan.client = false ∨
      pool.maxIdle ≤ (pool.idleOf loan.address).length) (now : Nat) :
    loan.drop isOpen now pool = pool := by
  unfold Loan.drop
  split
  · rename_i back
    refine release_full ?_
    rcases gone with unmarked | closed | full
    · simp [unmarked] at back
    · simp [closed]
    · simp [full]
  · rfl

end Pool

/-- A remote side together with what was asked of it. -/
structure Record (ε κ : Type) where
  env : ε
  dialled : List Address
  sent : List (κ × Rpc.Request)

/-- What others make of a pool during the waits of a call. -/
def Fate.during (fate : Fate κ) (record : Record ε κ) (pool : Pool κ) : Pool κ :=
  let pool := if record.dialled.isEmpty then pool else fate.meanwhile .connection pool
  if record.sent.isEmpty then pool else fate.meanwhile .reply pool

namespace Call

inductive Carries : Call → Rpc.Request → Prop where
  | assign (lock : Rpc.LockToken) (extent : Extent) : Carries (.assign extent) (.load lock extent)
  | unassign (lock : Rpc.LockToken) (extent : Extent) (goal : Rpc.UnloadGoal)
      (time : Rpc.Timestamp) : Carries (.unassign extent goal time) (.unload lock extent goal time)
  | status (lock : Rpc.LockToken) (pooled : Bool) : Carries (.status pooled) (.status lock)
  | halt (lock : Rpc.LockToken) : Carries .halt (.halt lock)
  | fastHalt (lock : Rpc.LockToken) : Carries .fastHalt (.fastHalt lock)
  | flush (lock : Rpc.LockToken) (table : String) (startRow endRow : Row) :
      Carries (.flush table startRow endRow) (.flush lock table startRow endRow)

def begun (isOpen : κ → Bool) (now : Nat) (connection : Connection) (call : Call) (pool : Pool κ) :
    Pool κ :=
  if call.isPooled then (pool.take isOpen now connection.address).2 else pool

section Made

variable (remote : Remote ε κ) (fate : Fate κ) (now : Nat) (connection : Connection)
  (lock : Rpc.LockToken) (call : Call) (pool : Pool κ) (env : ε)

end Made

variable {remote : Remote ε κ} {fate : Fate κ} {now : Nat} {connection : Connection}
  {lock : Rpc.LockToken} {call : Call} {pool : Pool κ} {env : ε}

section Effect

variable (remote : Remote ε κ) (fate : Fate κ) (now : Nat) (connection : Connection)
  (lock : Rpc.LockToken) (call : Call) (pool : Pool κ) (env : ε)

/-- What an ending says of a call, by its record, the pool that others had left before the end and
the pool after it. Only a call that has run to its end can bring a client back. -/
def Tells (record : Record ε κ) (left after : Pool κ) : Ending κ → Prop
  | .refused error =>
    record.sent = [] ∧ fate.givenUp ≠ some .connection ∧
      (remote.connect connection.address env).1 = .error error ∧ after = left
  | .cancelled =>
    (record.sent = [] ∧ fate.givenUp = some .connection ∨
      record.sent ≠ [] ∧ fate.givenUp = some .reply) ∧ after = left
  | .returned client reply =>
    fate.givenUp ≠ some .reply ∧
    (∃ lent request answer before, record.sent = [(lent, request)] ∧
      remote.answer lent request (remote.send lent request before) = (answer, client, record.env) ∧
      reply = answer.map (·.timed (fate.ends - now))) ∧
    left.Replaced connection.address
      (if call.isPooled = true ∧ remote.isOpen client = true ∧
          (left.idleOf connection.address).length < left.maxIdle then
        ⟨client, fate.ends⟩ :: left.idleOf connection.address
      else left.idleOf connection.address) after

/-- All that a call does to the remote side and to the pool. -/
structure Effect (ending : Ending κ) (after : Pool κ) (record : Record ε κ) : Prop where
  dialled :
    record.dialled = [connection.address] ∧
        (call.isPooled = true → ∀ entry ∈ pool.idleOf connection.address,
          pool.isFresh remote.isOpen now entry = false) ∨
      record.dialled = [] ∧ call.isPooled = true ∧
        ∃ entry ∈ pool.idleOf connection.address, pool.isFresh remote.isOpen now entry = true
  sent : record.sent = [] ∧ record.dialled = [connection.address] ∨
    ∃ client request, record.sent = [(client, request)] ∧
      request.lock = lock ∧ call.Carries request ∧
      (record.dialled = [connection.address] ∧
          (remote.connect connection.address env).1 = .ok client ∨
        record.dialled = [] ∧ ∃ entry ∈ pool.idleOf connection.address,
          entry.client = client ∧ pool.isFresh remote.isOpen now entry = true)
  begun :
    let begun := call.begun remote.isOpen now connection pool
    pool.Replaced connection.address (begun.idleOf connection.address) begun ∧
      begun.idleOf connection.address <:+ pool.idleOf connection.address
  ended : call.Tells remote fate now connection env record
    (fate.during record (call.begun remote.isOpen now connection pool)) after ending
  unpooled : call.isPooled = false → after = fate.during record pool

end Effect

variable {remote : Remote ε κ} {fate : Fate κ} {now : Nat} {connection : Connection}
  {lock : Rpc.LockToken} {call : Call} {pool : Pool κ} {env : ε}

variable {ending : Ending κ} {after : Pool κ} {record : Record ε κ}

/-- Over pools whose clients lead where they are kept, and with a remote side that opens clients to
the addresses asked for, a call goes to its own address and keeps the pool so. -/
theorem Effect.led (effect : Effect remote fate now connection lock call pool env ending after
      record) {leads : κ → Address} (led : pool.Led leads)
    (opens : ∀ address env client,
      (remote.connect address env).1 = .ok client → leads client = address) :
    (∀ entry ∈ record.sent, leads entry.1 = connection.address) ∧
    ((∀ wait former, former.Led leads → (fate.meanwhile wait former).Led leads) →
      (∀ client request env, leads (remote.answer client request env).2.1 = leads client) →
      after.Led leads) := by
  have sent : ∀ entry ∈ record.sent, leads entry.1 = connection.address := by
    rcases effect.sent with ⟨unsent, _⟩ | ⟨client, request, once, _, _, source⟩
    · simp [unsent]
    · rw [once, List.forall_mem_singleton]
      rcases source with ⟨_, connected⟩ | ⟨_, entry, member, rfl, _⟩
      · exact opens _ _ _ connected
      · exact led _ entry member
  refine ⟨sent, fun others stays => ?_⟩
  have begun : (call.begun remote.isOpen now connection pool).Led leads :=
    led.replaced effect.begun.1 fun entry member => led _ entry (effect.begun.2.subset member)
  have left : (fate.during record (call.begun remote.isOpen now connection pool)).Led leads := by
    unfold Fate.during
    dsimp only
    split <;> split
    · exact begun
    · exact others _ _ begun
    · exact others _ _ begun
    · exact others _ _ (others _ _ begun)
  have ended := effect.ended
  cases ending with
  | refused error => exact ended.2.2.2 ▸ left
  | cancelled => exact ended.2 ▸ left
  | returned client reply =>
    obtain ⟨_, ⟨lent, request, answer, before, once, answered, _⟩, replaced⟩ := ended
    have own : leads client = connection.address := by
      have same := stays lent request (remote.send lent request before)
      rw [answered] at same
      rw [same]
      exact sent (lent, request) (by simp [once])
    refine left.replaced replaced fun entry member => ?_
    split at member
    · rcases List.mem_cons.mp member with rfl | former
      · exact own
      · exact left _ entry former
    · exact left _ entry member

end Call
end TabletRoster
