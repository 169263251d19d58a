import TabletRoster.Proofs.Deliveries
import TabletRoster.Proofs.Json.Records
import TabletRoster.Proofs.Reuse
import TabletRoster.Rpc.Client

/-!
Breakdowns. A client is closed by a call that could not be written or sent, or whose answer did not
arrive or cannot be read. A readable answer of the wrong kind is an error too, but the client stays
open after it, and the pool lends it again.
-/
namespace TabletRoster

namespace Framing

def front (closes : Bool) (stream : ByteArray) : Delivery :=
  match decode stream with
  | .error error => .fault error
  | .ok (some (body, _)) => .packet body
  | .ok none =>
    if closes then if stream.isEmpty then .finished else .fault .cutOff else .waiting

theorem Inbox.next_front {inbox : Inbox} (ready : inbox.Ready) (arrivals : Arrivals) :
    (inbox.next arrivals).1 = front arrivals.closes (inbox.stream arrivals) := by
  have delivers := inbox.next_delivers ready arrivals
  unfold front
  split
  · rename_i fault
    exact delivers.of_fault fault
  · rename_i taken
    obtain ⟨inbox, arrivals, outcome, _⟩ := delivers.of_packet taken
    rw [outcome]
  · rename_i short
    exact delivers.of_short short

end Framing

namespace Rpc

/-- What a call comes to. -/
inductive Verdict where
  | answered (reply : Reply)
  | rejected (message : String)
  | mismatched (response : Response)
  | garbled (fault : Json.Fault)
  | broken (reason : String)

namespace Verdict

def isBreak : Verdict → Bool
  | .garbled _ => true
  | .broken _ => true
  | _ => false

def wanted : Call → String
  | .status _ => "Status"
  | _ => "Done"

def outcome (order : Arrangement) (address : Address) (call : Call) :
    Verdict → Except RemoteError Reply
  | .answered reply => .ok reply
  | .rejected message => .error (.remote address message)
  | .mismatched response => .error (.protocol address
      s!"expect {wanted call}, got {response.describe order}")
  | .garbled fault => .error (.protocol address fault.text)
  | .broken reason => .error (.transport address reason)

def ofResponse (call : Call) : Response → Verdict
  | .failed message => .rejected message
  | .done =>
    match call with
    | .status _ => .mismatched .done
    | _ => .answered .done
  | .status status =>
    match call with
    | .status _ => .answered (.status status 0)
    | _ => .mismatched (.status status)

def ofDelivery (call : Call) : Framing.Delivery → Option Verdict
  | .waiting => none
  | .finished => some (.broken "unexpected end of file")
  | .fault error => some (.broken error.message)
  | .packet body =>
    match Response.decode body.data.toList with
    | .error fault => some (.garbled fault)
    | .ok response => some (ofResponse call response)

variable {order : Arrangement} {address : Address} {call : Call} {verdict : Verdict}

theorem outcome_transport {reason : String}
    (told : verdict.outcome order address call = .error (.transport address reason)) :
    verdict.isBreak = true := by
  cases verdict with
  | broken _ => rfl
  | _ => simp [outcome] at told

theorem outcome_fine (told : (∃ reply, verdict.outcome order address call = .ok reply) ∨
    ∃ message, verdict.outcome order address call = .error (.remote address message)) :
    verdict.isBreak = false := by
  cases verdict <;> simp [outcome] at told <;> rfl

theorem outcome_protocol :
    (∃ message, verdict.outcome order address call = .error (.protocol address message)) ∧
      verdict.isBreak = false ↔ ∃ response, verdict = .mismatched response := by
  cases verdict <;> simp [outcome, isBreak]

end Verdict

namespace Client

def unsent? (client : Client) (request : Request) : Option String :=
  match Framing.encode ⟨request.encode.toArray⟩ .empty with
  | .error error => some error.message
  | .ok _ => client.line.sendFault

def verdict? (client : Client) (lock : LockToken) (call : Call) : Option Verdict :=
  match client.unsent? (call.request lock) with
  | some reason => some (.broken reason)
  | none => Verdict.ofDelivery call (client.inbox.next client.line.arrivals).1

def moved (client : Client) : Client :=
  let (_, inbox, arrivals) := client.inbox.next client.line.arrivals
  { client with inbox := inbox, line := { client.line with arrivals := arrivals } }

def settled (client : Client) (lock : LockToken) (call : Call) (verdict : Verdict) : Client :=
  let left := if (client.unsent? (call.request lock)).isSome then client else client.moved
  { left with isOpen := client.isOpen && !verdict.isBreak }

theorem call_eq (client : Client) (request : Request) :
    client.call? request =
      match client.unsent? request with
      | some reason => some (errorOf (client.broken reason))
      | none => client.receive? := by
  unfold call? unsent?
  cases Framing.encode ⟨request.encode.toArray⟩ .empty <;> rfl

/-- The whole of a call: what it comes to, what the caller is told, and what becomes of the
client. -/
theorem perform_eq (order : Arrangement) (client : Client) (lock : LockToken) (call : Call) :
    client.perform? order lock call = (client.verdict? lock call).map fun verdict =>
      (verdict.outcome order client.address call, client.settled lock call verdict) := by
  unfold perform? verdict? settled
  rw [call_eq]
  cases unsent : client.unsent? (call.request lock) with
  | some reason => simp [errorOf, broken, Verdict.outcome, Verdict.isBreak]
  | none =>
    unfold receive? moved
    generalize client.inbox.next client.line.arrivals = taken
    obtain ⟨delivery, inbox, arrivals⟩ := taken
    cases delivery with
    | waiting => rfl
    | finished => simp [Verdict.ofDelivery, errorOf, broken, Verdict.outcome, Verdict.isBreak]
    | fault error => simp [Verdict.ofDelivery, errorOf, broken, Verdict.outcome, Verdict.isBreak]
    | packet body =>
      dsimp only [Verdict.ofDelivery]
      cases Response.decode body.data.toList with
      | error fault => simp [errorOf, confused, Verdict.outcome, Verdict.isBreak]
      | ok response =>
        cases response <;> cases call <;>
          simp [Verdict.ofResponse, Verdict.outcome, Verdict.isBreak, Verdict.wanted]

theorem unload_early {time : Int} (early : time < 0) (order : Arrangement) (client : Client)
    (lock : LockToken) (extent : Extent) (goal : UnloadGoal) :
    client.unload? order lock extent goal time =
      some (.error (.protocol client.address beforeEpoch.text),
        { client with isOpen := false }) :=
  if_pos early

/-- What the calls in the life of a client have come to, the last one first. Between the calls the
peer and the network do on the connection what they like. -/
inductive Life (address : Address) : Client → List Verdict → Prop where
  | opened {link : Link} {client : Client} (connected : connect link address = .ok client) :
      Life address client []
  | waited {client : Client} {history : List Verdict} (former : Life address client history)
      (line : Line) : Life address { client with line := line } history
  | called {client after : Client} {history : List Verdict} (former : Life address client history)
      {order : Arrangement} {lock : LockToken} {call : Call}
      {outcome : Except RemoteError Reply} {verdict : Verdict}
      (performed : client.perform? order lock call = some (outcome, after))
      (comes : client.verdict? lock call = some verdict) : Life address after (verdict :: history)
  | unwritten {client after : Client} {history : List Verdict}
      (former : Life address client history) {order : Arrangement} {lock : LockToken}
      {extent : Extent} {goal : UnloadGoal} {time : Int} (early : time < 0)
      {outcome : Except RemoteError Reply}
      (performed : client.unload? order lock extent goal time = some (outcome, after)) :
      Life address after (.garbled beforeEpoch :: history)

variable {address : Address} {client : Client} {lock : LockToken} {call : Call}
  {history : List Verdict}

theorem settled_ready {verdict : Verdict} (ready : client.inbox.Ready)
    (comes : client.verdict? lock call = some verdict) (whole : verdict.isBreak = false) :
    (client.settled lock call verdict).inbox.Ready := by
  unfold verdict? at comes
  unfold settled
  split at comes
  · cases comes
    cases whole
  · rename_i sent
    have delivers := client.inbox.next_delivers ready client.line.arrivals
    rw [sent]
    unfold moved
    generalize client.inbox.next client.line.arrivals = taken at comes delivers
    cases delivers with
    | packet _ later _ _ => exact later
    | fault _ =>
      cases comes
      cases whole
    | cutOff _ _ _ =>
      cases comes
      cases whole
    | finished _ _ =>
      cases comes
      cases whole
    | waiting _ _ => cases comes

/-- A client is open as long as none of its calls has come to a break. -/
theorem Life.open_iff (life : Life address client history) :
    client.address = address ∧ client.isOpen = history.all (fun verdict => !verdict.isBreak) ∧
      (client.isOpen = true → client.inbox.Ready) := by
  induction life with
  | opened connected =>
    unfold connect at connected
    split at connected
    · cases connected
      exact ⟨rfl, rfl, fun _ => Framing.Inbox.ready_empty⟩
    · cases connected
    · cases connected
  | waited former line ih => exact ih
  | @called client after history former order lock call outcome verdict performed comes ih =>
    obtain ⟨place, isOpen, ready⟩ := ih
    rw [perform_eq, comes] at performed
    cases performed
    have same : (client.settled lock call verdict).address = client.address := by
      unfold settled moved
      split <;> rfl
    refine ⟨same.trans place, ?_, ?_⟩
    · simp [settled, isOpen, Bool.and_comm]
    · intro still
      simp only [settled, Bool.and_eq_true, Bool.not_eq_true'] at still
      exact settled_ready (ready still.1) comes still.2
  | unwritten former early performed ih =>
    rw [unload_early early] at performed
    cases performed
    exact ⟨ih.1, by simp [Verdict.isBreak], nofun⟩

theorem verdict_response {body rest : ByteArray} {response : Response}
    (ready : client.inbox.Ready) (sent : client.unsent? (call.request lock) = none)
    (taken : Framing.decode (client.inbox.stream client.line.arrivals) = .ok (some (body, rest)))
    (read : Response.decode body.data.toList = .ok response) :
    client.verdict? lock call = some (.ofResponse call response) := by
  rw [verdict?, sent]
  dsimp only
  rw [Framing.Inbox.next_front ready, Framing.front, taken]
  dsimp only [Verdict.ofDelivery]
  rw [read]

theorem settled_open (client : Client) (lock : LockToken) (call : Call) (verdict : Verdict) :
    (client.settled lock call verdict).isOpen = (client.isOpen && !verdict.isBreak) := rfl

/-- A client is closed just by the breaks among its calls, and never opened again. Calls that come
to an answer or a rejection leave it as it is, and so does an answer of the wrong kind, which the
caller is told as an error of protocol. Only clients without a break are lent, but one that has had
an answer of the wrong kind is lent again. -/
theorem breaks_close (life : Life address client history) :
    (client.isOpen = true ↔ ∀ verdict ∈ history, verdict.isBreak = false) ∧
    (∀ order lock call,
      (client.perform? order lock call).isSome = (client.verdict? lock call).isSome) ∧
    (∀ order lock call outcome after, client.perform? order lock call = some (outcome, after) →
      ∃ verdict, client.verdict? lock call = some verdict ∧
        Life address after (verdict :: history) ∧ outcome = verdict.outcome order address call ∧
        after.isOpen = (client.isOpen && !verdict.isBreak) ∧
        (client.isOpen = true → client.unsent? (call.request lock) = none →
          Verdict.ofDelivery call (Framing.front client.line.arrivals.closes
            (client.inbox.stream client.line.arrivals)) = some verdict) ∧
        ((∃ reply, outcome = .ok reply) ∨
          (∃ message, outcome = .error (.remote address message)) →
            after.isOpen = client.isOpen) ∧
        (∀ reason, outcome = .error (.transport address reason) → after.isOpen = false) ∧
        ((∃ message, outcome = .error (.protocol address message)) ∧ after.isOpen = true ↔
          client.isOpen = true ∧ ∃ response, verdict = .mismatched response)) ∧
    (∀ order lock extent goal (time : Int), time < 0 → ∃ after,
      client.unload? order lock extent goal time =
          some (.error (.protocol address beforeEpoch.text), after) ∧
        after.isOpen = false ∧ Life address after (.garbled beforeEpoch :: history)) ∧
    (∀ (pool : Pool Client) now place after, pool.take isOpen now place = (some client, after) →
      ∀ verdict ∈ history, verdict.isBreak = false) ∧
    ∀ (pool : Pool Client) now,
      (client.isOpen = false → Loan.drop isOpen now ⟨address, client, true, true⟩ pool = pool) ∧
      (client.isOpen = true → (pool.idleOf address).length < pool.maxIdle →
        ∀ later ≤ now + pool.timeout,
          ((Loan.drop isOpen now ⟨address, client, true, true⟩ pool).take isOpen later address).1 =
            some client) := by
  obtain ⟨rfl, isOpen, ready⟩ := life.open_iff
  have whole : client.isOpen = true ↔ ∀ verdict ∈ history, verdict.isBreak = false := by
    simp [isOpen]
  refine ⟨whole, ?_, ?_, ?_, ?_, ?_⟩
  · intro order lock call
    rw [perform_eq, Option.isSome_map]
  · intro order lock call outcome after performed
    have settles := performed
    rw [perform_eq] at settles
    obtain ⟨verdict, comes, settled⟩ := Option.map_eq_some_iff.mp settles
    cases settled
    refine ⟨verdict, comes, .called life performed comes, rfl, rfl, ?_, ?_, ?_, ?_⟩
    · intro alive sent
      rw [verdict?, sent] at comes
      rwa [← Framing.Inbox.next_front (ready alive)]
    · intro fine
      rw [settled_open, Verdict.outcome_fine fine]
      simp
    · intro reason told
      rw [settled_open, Verdict.outcome_transport told]
      simp
    · rw [settled_open, ← @Verdict.outcome_protocol order client.address call]
      grind
  · intro order lock extent goal time early
    have performed := client.unload_early early order lock extent goal
    exact ⟨_, performed, rfl, .unwritten life early performed⟩
  · intro pool now place after taken
    exact whole.mp (Pool.take_open taken)
  · intro pool now
    constructor
    · intro closed
      exact Pool.drop_gone (.inr (.inl closed)) now
    · intro alive room
      exact (Pool.drop_back rfl rfl alive room).2

/-- A question for the status is answered with a mere "Done". That is an error, but the client stays
open and is lent again. -/
theorem breaks_close_mismatched :
    let place : Address := ⟨"h", 1⟩
    let answer : ByteArray := Framing.frame ⟨(Response.done.encode .byKey).toArray⟩
    let client : Client := ⟨place, true, .empty, ⟨⟨[answer], false⟩, none⟩⟩
    ∃ after, client.perform? .byKey ⟨"/m", "7"⟩ (.status true) =
        some (.error (.protocol place "expect Status, got Done"), after) ∧
      after.isOpen = true ∧
      ((Loan.drop isOpen 0 ⟨place, after, true, true⟩ (.empty 1 5)).take isOpen 3 place).1 =
        some after := by
  intro place answer client
  have life : Life place client [] := @Life.opened place (.up client.line) client rfl
  have comes : client.verdict? ⟨"/m", "7"⟩ (.status true) = some (.mismatched .done) := by
    have sent : client.unsent? ((Call.status true).request ⟨"/m", "7"⟩) = none := by decide +kernel
    have taken : Framing.decode answer =
        .ok (some (⟨(Response.done.encode .byKey).toArray⟩, .empty)) :=
      Framing.decode_eq_some_iff.mpr ⟨by decide +kernel, ByteArray.append_empty.symm⟩
    have stream : client.inbox.stream client.line.arrivals = answer := ByteArray.empty_append
    have read : Response.decode (Response.done.encode .byKey) = .ok .done :=
      Json.readAll_written (Json.unit_written rfl)
    exact verdict_response Framing.Inbox.ready_empty sent (stream ▸ taken) read
  have performed := client.perform_eq .byKey ⟨"/m", "7"⟩ (.status true)
  rw [comes] at performed
  obtain ⟨_, _, told, _⟩ := breaks_close life
  obtain ⟨verdict, same, longer, _, _, _, _, _, protocol⟩ := told _ _ _ _ _ performed
  cases comes.symm.trans same
  have still := (protocol.mpr ⟨rfl, .done, rfl⟩).2
  obtain ⟨_, _, _, _, _, lent⟩ := breaks_close longer
  exact ⟨_, performed, still, (lent (.empty 1 5) 0).2 still (by decide +kernel) 3 (by decide)⟩

end Client
end Rpc
end TabletRoster
