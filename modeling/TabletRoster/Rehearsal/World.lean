import TabletRoster.Poll
import TabletRoster.Rehearsal.Bench
import TabletRoster.Roster.Tracking
import TabletRoster.Settings

/-!
A rehearsal of the whole: a roster over a namespace in memory, followed by its tracking tasks, a
poller, scripted servers, and a clock that stands still while anything can move. Tasks run in
the order in which they became able to; timers that are due together go in the order in which
they were set.
-/
namespace TabletRoster.Rehearsal

structure Flight where
  trip : Trip Client
  ends : Nat

structure Polling where
  poller : Poller
  lock : Rpc.LockToken
  ticket : Option Nat
  flight : Option Flight
  since : Nat

inductive Task where
  | watcher
  | reconciler
  | ticker
  | poller
  | job (ticket : Nat)
  deriving DecidableEq, Repr

structure Timer where
  due : Nat
  since : Nat
  task : Task
  deriving DecidableEq, Repr

structure World where
  layout : Layout
  settings : Settings
  bench : Bench
  turns : Turns Namespace
  started : Bool
  tracking : Option Tracking
  /-- While the gate is shut, the listener does not return before it is let go. -/
  gate : Bool
  /-- The next listener that meets a shut gate is let go at once. -/
  permit : Bool
  held : Bool
  polling : Option Polling
  jobs : List (String × Nat)
  ready : List Task

namespace World

def create? (root : String) (settings : Settings) : Option World := do
  let timeout ← settings.idleTimeout.nanoseconds?
  let grace ← settings.grace.nanoseconds?
  return {
    layout := .of root
    settings := settings
    bench := .start settings.maxIdle.toNat timeout
    turns := .start (.empty grace) .empty
    started := false
    tracking := none
    gate := false
    permit := false
    held := false
    polling := none
    jobs := []
    ready := [] }

def now (world : World) : Nat := world.bench.now

def service (world : World) : Coordinator Namespace :=
  Namespace.coordinator world.layout

def edit (world : World) (change : Namespace → Namespace) : World :=
  { world with turns := { world.turns with space := change world.turns.space } }

def tell (world : World) : World :=
  match world.turns.current with
  | some (_, .telling _ _) =>
    if world.gate then { world with held := !world.permit, permit := false } else world
  | _ => world

def drive? (world : World) (ticket : Nat) : Option World :=
  match world.turns.current with
  | some (holder, turn) =>
    if holder ≠ ticket then none
    else match turn with
      | .telling _ _ =>
        if world.held then none
        else world.turns.leave?.map fun turns => { world with turns := turns }
      | _ => (world.turns.advance? world.service world.now).map fun turns =>
          { world with turns := turns }.tell
  | none =>
    match world.turns.waiting with
    | (first, _) :: _ =>
      if first = ticket then world.turns.enter?.map fun turns => { world with turns := turns }
      else none
    | [] => none

def setPolling (world : World) (polling : Polling) (poller : Poller) : World :=
  { world with polling := some { polling with
      poller := poller, ticket := none, flight := none, since := world.now } }

def await? (world : World) (polling : Polling) (job : Job) (use : Result → Poller) : Option World :=
  match polling.ticket with
  | none =>
    let (ticket, turns) := world.turns.come job
    some { world with turns := turns, polling := some { polling with ticket := some ticket } }
  | some ticket =>
    match world.turns.result? ticket with
    | some result =>
      some ({ world with turns := world.turns.collect ticket }.setPolling polling (use result))
    | none => world.drive? ticket

def checkStatus? (world : World) (polling : Polling) (connection : Connection) : Option World :=
  match polling.flight with
  | none =>
    let bench := world.bench
    let (trip, pool, network) :=
      Trip.start Network.factory world.now connection polling.lock (.status true) bench.pool bench.network
    match trip with
    | .error _ =>
      let world := { world with bench := { bench with pool := pool, network := network } }
      some (world.setPolling polling (polling.poller.checked true))
    | .ok trip =>
      let network := Network.remote.send trip.loan.client trip.request network
      let flight : Flight := ⟨trip, world.now + network.script.delay⟩
      some { world with
        bench := { bench with pool := pool, network := network }
        polling := some { polling with flight := some flight } }
  | some flight =>
    if flight.ends ≤ world.now then
      let bench := world.bench
      let trip := flight.trip
      let (reply, client, network) :=
        Network.remote.answer trip.loan.client trip.request bench.network
      let pool := trip.finish Client.isOpen world.now client bench.pool
      let world := { world with bench := { bench with pool := pool, network := network } }
      some (world.setPolling polling (polling.poller.checked (!(trip.told world.now reply).isOk)))
    else none

def poll? (world : World) (polling : Polling) : Option World :=
  match polling.poller.phase with
  | .resting => (polling.poller.tick? world.now).map (world.setPolling polling)
  | .asking => world.await? polling .read fun
    | .snapshot _ snapshot => polling.poller.begin snapshot
    | _ => polling.poller
  | .checking snapshot i later =>
    match snapshot.connection? i with
    | some connection => world.checkStatus? polling connection
    | none => some (world.setPolling polling (polling.poller.proceed snapshot later))
  | .evicting _ i _ => world.await? polling (.evict i) fun
    | .evicted outcome => polling.poller.evicted outcome
    | _ => polling.poller
  | .stopped _ => none

def move? (world : World) : Task → Option World
  | .watcher => do
    let tracking ← world.tracking
    let tracking ← tracking.watch? world.layout world.now world.turns.space
    return { world with tracking := some tracking }
  | .ticker => do
    let tracking ← world.tracking
    let tracking ← tracking.tick? world.now
    return { world with tracking := some tracking }
  | .reconciler => do
    let tracking ← world.tracking
    match tracking.reconcile? world.turns with
    | some (tracking, turns) => return { world with tracking := some tracking, turns := turns }
    | none => world.drive? (← tracking.working)
  | .poller => do world.poll? (← world.polling)
  | .job ticket => world.drive? ticket

def run (task : Task) : (fuel : Nat) → World → World
  | 0, world => world
  | fuel + 1, world =>
    match world.move? task with
    | some next => run task fuel next
    | none => world

def tasks (world : World) : List Task :=
  [.watcher, .reconciler, .ticker, .poller] ++ world.jobs.map fun (_, ticket) => .job ticket

def lineUp (world : World) : World :=
  let able := world.tasks.filter fun task =>
    !world.ready.contains task && (world.move? task).isSome
  { world with ready := world.ready ++ able }

def budget (world : World) : Nat :=
  (8192 + (world.tracking.map (·.queue.length)).getD 0) *
    (4 * world.turns.space.nodes.size + 4 * world.turns.roster.members.size + 16)

def settleFor : (fuel : Nat) → World → World
  | 0, world => world
  | fuel + 1, world =>
    match world.ready with
    | [] => world
    | task :: rest =>
      settleFor fuel (run task world.budget { world with ready := rest }).lineUp

/-- Lets all tasks run until each of them has to wait. -/
def settle (world : World) : World :=
  settleFor world.budget world.lineUp

def timers (world : World) : List Timer :=
  let tracked := match world.tracking with
    | none => []
    | some tracking =>
      let pause := match tracking.watcher with
        | .pausing wake => [⟨wake, wake - tracking.retryDelay, .watcher⟩]
        | _ => []
      ⟨tracking.tick, tracking.tick - tracking.period, .ticker⟩ :: pause
  let polled := match world.polling with
    | none => []
    | some polling =>
      match polling.poller.phase, polling.flight with
      | .resting, _ => [⟨polling.poller.due, polling.since, .poller⟩]
      | _, some flight => [⟨flight.ends, flight.trip.began, .poller⟩]
      | _, none => []
  tracked ++ polled

def sleepUntil (target : Nat) : (fuel : Nat) → World → World
  | 0, world => world
  | fuel + 1, world =>
    let timers := world.timers.filter fun timer => timer.due ≤ target
    match (timers.map Timer.due).min? with
    | none => { world with bench := { world.bench with now := target } }
    | some wake =>
      let wake := max wake world.now
      let together := (timers.filter fun timer => timer.due ≤ wake).mergeSort
        fun a b => decide (a.since ≤ b.since)
      let world := { world with
        bench := { world.bench with now := wake }
        ready := together.map Timer.task }
      sleepUntil target fuel world.settle

def sleep (world : World) (time : Nat) : World :=
  sleepUntil (world.now + time) (time + 1) world

/-- Does a job in the foreground; there is no result while somebody else is held at turn. -/
def perform (world : World) (job : Job) : Option Result × World :=
  let (ticket, turns) := world.turns.come job
  let world := run (.job ticket) world.budget { world with turns := turns }
  let result := world.turns.result? ticket
  (result, { world with turns := world.turns.collect ticket })

/-- No queue can hold more demands. -/
def largestQueue : Nat := 2305843009213693951

inductive StartError where
  | refused (refusal : Settings.Refusal)
  | again
  | queueTooLarge
  deriving DecidableEq, Repr

def StartError.message : StartError → String
  | .refused refusal => refusal.message
  | .again => "cannot start live server set more than once"
  | .queueTooLarge => s!"a semaphore may not have more than MAX_PERMITS permits ({largestQueue})"

/-- Scans once and begins to follow the namespace. A first scan that fails is left to the next
tick. -/
def begin (world : World) : Except StartError World := do
  match world.settings.validate with
  | .error refusal => throw (.refused refusal)
  | .ok () => pure ()
  if world.started then throw .again
  let world := ({ world with started := true }.perform .scan).2
  if largestQueue < world.settings.queueCapacity.toNat then throw .queueTooLarge
  let some period := world.settings.scanInterval.nanoseconds? | throw (.refused .overflow)
  let some retryDelay := world.settings.retryDelay.nanoseconds? | throw (.refused .overflow)
  let tracking := Tracking.begin world.settings.queueCapacity.toNat period retryDelay world.now
  return { world with tracking := some tracking, ready := [.reconciler, .watcher, .ticker] }

/-- Ends the following of the namespace; a pass that was under way is given up. -/
def shutdown (world : World) : World :=
  match world.tracking with
  | none => world
  | some tracking =>
    let world := { world with tracking := none }
    match tracking.working with
    | none => world
    | some ticket =>
      let held := world.held && (world.turns.current.map (·.1)) != some ticket
      { world with turns := world.turns.cancel ticket, held := held }

def openGate (world : World) : World :=
  if world.held then { world with held := false } else { world with permit := true }

def setGate (world : World) (shut : Bool) : World :=
  { world with gate := shut }

def spawn (world : World) (name : String) (job : Job) : World :=
  let (ticket, turns) := world.turns.come job
  { world with turns := turns, jobs := (name, ticket) :: world.jobs.filter (·.1 != name) }

def startPolling (world : World) (lock : Rpc.LockToken) (interval limit : Nat) : World :=
  let poller := Poller.start interval limit world.now
  { world with polling := some ⟨poller, lock, none, none, world.now⟩ }

def call (world : World) (connection : Connection) (lock : Rpc.LockToken) (call : Call)
    (patience : Option Nat) : Outcome × World :=
  let bench := world.bench
  let (trip, pool, network) :=
    Trip.start Network.factory world.now connection lock call bench.pool bench.network
  match trip with
  | .error error => (.error error, { world with bench := { bench with pool := pool, network := network } })
  | .ok trip =>
    let network := Network.remote.send trip.loan.client trip.request network
    let delay := network.script.delay
    let world := { world with bench := { bench with pool := pool, network := network } }
    match patience.filter (· < delay) with
    | some limit =>
      let world := world.sleep limit
      let pool := trip.cancel Client.isOpen world.now world.bench.pool
      (.cancelled, { world with bench := { world.bench with pool := pool } })
    | none =>
      let world := if delay = 0 then world else world.sleep delay
      let (reply, client, network) :=
        Network.remote.answer trip.loan.client trip.request world.bench.network
      let pool := trip.finish Client.isOpen world.now client world.bench.pool
      (.ofReply (trip.told world.now reply),
        { world with bench := { world.bench with pool := pool, network := network } })

end World
end TabletRoster.Rehearsal
