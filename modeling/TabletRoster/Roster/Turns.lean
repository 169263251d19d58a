import TabletRoster.Roster.Pass

/-!
Turns at the roster. Passes, evictions and readers that find no shared snapshot take turns, in
the order in which they came. A pass ends its turn only after the listener has taken its delta.
-/
namespace TabletRoster

inductive Job where
  | scan
  | check (path : ServerPath)
  | evict (i : Instance)
  | read
  | find (lookup : Lookup)
  deriving DecidableEq, Repr

/-- To look for whom a text names. A text that is no lookup is refused before anybody waits. -/
def Job.seek (text : String) : Except AddressError Job :=
  return .find (← Lookup.parse text)

inductive Result where
  | pass (outcome : Except CoordinationError Delta)
  | evicted (outcome : Except FatalRemove Unit)
  | snapshot (number : Nat) (snapshot : Snapshot)
  | found (i : Option Instance)

/-- What the one at turn is at. -/
inductive Turn where
  | pass (pass : Pass)
  | telling (delta : Delta) (failure : Option CoordinationError)
  | locating (i : Instance) (path : ServerPath)
  | clearing (i : Instance) (path target : ServerPath)

structure Turns (σ : Type) where
  roster : Roster
  space : σ
  current : Option (Nat × Turn)
  waiting : List (Nat × Job)
  results : List (Nat × Result)
  told : Array Delta
  tickets : Nat

namespace Turns

variable {σ : Type}

def start (roster : Roster) (space : σ) : Turns σ :=
  ⟨roster, space, none, [], [], #[], 0⟩

def result? (turns : Turns σ) (ticket : Nat) : Option Result :=
  turns.results.lookup ticket

def finish (turns : Turns σ) (ticket : Nat) (result : Result) : Turns σ :=
  { turns with current := none, results := (ticket, result) :: turns.results }

/-- Comes with a job and gets a ticket. A reader takes the shared snapshot at once. -/
def come (turns : Turns σ) (job : Job) : Nat × Turns σ :=
  let ticket := turns.tickets
  let turns := { turns with tickets := ticket + 1 }
  match job, turns.roster.cache with
  | .read, some (number, snapshot) =>
    (ticket, { turns with results := (ticket, .snapshot number snapshot) :: turns.results })
  | _, _ => (ticket, { turns with waiting := turns.waiting ++ [(ticket, job)] })

/-- Begins a job whose turn has come. Reading and finding are done at once. -/
def begin (turns : Turns σ) (ticket : Nat) : Job → Turns σ
  | .scan => { turns with current := some (ticket, .pass .scan) }
  | .check path => { turns with current := some (ticket, .pass (.check path)) }
  | .evict i =>
    match turns.roster.pathOf? i with
    | none => turns.finish ticket (.evicted (.ok ()))
    | some path =>
      { turns with roster := turns.roster.drop path, current := some (ticket, .locating i path) }
  | .read =>
    let ((number, snapshot), roster) := turns.roster.snapshot
    { turns with roster := roster }.finish ticket (.snapshot number snapshot)
  | .find lookup => turns.finish ticket (.found (turns.roster.find? lookup))

def enter? (turns : Turns σ) : Option (Turns σ) :=
  match turns.current, turns.waiting with
  | none, (ticket, job) :: rest => some ({ turns with waiting := rest }.begin ticket job)
  | _, _ => none

def advance? (service : Coordinator σ) (now : Nat) (turns : Turns σ) : Option (Turns σ) :=
  match turns.current with
  | some (ticket, .pass ⟨.reporting failure, delta⟩) =>
    some { turns with
      told := turns.told.push delta
      current := some (ticket, .telling delta failure) }
  | some (ticket, .pass ⟨stage, delta⟩) =>
    let ((stage, work), space) := Pass.ask service now stage ⟨turns.roster, delta⟩ turns.space
    some { turns with
      roster := work.roster
      space := space
      current := some (ticket, .pass ⟨stage, work.delta⟩) }
  | some (ticket, .locating i path) =>
    let fatal (error : CoordinationError) : Result :=
      .evicted (.error ⟨i, service.layout.serverKey path, error⟩)
    match service.list turns.space with
    | (.error error, space) => some ({ turns with space := space }.finish ticket (fatal error))
    | (.ok listed, space) =>
      match Roster.candidates listed path i with
      | [target] =>
        some { turns with space := space, current := some (ticket, .clearing i path target) }
      | _ => some ({ turns with space := space }.finish ticket (.evicted (.ok ())))
  | some (ticket, .clearing i path target) =>
    match service.deleteTree target turns.space with
    | (.error error, space) =>
      some ({ turns with space := space }.finish ticket
        (.evicted (.error ⟨i, service.layout.serverKey path, error⟩)))
    | (.ok (), space) =>
      let roster := { turns.roster with stale := turns.roster.stale.forget target }
      some ({ turns with space := space, roster := roster }.finish ticket (.evicted (.ok ())))
  | _ => none

def leave? (turns : Turns σ) : Option (Turns σ) :=
  match turns.current with
  | some (ticket, .telling delta failure) =>
    some (turns.finish ticket (.pass (match failure with
      | none => .ok delta
      | some error => .error error)))
  | _ => none

/-- Gives up a ticket, at turn or in line. What a pass has changed stays changed. -/
def cancel (turns : Turns σ) (ticket : Nat) : Turns σ :=
  { turns with
    current := turns.current.filter fun (holder, _) => holder != ticket
    waiting := turns.waiting.filter fun (waiter, _) => waiter != ticket
    results := turns.results.filter fun (owner, _) => owner != ticket }

def collect (turns : Turns σ) (ticket : Nat) : Turns σ :=
  { turns with results := turns.results.filter fun (owner, _) => owner != ticket }

def step? (service : Coordinator σ) (now : Nat) (turns : Turns σ) : Option (Turns σ) :=
  turns.leave? <|> turns.advance? service now <|> turns.enter?

def runFor (service : Coordinator σ) (now ticket : Nat) : (fuel : Nat) → Turns σ → Turns σ
  | 0, turns => turns
  | fuel + 1, turns =>
    if (turns.result? ticket).isSome then turns
    else match turns.step? service now with
      | some turns => runFor service now ticket fuel turns
      | none => turns

/-- Does a job from its begin to its end, in at most `fuel` moves. -/
def perform (service : Coordinator σ) (now fuel : Nat) (job : Job) (turns : Turns σ) :
    Option Result × Turns σ :=
  let (ticket, turns) := turns.come job
  let turns := runFor service now ticket fuel turns
  (turns.result? ticket, turns.collect ticket)

end Turns
end TabletRoster
