import TabletRoster.Proofs.Breakdowns

/-!
Interruptions. A loan carries one call after another but has a single mark, and a call that begins
does not take it off. So a client whose last call was given up comes back all the same if an earlier
call was marked as ended, and it is the next to be lent.
-/
namespace TabletRoster

namespace Loan

variable {κ : Type}

/-- What happens on a loan. A call that ends or is given up leaves the client as given. -/
inductive Event (κ : Type) where
  | began
  | ended (client : κ)
  | cancelled (client : κ)
  | marked
  deriving DecidableEq, Repr

def undergo (loan : Loan κ) : Event κ → Loan κ
  | .began => loan
  | .ended client => { loan with client := client }
  | .cancelled client => { loan with client := client }
  | .marked => loan.complete

def after (loan : Loan κ) (events : List (Event κ)) : Loan κ :=
  events.foldl undergo loan

def Event.isMark : Event κ → Bool
  | .marked => true
  | _ => false

/-- Events as they can happen: nothing happens on a loan from the begin of a call until the call
has ended or was given up. -/
inductive Orderly : List (Event κ) → Prop where
  | none : Orderly []
  | ended {events : List (Event κ)} (former : Orderly events) (client : κ) :
      Orderly (events ++ [.began, .ended client])
  | cancelled {events : List (Event κ)} (former : Orderly events) (client : κ) :
      Orderly (events ++ [.began, .cancelled client])
  | marked {events : List (Event κ)} (former : Orderly events) : Orderly (events ++ [.marked])

inductive Last where
  | none
  | underway
  | ended
  | cancelled
  deriving DecidableEq, Repr

def Last.next : Last → Event κ → Last
  | _, .began => .underway
  | .underway, .ended _ => .ended
  | .underway, .cancelled _ => .cancelled
  | last, _ => last

def lastCall (events : List (Event κ)) : Last :=
  events.foldl Last.next .none

theorem after_append (loan : Loan κ) (events later : List (Event κ)) :
    loan.after (events ++ later) = (loan.after events).after later :=
  List.foldl_append

/-- However the calls go, the mark stays once it is set. -/
theorem after_kept (loan : Loan κ) (events : List (Event κ)) :
    (loan.after events).address = loan.address ∧ (loan.after events).pooled = loan.pooled ∧
      (loan.after events).completed = (loan.completed || events.any Event.isMark) := by
  induction events generalizing loan with
  | nil => simp [after]
  | cons event rest ih =>
    obtain ⟨address, pooled, completed⟩ := ih (loan.undergo event)
    rw [after, List.foldl_cons, ← after, address, pooled, completed]
    cases event <;> simp [undergo, complete, Event.isMark]

theorem after_marks (loan : Loan κ) (marks : Nat) :
    (loan.after (List.replicate marks .marked)).client = loan.client := by
  induction marks generalizing loan with
  | zero => rfl
  | succ marks ih => exact ih loan.complete

theorem Orderly.last_cancelled {events : List (Event κ)} (orderly : Orderly events)
    (cancelled : lastCall events = .cancelled) : ∃ before left marks, Orderly before ∧
      events = before ++ [.began, .cancelled left] ++ List.replicate marks .marked := by
  induction orderly with
  | none => cases cancelled
  | ended former client ih => simp [lastCall, Last.next] at cancelled
  | @cancelled events former client ih => exact ⟨events, client, 0, former, by simp⟩
  | @marked events former ih =>
    have still : lastCall events = .cancelled := by
      rw [lastCall, List.foldl_append, ← lastCall] at cancelled
      generalize lastCall events = last at cancelled ⊢
      cases last <;> exact cancelled
    obtain ⟨before, left, marks, orderly, rfl⟩ := ih still
    exact ⟨before, left, marks + 1, orderly, by simp [List.replicate_succ']⟩

/-- A loan whose last call was given up ends. If it was marked, before that call began or after it,
the client comes back when it is open and there is room, and it is lent to whoever asks in time. If
not, the pool stays as it is. -/
theorem interrupted_loan_returns {events : List (Event κ)} (orderly : Orderly events)
    (interrupted : lastCall events = .cancelled) (isOpen : κ → Bool) (now : Nat)
    (address : Address) (client : κ) (pool : Pool κ) :
    let loan : Loan κ := ⟨address, client, true, false⟩
    let dropped := (loan.after events).drop isOpen now pool
    (∃ before left marks, Orderly before ∧
      events = before ++ [.began, .cancelled left] ++ List.replicate marks .marked) ∧
    ∀ before left marks,
      events = before ++ [.began, .cancelled left] ++ List.replicate marks .marked →
      (before.any Event.isMark = false ∧ marks = 0 ∨ isOpen left = false ∨
        pool.maxIdle ≤ (pool.idleOf address).length → dropped = pool) ∧
      (before.any Event.isMark = true ∨ 0 < marks → isOpen left = true →
        (pool.idleOf address).length < pool.maxIdle →
        pool.Replaced address (⟨left, now⟩ :: pool.idleOf address) dropped ∧
        ∀ later ≤ now + pool.timeout, (dropped.take isOpen later address).1 = some left) := by
  intro loan dropped
  refine ⟨orderly.last_cancelled interrupted, ?_⟩
  intro before left marks split
  obtain ⟨place, pooled, completed⟩ := loan.after_kept events
  have last : (loan.after events).client = left := by
    rw [split, after_append, after_marks, after_append]
    rfl
  have marked : (loan.after events).completed =
      (before.any Event.isMark || decide (0 < marks)) := by
    rw [completed, split]
    cases marks <;> simp [loan, Event.isMark]
  constructor
  · intro gone
    refine Pool.drop_gone ?_ now
    rw [place, last, marked]
    rcases gone with ⟨unmarked, none⟩ | closed | full
    · exact .inl (by simp [unmarked, none])
    · exact .inr (.inl closed)
    · exact .inr (.inr full)
  · intro earlier healthy room
    have completed : (loan.after events).completed = true := by
      rw [marked]
      simpa using earlier
    have back := @Pool.drop_back κ isOpen now pool (loan.after events) pooled completed
    rw [place, last] at back
    exact back healthy room

/-- The first call ends and is marked, the second one is given up, and the client is lent again. -/
theorem interrupted_loan_returns_second_call :
    let events : List (Event Bool) := [.began, .ended true, .marked, .began, .cancelled true]
    let loan : Loan Bool := ⟨⟨"h", 1⟩, true, true, false⟩
    lastCall events = .cancelled ∧
      (((loan.after events).drop id 3 (.empty 1 5)).take id 4 ⟨"h", 1⟩).1 = some true := by
  intro events loan
  have orderly : Orderly events := .cancelled (.marked (.ended .none true)) true
  have returns := (interrupted_loan_returns orderly rfl id 3 ⟨"h", 1⟩ true (.empty 1 5)).2
    [.began, .ended true, .marked] true 0 rfl
  exact ⟨rfl, (returns.2 (.inl rfl) rfl (by decide +kernel)).2 4 (by decide)⟩

end Loan

end TabletRoster
