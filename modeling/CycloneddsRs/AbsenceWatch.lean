import Mathlib.Order.Basic
import Mathlib.Order.Lattice

/-!
match_watch.rs: the fold of match counts into one state and the reading of its
deadline. An `Instant` is a number of nanoseconds up to the last one the platform
can represent, a `Duration` a number of nanoseconds. The mutex around the state
makes every operation here one atomic step.
-/

namespace CycloneddsRs.AbsenceWatch

inductive MatchState where
  | present
  | absent (since : Nat) (notified : Bool)
  deriving DecidableEq, Repr

structure MatchWatch where
  timeout : Nat
  state : MatchState
  deriving DecidableEq, Repr

/-- `Instant::checked_add`. -/
def checkedAdd (instantMax since timeout : Nat) : Option Nat :=
  if since + timeout ≤ instantMax then some (since + timeout) else none

def MatchWatch.newAt (timeout now : Nat) : MatchWatch :=
  { timeout := timeout, state := .absent now false }

/-- A running absence keeps its start. -/
def MatchWatch.updateAt (watch : MatchWatch) (currentCount now : Nat) : MatchWatch :=
  if currentCount = 0 then
    match watch.state with
    | .present => { watch with state := .absent now false }
    | .absent _ _ => watch
  else { watch with state := .present }

/-- `duration_since` of an earlier instant is zero, as Nat subtraction is. -/
def MatchWatch.isAbsentAt (watch : MatchWatch) (now : Nat) : Bool :=
  match watch.state with
  | .absent since _ => watch.timeout ≤ now - since
  | .present => false

def MatchWatch.absenceDeadline (instantMax : Nat) (watch : MatchWatch) : Option Nat :=
  match watch.state with
  | .absent since false => checkedAdd instantMax since watch.timeout
  | _ => none

def MatchWatch.markNotified (watch : MatchWatch) : MatchWatch :=
  match watch.state with
  | .absent since _ => { watch with state := .absent since true }
  | .present => watch

@[simp] theorem updateAt_timeout (watch : MatchWatch) (currentCount now : Nat) :
    (watch.updateAt currentCount now).timeout = watch.timeout := by
  unfold MatchWatch.updateAt
  split
  · cases watch.state <;> rfl
  · rfl

@[simp] theorem markNotified_timeout (watch : MatchWatch) :
    watch.markNotified.timeout = watch.timeout := by
  unfold MatchWatch.markNotified
  cases watch.state <;> rfl

theorem updateAt_matched (watch : MatchWatch) (currentCount now : Nat)
    (positive : currentCount ≠ 0) : (watch.updateAt currentCount now).state = .present := by
  rw [MatchWatch.updateAt, if_neg positive]

theorem updateAt_unmatched (watch : MatchWatch) (now : Nat) :
    (watch.updateAt 0 now).state =
      match watch.state with
      | .present => .absent now false
      | .absent since notified => .absent since notified := by
  rw [MatchWatch.updateAt, if_pos rfl]
  cases held : watch.state with
  | present => rfl
  | absent since notified => exact held

theorem markNotified_state (watch : MatchWatch) :
    watch.markNotified.state =
      match watch.state with
      | .present => .present
      | .absent since _ => .absent since true := by
  rw [MatchWatch.markNotified]
  cases held : watch.state with
  | present => exact held
  | absent since notified => rfl

theorem absenceDeadline_some (instantMax deadline : Nat) (watch : MatchWatch)
    (due : watch.absenceDeadline instantMax = some deadline) :
    ∃ since, watch.state = .absent since false ∧ deadline = since + watch.timeout := by
  rw [MatchWatch.absenceDeadline] at due
  cases held : watch.state with
  | present => simp [held] at due
  | absent since notified =>
      cases notified with
      | true => simp [held] at due
      | false =>
          simp only [held, checkedAdd] at due
          split at due
          · exact ⟨since, rfl, (Option.some.inj due).symm⟩
          · cases due

/-- One wake-up for each absence: a marked period has no deadline. -/
theorem markNotified_deadline (instantMax : Nat) (watch : MatchWatch) :
    watch.markNotified.absenceDeadline instantMax = none := by
  rw [MatchWatch.absenceDeadline, markNotified_state]
  cases watch.state <;> rfl

end CycloneddsRs.AbsenceWatch
