import CycloneddsRs.AbsenceWatch
import CycloneddsRs.DdsError
import CycloneddsRs.StepRuns
import Mathlib.Logic.Function.Basic

/-!
futures.rs: one asynchronous reader among its listener threads, the watchdog and
the task that polls. A poll is three steps (register the waker, take the pending
error, read), a callback two (store, then wake), and all of them interleave. The
read futures of the reader follow one another; a waker left behind by a dropped
one may still sit in the slot.
-/

namespace CycloneddsRs.AsyncRead

open AbsenceWatch DdsError StepRuns

inductive ReaderError where
  | requestedDeadLineMissed
  | readerNotAsync
  | noMatchedWriter (timeout : Nat)
  | ddsError (error : DDSError)
  deriving DecidableEq, Repr

/-- `AtomicWaker` is its slot: `register` fills it, `wake` empties it. A waker is
the number of the task it wakes. -/
structure ReaderShared where
  waker : Option Nat
  pendingError : Option ReaderError
  watch : Option MatchWatch
  deriving DecidableEq, Repr

def ReaderShared.new (watch : Option MatchWatch) : ReaderShared :=
  { waker := none, pendingError := none, watch := watch }

def ReaderShared.absentWriterError (shared : ReaderShared) (clock : Nat) : Option ReaderError :=
  match shared.watch with
  | none => none
  | some watch =>
      if watch.isAbsentAt clock then some (.noMatchedWriter watch.timeout) else none

/-- The live read future and, while it is polled, how far the poll has come. -/
inductive FuturePc where
  | none
  | created
  /-- After `register`, before `take_pending_error`. -/
  | registered (task : Nat)
  /-- No error was pending; before the read. -/
  | checked (task : Nat)
  /-- The last poll returned `Pending`. -/
  | pending (task : Nat)
  | ready (output : Except ReaderError Nat)

inductive CallbackPc where
  | idle
  /-- Data or an error is stored, the wake is still to come. -/
  | stored
  deriving DecidableEq, Repr

structure World where
  shared : ReaderShared
  /-- The samples that the reader holds for the next read. -/
  samples : Nat
  future : FuturePc
  /-- The task of the live future was woken since its last poll registered it. -/
  woken : Bool
  callbacks : Nat → CallbackPc

def World.init (watch : Option MatchWatch) : World :=
  { shared := .new watch
    samples := 0
    future := .none
    woken := false
    callbacks := fun _ => .idle }

inductive Action where
  | createFuture
  | dropFuture
  | register (task : Nat)
  | takePendingError
  /-- `remaining` samples are left by a read that succeeds. -/
  | readNow (outcome : Except DDSError Nat) (remaining clock : Nat)
  | dataAvailable (thread count : Nat)
  | deadlineMissed (thread : Nat)
  | wakeCallback (thread : Nat)
  | updateMatch (currentCount clock : Nat)
  | markNotified
  /-- The wake at the end of `notify_absence`. -/
  | wakeAbsence
  /-- Some other handle takes samples from the reader. -/
  | takeElsewhere (remaining : Nat)

def FuturePc.task : FuturePc → Option Nat
  | .registered task | .checked task | .pending task => some task
  | .none | .created | .ready _ => .none

/-- `AtomicWaker::wake` takes the waker out of the slot. -/
def World.wake (world : World) : World :=
  { world with
    shared := { world.shared with waker := none }
    woken := world.woken || match world.shared.waker with
      | some task => world.future.task = some task
      | none => false }

/-- What a poll makes of the outcome of its read. -/
def pollOutcome (shared : ReaderShared) (task clock : Nat) : Except DDSError Nat → FuturePc
  | .ok length => .ready (.ok length)
  | .error .noData =>
      match shared.absentWriterError clock with
      | some error => .ready (.error error)
      | none => .pending task
  | .error error => .ready (.error (.ddsError error))

/-- The read closure answers `NoData` when the reader holds nothing, and reads
samples when it holds some. Other errors may come at any time. -/
def answers (samples remaining : Nat) : Except DDSError Nat → Bool
  | .ok _ => 0 < samples && remaining ≤ samples
  | .error .noData => samples = 0
  | .error _ => true

def leaves (samples remaining : Nat) (outcome : Except DDSError Nat) : Option Nat :=
  if answers samples remaining outcome then some (if outcome.isOk then remaining else samples)
  else none

/-- `reads` says which outcomes a read may have and how many samples it then leaves. -/
def stepWith (reads : Nat → Nat → Except DDSError Nat → Option Nat) (world : World) :
    Action → Option World
  | .createFuture =>
      match world.future with
      | .none => some { world with future := .created }
      | _ => none
  | .dropFuture =>
      match world.future with
      | .created | .pending _ | .ready _ => some { world with future := .none }
      | _ => none
  | .register task =>
      match world.future with
      | .created | .pending _ =>
          some { world with
            shared := { world.shared with waker := some task }
            future := .registered task
            woken := false }
      | _ => none
  | .takePendingError =>
      match world.future with
      | .registered task =>
          match world.shared.pendingError with
          | some error =>
              some { world with
                shared := { world.shared with pendingError := none }
                future := .ready (.error error) }
          | none => some { world with future := .checked task }
      | _ => none
  | .readNow outcome remaining clock =>
      match world.future with
      | .checked task =>
          (reads world.samples remaining outcome).map fun samples =>
            { world with
              samples := samples
              future := pollOutcome world.shared task clock outcome }
      | _ => none
  | .dataAvailable thread count =>
      match world.callbacks thread with
      | .idle =>
          some { world with
            samples := world.samples + count
            callbacks := Function.update world.callbacks thread .stored }
      | .stored => none
  | .deadlineMissed thread =>
      match world.callbacks thread with
      | .idle =>
          some { world with
            shared := { world.shared with pendingError := some .requestedDeadLineMissed }
            callbacks := Function.update world.callbacks thread .stored }
      | .stored => none
  | .wakeCallback thread =>
      match world.callbacks thread with
      | .stored =>
          some { world.wake with callbacks := Function.update world.callbacks thread .idle }
      | .idle => none
  | .updateMatch currentCount clock =>
      let watch := world.shared.watch.map fun watch => watch.updateAt currentCount clock
      some { world with shared := { world.shared with watch := watch } }
  | .markNotified =>
      let watch := world.shared.watch.map MatchWatch.markNotified
      some { world with shared := { world.shared with watch := watch } }
  | .wakeAbsence => some world.wake
  | .takeElsewhere remaining =>
      if remaining ≤ world.samples then some { world with samples := remaining } else none

def step : World → Action → Option World := stepWith leaves

/-- The poll has passed its look at the pending error. -/
def FuturePc.pastError : FuturePc → Bool
  | .checked _ | .pending _ => true
  | .none | .created | .registered _ | .ready _ => false

def FuturePc.pastRead : FuturePc → Bool
  | .pending _ => true
  | .none | .created | .registered _ | .checked _ | .ready _ => false

/-- Something is there that the current poll has looked for too early. -/
def Overlooked (world : World) : Prop :=
  (world.future.pastError = true ∧ world.shared.pendingError ≠ none) ∨
    (world.future.pastRead = true ∧ 0 < world.samples)

def Announced (world : World) : Prop :=
  ∃ thread, world.callbacks thread = .stored

structure Inv (world : World) : Prop where
  armed : ∀ task, world.future.task = some task → world.woken = false →
    world.shared.waker = some task
  announced : world.woken = false → Overlooked world → Announced world

theorem overlooked_task (world : World) (overlooked : Overlooked world) :
    ∃ task, world.future.task = some task := by
  cases polled : world.future with
  | registered task | checked task | pending task => exact ⟨task, rfl⟩
  | none | created | ready => simp [Overlooked, polled, FuturePc.pastError, FuturePc.pastRead]
      at overlooked

/-- An armed slot belongs to the live future, so a wake that leaves it unwoken finds
no future that has registered. -/
theorem wake_quiet (world : World) (inv : Inv world) (quiet : world.wake.woken = false) :
    world.future.task = none := by
  cases polled : world.future.task with
  | none => rfl
  | some task =>
      have before : world.woken = false := by
        cases woken : world.woken with
        | false => rfl
        | true => simp [World.wake, woken] at quiet
      have slot := inv.armed task polled before
      simp [World.wake, slot, polled] at quiet

theorem wake_inv (world next : World) (inv : Inv world) (future : next.future = world.future)
    (woken : next.woken = world.wake.woken) : Inv next := by
  have unpolled : next.woken = false → ∀ task, next.future.task ≠ some task := by
    intro quiet task polled
    rw [woken] at quiet
    rw [future, wake_quiet world inv quiet] at polled
    cases polled
  constructor
  · intro task polled quiet
    exact absurd polled (unpolled quiet task)
  · intro quiet overlooked
    obtain ⟨task, polled⟩ := overlooked_task next overlooked
    exact absurd polled (unpolled quiet task)

/-- A step that shows the poll nothing new and keeps the slot. -/
theorem quiet_inv (world next : World) (inv : Inv world)
    (future : next.future = world.future) (woken : next.woken = world.woken)
    (waker : next.shared.waker = world.shared.waker)
    (announced : Overlooked next → Overlooked world ∨ Announced next)
    (kept : Announced world → Announced next) : Inv next := by
  constructor
  · intro task polled quiet
    rw [waker]
    exact inv.armed task (future ▸ polled) (woken ▸ quiet)
  · intro quiet overlooked
    rcases announced overlooked with before | now
    · exact kept (inv.announced (woken ▸ quiet) before)
    · exact now

/-- A future that is not being polled and has not been polled overlooks nothing. -/
theorem unpolled_inv (world : World) (unpolled : world.future.task = none) : Inv world := by
  constructor
  · intro task polled
    rw [unpolled] at polled
    cases polled
  · intro _ overlooked
    obtain ⟨task, polled⟩ := overlooked_task world overlooked
    rw [unpolled] at polled
    cases polled

theorem register_inv (world : World) (task : Nat) :
    Inv { world with
      shared := { world.shared with waker := some task }
      future := .registered task
      woken := false } := by
  constructor
  · rintro other ⟨rfl⟩ _
    rfl
  · intro _ overlooked
    simp [Overlooked, FuturePc.pastError, FuturePc.pastRead] at overlooked

theorem takePendingError_inv (world next : World) (inv : Inv world)
    (taken : step world .takePendingError = some next) : Inv next := by
  simp only [step, stepWith] at taken
  split at taken
  · rename_i task polled
    split at taken
    · cases taken
      exact unpolled_inv _ rfl
    · rename_i clear
      cases taken
      constructor
      · rintro other ⟨rfl⟩ quiet
        exact inv.armed task (by rw [polled]; rfl) quiet
      · intro _ overlooked
        simp [Overlooked, FuturePc.pastRead, clear] at overlooked
  · cases taken

theorem pollOutcome_cases (shared : ReaderShared) (task clock : Nat)
    (outcome : Except DDSError Nat) :
    (∃ output, pollOutcome shared task clock outcome = .ready output) ∨
      (pollOutcome shared task clock outcome = .pending task ∧ outcome = .error .noData) := by
  cases outcome with
  | ok length => exact .inl ⟨_, rfl⟩
  | error error =>
      cases error with
      | noData =>
          cases absent : shared.absentWriterError clock with
          | some error => exact .inl ⟨_, by rw [pollOutcome, absent]⟩
          | none => exact .inr ⟨by rw [pollOutcome, absent], rfl⟩
      | _ => exact .inl ⟨_, rfl⟩

theorem readNow_inv (world next : World) (outcome : Except DDSError Nat) (remaining clock : Nat)
    (inv : Inv world) (taken : step world (.readNow outcome remaining clock) = some next) :
    Inv next := by
  simp only [step, stepWith] at taken
  split at taken
  · rename_i task polled
    obtain ⟨samples, left, rfl⟩ := Option.map_eq_some_iff.mp taken
    obtain ⟨answered, ⟨⟩⟩ := Option.ite_none_right_eq_some.mp left
    rcases pollOutcome_cases world.shared task clock outcome with ⟨output, done⟩ | ⟨pends, rfl⟩
    · rw [done]
      exact unpolled_inv _ rfl
    · rw [pends]
      have empty : world.samples = 0 := by simpa [answers] using answered
      constructor
      · rintro other ⟨rfl⟩ quiet
        exact inv.armed task (by rw [polled]; rfl) quiet
      · intro quiet overlooked
        -- No data was there, so what is overlooked now is an error that came before the read.
        have error : world.shared.pendingError ≠ none := by
          rcases overlooked with ⟨_, error⟩ | ⟨_, data⟩
          · exact error
          · simp [Except.isOk, Except.toBool, empty] at data
        exact inv.announced quiet (.inl ⟨by rw [polled]; rfl, error⟩)
  · cases taken

theorem callback_inv (world next : World) (inv : Inv world)
    (future : next.future = world.future) (woken : next.woken = world.woken)
    (waker : next.shared.waker = world.shared.waker) (announced : Announced next) :
    Inv next :=
  quiet_inv world next inv future woken waker (fun _ => .inr announced) fun _ => announced

theorem step_inv (world next : World) (action : Action) (inv : Inv world)
    (taken : step world action = some next) : Inv next := by
  cases action with
  | createFuture | dropFuture =>
      simp only [step, stepWith] at taken
      split at taken <;> cases taken <;> exact unpolled_inv _ rfl
  | register task =>
      simp only [step, stepWith] at taken
      split at taken <;> cases taken <;> exact register_inv world task
  | takePendingError => exact takePendingError_inv world next inv taken
  | readNow outcome remaining clock =>
      exact readNow_inv world next outcome remaining clock inv taken
  | dataAvailable thread count | deadlineMissed thread =>
      simp only [step, stepWith] at taken
      split at taken
      · cases taken
        exact callback_inv world _ inv rfl rfl rfl ⟨thread, Function.update_self ..⟩
      · cases taken
  | wakeCallback thread =>
      simp only [step, stepWith] at taken
      split at taken
      · cases taken
        exact wake_inv world _ inv rfl rfl
      · cases taken
  | updateMatch currentCount clock | markNotified =>
      cases taken
      exact quiet_inv world _ inv rfl rfl rfl .inl id
  | wakeAbsence =>
      cases taken
      exact wake_inv world _ inv rfl rfl
  | takeElsewhere remaining =>
      obtain ⟨fewer, ⟨⟩⟩ := Option.ite_none_right_eq_some.mp taken
      refine quiet_inv world _ inv rfl rfl rfl ?_ id
      rintro (error | ⟨past, data⟩)
      · exact .inl (.inl error)
      · exact .inl (.inr ⟨past, Nat.lt_of_lt_of_le data fewer⟩)

theorem init_inv (watch : Option MatchWatch) : Inv (World.init watch) := by
  constructor
  · intro task polled
    cases polled
  · intro _ overlooked
    simp [Overlooked, World.init, FuturePc.pastError, FuturePc.pastRead] at overlooked

theorem reachable_inv (watch : Option MatchWatch) (actions : List Action) (final : World)
    (run : exec step (World.init watch) actions = some final) : Inv final := by
  apply exec_invariant step (fun _ world => Inv world) ?_ [] actions (World.init watch) final
    (init_inv watch) run
  intro _ world action next inv taken
  exact step_inv world next action inv taken

/-- Where a future is pending and its task has not been woken, data or an error is
there only if the callback that brought it has yet to wake. -/
theorem no_lost_wake (watch : Option MatchWatch) (actions : List Action) (final : World)
    (run : exec step (World.init watch) actions = some final) (task : Nat)
    (pending : final.future = .pending task) (quiet : final.woken = false)
    (there : 0 < final.samples ∨ final.shared.pendingError ≠ none) :
    ∃ thread, final.callbacks thread = .stored := by
  have inv := reachable_inv watch actions final run
  apply inv.announced quiet
  rcases there with data | error
  · exact .inr ⟨by rw [pending]; rfl, data⟩
  · exact .inl ⟨by rw [pending]; rfl, error⟩

/-- Data arrives between the read and the wake, while the future is already pending. -/
def lateArrival : List Action :=
  [.createFuture, .register 7, .takePendingError, .readNow (.error .noData) 0 0,
    .dataAvailable 1 1]

theorem lateArrival_announced : ∃ final,
    exec step (World.init none) lateArrival = some final ∧ final.future = .pending 7 ∧
      final.woken = false ∧ 0 < final.samples ∧ ∃ thread, final.callbacks thread = .stored :=
  ⟨_, rfl, rfl, rfl, by decide,
    no_lost_wake none lateArrival _ rfl 7 rfl rfl (.inl (by decide))⟩

end CycloneddsRs.AsyncRead
