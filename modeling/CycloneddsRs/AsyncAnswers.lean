import CycloneddsRs.AbsenceRuns
import CycloneddsRs.AsyncRead

/-!
What the read futures of an asynchronous reader answer, read off the history of the reader
alone: every error has its reason in an event that came before, and each burst of missed
deadlines is told once.
-/

namespace CycloneddsRs.AsyncAnswers

open AbsenceRuns AbsenceWatch AsyncRead DdsError StepRuns

/-- The reader of a builder that was given a timeout or none. -/
def created (timeout : Option Nat) (creation : Nat) : World :=
  World.init (timeout.map fun timeout => MatchWatch.newAt timeout creation)

/-- A mask may pass over what the reader holds, and a take throws an invalid first sample away:
a read can come back with nothing although samples were there. -/
def mayLeave (samples remaining : Nat) : Except DDSError Nat → Option Nat
  | .ok _ => if 0 < samples ∧ remaining ≤ samples then some remaining else none
  | .error _ => if remaining ≤ samples then some remaining else none

def readerStep : World → Action → Option World := stepWith mayLeave

def watchEvent : Action → Option WatchEvent
  | .updateMatch currentCount clock => some (.update currentCount clock)
  | .markNotified => some .markNotified
  | _ => none

/-- Whether a missed deadline is still to be told after an action. -/
def owe (owed : Bool) : Action → Bool
  | .deadlineMissed _ => true
  | .takePendingError => false
  | _ => owed

def owed (past : List Action) : Bool := past.foldl owe false

/-- What the reader holds for a miss that is still to be told. -/
def heldError (owed : Bool) : Option ReaderError :=
  if owed then some .requestedDeadLineMissed else none

/-- The future that answered is still there. -/
def Undisturbed (actions : List Action) : Prop :=
  .createFuture ∉ actions ∧ .dropFuture ∉ actions

/-- An answer that the history accounts for. `before` leads up to the step that gave it. -/
inductive Justified (timeout : Option Nat) (creation : Nat) :
    List Action → Except ReaderError Nat → Prop
  | samples (before after : List Action) (length remaining clock : Nat) (reader : World) :
      exec readerStep (created timeout creation) before = some reader → 0 < reader.samples →
      Undisturbed after → Justified timeout creation
        (before ++ .readNow (.ok length) remaining clock :: after) (.ok length)
  | missed (before after : List Action) : owed before = true → Undisturbed after →
      Justified timeout creation (before ++ .takePendingError :: after)
        (.error .requestedDeadLineMissed)
  | absent (before after : List Action) (limit remaining clock start : Nat)
      (counts : List WatchEvent) : timeout = some limit →
      ZeroRun creation (before.filterMap watchEvent) start counts → limit ≤ clock - start →
      Undisturbed after → Justified timeout creation
        (before ++ .readNow (.error .noData) remaining clock :: after)
        (.error (.noMatchedWriter limit))
  | failed (before after : List Action) (error : DDSError) (remaining clock : Nat) :
      error ≠ .noData → Undisturbed after → Justified timeout creation
        (before ++ .readNow (.error error) remaining clock :: after) (.error (.ddsError error))

variable (timeout : Option Nat) (creation : Nat)

/-- What the history says about the state of the reader. -/
structure Told (past : List Action) (world : World) : Prop where
  reached : exec readerStep (created timeout creation) past = some world
  watch : world.shared.watch = timeout.map fun timeout =>
    replay timeout creation (past.filterMap watchEvent)
  pendingError : world.shared.pendingError = heldError (owed past)
  answer : ∀ output, world.future = .ready output → Justified timeout creation past output

theorem owed_snoc (past : List Action) (action : Action) :
    owed (past ++ [action]) = owe (owed past) action := by
  rw [owed, List.foldl_append]
  rfl

theorem undisturbed_snoc (actions : List Action) (action : Action)
    (before : Undisturbed actions) (kept : action ≠ .createFuture ∧ action ≠ .dropFuture) :
    Undisturbed (actions ++ [action]) := by
  constructor
  · simpa [Undisturbed, before.1] using kept.1.symm
  · simpa [Undisturbed, before.2] using kept.2.symm

/-- An answer stays justified as long as its future is there. -/
theorem justified_snoc (past : List Action) (output : Except ReaderError Nat) (action : Action)
    (justified : Justified timeout creation past output)
    (kept : action ≠ .createFuture ∧ action ≠ .dropFuture) :
    Justified timeout creation (past ++ [action]) output := by
  cases justified with
  | samples before after length remaining clock reader reached held later =>
      rw [List.append_assoc, List.cons_append]
      exact .samples before _ length remaining clock reader reached held
        (undisturbed_snoc after action later kept)
  | missed before after owing later =>
      rw [List.append_assoc, List.cons_append]
      exact .missed before _ owing (undisturbed_snoc after action later kept)
  | absent before after limit remaining clock start counts given run elapsed later =>
      rw [List.append_assoc, List.cons_append]
      exact .absent before _ limit remaining clock start counts given run elapsed
        (undisturbed_snoc after action later kept)
  | failed before after error remaining clock other later =>
      rw [List.append_assoc, List.cons_append]
      exact .failed before _ error remaining clock other
        (undisturbed_snoc after action later kept)

theorem step_owe (owed : Bool) (action : Action) (world next : World)
    (held : world.shared.pendingError = heldError owed)
    (taken : readerStep world action = some next) :
    next.shared.pendingError = heldError (owe owed action) := by
  cases action with
  | takePendingError =>
      simp only [readerStep, stepWith] at taken
      split at taken
      · split at taken
        · cases taken
          rfl
        · rename_i clear
          cases taken
          exact clear
      · cases taken
  | createFuture | dropFuture | register | deadlineMissed | dataAvailable | wakeCallback =>
      simp only [readerStep, stepWith] at taken
      split at taken <;> cases taken <;> first | exact held | rfl
  | readNow outcome remaining clock =>
      simp only [readerStep, stepWith] at taken
      split at taken
      · obtain ⟨samples, -, rfl⟩ := Option.map_eq_some_iff.mp taken
        exact held
      · cases taken
  | takeElsewhere remaining =>
      obtain ⟨-, ⟨⟩⟩ := Option.ite_none_right_eq_some.mp taken
      exact held
  | updateMatch | markNotified | wakeAbsence =>
      cases taken
      exact held

/-- An action that leaves the watch as it is. -/
theorem told_quiet (past : List Action) (action : Action) (world next : World)
    (told : Told timeout creation past world) (taken : readerStep world action = some next)
    (unwatched : watchEvent action = none) (watch : next.shared.watch = world.shared.watch)
    (answer : ∀ output, next.future = .ready output →
      Justified timeout creation (past ++ [action]) output) :
    Told timeout creation (past ++ [action]) next := by
  refine ⟨exec_snoc readerStep past action _ world next told.reached taken, ?_, ?_, answer⟩
  · rw [watch, told.watch, List.filterMap_append]
    simp [unwatched]
  · rw [owed_snoc]
    exact step_owe (owed past) action world next told.pendingError taken

/-- Where the future stays as it is, so does its answer. -/
theorem told_kept (past : List Action) (action : Action) (world next : World)
    (told : Told timeout creation past world) (future : next.future = world.future)
    (kept : action ≠ .createFuture ∧ action ≠ .dropFuture) (output : Except ReaderError Nat)
    (ready : next.future = .ready output) :
    Justified timeout creation (past ++ [action]) output :=
  justified_snoc timeout creation past output action
    (told.answer output (future ▸ ready)) kept

theorem take_told (past : List Action) (world next : World)
    (told : Told timeout creation past world)
    (taken : readerStep world .takePendingError = some next) :
    Told timeout creation (past ++ [.takePendingError]) next := by
  have settled := told.pendingError
  refine told_quiet timeout creation past _ world next told taken rfl ?_ ?_
  all_goals
    simp only [readerStep, stepWith] at taken
    split at taken
    case h_2 => cases taken
    split at taken
  · cases taken
    rfl
  · cases taken
    rfl
  · rename_i error pending
    cases taken
    rintro output ⟨⟩
    -- Something is pending only when a miss is still to be told, and then it is just that.
    cases owing : owed past with
    | false => simp [settled, owing, heldError] at pending
    | true =>
        simp only [settled, owing, heldError, if_true, Option.some.injEq] at pending
        subst pending
        exact .missed past [] owing ⟨List.not_mem_nil, List.not_mem_nil⟩
  · cases taken
    rintro output ⟨⟩

/-- The reader finds its writers absent by the counts that came. -/
theorem absent_told (past : List Action) (world : World)
    (told : Told timeout creation past world) (clock : Nat) (error : ReaderError) :
    world.shared.absentWriterError clock = some error ↔
      ∃ limit start counts, timeout = some limit ∧ error = .noMatchedWriter limit ∧
        ZeroRun creation (past.filterMap watchEvent) start counts ∧ limit ≤ clock - start := by
  rw [ReaderShared.absentWriterError, told.watch]
  cases timeout with
  | none => simp
  | some limit =>
      have run := isAbsentAt_iff_zeroRun limit creation clock (past.filterMap watchEvent)
      simp only [Option.map_some, replay_timeout, Option.ite_none_right_eq_some, run,
        Option.some.injEq]
      constructor
      · rintro ⟨⟨start, counts, zero, elapsed⟩, rfl⟩
        exact ⟨limit, start, counts, rfl, rfl, zero, elapsed⟩
      · rintro ⟨_, start, counts, rfl, rfl, zero, elapsed⟩
        exact ⟨⟨start, counts, zero, elapsed⟩, rfl⟩

theorem read_told (past : List Action) (world next : World) (outcome : Except DDSError Nat)
    (remaining clock : Nat) (told : Told timeout creation past world)
    (taken : readerStep world (.readNow outcome remaining clock) = some next) :
    Told timeout creation (past ++ [.readNow outcome remaining clock]) next := by
  have alone : Undisturbed [] := ⟨List.not_mem_nil, List.not_mem_nil⟩
  obtain ⟨task, samples, left, same⟩ : ∃ task samples,
      mayLeave world.samples remaining outcome = some samples ∧
        next = { world with
          samples := samples, future := pollOutcome world.shared task clock outcome } := by
    simp only [readerStep, stepWith] at taken
    split at taken
    · rename_i task _
      obtain ⟨samples, left, rfl⟩ := Option.map_eq_some_iff.mp taken
      exact ⟨task, samples, left, rfl⟩
    · cases taken
  refine told_quiet timeout creation past _ world next told taken rfl (by rw [same]) ?_
  intro output ready
  rw [same] at ready
  cases outcome with
  | ok length =>
      simp only [pollOutcome, FuturePc.ready.injEq] at ready
      subst ready
      obtain ⟨⟨held, -⟩, -⟩ := Option.ite_none_right_eq_some.mp left
      exact .samples past [] length remaining clock world told.reached held alone
  | error error =>
      by_cases empty : error = .noData
      · subst empty
        cases absent : world.shared.absentWriterError clock with
        | none => simp [pollOutcome, absent] at ready
        | some reason =>
            simp only [pollOutcome, absent, FuturePc.ready.injEq] at ready
            subst ready
            obtain ⟨limit, start, counts, given, rfl, run, elapsed⟩ :=
              (absent_told timeout creation past world told clock reason).mp absent
            exact .absent past [] limit remaining clock start counts given run elapsed alone
      · have failed : pollOutcome world.shared task clock (.error error) =
            .ready (.error (.ddsError error)) := by
          cases error <;> first | rfl | exact absurd rfl empty
        simp only [failed, FuturePc.ready.injEq] at ready
        subst ready
        exact .failed past [] error remaining clock empty alone

theorem watched_told (past : List Action) (action : Action) (world next : World)
    (event : WatchEvent) (told : Told timeout creation past world)
    (taken : readerStep world action = some next) (seen : watchEvent action = some event)
    (kept : action ≠ .createFuture ∧ action ≠ .dropFuture)
    (changed : next.shared.watch = world.shared.watch.map (fun watch => apply watch event) ∧
      next.future = world.future) :
    Told timeout creation (past ++ [action]) next := by
  refine ⟨exec_snoc readerStep past action _ world next told.reached taken, ?_, ?_, ?_⟩
  · rw [changed.1, told.watch, Option.map_map, List.filterMap_append]
    congr 1
    funext limit
    simpa [seen] using (replay_snoc limit creation (past.filterMap watchEvent) event).symm
  · rw [owed_snoc]
    exact step_owe (owed past) action world next told.pendingError taken
  · exact told_kept timeout creation past action world next told changed.2 kept

theorem step_told (past : List Action) (world : World) (action : Action) (next : World)
    (told : Told timeout creation past world) (taken : readerStep world action = some next) :
    Told timeout creation (past ++ [action]) next := by
  cases action with
  | takePendingError => exact take_told timeout creation past world next told taken
  | readNow outcome remaining clock =>
      exact read_told timeout creation past world next outcome remaining clock told taken
  | createFuture | dropFuture | register =>
      -- The future begins or ends: it has no answer.
      have whole := taken
      simp only [readerStep, stepWith] at taken
      split at taken <;> cases taken <;>
        exact told_quiet timeout creation past _ world _ told whole rfl rfl (by rintro _ ⟨⟩)
  | dataAvailable | deadlineMissed | wakeCallback =>
      have whole := taken
      simp only [readerStep, stepWith] at taken
      split at taken <;> cases taken
      exact told_quiet timeout creation past _ world _ told whole rfl rfl
        (told_kept timeout creation past _ world _ told rfl (by simp))
  | takeElsewhere remaining =>
      have whole := taken
      obtain ⟨-, ⟨⟩⟩ := Option.ite_none_right_eq_some.mp taken
      exact told_quiet timeout creation past _ world _ told whole rfl rfl
        (told_kept timeout creation past _ world _ told rfl (by simp))
  | wakeAbsence =>
      have whole := taken
      cases taken
      exact told_quiet timeout creation past _ world _ told whole rfl rfl
        (told_kept timeout creation past _ world _ told rfl (by simp))
  | updateMatch currentCount clock =>
      exact watched_told timeout creation past _ world next (.update currentCount clock) told taken
        rfl (by simp) (by cases taken; exact ⟨rfl, rfl⟩)
  | markNotified =>
      exact watched_told timeout creation past _ world next .markNotified told taken rfl
        (by simp) (by cases taken; exact ⟨rfl, rfl⟩)

theorem told_run (actions : List Action) (world : World)
    (run : exec readerStep (created timeout creation) actions = some world) :
    Told timeout creation actions world := by
  have start : Told timeout creation [] (created timeout creation) :=
    ⟨rfl, rfl, rfl, by rintro _ ⟨⟩⟩
  exact exec_invariant readerStep (Told timeout creation) (step_told timeout creation) [] actions _
    world start run

/-! Each burst of misses is told once -/

/-- The step answers a future with a missed deadline. -/
def tells (action : Action) (next : World) : Bool :=
  match action, next.future with
  | .takePendingError, .ready (.error .requestedDeadLineMissed) => true
  | _, _ => false

def reports : World → List Action → Nat
  | _, [] => 0
  | world, action :: rest =>
      match readerStep world action with
      | none => 0
      | some next => (tells action next).toNat + reports next rest

/-- The misses that come when none is to be told yet. -/
def bursts : Bool → List Action → Nat
  | _, [] => 0
  | owed, action :: rest => (owe owed action && !owed).toNat + bursts (owe owed action) rest

theorem step_tells (owed : Bool) (action : Action) (world next : World)
    (held : world.shared.pendingError = heldError owed)
    (taken : readerStep world action = some next) :
    (tells action next).toNat + (owe owed action).toNat =
      (owe owed action && !owed).toNat + owed.toNat := by
  cases action with
  | takePendingError =>
      simp only [readerStep, stepWith] at taken
      split at taken
      · split at taken
        · rename_i error pending
          cases taken
          cases owed with
          | false => simp [held, heldError] at pending
          | true =>
              simp only [held, heldError, if_true, Option.some.injEq] at pending
              subst pending
              rfl
        · rename_i clear
          cases taken
          cases owed with
          | false => rfl
          | true => simp [held, heldError] at clear
      · cases taken
  | deadlineMissed => cases owed <;> rfl
  | _ => cases owed <;> rfl

theorem reports_run (owed : Bool) (actions : List Action) (world final : World)
    (held : world.shared.pendingError = heldError owed)
    (run : exec readerStep world actions = some final) :
    reports world actions + final.shared.pendingError.isSome.toNat =
      bursts owed actions + owed.toNat := by
  induction actions generalizing owed world with
  | nil =>
      cases run
      rw [held]
      cases owed <;> rfl
  | cons action rest ih =>
      obtain ⟨next, taken, tail⟩ := Option.bind_eq_some_iff.mp run
      have here := step_tells owed action world next held taken
      have later := ih (owe owed action) next (step_owe owed action world next held taken) tail
      simp only [reports, taken, bursts]
      omega

/-- In every run each answer of a read has its reason in the events before it: samples only
from a reader that held some, a missed deadline only after a miss that no answer has told yet,
absent writers only where a read came back with nothing and the counts had been zero for the
timeout. No burst of misses is told twice or forgotten. -/
theorem answers_accounted (actions : List Action) (world : World)
    (run : exec readerStep (created timeout creation) actions = some world) :
    (∀ output, world.future = .ready output → Justified timeout creation actions output) ∧
      reports (created timeout creation) actions + world.shared.pendingError.isSome.toNat =
        bursts false actions := by
  constructor
  · exact (told_run timeout creation actions world run).answer
  · exact reports_run false actions _ world rfl run

/-- The first read masks the sample that is held; the two misses before the second poll make
one answer. -/
def missedTwice : List Action :=
  [.createFuture, .dataAvailable 1 1, .wakeCallback 1, .register 7, .takePendingError,
    .readNow (.error .noData) 1 4, .deadlineMissed 1, .wakeCallback 1, .deadlineMissed 2,
    .register 7, .takePendingError]

theorem missedTwice_accounted :
    ∃ world, exec readerStep (created (some 10) 0) missedTwice = some world ∧
      Justified (some 10) 0 missedTwice (.error .requestedDeadLineMissed) ∧
      reports (created (some 10) 0) missedTwice + world.shared.pendingError.isSome.toNat = 1 := by
  obtain ⟨justified, counted⟩ := answers_accounted (some 10) 0 missedTwice _ rfl
  exact ⟨_, rfl, justified _ rfl, counted⟩

end CycloneddsRs.AsyncAnswers
