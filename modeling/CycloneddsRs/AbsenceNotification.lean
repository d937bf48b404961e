import CycloneddsRs.AbsenceWatch
import CycloneddsRs.StepRuns

/-!
One watched reader between the listener thread and the watchdog thread. `scan`
collects the reader under the watchdog lock, `notify_absence` follows after the
lock is released, and match callbacks fall in between as they like.
-/

namespace CycloneddsRs.AbsenceNotification

open AbsenceWatch StepRuns

/-- What the callbacks did to the collected absence since the scan. -/
inductive SinceScan where
  | undisturbed
  | matched
  | restarted (since : Nat)
  deriving DecidableEq, Repr

structure World where
  now : Nat
  watch : MatchWatch
  /-- The reader is in the expired list that `scan` returned. -/
  collected : Bool
  /-- `generation` of the watchdog state: the calls of `reschedule`. -/
  generation : Nat
  /-- The calls of `waker.wake`. -/
  wakes : Nat
  sinceScan : SinceScan
  deriving DecidableEq, Repr

/-- The reader is created at `now`, before any writer can be matched. -/
def World.init (timeout now : Nat) : World :=
  { now := now
    watch := .newAt timeout now
    collected := false
    generation := 0
    wakes := 0
    sinceScan := .undisturbed }

/-- `clock` is the reading of `Instant::now`, taken before the lock that protects the
state; it may lag behind the time at which the step takes effect. -/
inductive Action where
  | tick (duration : Nat)
  | update (currentCount clock : Nat)
  | reschedule
  | scan (clock : Nat)
  | notifyAbsence
  deriving DecidableEq, Repr

def SinceScan.update (sinceScan : SinceScan) (currentCount clock : Nat) : SinceScan :=
  if currentCount = 0 then
    match sinceScan with
    -- The first unmatch after a match starts a period of its own.
    | .matched => .restarted clock
    | other => other
  else .matched

def isExpired (instantMax : Nat) (watch : MatchWatch) (clock : Nat) : Bool :=
  match watch.absenceDeadline instantMax with
  | some deadline => deadline ≤ clock
  | none => false

def step (instantMax : Nat) (world : World) : Action → Option World
  | .tick duration => some { world with now := world.now + duration }
  | .update currentCount clock =>
      if clock ≤ world.now then
        some { world with
          watch := world.watch.updateAt currentCount clock
          sinceScan := world.sinceScan.update currentCount clock }
      else none
  | .reschedule => some { world with generation := world.generation + 1 }
  -- A round cut short by a panic leaves its collected readers behind.
  | .scan clock =>
      if clock ≤ world.now then
        some { world with
          collected := isExpired instantMax world.watch clock
          sinceScan := .undisturbed }
      else none
  | .notifyAbsence =>
      if world.collected then
        some { world with
          watch := world.watch.markNotified
          collected := false
          wakes := world.wakes + 1 }
      else none

/-- An absence marked as notified has lasted for the whole timeout. -/
def PeriodElapsed (world : World) : Prop :=
  ∀ since, world.watch.state = .absent since true → since + world.watch.timeout ≤ world.now

/-- When the reader is notified, no absence is running that began after the scan
and is still short of its own deadline. -/
def NotRestarted (world : World) : Action → Prop
  | .notifyAbsence =>
      ∀ since, world.sinceScan = .restarted since → since + world.watch.timeout ≤ world.now
  | _ => True

/-- `sinceScan` tells the state of a collected reader. -/
def Tracked (world : World) : Prop :=
  match world.sinceScan with
  | .undisturbed => ∃ since notified, world.watch.state = .absent since notified ∧
      since + world.watch.timeout ≤ world.now
  | .matched => world.watch.state = .present
  | .restarted start => ∃ notified, world.watch.state = .absent start notified

structure Inv (world : World) : Prop where
  elapsed : PeriodElapsed world
  tracked : world.collected = true → Tracked world

theorem isExpired_true (instantMax clock : Nat) (watch : MatchWatch)
    (expired : isExpired instantMax watch clock = true) :
    ∃ since, watch.state = .absent since false ∧ since + watch.timeout ≤ clock := by
  rw [isExpired] at expired
  cases due : watch.absenceDeadline instantMax with
  | none => simp [due] at expired
  | some deadline =>
      obtain ⟨since, held, rfl⟩ := absenceDeadline_some instantMax deadline watch due
      rw [due] at expired
      exact ⟨since, held, of_decide_eq_true expired⟩

theorem init_inv (timeout now : Nat) : Inv (World.init timeout now) := by
  constructor
  · intro since held
    cases held
  · intro collected
    cases collected

/-- A callback never marks an absence, so what is marked was running before. -/
theorem update_elapsed (world : World) (currentCount clock : Nat) (elapsed : PeriodElapsed world) :
    ∀ since, (world.watch.updateAt currentCount clock).state = .absent since true →
      since + world.watch.timeout ≤ world.now := by
  intro since held
  by_cases unmatched : currentCount = 0
  · subst unmatched
    rw [updateAt_unmatched] at held
    cases before : world.watch.state with
    | present => simp [before] at held
    | absent start notified =>
        rw [before] at held
        cases held
        exact elapsed since before
  · rw [updateAt_matched world.watch currentCount clock unmatched] at held
    cases held

theorem update_tracked (world : World) (currentCount clock : Nat) (tracked : Tracked world) :
    Tracked { world with
      watch := world.watch.updateAt currentCount clock
      sinceScan := world.sinceScan.update currentCount clock } := by
  by_cases unmatched : currentCount = 0
  · subst unmatched
    cases history : world.sinceScan with
    | undisturbed =>
        rw [Tracked, history] at tracked
        obtain ⟨since, notified, held, due⟩ := tracked
        refine ⟨since, notified, ?_, by simpa using due⟩
        rw [updateAt_unmatched, held]
    | matched =>
        rw [Tracked, history] at tracked
        refine ⟨false, ?_⟩
        rw [updateAt_unmatched, tracked]
    | restarted start =>
        rw [Tracked, history] at tracked
        obtain ⟨notified, held⟩ := tracked
        refine ⟨notified, ?_⟩
        rw [updateAt_unmatched, held]
  · have history : world.sinceScan.update currentCount clock = .matched := if_neg unmatched
    rw [Tracked, history]
    exact updateAt_matched world.watch currentCount clock unmatched

theorem tick_tracked (world : World) (duration : Nat) (tracked : Tracked world) :
    Tracked { world with now := world.now + duration } := by
  cases history : world.sinceScan with
  | undisturbed =>
      simp only [Tracked, history] at tracked ⊢
      obtain ⟨since, notified, held, due⟩ := tracked
      exact ⟨since, notified, held, Nat.le_add_right_of_le due⟩
  | matched | restarted => simpa only [Tracked, history] using tracked

/-- Every step but the notification keeps marked absences elapsed. -/
theorem step_inv (instantMax : Nat) (world next : World) (action : Action) (inv : Inv world)
    (taken : step instantMax world action = some next) (elapsed : PeriodElapsed next) :
    Inv next := by
  refine ⟨elapsed, ?_⟩
  intro collected
  cases action with
  | tick duration =>
      cases taken
      exact tick_tracked world duration (inv.tracked collected)
  | update currentCount clock =>
      simp only [step] at taken
      split at taken
      · cases taken
        exact update_tracked world currentCount clock (inv.tracked collected)
      · cases taken
  | reschedule =>
      cases taken
      exact inv.tracked collected
  | scan clock =>
      simp only [step] at taken
      split at taken
      · rename_i reading
        cases taken
        obtain ⟨since, held, due⟩ := isExpired_true instantMax clock world.watch collected
        exact ⟨since, false, held, due.trans reading⟩
      · cases taken
  | notifyAbsence =>
      simp only [step] at taken
      split at taken
      · cases taken
        cases collected
      · cases taken

theorem notify_elapsed_iff (world : World) (inv : Inv world) (collected : world.collected = true) :
    (∀ since, world.watch.markNotified.state = .absent since true →
        since + world.watch.timeout ≤ world.now) ↔
      NotRestarted world .notifyAbsence := by
  have tracked := inv.tracked collected
  rw [markNotified_state]
  cases history : world.sinceScan with
  | undisturbed =>
      rw [Tracked, history] at tracked
      obtain ⟨start, notified, held, due⟩ := tracked
      apply iff_of_true
      · intro since marked
        rw [held] at marked
        cases marked
        exact due
      · intro since restarted
        rw [history] at restarted
        cases restarted
  -- A reader that is matched has no absence to mark.
  | matched =>
      rw [Tracked, history] at tracked
      apply iff_of_true
      · intro since marked
        rw [tracked] at marked
        cases marked
      · intro since restarted
        rw [history] at restarted
        cases restarted
  -- The absence that gets marked is the new one, whatever its age.
  | restarted start =>
      rw [Tracked, history] at tracked
      obtain ⟨notified, held⟩ := tracked
      rw [held, NotRestarted, history]
      constructor
      · rintro elapsed since ⟨rfl⟩
        exact elapsed start rfl
      · rintro elapsed since ⟨rfl⟩
        exact elapsed start rfl

theorem step_elapsed_iff (instantMax : Nat) (world next : World) (action : Action)
    (inv : Inv world) (taken : step instantMax world action = some next) :
    PeriodElapsed next ↔ NotRestarted world action := by
  cases action with
  | tick duration =>
      cases taken
      exact iff_of_true (fun since held => Nat.le_add_right_of_le (inv.elapsed since held)) trivial
  | update currentCount clock =>
      simp only [step] at taken
      split at taken
      · cases taken
        apply iff_of_true _ trivial
        intro since held
        simpa using update_elapsed world currentCount clock inv.elapsed since held
      · cases taken
  | reschedule =>
      cases taken
      exact iff_of_true inv.elapsed trivial
  | scan clock =>
      simp only [step] at taken
      split at taken
      · cases taken
        exact iff_of_true inv.elapsed trivial
      · cases taken
  | notifyAbsence =>
      simp only [step] at taken
      split at taken
      · rename_i collected
        cases taken
        rw [← notify_elapsed_iff world inv collected]
        simp only [PeriodElapsed, markNotified_timeout]
      · cases taken

/-- No absence is silenced before its time, in any run, if and only if no reader is
notified in a young absence that began after the scan which collected it. -/
theorem elapsed_iff_notRestarted (instantMax timeout start : Nat) (actions : List Action) :
    Along (step instantMax) (fun _ _ next => PeriodElapsed next) (World.init timeout start)
        actions ↔
      Along (step instantMax) (fun world action _ => NotRestarted world action)
        (World.init timeout start) actions := by
  apply along_iff (step instantMax) Inv
  · intro world action next inv taken
    exact step_elapsed_iff instantMax world next action inv taken
  · intro world action next inv taken elapsed
    exact step_inv instantMax world next action inv taken elapsed
  · exact init_inv timeout start

/-- A writer comes and goes between the scan and the notification. -/
def flickering : List Action :=
  [.tick 10, .scan 10, .update 1 10, .reschedule, .update 0 10, .reschedule, .notifyAbsence]

theorem flickering_silenced : ∃ final,
    exec (step 1000) (World.init 10 0) flickering = some final ∧
      final.now = 10 ∧ final.watch = { timeout := 10, state := .absent 10 true } ∧
      final.watch.absenceDeadline 1000 = none ∧ ¬ PeriodElapsed final := by
  refine ⟨_, rfl, rfl, rfl, rfl, ?_⟩
  intro elapsed
  exact absurd (elapsed 10 rfl) (by decide)

end CycloneddsRs.AbsenceNotification
