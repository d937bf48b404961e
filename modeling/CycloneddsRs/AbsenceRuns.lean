import CycloneddsRs.AbsenceWatch
import Mathlib.Data.List.Basic
import Mathlib.Data.List.Induction

/-!
match_watch.rs over whole histories: which counts a watch has seen decides its
state. `ZeroRun` reads the current run of zero counts off the history alone; the
state machine is compared with it.
-/

namespace CycloneddsRs.AbsenceRuns
open AbsenceWatch

inductive WatchEvent where
  | update (currentCount now : Nat)
  | markNotified
  deriving DecidableEq, Repr

def apply (watch : MatchWatch) : WatchEvent → MatchWatch
  | .update currentCount now => watch.updateAt currentCount now
  | .markNotified => watch.markNotified

def replay (timeout creation : Nat) (events : List WatchEvent) : MatchWatch :=
  events.foldl apply (MatchWatch.newAt timeout creation)

def WatchEvent.instant : WatchEvent → Option Nat
  | .update _ now => some now
  | .markNotified => none

/-- The instants of a history, from the creation to the query, never go back. -/
def Timed (creation : Nat) (events : List WatchEvent) (now : Nat) : Prop :=
  (creation :: events.filterMap WatchEvent.instant ++ [now]).Pairwise (· ≤ ·)

instance (creation : Nat) (events : List WatchEvent) (now : Nat) :
    Decidable (Timed creation events now) :=
  inferInstanceAs (Decidable (List.Pairwise _ _))

def Unmatched (events : List WatchEvent) : Prop :=
  ∀ currentCount now, .update currentCount now ∈ events → currentCount = 0

/-- The history ends in a run of zero counts. It starts at the creation when no
count was ever non-zero, else at the first zero count after the last non-zero one;
`since` holds the events from that start on. -/
inductive ZeroRun (creation : Nat) : List WatchEvent → Nat → List WatchEvent → Prop where
  | fromCreation (events : List WatchEvent) : Unmatched events →
      ZeroRun creation events creation events
  | afterMatch (before marks since : List WatchEvent) (currentCount matched start : Nat) :
      currentCount ≠ 0 → (∀ event ∈ marks, event = .markNotified) → Unmatched since →
      ZeroRun creation
        (before ++ .update currentCount matched :: (marks ++ .update 0 start :: since))
        start since

/-- The last count of the history is not zero. -/
def EndsMatched (events : List WatchEvent) : Prop :=
  ∃ before currentCount matched marks, currentCount ≠ 0 ∧
    (∀ event ∈ marks, event = .markNotified) ∧
    events = before ++ .update currentCount matched :: marks

theorem unmatched_snoc (events : List WatchEvent) (event : WatchEvent)
    (unmatched : Unmatched events) (zero : ∀ count now, event = .update count now → count = 0) :
    Unmatched (events ++ [event]) := by
  intro count now held
  rcases List.mem_append.mp held with earlier | last
  · exact unmatched count now earlier
  · exact zero count now (List.mem_singleton.mp last).symm

/-- A run goes on with every event that is no non-zero count. -/
theorem ZeroRun.snoc (creation start : Nat) (events since : List WatchEvent) (event : WatchEvent)
    (run : ZeroRun creation events start since)
    (zero : ∀ count now, event = .update count now → count = 0) :
    ZeroRun creation (events ++ [event]) start (since ++ [event]) := by
  cases run with
  | fromCreation _ unmatched =>
      exact .fromCreation _ (unmatched_snoc _ event unmatched zero)
  | afterMatch before marks _ count matched _ positive marked unmatched =>
      have longer := @ZeroRun.afterMatch creation before marks (since ++ [event])
        count matched start positive marked (unmatched_snoc _ event unmatched zero)
      simpa using longer

/-- Every history ends in a zero run or in a non-zero count. -/
theorem zeroRun_or_endsMatched (creation : Nat) (events : List WatchEvent) :
    (∃ start since, ZeroRun creation events start since) ∨ EndsMatched events := by
  induction events using List.reverseRecOn with
  | nil => exact .inl ⟨creation, [], .fromCreation [] (by simp [Unmatched])⟩
  | append_singleton events event ih =>
      cases event with
      | markNotified =>
          rcases ih with ⟨start, since, run⟩ | ⟨before, count, matched, marks, positive, marked, rfl⟩
          · exact .inl ⟨start, _, run.snoc _ _ _ _ _ (by simp)⟩
          · refine .inr ⟨before, count, matched, marks ++ [.markNotified], positive, ?_, by simp⟩
            intro event held
            rcases List.mem_append.mp held with earlier | last
            · exact marked event earlier
            · exact List.mem_singleton.mp last
      | update count now =>
          by_cases positive : count = 0
          · subst positive
            rcases ih with ⟨start, since, run⟩ | ⟨before, last, matched, marks, other, marked, rfl⟩
            · refine .inl ⟨start, _, run.snoc _ _ _ _ _ ?_⟩
              intro count' now' equal
              cases equal
              rfl
            · have restarted := @ZeroRun.afterMatch creation before marks []
                last matched now other marked (by simp [Unmatched])
              exact .inl ⟨now, [], by simpa using restarted⟩
          · exact .inr ⟨events, count, now, [], positive, by simp, rfl⟩

@[simp] theorem apply_timeout (watch : MatchWatch) (event : WatchEvent) :
    (apply watch event).timeout = watch.timeout := by
  cases event with
  | update count now => exact updateAt_timeout watch count now
  | markNotified => exact markNotified_timeout watch

theorem foldl_timeout (events : List WatchEvent) (watch : MatchWatch) :
    (events.foldl apply watch).timeout = watch.timeout := by
  induction events generalizing watch with
  | nil => rfl
  | cons event rest ih => rw [List.foldl_cons, ih, apply_timeout]

/-- A matched watch stays matched under notification marks. -/
theorem marks_present (marks : List WatchEvent) (watch : MatchWatch)
    (marked : ∀ event ∈ marks, event = .markNotified) (present : watch.state = .present) :
    (marks.foldl apply watch).state = .present := by
  induction marks generalizing watch with
  | nil => exact present
  | cons event rest ih =>
      have mark : event = .markNotified := marked event List.mem_cons_self
      subst mark
      refine ih _ (fun later held => marked later (List.mem_cons_of_mem _ held)) ?_
      rw [apply, markNotified_state, present]

/-- A running absence keeps its start, and is notified once a mark has fallen into it. -/
theorem unmatched_absent (since : List WatchEvent) (watch : MatchWatch) (start : Nat)
    (notified : Bool) (unmatched : Unmatched since) (held : watch.state = .absent start notified) :
    (since.foldl apply watch).state =
      .absent start (notified || decide (.markNotified ∈ since)) := by
  induction since generalizing watch notified with
  | nil => simpa using held
  | cons event rest ih =>
      have later : Unmatched rest := fun count now member =>
        unmatched count now (List.mem_cons_of_mem _ member)
      cases event with
      | markNotified =>
          have next : (apply watch .markNotified).state = .absent start true := by
            rw [apply, markNotified_state, held]
          simpa using ih _ true later next
      | update count now =>
          have zero : count = 0 := unmatched count now List.mem_cons_self
          have next : (apply watch (.update count now)).state = .absent start notified := by
            rw [apply, zero, updateAt_unmatched, held]
          simpa using ih _ notified later next

theorem endsMatched_present (timeout creation : Nat) (events : List WatchEvent)
    (ended : EndsMatched events) : (replay timeout creation events).state = .present := by
  obtain ⟨before, count, matched, marks, positive, marked, rfl⟩ := ended
  rw [replay, List.foldl_append, List.foldl_cons]
  exact marks_present marks _ marked (updateAt_matched _ count matched positive)

/-- The machine's start and flag are the ones of the history's zero run. -/
theorem zeroRun_absent (timeout creation start : Nat) (events since : List WatchEvent)
    (run : ZeroRun creation events start since) :
    (replay timeout creation events).state =
      .absent start (decide (.markNotified ∈ since)) := by
  cases run with
  | fromCreation _ unmatched =>
      simpa [replay] using unmatched_absent events (MatchWatch.newAt timeout creation) creation
        false unmatched rfl
  | afterMatch before marks _ count matched _ positive marked unmatched =>
      rw [replay, List.foldl_append, List.foldl_cons, List.foldl_append, List.foldl_cons]
      have present := marks_present marks
        (apply (before.foldl apply (MatchWatch.newAt timeout creation)) (.update count matched))
        marked (updateAt_matched _ count matched positive)
      have restarted : (apply (marks.foldl apply (apply (before.foldl apply
          (MatchWatch.newAt timeout creation)) (.update count matched))) (.update 0 start)).state =
          .absent start false := by
        rw [apply, updateAt_unmatched, present]
      simpa using unmatched_absent since _ start false unmatched restarted

/-- The state of a watch is determined by its history alone. -/
theorem absent_iff_zeroRun (timeout creation start : Nat) (events : List WatchEvent)
    (notified : Bool) :
    (replay timeout creation events).state = .absent start notified ↔
      ∃ since, ZeroRun creation events start since ∧
        notified = decide (.markNotified ∈ since) := by
  constructor
  · intro held
    rcases zeroRun_or_endsMatched creation events with ⟨began, since, run⟩ | ended
    · have state := zeroRun_absent timeout creation began events since run
      rw [held] at state
      injection state with sameStart sameFlag
      subst sameStart
      exact ⟨since, run, sameFlag⟩
    · rw [endsMatched_present timeout creation events ended] at held
      cases held
  · rintro ⟨since, run, rfl⟩
    exact zeroRun_absent timeout creation start events since run

/-- A zero run starts no later than the query. -/
theorem zeroRun_start_le (creation start now : Nat) (events since : List WatchEvent)
    (timed : Timed creation events now) (run : ZeroRun creation events start since) :
    start ≤ now := by
  have bounded : ∀ instant ∈ creation :: events.filterMap WatchEvent.instant, instant ≤ now :=
    fun instant held => (List.pairwise_append.mp timed).2.2 instant held now (by simp)
  apply bounded
  cases run with
  | fromCreation => exact List.mem_cons_self
  | afterMatch before marks _ count matched => simp [WatchEvent.instant]

theorem isAbsentAt_iff (watch : MatchWatch) (now : Nat) :
    watch.isAbsentAt now = true ↔
      ∃ start notified, watch.state = .absent start notified ∧ watch.timeout ≤ now - start := by
  rw [MatchWatch.isAbsentAt]
  cases held : watch.state with
  | present => simp
  | absent start notified => simp

theorem absenceDeadline_iff (instantMax deadline : Nat) (watch : MatchWatch) :
    watch.absenceDeadline instantMax = some deadline ↔
      ∃ start, watch.state = .absent start false ∧ start + watch.timeout ≤ instantMax ∧
        deadline = start + watch.timeout := by
  rw [MatchWatch.absenceDeadline]
  cases held : watch.state with
  | present => simp
  | absent start notified =>
      cases notified with
      | true => simp
      | false =>
          by_cases fits : start + watch.timeout ≤ instantMax
          · simp [checkedAdd, fits, eq_comm]
          · simp [checkedAdd, fits]

@[simp] theorem replay_timeout (timeout creation : Nat) (events : List WatchEvent) :
    (replay timeout creation events).timeout = timeout :=
  foldl_timeout events _

theorem replay_snoc (timeout creation : Nat) (events : List WatchEvent) (event : WatchEvent) :
    replay timeout creation (events ++ [event]) = apply (replay timeout creation events) event := by
  rw [replay, List.foldl_append, List.foldl_cons, List.foldl_nil, replay]

theorem isAbsentAt_iff_zeroRun (timeout creation now : Nat) (events : List WatchEvent) :
    (replay timeout creation events).isAbsentAt now = true ↔
      ∃ start since, ZeroRun creation events start since ∧ timeout ≤ now - start := by
  rw [isAbsentAt_iff, replay_timeout]
  constructor
  · rintro ⟨start, notified, held, elapsed⟩
    obtain ⟨since, run, -⟩ := (absent_iff_zeroRun timeout creation start events notified).mp held
    exact ⟨start, since, run, elapsed⟩
  · rintro ⟨start, since, run, elapsed⟩
    exact ⟨start, _, zeroRun_absent timeout creation start events since run, elapsed⟩

theorem absenceDeadline_iff_zeroRun (instantMax timeout creation deadline : Nat)
    (events : List WatchEvent) :
    (replay timeout creation events).absenceDeadline instantMax = some deadline ↔
      ∃ start since, ZeroRun creation events start since ∧ .markNotified ∉ since ∧
        start + timeout ≤ instantMax ∧ deadline = start + timeout := by
  rw [absenceDeadline_iff, replay_timeout]
  constructor
  · rintro ⟨start, held, fits, rfl⟩
    obtain ⟨since, run, unmarked⟩ := (absent_iff_zeroRun timeout creation start events false).mp held
    exact ⟨start, since, run, of_decide_eq_false unmarked.symm, fits, rfl⟩
  · rintro ⟨start, since, run, unmarked, fits, rfl⟩
    refine ⟨start, ?_, fits, rfl⟩
    rw [zeroRun_absent timeout creation start events since run, decide_eq_false unmarked]

/-- The start of a running absence moves neither with a further zero count nor with
a notification mark. -/
theorem absent_start_kept (timeout creation start : Nat) (events : List WatchEvent)
    (notified : Bool) (held : (replay timeout creation events).state = .absent start notified) :
    (∀ now, (replay timeout creation (events ++ [.update 0 now])).state =
      .absent start notified) ∧
    (replay timeout creation (events ++ [.markNotified])).state = .absent start true := by
  constructor
  · intro now
    rw [replay_snoc, apply, updateAt_unmatched, held]
  · rw [replay_snoc, apply, markNotified_state, held]

/-- Absence is decided by the length of the current run of zero counts. -/
theorem absence_by_zero_run (instantMax timeout creation now : Nat) (events : List WatchEvent)
    (timed : Timed creation events now) :
    ((replay timeout creation events).isAbsentAt now = true ↔
      ∃ start since, ZeroRun creation events start since ∧ start ≤ now ∧
        timeout ≤ now - start) ∧
    (∀ start notified, (replay timeout creation events).state = .absent start notified →
      (∀ later, (replay timeout creation (events ++ [.update 0 later])).state =
        .absent start notified) ∧
      (replay timeout creation (events ++ [.markNotified])).state = .absent start true) ∧
    (∀ deadline, (replay timeout creation events).absenceDeadline instantMax = some deadline ↔
      ∃ start since, ZeroRun creation events start since ∧ .markNotified ∉ since ∧
        start + timeout ≤ instantMax ∧ deadline = start + timeout) ∧
    (∀ deadline, (replay timeout creation events).absenceDeadline instantMax = some deadline →
      ((replay timeout creation events).isAbsentAt now = true ↔ deadline ≤ now)) ∧
    (∀ start since, ZeroRun creation events start since → instantMax < start + timeout →
      now ≤ instantMax → (replay timeout creation events).isAbsentAt now = false) := by
  have absent := isAbsentAt_iff_zeroRun timeout creation now events
  have unique : ∀ start since, ZeroRun creation events start since →
      ((replay timeout creation events).isAbsentAt now = true ↔ start + timeout ≤ now) := by
    intro start since run
    have started := zeroRun_start_le creation start now events since timed run
    rw [isAbsentAt_iff, zeroRun_absent timeout creation start events since run, replay_timeout]
    constructor
    · rintro ⟨_, _, same, elapsed⟩
      cases same
      omega
    · intro reached
      exact ⟨start, _, rfl, by omega⟩
  refine ⟨?_, ?_, ?_, ?_, ?_⟩
  · rw [absent]
    constructor
    · rintro ⟨start, since, run, elapsed⟩
      exact ⟨start, since, run, zeroRun_start_le creation start now events since timed run, elapsed⟩
    · rintro ⟨start, since, run, -, elapsed⟩
      exact ⟨start, since, run, elapsed⟩
  · intro start notified held
    exact absent_start_kept timeout creation start events notified held
  · intro deadline
    exact absenceDeadline_iff_zeroRun instantMax timeout creation deadline events
  · intro deadline due
    obtain ⟨start, since, run, -, -, rfl⟩ :=
      (absenceDeadline_iff_zeroRun instantMax timeout creation deadline events).mp due
    exact unique start since run
  · intro start since run unrepresentable query
    have later : ¬ start + timeout ≤ now := by omega
    exact Bool.eq_false_iff.mpr (mt (unique start since run).mp later)

/-- A flap at 50 and 60 moves the start to 60; with a timeout of 100 the deadline is 160. -/
theorem absence_by_zero_run_after_flap :
    (replay 100 0 [.update 1 50, .update 0 60, .update 0 70]).absenceDeadline 1000 = some 160 ∧
    ((replay 100 0 [.update 1 50, .update 0 60, .update 0 70]).isAbsentAt 160 = true ↔
      160 ≤ 160) := by
  have history := absence_by_zero_run 1000 100 0 160
    [.update 1 50, .update 0 60, .update 0 70] (by decide)
  have due : (replay 100 0 [.update 1 50, .update 0 60, .update 0 70]).absenceDeadline 1000 =
      some 160 := rfl
  exact ⟨due, history.2.2.2.1 160 due⟩

end CycloneddsRs.AbsenceRuns
