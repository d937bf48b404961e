import CycloneddsRs.AbsenceWatch
import CycloneddsRs.StepRuns
import Mathlib.Algebra.Group.Nat.Defs
import Mathlib.Logic.Function.Basic

/-!
The shared watchdog thread of match_watch.rs among any number of other threads.
A step is what one thread does between two points where others can interfere:
taking a lock, releasing it, or calling `notify_one`. While the watchdog scans it
holds the lock, so no thread can register or reschedule; match updates take only
the lock of their own reader and go on.
-/

namespace CycloneddsRs.Watchdog

open AbsenceWatch StepRuns

/-- A `ReaderShared` behind its `Arc`. A dropped one is never alive again. -/
inductive Reader where
  | unborn
  | live (watch : MatchWatch)
  | dropped
  deriving DecidableEq, Repr

inductive ThreadPc where
  | idle
  /-- After `MatchWatch::update` of the entry, before `reschedule` takes the lock. -/
  | updated (entry : Nat)
  /-- In `register` or `reschedule`, after the lock is released. -/
  | notifying
  deriving DecidableEq, Repr

inductive WatchdogPc where
  | start
  | scanning (clock : Nat) (rest kept expired : List Nat) (nearest : Option Nat)
  | notifying (expired : List Nat) (seenGeneration : UInt64) (nearest : Option Nat)
  /-- In `notify_absence`, between `mark_notified` and `wake`. -/
  | waking (expired : List Nat) (seenGeneration : UInt64) (nearest : Option Nat)
  | blocked (seenGeneration : UInt64) (deadline : Option Nat)
  deriving DecidableEq, Repr

structure World where
  now : Nat
  readers : Nat → Reader
  threads : Nat → ThreadPc
  entries : List Nat
  generation : UInt64
  watchdog : WatchdogPc

def World.init : World :=
  { now := 0
    readers := fun _ => .unborn
    threads := fun _ => .idle
    entries := []
    generation := 0
    watchdog := .start }

inductive Action where
  | tick (duration : Nat)
  | create (entry timeout clock : Nat)
  | drop (entry : Nat)
  | update (thread entry currentCount clock : Nat)
  | reschedule (thread : Nat)
  | register (thread entry : Nat)
  | notifyOne (thread : Nat)
  | scan (clock : Nat)
  | visit
  | endScan
  | markNotified
  | wake (panics : Bool)
  | waitForNext (clock : Nat)
  /-- The wait ends at its deadline, or spuriously. -/
  | wakeUp
  deriving DecidableEq, Repr

def Reader.isLive : Reader → Bool
  | .live _ => true
  | _ => false

def Reader.markNotified : Reader → Reader
  | .live watch => .live watch.markNotified
  | other => other

def WatchdogPc.locked : WatchdogPc → Bool
  | .scanning .. => true
  | _ => false

/-- The entries to which the watchdog holds an `Arc`. -/
def WatchdogPc.upgraded : WatchdogPc → List Nat
  | .scanning _ _ _ expired _ | .notifying expired _ _ | .waking expired _ _ => expired
  | .start | .blocked _ _ => []

/-- `notify_one` wakes a waiting watchdog. If nobody waits, it is lost. -/
def WatchdogPc.signalled : WatchdogPc → WatchdogPc
  | .blocked _ _ => .start
  | other => other

def nearer (nearest : Option Nat) (deadline : Nat) : Option Nat :=
  some (match nearest with
    | none => deadline
    | some other => min other deadline)

/-- The closure of `retain` in `scan`. -/
def visitEntry (instantMax : Nat) (reader : Reader) (clock entry : Nat)
    (rest kept expired : List Nat) (nearest : Option Nat) : WatchdogPc :=
  match reader with
  | .live watch =>
      match watch.absenceDeadline instantMax with
      | some deadline =>
          -- An expired entry is notified in this round and does not count for the wait.
          if deadline ≤ clock then
            .scanning clock rest (kept ++ [entry]) (expired ++ [entry]) nearest
          else .scanning clock rest (kept ++ [entry]) expired (nearer nearest deadline)
      | none => .scanning clock rest (kept ++ [entry]) expired nearest
  | _ => .scanning clock rest kept expired nearest

def waitForNext (generation seenGeneration : UInt64) (nearest : Option Nat) (clock : Nat) :
    WatchdogPc :=
  if generation ≠ seenGeneration then .start
  else
    match nearest with
    | some deadline => if clock < deadline then .blocked seenGeneration nearest else .start
    | none => .blocked seenGeneration none

def step (instantMax : Nat) (world : World) : Action → Option World
  | .tick duration => some { world with now := world.now + duration }
  | .create entry timeout clock =>
      if world.readers entry = .unborn ∧ clock ≤ world.now then
        let reader := Reader.live (.newAt timeout clock)
        some { world with readers := Function.update world.readers entry reader }
      else none
  | .drop entry =>
      if (world.readers entry).isLive ∧ entry ∉ world.watchdog.upgraded then
        some { world with readers := Function.update world.readers entry .dropped }
      else none
  | .update thread entry currentCount clock =>
      match world.threads thread, world.readers entry with
      | .idle, .live watch =>
          if clock ≤ world.now then
            let reader := Reader.live (watch.updateAt currentCount clock)
            some { world with
              readers := Function.update world.readers entry reader
              threads := Function.update world.threads thread (.updated entry) }
          else none
      | _, _ => none
  | .reschedule thread =>
      match world.threads thread with
      | .updated _ =>
          if world.watchdog.locked then none
          else some { world with
            generation := world.generation + 1
            threads := Function.update world.threads thread .notifying }
      | _ => none
  | .register thread entry =>
      if world.threads thread = .idle ∧ world.readers entry ≠ .unborn ∧
          world.watchdog.locked = false then
        some { world with
          entries := world.entries.filter (fun other => (world.readers other).isLive) ++ [entry]
          generation := world.generation + 1
          threads := Function.update world.threads thread .notifying }
      else none
  | .notifyOne thread =>
      if world.threads thread = .notifying then
        some { world with
          threads := Function.update world.threads thread .idle
          watchdog := world.watchdog.signalled }
      else none
  | .scan clock =>
      if world.watchdog = .start ∧ clock ≤ world.now then
        some { world with watchdog := .scanning clock world.entries [] [] none }
      else none
  | .visit =>
      match world.watchdog with
      | .scanning clock (entry :: rest) kept expired nearest =>
          some { world with
            watchdog := visitEntry instantMax (world.readers entry) clock entry rest kept expired
              nearest }
      | _ => none
  | .endScan =>
      match world.watchdog with
      | .scanning _ [] kept expired nearest =>
          some { world with
            entries := kept
            watchdog := .notifying expired world.generation nearest }
      | _ => none
  | .markNotified =>
      match world.watchdog with
      | .notifying (entry :: rest) seenGeneration nearest =>
          some { world with
            readers := Function.update world.readers entry (world.readers entry).markNotified
            watchdog := .waking rest seenGeneration nearest }
      | _ => none
  | .wake panics =>
      match world.watchdog with
      | .waking rest seenGeneration nearest =>
          -- A panic in `wake` is caught in `run`, which starts the next round.
          some { world with
            watchdog := if panics then .start else .notifying rest seenGeneration nearest }
      | _ => none
  | .waitForNext clock =>
      match world.watchdog with
      | .notifying [] seenGeneration nearest =>
          if clock ≤ world.now then
            some { world with
              watchdog := waitForNext world.generation seenGeneration nearest clock }
          else none
      | _ => none
  | .wakeUp =>
      match world.watchdog with
      | .blocked _ _ => some { world with watchdog := .start }
      | _ => none

/-- What a step does, one constructor for each way to go on. -/
inductive Step (instantMax : Nat) (world : World) : Action → World → Prop where
  | tick (duration : Nat) :
      Step instantMax world (.tick duration) { world with now := world.now + duration }
  | create (entry timeout clock : Nat) : world.readers entry = .unborn →
      Step instantMax world (.create entry timeout clock)
        { world with
          readers := Function.update world.readers entry (.live (.newAt timeout clock)) }
  | drop (entry : Nat) :
      Step instantMax world (.drop entry)
        { world with readers := Function.update world.readers entry .dropped }
  | update (thread entry currentCount clock : Nat) (watch : MatchWatch) :
      world.threads thread = .idle → world.readers entry = .live watch →
      Step instantMax world (.update thread entry currentCount clock)
        { world with
          readers := Function.update world.readers entry
            (.live (watch.updateAt currentCount clock))
          threads := Function.update world.threads thread (.updated entry) }
  | reschedule (thread entry : Nat) :
      world.threads thread = .updated entry → world.watchdog.locked = false →
      Step instantMax world (.reschedule thread)
        { world with
          generation := world.generation + 1
          threads := Function.update world.threads thread .notifying }
  | register (thread entry : Nat) :
      world.threads thread = .idle → world.readers entry ≠ .unborn →
      world.watchdog.locked = false →
      Step instantMax world (.register thread entry)
        { world with
          entries := world.entries.filter (fun other => (world.readers other).isLive) ++ [entry]
          generation := world.generation + 1
          threads := Function.update world.threads thread .notifying }
  | notifyLost (thread : Nat) :
      world.threads thread = .notifying →
      (∀ seenGeneration deadline, world.watchdog ≠ .blocked seenGeneration deadline) →
      Step instantMax world (.notifyOne thread)
        { world with threads := Function.update world.threads thread .idle }
  | notifyWaiter (thread : Nat) :
      world.threads thread = .notifying →
      Step instantMax world (.notifyOne thread)
        { world with
          threads := Function.update world.threads thread .idle
          watchdog := .start }
  | scan (clock : Nat) :
      Step instantMax world (.scan clock)
        { world with watchdog := .scanning clock world.entries [] [] none }
  | visit (clock entry : Nat) (rest kept expired : List Nat) (nearest : Option Nat) :
      world.watchdog = .scanning clock (entry :: rest) kept expired nearest →
      Step instantMax world .visit
        { world with
          watchdog := visitEntry instantMax (world.readers entry) clock entry rest kept expired
            nearest }
  | endScan (clock : Nat) (kept expired : List Nat) (nearest : Option Nat) :
      world.watchdog = .scanning clock [] kept expired nearest →
      Step instantMax world .endScan
        { world with
          entries := kept
          watchdog := .notifying expired world.generation nearest }
  | markNotified (entry : Nat) (rest : List Nat) (seenGeneration : UInt64)
      (nearest : Option Nat) :
      world.watchdog = .notifying (entry :: rest) seenGeneration nearest →
      Step instantMax world .markNotified
        { world with
          readers := Function.update world.readers entry (world.readers entry).markNotified
          watchdog := .waking rest seenGeneration nearest }
  | wake (rest : List Nat) (seenGeneration : UInt64) (nearest : Option Nat) :
      world.watchdog = .waking rest seenGeneration nearest →
      Step instantMax world (.wake false)
        { world with watchdog := .notifying rest seenGeneration nearest }
  | block (clock : Nat) (seenGeneration : UInt64) (nearest : Option Nat) :
      world.watchdog = .notifying [] seenGeneration nearest →
      world.generation = seenGeneration →
      Step instantMax world (.waitForNext clock)
        { world with watchdog := .blocked seenGeneration nearest }
  -- After a panic, a wait that is not begun, or a wait that ends.
  | restart (action : Action) :
      (∃ clock, action = .waitForNext clock) ∨ action = .wake true ∨ action = .wakeUp →
      Step instantMax world action { world with watchdog := .start }

theorem step_cases (instantMax : Nat) (world next : World) (action : Action)
    (taken : step instantMax world action = some next) : Step instantMax world action next := by
  cases action with
  | tick duration =>
      cases taken
      exact .tick duration
  | create entry timeout clock =>
      obtain ⟨guard, ⟨⟩⟩ := Option.ite_none_right_eq_some.mp taken
      exact .create entry timeout clock guard.1
  | drop entry =>
      obtain ⟨_, ⟨⟩⟩ := Option.ite_none_right_eq_some.mp taken
      exact .drop entry
  | update thread entry currentCount clock =>
      simp only [step] at taken
      split at taken
      · rename_i watch idle live
        obtain ⟨_, ⟨⟩⟩ := Option.ite_none_right_eq_some.mp taken
        exact .update thread entry currentCount clock watch idle live
      · cases taken
  | reschedule thread =>
      simp only [step] at taken
      split at taken
      · rename_i entry updated
        obtain ⟨unlocked, ⟨⟩⟩ := Option.ite_none_left_eq_some.mp taken
        exact .reschedule thread entry updated (Bool.eq_false_of_not_eq_true unlocked)
      · cases taken
  | register thread entry =>
      obtain ⟨guard, ⟨⟩⟩ := Option.ite_none_right_eq_some.mp taken
      exact .register thread entry guard.1 guard.2.1 guard.2.2
  | notifyOne thread =>
      obtain ⟨notifying, ⟨⟩⟩ := Option.ite_none_right_eq_some.mp taken
      -- The signal ends a wait that has begun, and is lost otherwise.
      by_cases waits : ∃ seenGeneration deadline, world.watchdog = .blocked seenGeneration deadline
      · obtain ⟨seenGeneration, deadline, blocked⟩ := waits
        have woken : world.watchdog.signalled = .start := by rw [blocked]; rfl
        rw [woken]
        exact .notifyWaiter thread notifying
      · have free : ∀ seenGeneration deadline,
            world.watchdog ≠ .blocked seenGeneration deadline :=
          fun seenGeneration deadline blocked => waits ⟨seenGeneration, deadline, blocked⟩
        have lost : world.watchdog.signalled = world.watchdog := by
          cases waiter : world.watchdog with
          | blocked seenGeneration deadline => exact absurd waiter (free _ _)
          | start | scanning | notifying | waking => rfl
        rw [lost]
        exact .notifyLost thread notifying free
  | scan clock =>
      obtain ⟨_, ⟨⟩⟩ := Option.ite_none_right_eq_some.mp taken
      exact .scan clock
  | visit =>
      simp only [step] at taken
      split at taken
      · rename_i clock entry rest kept expired nearest scanning
        cases taken
        exact .visit clock entry rest kept expired nearest scanning
      · cases taken
  | endScan =>
      simp only [step] at taken
      split at taken
      · rename_i clock kept expired nearest scanning
        cases taken
        exact .endScan clock kept expired nearest scanning
      · cases taken
  | markNotified =>
      simp only [step] at taken
      split at taken
      · rename_i entry rest seenGeneration nearest notifying
        cases taken
        exact .markNotified entry rest seenGeneration nearest notifying
      · cases taken
  | wake panics =>
      simp only [step] at taken
      split at taken
      · rename_i rest seenGeneration nearest waking
        cases taken
        cases panics with
        | true => exact .restart _ (.inr (.inl rfl))
        | false => exact .wake rest seenGeneration nearest waking
      · cases taken
  | waitForNext clock =>
      simp only [step] at taken
      split at taken
      · rename_i seenGeneration nearest notifying
        obtain ⟨_, ⟨⟩⟩ := Option.ite_none_right_eq_some.mp taken
        by_cases same : world.generation = seenGeneration
        · cases nearest with
          | none =>
              have blocks : waitForNext world.generation seenGeneration none clock =
                  .blocked seenGeneration none := by simp [waitForNext, same]
              rw [blocks]
              exact .block clock seenGeneration none notifying same
          | some deadline =>
              by_cases ahead : clock < deadline
              · have blocks : waitForNext world.generation seenGeneration (some deadline) clock =
                    .blocked seenGeneration (some deadline) := by simp [waitForNext, same, ahead]
                rw [blocks]
                exact .block clock seenGeneration (some deadline) notifying same
              · have returns : waitForNext world.generation seenGeneration (some deadline) clock =
                    .start := by simp [waitForNext, same, ahead]
                rw [returns]
                exact .restart _ (.inl ⟨clock, rfl⟩)
        · have returns : waitForNext world.generation seenGeneration nearest clock = .start := by
            simp [waitForNext, same]
          rw [returns]
          exact .restart _ (.inl ⟨clock, rfl⟩)
      · cases taken
  | wakeUp =>
      simp only [step] at taken
      split at taken
      · cases taken
        exact .restart _ (.inr (.inr rfl))
      · cases taken

/-! What the watchdog knows -/

/-- The entries the current round has read. -/
def WatchdogPc.scanned (entries : List Nat) : WatchdogPc → List Nat
  | .start => []
  | .scanning _ _ kept _ _ => kept
  | .notifying _ _ _ | .waking _ _ _ | .blocked _ _ => entries

def WatchdogPc.nearest : WatchdogPc → Option Nat
  | .start => none
  | .scanning _ _ _ _ nearest | .notifying _ _ nearest | .waking _ _ nearest
  | .blocked _ nearest => nearest

def WatchdogPc.seen : WatchdogPc → Option UInt64
  | .start | .scanning .. => none
  | .notifying _ seenGeneration _ | .waking _ seenGeneration _ | .blocked seenGeneration _ =>
      some seenGeneration

def Watched (instantMax : Nat) (world : World) (entry deadline : Nat) : Prop :=
  ∃ watch, world.readers entry = .live watch ∧ watch.absenceDeadline instantMax = some deadline

def InFlight (world : World) (entry : Nat) : Prop :=
  ∃ thread, world.threads thread = .updated entry

def Reaches (nearest : Option Nat) (deadline : Nat) : Prop :=
  ∃ instant, nearest = some instant ∧ instant ≤ deadline

/-- Why the watchdog need not know this deadline better: the thread that set it has
yet to reschedule, or the entry is about to be notified, or the wait ends in time. -/
def Awaited (world : World) (entry deadline : Nat) : Prop :=
  InFlight world entry ∨ entry ∈ world.watchdog.upgraded ∨
    Reaches world.watchdog.nearest deadline

def Fresh (world : World) : Prop :=
  ∀ seenGeneration, world.watchdog.seen = some seenGeneration →
    world.generation = seenGeneration

/-- A round whose generation is still the current one misses no deadline. -/
def Covered (instantMax : Nat) (world : World) : Prop :=
  Fresh world → ∀ entry ∈ world.watchdog.scanned world.entries, ∀ deadline,
    Watched instantMax world entry deadline → Awaited world entry deadline

def Action.isCall : Action → Bool
  | .register _ _ | .reschedule _ => true
  | _ => false

def calls (actions : List Action) : Nat := actions.countP Action.isCall

def Registered (actions : List Action) (entry : Nat) : Prop :=
  ∃ thread, .register thread entry ∈ actions

structure Inv (instantMax : Nat) (past : List Action) (world : World) : Prop where
  counted : world.generation.toNat = calls past
  seenOld : ∀ seenGeneration, world.watchdog.seen = some seenGeneration →
    seenGeneration.toNat ≤ world.generation.toNat
  /-- A change the blocked watchdog does not know of is about to wake it. -/
  signalled : ∀ seenGeneration deadline, world.watchdog = .blocked seenGeneration deadline →
    world.generation ≠ seenGeneration → ∃ thread, world.threads thread = .notifying
  born : ∀ entry, Registered past entry → world.readers entry ≠ .unborn
  listed : ∀ entry ∈ world.entries, Registered past entry
  held : ∀ entry, Registered past entry → (world.readers entry).isLive = true →
    entry ∈ world.entries
  parted : ∀ clock rest kept expired nearest,
    world.watchdog = .scanning clock rest kept expired nearest →
      (∀ entry, entry ∈ kept ∨ entry ∈ rest → entry ∈ world.entries) ∧
        ∀ entry ∈ world.entries, (world.readers entry).isLive = true →
          entry ∈ kept ∨ entry ∈ rest
  covered : Covered instantMax world

section Steps

variable (instantMax : Nat) (world next : World) (action : Action) (past : List Action)

/-- A reader that is not born stays so, and none comes back to life. -/
theorem step_readers (taken : Step instantMax world action next) (entry : Nat) :
    (next.readers entry = .unborn → world.readers entry = .unborn) ∧
      ((next.readers entry).isLive = true →
        (world.readers entry).isLive = true ∨ world.readers entry = .unborn) := by
  cases taken with
  | create fresh timeout clock unborn =>
      by_cases same : entry = fresh
      · subst same
        simp [unborn]
      · simpa [same] using Or.inl
  | drop gone =>
      by_cases same : entry = gone
      · subst same
        simp [Reader.isLive]
      · simpa [same] using Or.inl
  | update thread changed currentCount clock watch idle live =>
      by_cases same : entry = changed
      · subst same
        simp [live, Reader.isLive]
      · simpa [same] using Or.inl
  | markNotified expired rest seenGeneration nearest notifying =>
      by_cases same : entry = expired
      · subst same
        cases world.readers entry <;> simp [Reader.markNotified, Reader.isLive]
      · simpa [same] using Or.inl
  | tick | reschedule | register | notifyLost | notifyWaiter | scan | visit | endScan | wake
    | block | restart => exact ⟨id, Or.inl⟩

theorem registered_snoc (entry : Nat) :
    Registered (past ++ [action]) entry ↔
      Registered past entry ∨ ∃ thread, action = .register thread entry := by
  simp only [Registered, List.mem_append, List.mem_singleton]
  constructor
  · rintro ⟨thread, before | now⟩
    · exact .inl ⟨thread, before⟩
    · exact .inr ⟨thread, now.symm⟩
  · rintro (⟨thread, before⟩ | ⟨thread, now⟩)
    · exact ⟨thread, .inl before⟩
    · exact ⟨thread, .inr now.symm⟩

theorem calls_snoc : calls (past ++ [action]) = calls past + if action.isCall then 1 else 0 := by
  rw [calls, List.countP_append, List.countP_singleton]
  rfl

theorem step_generation (taken : Step instantMax world action next)
    (counted : world.generation.toNat = calls past)
    (few : calls (past ++ [action]) < 2 ^ 64) :
    next.generation.toNat = world.generation.toNat + if action.isCall then 1 else 0 := by
  rw [calls_snoc, ← counted] at few
  cases taken with
  | reschedule | register =>
      simp only [Action.isCall, if_true] at few ⊢
      rw [UInt64.toNat_add]
      exact Nat.mod_eq_of_lt few
  | restart action kind =>
      rcases kind with ⟨clock, rfl⟩ | rfl | rfl <;> rfl
  | tick | create | drop | update | notifyLost | notifyWaiter | scan | visit | endScan
    | markNotified | wake | block => rfl

theorem nearer_reaches (nearest : Option Nat) (deadline : Nat) :
    Reaches (nearer nearest deadline) deadline ∧
      ∀ other, Reaches nearest other → Reaches (nearer nearest deadline) other := by
  cases nearest with
  | none =>
      refine ⟨⟨deadline, rfl, le_rfl⟩, ?_⟩
      rintro other ⟨instant, impossible, -⟩
      cases impossible
  | some instant =>
      refine ⟨⟨min instant deadline, rfl, Nat.min_le_right _ _⟩, ?_⟩
      rintro other ⟨_, ⟨rfl⟩, before⟩
      exact ⟨min instant deadline, rfl, (Nat.min_le_left _ _).trans before⟩

/-- A visited entry is kept exactly when it is alive, and its deadline is either
expired or counted into the nearest one. -/
theorem visitEntry_scanning (reader : Reader) (clock entry : Nat)
    (rest kept expired : List Nat) (nearest : Option Nat) :
    ∃ kept' expired' nearest',
      visitEntry instantMax reader clock entry rest kept expired nearest =
          .scanning clock rest kept' expired' nearest' ∧
        (∀ other, other ∈ kept' ↔ other ∈ kept ∨ other = entry ∧ reader.isLive = true) ∧
        (∀ other, other ∈ expired → other ∈ expired') ∧
        (∀ deadline, Reaches nearest deadline → Reaches nearest' deadline) ∧
        ∀ watch deadline, reader = .live watch →
          watch.absenceDeadline instantMax = some deadline →
            entry ∈ expired' ∨ Reaches nearest' deadline := by
  cases reader with
  | unborn | dropped =>
      exact ⟨kept, expired, nearest, rfl, by simp [Reader.isLive], fun _ => id, fun _ => id, nofun⟩
  | live watch =>
      have added : ∀ other, other ∈ kept ++ [entry] ↔
          other ∈ kept ∨ other = entry ∧ (Reader.live watch).isLive = true := by
        simp [Reader.isLive]
      cases due : watch.absenceDeadline instantMax with
      | none =>
          refine ⟨_, expired, nearest, by rw [visitEntry, due], added, fun _ => id, fun _ => id, ?_⟩
          rintro _ deadline ⟨rfl⟩ impossible
          rw [due] at impossible
          cases impossible
      | some deadline =>
          by_cases reached : deadline ≤ clock
          · refine ⟨_, expired ++ [entry], nearest, by rw [visitEntry, due]; exact if_pos reached,
              added, fun other => List.mem_append_left _, fun _ => id, ?_⟩
            intro _ _ _ _
            exact .inl (List.mem_append_right _ (List.mem_singleton_self entry))
          · obtain ⟨least, kept'⟩ := nearer_reaches nearest deadline
            refine ⟨_, expired, nearer nearest deadline,
              by rw [visitEntry, due]; exact if_neg reached, added, fun _ => id, kept', ?_⟩
            rintro _ other ⟨rfl⟩ same
            cases due.symm.trans same
            exact .inr least

theorem step_seenOld (taken : Step instantMax world action next)
    (grown : world.generation.toNat ≤ next.generation.toNat)
    (old : ∀ seenGeneration, world.watchdog.seen = some seenGeneration →
      seenGeneration.toNat ≤ world.generation.toNat) :
    ∀ seenGeneration, next.watchdog.seen = some seenGeneration →
      seenGeneration.toNat ≤ next.generation.toNat := by
  intro seenGeneration seen
  cases taken with
  | tick | create | drop | update | reschedule | register | notifyLost =>
      exact (old seenGeneration seen).trans grown
  | notifyWaiter | scan | restart => cases seen
  | visit clock entry rest kept expired nearest scanning =>
      obtain ⟨_, _, _, visited, -⟩ := visitEntry_scanning instantMax (world.readers entry) clock
        entry rest kept expired nearest
      rw [visited] at seen
      cases seen
  | endScan => exact Nat.le_of_eq (congrArg UInt64.toNat (Option.some.inj seen).symm)
  | markNotified entry rest generation nearest phase | wake rest generation nearest phase =>
      cases seen
      exact old seenGeneration (by rw [phase]; rfl)
  | block clock generation nearest phase same =>
      cases seen
      exact old seenGeneration (by rw [phase]; rfl)

theorem step_signalled (taken : Step instantMax world action next)
    (signalled : ∀ seenGeneration deadline,
      world.watchdog = .blocked seenGeneration deadline →
        world.generation ≠ seenGeneration → ∃ thread, world.threads thread = .notifying) :
    ∀ seenGeneration deadline, next.watchdog = .blocked seenGeneration deadline →
      next.generation ≠ seenGeneration → ∃ thread, next.threads thread = .notifying := by
  intro seenGeneration deadline blocked changed
  cases taken with
  | tick | create | drop => exact signalled seenGeneration deadline blocked changed
  | update thread entry currentCount clock watch idle live =>
      obtain ⟨other, notifying⟩ := signalled seenGeneration deadline blocked changed
      have apart : other ≠ thread := by
        rintro rfl
        rw [idle] at notifying
        cases notifying
      exact ⟨other, (Function.update_of_ne apart _ _).trans notifying⟩
  -- The generation moved on, and this very thread is about to call `notify_one`.
  | reschedule thread | register thread =>
      exact ⟨thread, Function.update_self ..⟩
  | notifyLost thread notifying free => exact absurd blocked (free seenGeneration deadline)
  | visit clock entry rest kept expired nearest scanning =>
      obtain ⟨_, _, _, visited, -⟩ := visitEntry_scanning instantMax (world.readers entry) clock
        entry rest kept expired nearest
      rw [visited] at blocked
      cases blocked
  -- The lock is held from the comparison of the generations to the wait.
  | block clock generation nearest notifying same =>
      cases blocked
      exact absurd same changed
  | notifyWaiter | scan | endScan | markNotified | wake | restart => cases blocked

theorem step_born (taken : Step instantMax world action next)
    (born : ∀ entry, Registered past entry → world.readers entry ≠ .unborn) :
    ∀ entry, Registered (past ++ [action]) entry → next.readers entry ≠ .unborn := by
  intro entry registered unborn
  have before := (step_readers instantMax world next action taken entry).1 unborn
  rcases (registered_snoc action past entry).mp registered with earlier | ⟨thread, rfl⟩
  · exact born entry earlier before
  · cases taken with
    | register _ _ idle given => exact given before
    | restart _ kind =>
        rcases kind with ⟨clock, impossible⟩ | impossible | impossible <;> cases impossible

theorem step_listed (taken : Step instantMax world action next)
    (listed : ∀ entry ∈ world.entries, Registered past entry)
    (parted : ∀ clock rest kept expired nearest,
      world.watchdog = .scanning clock rest kept expired nearest →
        ∀ entry, entry ∈ kept ∨ entry ∈ rest → entry ∈ world.entries) :
    ∀ entry ∈ next.entries, Registered (past ++ [action]) entry := by
  intro entry member
  rw [registered_snoc]
  cases taken with
  | register thread given =>
      rcases List.mem_append.mp member with earlier | now
      · exact .inl (listed entry (List.mem_filter.mp earlier).1)
      · exact .inr ⟨thread, by rw [List.mem_singleton.mp now]⟩
  | endScan clock kept expired nearest scanning =>
      exact .inl (listed entry (parted clock [] kept expired nearest scanning entry (.inl member)))
  | tick | create | drop | update | reschedule | notifyLost | notifyWaiter | scan | visit
    | markNotified | wake | block | restart => exact .inl (listed entry member)

theorem live_before (taken : Step instantMax world action next) (entry : Nat)
    (given : world.readers entry ≠ .unborn) (live : (next.readers entry).isLive = true) :
    (world.readers entry).isLive = true := by
  rcases (step_readers instantMax world next action taken entry).2 live with before | unborn
  · exact before
  · exact absurd unborn given

theorem step_held (taken : Step instantMax world action next)
    (inv : Inv instantMax past world) :
    ∀ entry, Registered (past ++ [action]) entry → (next.readers entry).isLive = true →
      entry ∈ next.entries := by
  intro entry registered live
  rcases (registered_snoc action past entry).mp registered with earlier | ⟨thread, rfl⟩
  · have before := live_before instantMax world next action taken entry (inv.born entry earlier)
      live
    have member := inv.held entry earlier before
    cases taken with
    | register thread given =>
        exact List.mem_append_left _ (List.mem_filter.mpr ⟨member, before⟩)
    | endScan clock kept expired nearest scanning =>
        rcases (inv.parted clock [] kept expired nearest scanning).2 entry member before with
          kept | rest
        · exact kept
        · cases rest
    | tick | create | drop | update | reschedule | notifyLost | notifyWaiter | scan | visit
      | markNotified | wake | block | restart => exact member
  · cases taken with
    | register => exact List.mem_append_right _ (List.mem_singleton_self entry)
    | restart _ kind =>
        rcases kind with ⟨clock, impossible⟩ | impossible | impossible <;> cases impossible

/-- The scan splits the list it found into what it kept and what is still to come. -/
theorem step_parted (taken : Step instantMax world action next)
    (inv : Inv instantMax past world) :
    ∀ clock rest kept expired nearest,
      next.watchdog = .scanning clock rest kept expired nearest →
        (∀ entry, entry ∈ kept ∨ entry ∈ rest → entry ∈ next.entries) ∧
          ∀ entry ∈ next.entries, (next.readers entry).isLive = true →
            entry ∈ kept ∨ entry ∈ rest := by
  intro clock rest kept expired nearest scanning
  have before : ∀ entry ∈ world.entries, (next.readers entry).isLive = true →
      (world.readers entry).isLive = true := fun entry member =>
    live_before instantMax world next action taken entry (inv.born entry (inv.listed entry member))
  cases taken with
  | tick | create | drop | update | notifyLost =>
      obtain ⟨only, all⟩ := inv.parted clock rest kept expired nearest scanning
      exact ⟨only, fun entry member live => all entry member (before entry member live)⟩
  | reschedule _ _ _ unlocked | register _ _ _ _ unlocked =>
      rw [scanning] at unlocked
      cases unlocked
  | scan =>
      cases scanning
      refine ⟨?_, fun entry member _ => .inr member⟩
      rintro entry (none | member)
      · cases none
      · exact member
  | visit _ visited _ keptBefore expiredBefore nearestBefore phase =>
      obtain ⟨_, _, _, same, added, -⟩ := visitEntry_scanning instantMax (world.readers visited)
        _ visited _ keptBefore expiredBefore nearestBefore
      cases same.symm.trans scanning
      obtain ⟨only, all⟩ := inv.parted _ _ _ _ _ phase
      constructor
      · rintro entry (member | member)
        · rcases (added entry).mp member with earlier | ⟨rfl, -⟩
          · exact only entry (.inl earlier)
          · exact only entry (.inr List.mem_cons_self)
        · exact only entry (.inr (List.mem_cons_of_mem _ member))
      · intro entry member live
        rcases all entry member live with earlier | ahead
        · exact .inl ((added entry).mpr (.inl earlier))
        · rcases List.mem_cons.mp ahead with rfl | later
          · exact .inl ((added entry).mpr (.inr ⟨rfl, live⟩))
          · exact .inr later
  | notifyWaiter | endScan | markNotified | wake | block | restart => cases scanning

/-- Steps of other threads that leave the round of the watchdog alone. -/
theorem covered_frame (covered : Covered instantMax world)
    (watchdog : next.watchdog = world.watchdog) (entries : next.entries = world.entries)
    (generation : next.generation = world.generation)
    (flights : ∀ entry, InFlight world entry → InFlight next entry)
    (deadlines : ∀ entry ∈ world.watchdog.scanned world.entries, ∀ deadline,
      Watched instantMax next entry deadline →
        Watched instantMax world entry deadline ∨ InFlight next entry) :
    Covered instantMax next := by
  intro fresh entry member deadline watched
  rw [watchdog, entries] at member
  -- A deadline is as before, or the thread that changed it has yet to reschedule.
  rcases deadlines entry member deadline watched with before | flight
  · have freshBefore : Fresh world := by
      intro seenGeneration seen
      rw [← generation]
      exact fresh seenGeneration (by rw [watchdog, seen])
    rcases covered freshBefore entry member deadline before with flight | rest
    · exact .inl (flights entry flight)
    · refine .inr ?_
      rwa [watchdog]
  · exact .inl flight

/-- A change of one thread that is not between an update and its `reschedule`. -/
theorem flight_kept (thread : Nat) (pc : ThreadPc)
    (elsewhere : ∀ entry, world.threads thread ≠ .updated entry)
    (threads : next.threads = Function.update world.threads thread pc) (entry : Nat)
    (flight : InFlight world entry) : InFlight next entry := by
  obtain ⟨other, updated⟩ := flight
  have apart : other ≠ thread := by
    rintro rfl
    exact elsewhere entry updated
  refine ⟨other, ?_⟩
  rw [threads]
  exact (Function.update_of_ne apart _ _).trans updated

theorem scanned_registered (inv : Inv instantMax past world) (entry : Nat)
    (member : entry ∈ world.watchdog.scanned world.entries) : Registered past entry := by
  cases phase : world.watchdog with
  | start =>
      rw [phase] at member
      cases member
  | scanning clock rest kept expired nearest =>
      rw [phase] at member
      exact inv.listed entry
        ((inv.parted clock rest kept expired nearest phase).1 entry (.inl member))
  | notifying | waking | blocked =>
      rw [phase] at member
      exact inv.listed entry member

/-- After `generation` moved on, the watchdog is not fresh, unless it has yet to scan. -/
theorem bumped_covered (inv : Inv instantMax past world)
    (unlocked : world.watchdog.locked = false)
    (grown : world.generation.toNat < next.generation.toNat)
    (watchdog : next.watchdog = world.watchdog) : Covered instantMax next := by
  intro fresh entry member
  cases phase : world.watchdog with
  | start =>
      rw [watchdog, phase] at member
      cases member
  | scanning =>
      rw [phase] at unlocked
      cases unlocked
  | notifying _ seenGeneration | waking _ seenGeneration | blocked seenGeneration =>
      have seen : world.watchdog.seen = some seenGeneration := by rw [phase]; rfl
      -- With fewer than 2^64 calls the counter does not come round to an old value.
      have same := fresh seenGeneration (by rw [watchdog, seen])
      have old := inv.seenOld seenGeneration seen
      rw [← same] at old
      omega

theorem visit_covered (clock entry : Nat) (rest kept expired : List Nat) (nearest : Option Nat)
    (phase : world.watchdog = .scanning clock (entry :: rest) kept expired nearest)
    (covered : Covered instantMax world) :
    Covered instantMax { world with
      watchdog := visitEntry instantMax (world.readers entry) clock entry rest kept expired
        nearest } := by
  obtain ⟨kept', expired', nearest', visited, added, expiredKept, nearestKept, read⟩ :=
    visitEntry_scanning instantMax (world.readers entry) clock entry rest kept expired nearest
  rw [visited]
  intro _ other member deadline watched
  rcases (added other).mp member with earlier | ⟨rfl, -⟩
  · have freshBefore : Fresh world := by
      intro seenGeneration seen
      rw [phase] at seen
      cases seen
    have scanned : other ∈ world.watchdog.scanned world.entries := by
      rw [phase]
      exact earlier
    rcases covered freshBefore other scanned deadline watched with flight | upgraded | reached
    · exact .inl flight
    · rw [phase] at upgraded
      exact .inr (.inl (expiredKept other upgraded))
    · rw [phase] at reached
      exact .inr (.inr (nearestKept deadline reached))
  · obtain ⟨watch, live, due⟩ := watched
    exact .inr (read watch deadline live due)

theorem markNotified_covered (entry : Nat) (rest : List Nat) (seenGeneration : UInt64)
    (nearest : Option Nat)
    (phase : world.watchdog = .notifying (entry :: rest) seenGeneration nearest)
    (covered : Covered instantMax world) :
    Covered instantMax { world with
      readers := Function.update world.readers entry (world.readers entry).markNotified
      watchdog := .waking rest seenGeneration nearest } := by
  intro fresh other member deadline watched
  have freshBefore : Fresh world := by
    intro generation seen
    rw [phase] at seen
    exact fresh generation seen
  have scanned : other ∈ world.watchdog.scanned world.entries := by
    rw [phase]
    exact member
  by_cases same : other = entry
  · -- The entry just marked has no deadline any more.
    subst same
    obtain ⟨watch, live, due⟩ := watched
    simp only [Function.update_self] at live
    cases before : world.readers other with
    | unborn | dropped =>
        rw [before] at live
        cases live
    | live old =>
        rw [before] at live
        cases live
        rw [markNotified_deadline] at due
        cases due
  · have watchedBefore : Watched instantMax world other deadline := by
      obtain ⟨watch, live, due⟩ := watched
      simp only [Function.update_of_ne same] at live
      exact ⟨watch, live, due⟩
    rcases covered freshBefore other scanned deadline watchedBefore with
      flight | upgraded | reached
    · exact .inl flight
    · rw [phase] at upgraded
      rcases List.mem_cons.mp upgraded with again | later
      · exact absurd again same
      · exact .inr (.inl later)
    · rw [phase] at reached
      exact .inr (.inr reached)

/-- The watchdog moves on without learning or forgetting anything. -/
theorem moved_covered (covered : Covered instantMax world)
    (readers : next.readers = world.readers) (threads : next.threads = world.threads)
    (fresh : Fresh next → Fresh world)
    (scanned : ∀ entry, entry ∈ next.watchdog.scanned next.entries →
      entry ∈ world.watchdog.scanned world.entries)
    (upgraded : ∀ entry, entry ∈ world.watchdog.upgraded → entry ∈ next.watchdog.upgraded)
    (nearest : next.watchdog.nearest = world.watchdog.nearest) : Covered instantMax next := by
  intro freshNext entry member deadline watched
  have watchedBefore : Watched instantMax world entry deadline := by
    rwa [Watched, readers] at watched
  rcases covered (fresh freshNext) entry (scanned entry member) deadline watchedBefore with
    flight | due | reached
  · refine .inl ?_
    rwa [InFlight, threads]
  · exact .inr (.inl (upgraded entry due))
  · refine .inr (.inr ?_)
    rwa [nearest]

theorem watched_before (entry deadline : Nat)
    (same : next.readers entry = world.readers entry)
    (watched : Watched instantMax next entry deadline) :
    Watched instantMax world entry deadline := by
  rwa [Watched, same] at watched

theorem step_covered (taken : Step instantMax world action next)
    (inv : Inv instantMax past world)
    (grown : next.generation.toNat = world.generation.toNat + if action.isCall then 1 else 0) :
    Covered instantMax next := by
  cases taken with
  | tick duration =>
      exact covered_frame instantMax world _ inv.covered rfl rfl rfl (fun _ => id)
        fun _ _ _ watched => .inl watched
  | create fresh timeout clock unborn =>
      refine covered_frame instantMax world _ inv.covered rfl rfl rfl (fun _ => id) ?_
      intro entry member deadline watched
      -- An entry that was read is registered, so it was born before.
      have other : entry ≠ fresh := by
        rintro rfl
        exact inv.born entry (scanned_registered instantMax world past inv entry member) unborn
      exact .inl (watched_before instantMax world _ entry deadline
        (Function.update_of_ne other _ _) watched)
  | drop gone =>
      refine covered_frame instantMax world _ inv.covered rfl rfl rfl (fun _ => id) ?_
      intro entry member deadline watched
      by_cases same : entry = gone
      · subst same
        obtain ⟨watch, live, -⟩ := watched
        simp only [Function.update_self] at live
        cases live
      · exact .inl (watched_before instantMax world _ entry deadline
          (Function.update_of_ne same _ _) watched)
  | update thread changed currentCount clock watch idle live =>
      refine covered_frame instantMax world _ inv.covered rfl rfl rfl ?_ ?_
      · exact flight_kept world _ thread (.updated changed) (by simp [idle]) rfl
      · intro entry member deadline watched
        by_cases same : entry = changed
        · subst same
          exact .inr ⟨thread, Function.update_self ..⟩
        · exact .inl (watched_before instantMax world _ entry deadline
            (Function.update_of_ne same _ _) watched)
  | reschedule thread entry updated unlocked =>
      have bumped := Nat.lt_of_lt_of_eq (Nat.lt_succ_self world.generation.toNat) grown.symm
      exact bumped_covered instantMax world _ past inv unlocked bumped rfl
  | register thread entry idle given unlocked =>
      have bumped := Nat.lt_of_lt_of_eq (Nat.lt_succ_self world.generation.toNat) grown.symm
      exact bumped_covered instantMax world _ past inv unlocked bumped rfl
  | notifyLost thread notifying =>
      refine covered_frame instantMax world _ inv.covered rfl rfl rfl ?_ ?_
      · exact flight_kept world _ thread .idle (by simp [notifying]) rfl
      · exact fun _ _ _ watched => .inl watched
  | notifyWaiter | scan | restart =>
      intro _ entry member
      cases member
  | visit clock entry rest kept expired nearest phase =>
      exact visit_covered instantMax world clock entry rest kept expired nearest phase inv.covered
  -- The generation is read here, so the round that ends its scan is fresh.
  | endScan clock kept expired nearest phase =>
      refine moved_covered instantMax world _ inv.covered rfl rfl ?_ ?_ ?_ ?_
      · intro _ seenGeneration seen
        rw [phase] at seen
        cases seen
      · intro entry member
        rwa [phase]
      · intro entry member
        rwa [phase] at member
      · rw [phase]
        rfl
  | markNotified entry rest seenGeneration nearest phase =>
      exact markNotified_covered instantMax world entry rest seenGeneration nearest phase
        inv.covered
  | wake rest seenGeneration nearest phase | block clock seenGeneration nearest phase =>
      refine moved_covered instantMax world _ inv.covered rfl rfl ?_ ?_ ?_ ?_
      · intro fresh generation seen
        rw [phase] at seen
        exact fresh generation seen
      · intro entry member
        rwa [phase]
      · intro entry member
        rwa [phase] at member
      · rw [phase]
        rfl

end Steps

theorem init_inv (instantMax : Nat) : Inv instantMax [] World.init := by
  constructor
  · rfl
  · nofun
  · nofun
  · rintro entry ⟨thread, member⟩
    cases member
  · nofun
  · rintro entry ⟨thread, member⟩
    cases member
  · nofun
  · nofun

theorem step_inv (instantMax : Nat) (world next : World) (action : Action) (past : List Action)
    (inv : Inv instantMax past world) (taken : step instantMax world action = some next)
    (few : calls (past ++ [action]) < 2 ^ 64) : Inv instantMax (past ++ [action]) next := by
  have moved := step_cases instantMax world next action taken
  have grown := step_generation instantMax world next action past moved inv.counted few
  constructor
  · rw [grown, inv.counted, calls_snoc]
  · exact step_seenOld instantMax world next action moved (by omega) inv.seenOld
  · exact step_signalled instantMax world next action moved inv.signalled
  · exact step_born instantMax world next action past moved inv.born
  · exact step_listed instantMax world next action past moved inv.listed
      fun clock rest kept expired nearest scanning =>
        (inv.parted clock rest kept expired nearest scanning).1
  · exact step_held instantMax world next action past moved inv
  · exact step_parted instantMax world next action past moved inv
  · exact step_covered instantMax world next action past moved inv grown

theorem reachable_inv (instantMax : Nat) (actions : List Action) (final : World)
    (run : exec (step instantMax) World.init actions = some final)
    (few : calls actions < 2 ^ 64) : Inv instantMax actions final := by
  apply exec_invariant (step instantMax)
    (fun past world => calls past < 2 ^ 64 → Inv instantMax past world) ?_ [] actions World.init
    final (fun _ => init_inv instantMax) run few
  intro past world action next inv taken bounded
  have earlier : calls past < 2 ^ 64 := by
    rw [calls_snoc] at bounded
    omega
  exact step_inv instantMax world next action past (inv earlier) taken bounded

/-- While the watchdog is blocked and no thread is on its way from a state change to
the end of its `reschedule` or `register`, the wait ends before every deadline of a
registered reader that is alive. -/
theorem never_sleeps_past (instantMax : Nat) (actions : List Action) (final : World)
    (run : exec (step instantMax) World.init actions = some final)
    (few : calls actions < 2 ^ 64) (seenGeneration : UInt64) (wakeAt : Option Nat)
    (blocked : final.watchdog = .blocked seenGeneration wakeAt)
    (settled : ∀ thread, final.threads thread = .idle) (entry deadline : Nat)
    (registered : Registered actions entry) (watch : MatchWatch)
    (live : final.readers entry = .live watch)
    (due : watch.absenceDeadline instantMax = some deadline) :
    ∃ instant, wakeAt = some instant ∧ instant ≤ deadline := by
  have inv := reachable_inv instantMax actions final run few
  have fresh : Fresh final := by
    intro generation seen
    -- Otherwise the thread that moved the generation on would still be notifying.
    by_contra changed
    rw [blocked] at seen
    cases seen
    obtain ⟨thread, notifying⟩ := inv.signalled seenGeneration wakeAt blocked changed
    rw [settled thread] at notifying
    cases notifying
  have listed : entry ∈ final.watchdog.scanned final.entries := by
    rw [blocked]
    exact inv.held entry registered (by rw [live]; rfl)
  rcases inv.covered fresh entry listed deadline ⟨watch, live, due⟩ with
    ⟨thread, updated⟩ | upgraded | reached
  · rw [settled thread] at updated
    cases updated
  · rw [blocked] at upgraded
    cases upgraded
  · rwa [blocked] at reached

/-- Reader 0 is registered while the first round is between its scan and its wait. -/
def lateRegistration : List Action :=
  [.scan 0, .endScan, .create 0 10 0, .register 1 0, .notifyOne 1, .waitForNext 0,
    .scan 0, .visit, .endScan, .waitForNext 0]

theorem lateRegistration_wakes :
    (exec (step 1000) World.init lateRegistration).map World.watchdog =
        some (.blocked 1 (some 10)) ∧
      ∃ instant, (some 10 : Option Nat) = some instant ∧ instant ≤ 10 :=
  ⟨rfl, never_sleeps_past 1000 lateRegistration _ rfl (by decide) 1 (some 10) rfl
    (fun thread => by
      by_cases same : thread = 1
      · rw [same]
        rfl
      · exact (Function.update_of_ne same _ _).trans (Function.update_of_ne same _ _))
    0 10 ⟨1, by decide⟩ { timeout := 10, state := .absent 0 false } rfl rfl⟩

/-- Reader 0 is registered while the watchdog is blocked, and its thread has not come to the
`notify_one` yet. -/
def duringRegistration : List Action :=
  [.scan 0, .endScan, .waitForNext 0, .create 0 10 0, .register 1 0]

/-- In the middle of `register` the watchdog can sleep past a deadline. -/
theorem sleeps_during_register :
    ¬ ∀ (instantMax : Nat) (actions : List Action) (final : World),
      exec (step instantMax) World.init actions = some final → calls actions < 2 ^ 64 →
      ∀ (seenGeneration : UInt64) (wakeAt : Option Nat),
        final.watchdog = .blocked seenGeneration wakeAt →
        (∀ thread entry, final.threads thread ≠ .updated entry) →
        ∀ entry deadline watch, Registered actions entry → final.readers entry = .live watch →
          watch.absenceDeadline instantMax = some deadline →
          ∃ instant, wakeAt = some instant ∧ instant ≤ deadline := by
  intro always
  have between : ∀ (thread entry : Nat),
      Function.update (fun _ => ThreadPc.idle) 1 ThreadPc.notifying thread ≠ .updated entry := by
    intro thread entry
    by_cases same : thread = 1
    · rw [same, Function.update_self]
      exact ThreadPc.noConfusion
    · rw [Function.update_of_ne same]
      exact ThreadPc.noConfusion
  obtain ⟨instant, woken, -⟩ := always 1000 duringRegistration _ rfl (by decide) 0 none rfl between
    0 10 { timeout := 10, state := .absent 0 false } ⟨1, by decide⟩ rfl rfl
  cases woken

end CycloneddsRs.Watchdog
