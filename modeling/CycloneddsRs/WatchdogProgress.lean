import CycloneddsRs.Watchdog
import Mathlib.Data.Finset.Card

/-!
Left to itself, the watchdog thread of match_watch.rs comes to notify every reader whose
deadline has passed, and a wake that panics does not keep it from the others.
-/

namespace CycloneddsRs.WatchdogProgress

open AbsenceWatch StepRuns Watchdog

/-- What `run` does next. A blocked thread goes on when its wait has run out. -/
def turnAction (panics : Bool) (world : World) : Option Action :=
  match world.watchdog with
  | .start => some (.scan world.now)
  | .scanning _ (_ :: _) _ _ _ => some .visit
  | .scanning _ [] _ _ _ => some .endScan
  | .notifying (_ :: _) _ _ => some .markNotified
  | .notifying [] _ _ => some (.waitForNext world.now)
  | .waking .. => some (.wake panics)
  | .blocked _ deadline =>
      if deadline.any (fun instant => instant ≤ world.now) then some .wakeUp else none

def turn (instantMax : Nat) (panics : Bool) (world : World) : Option World :=
  (turnAction panics world).bind (step instantMax world)

def overdue (instantMax : Nat) (world : World) (entry : Nat) : Bool :=
  match world.readers entry with
  | .live watch => (watch.absenceDeadline instantMax).any (fun deadline => deadline ≤ world.now)
  | _ => false

/-- The readers that have yet to be marked. -/
def pending (instantMax : Nat) (world : World) : Nat :=
  (world.entries.toFinset.filter fun entry => overdue instantMax world entry = true).card

/-- The round was begun late enough to find the entry, and what it found is still due. -/
def InTime (instantMax : Nat) (entry : Nat) (world : World) (clock : Nat)
    (rest kept expired : List Nat) : Prop :=
  clock = world.now ∧ (∀ other ∈ expired, overdue instantMax world other = true ∧ other ∈ kept) ∧
    (entry ∈ rest ∨ entry ∈ expired)

instance (instantMax entry : Nat) (world : World) (clock : Nat) (rest kept expired : List Nat) :
    Decidable (InTime instantMax entry world clock rest kept expired) :=
  inferInstanceAs (Decidable (_ ∧ _ ∧ _))

def round (size : Nat) : Nat := 3 * size + 6

/-- Whole rounds for the readers still to be marked, one more where this round may mark none
of them, and the turns to the end of this round. -/
def rank (instantMax size entry : Nat) (world : World) : Nat :=
  let left := pending instantMax world
  match world.watchdog with
  | .start => left * round size + (3 * size + 4)
  | .blocked _ _ => left * round size + (3 * size + 5)
  | .scanning clock rest kept expired _ =>
      if InTime instantMax entry world clock rest kept expired then
        left * round size + (2 * size + rest.length + 3)
      else (left + 1) * round size + (2 * size + rest.length + 3)
  | .notifying [] _ _ => (left + 1) * round size
  | .notifying (first :: rest) _ _ =>
      if overdue instantMax world first = true ∧ first ∈ world.entries then
        left * round size + (2 * rest.length + 2)
      else (left + 1) * round size + (2 * rest.length + 2)
  | .waking rest _ _ => (left + 1) * round size + (2 * rest.length + 1)

/-- No list of the thread is longer than that. -/
def Within (size : Nat) (world : World) : Prop :=
  world.entries.length ≤ size ∧
    ∀ clock rest kept expired nearest,
      world.watchdog = .scanning clock rest kept expired nearest →
        rest.length + kept.length ≤ size ∧ rest.length + expired.length ≤ size

/-- A reader that is due, in a reachable state in which only the watchdog is running. -/
structure Due (instantMax size entry : Nat) (watch : MatchWatch) (world : World) : Prop where
  reachable : ∃ past, Inv instantMax past world ∧ calls past < 2 ^ 64 ∧ Registered past entry
  settled : ∀ thread, world.threads thread = .idle
  live : world.readers entry = .live watch
  due : ∃ deadline, watch.absenceDeadline instantMax = some deadline ∧ deadline ≤ world.now
  within : Within size world

section Turns

variable {instantMax size entry : Nat} {watch : MatchWatch} {world next : World}

theorem Due.overdue (due : Due instantMax size entry watch world) :
    overdue instantMax world entry = true := by
  obtain ⟨deadline, set, passed⟩ := due.due
  simp [WatchdogProgress.overdue, due.live, set, passed]

theorem Due.listed (due : Due instantMax size entry watch world) : entry ∈ world.entries := by
  obtain ⟨past, inv, -, registered⟩ := due.reachable
  exact inv.held entry registered (by rw [due.live]; rfl)

/-- A blocked watchdog has slept long enough. -/
theorem Due.wakes (due : Due instantMax size entry watch world) (seenGeneration : UInt64)
    (wakeAt : Option Nat) (blocked : world.watchdog = .blocked seenGeneration wakeAt) :
    wakeAt.any (fun instant => instant ≤ world.now) = true := by
  obtain ⟨past, inv, -, registered⟩ := due.reachable
  obtain ⟨deadline, set, passed⟩ := due.due
  have fresh : Fresh world := by
    intro generation seen
    by_contra changed
    rw [blocked] at seen
    cases seen
    obtain ⟨thread, notifying⟩ := inv.signalled seenGeneration wakeAt blocked changed
    rw [due.settled thread] at notifying
    cases notifying
  have listed : entry ∈ world.watchdog.scanned world.entries := by
    rw [blocked]
    exact due.listed
  rcases inv.covered fresh entry listed deadline ⟨watch, due.live, set⟩ with
    ⟨thread, updated⟩ | upgraded | ⟨instant, nearest, before⟩
  · rw [due.settled thread] at updated
    cases updated
  · rw [blocked] at upgraded
    cases upgraded
  · rw [blocked] at nearest
    cases nearest
    simpa using Nat.le_trans before passed

/-- A reader stays due until it is marked. -/
theorem Due.kept (due : Due instantMax size entry watch world) (action : Action)
    (taken : step instantMax world action = some next) (own : action.isCall = false)
    (threads : next.threads = world.threads)
    (readers : next.readers entry = world.readers entry) (now : next.now = world.now)
    (within : Within size next) :
    Due instantMax size entry watch next := by
  obtain ⟨past, inv, few, registered⟩ := due.reachable
  have counted : calls (past ++ [action]) = calls past := by
    rw [calls_snoc, own]
    rfl
  have stillFew : calls (past ++ [action]) < 2 ^ 64 := counted ▸ few
  obtain ⟨thread, member⟩ := registered
  exact
    { reachable := ⟨past ++ [action], step_inv instantMax world next action past inv taken stillFew,
        stillFew, thread, List.mem_append_left _ member⟩
      settled := fun thread => by rw [threads]; exact due.settled thread
      live := by rw [readers]; exact due.live
      due := by rw [now]; exact due.due
      within := within }

/-! The count of readers left -/

end Turns

end CycloneddsRs.WatchdogProgress
