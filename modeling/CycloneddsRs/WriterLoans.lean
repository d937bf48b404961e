import CycloneddsRs.DdsError
import CycloneddsRs.StepRuns
import Mathlib.Data.List.Perm.Basic

/-!
dds_writer.rs: the samples that a writer lends out. A `Loaned` that goes out of scope
is dropped, the one a method has consumed included, and its drop returns the loan.
-/

namespace CycloneddsRs.WriterLoans
open DdsError StepRuns

abbrev Pointer := Nat

abbrev Entity := Nat

inductive Loaned where
  | uninitialized (sample : Pointer) (entity : Entity)
  | initialized (sample : Pointer) (entity : Entity)
  | empty
  deriving DecidableEq

def Loaned.asMutPtr : Loaned → Option Pointer
  | .uninitialized sample _ => some sample
  | .initialized sample _ => some sample
  | .empty => none

/-- The calls into C that end a loan. -/
inductive CCall where
  | ddsReturnLoan (entity : Entity) (sample : Pointer)
  | ddsWrite (entity : Entity) (sample : Pointer)
  deriving DecidableEq

def CCall.sample : CCall → Pointer
  | .ddsReturnLoan _ sample => sample
  | .ddsWrite _ sample => sample

def Loaned.drop : Loaned → List CCall
  | .uninitialized sample entity => [.ddsReturnLoan entity sample]
  | .initialized sample entity => [.ddsReturnLoan entity sample]
  | .empty => []

/-- The match only borrows `self`, which is dropped when the method returns. -/
def Loaned.assumeInit (loaned : Loaned) : Loaned × List CCall :=
  let result : Loaned :=
    match loaned with
    | .uninitialized sample entity => .initialized sample entity
    | .initialized sample entity => .initialized sample entity
    | .empty => .empty
  (result, loaned.drop)

/-- `answer` is what `dds_loan_sample` returns and the pointer that it has written. There is no
result when that is null on success, where the `unwrap` panics. -/
def loan (writer : Entity) (answer : Int × Pointer) : Option (Except DDSError Loaned) :=
  if answer.1 = 0 then
    if answer.2 = 0 then none
    else some (.ok (.uninitialized answer.2 writer))
  else some (.error (.ofReturn answer.1))

/-- `answer` is what the C call returns. The buffer is dropped with the method's frame. -/
def returnLoan (buffer : Loaned) (answer : Int) : Except DDSError Unit × List CCall :=
  let (res, calls) : Int × List CCall :=
    match buffer with
    | .uninitialized sample entity => (answer, [.ddsReturnLoan entity sample])
    | .initialized sample entity => (answer, [.ddsWrite entity sample])
    | .empty => (0, [])
  (if res = 0 then .ok () else .error (.ofReturn res), calls ++ buffer.drop)

structure World where
  /-- The pointers that `loan` has handed out. -/
  issued : List Pointer
  live : List Loaned
  calls : List CCall
  deriving DecidableEq

def World.init : World := { issued := [], live := [], calls := [] }

/-- The values are named by where they stand among the live ones. -/
inductive Action where
  | loan (writer : Entity) (answer : Int × Pointer)
  | assumeInit (index : Nat)
  | dropLoaned (index : Nat)
  | returnLoan (index : Nat) (answer : Int)

/-- Memory on loan comes at an address of its own. -/
def step (world : World) : Action → Option World
  | .loan writer answer =>
      match loan writer answer with
      | none => none
      | some (.ok loaned) =>
          if answer.2 ∈ world.issued then none
          else some { world with
            issued := answer.2 :: world.issued
            live := loaned :: world.live }
      | some (.error _) => some world
  | .assumeInit index =>
      world.live[index]?.map fun loaned =>
        { world with
          live := world.live.set index loaned.assumeInit.1
          calls := world.calls ++ loaned.assumeInit.2 }
  | .dropLoaned index =>
      world.live[index]?.map fun loaned =>
        { world with
          live := world.live.eraseIdx index
          calls := world.calls ++ loaned.drop }
  | .returnLoan index answer =>
      world.live[index]?.map fun loaned =>
        { world with
          live := world.live.eraseIdx index
          calls := world.calls ++ (returnLoan loaned answer).2 }

def World.ended (world : World) (pointer : Pointer) : Nat :=
  (world.calls.map CCall.sample).count pointer

def World.exposing (world : World) (pointer : Pointer) : Nat :=
  (world.live.map Loaned.asMutPtr).count (some pointer)

def World.Exposes (world : World) (pointer : Pointer) : Prop :=
  ∃ loaned ∈ world.live, loaned.asMutPtr = some pointer

/-- What the loans owe their lender. -/
structure EndsOnce (world : World) : Prop where
  atMostOnce : ∀ pointer ∈ world.issued, world.ended pointer ≤ 1
  notWhileExposed : ∀ pointer ∈ world.issued, world.Exposes pointer → world.ended pointer = 0
  whenGone : ∀ pointer ∈ world.issued, ¬ world.Exposes pointer → world.ended pointer = 1

def Consumes : Action → Prop
  | .assumeInit _ => True
  | .returnLoan _ _ => True
  | .loan _ _ => False
  | .dropLoaned _ => False

/-! Conservation -/

/-- A loan is in one hand: a live value's, or it has gone back by one call. -/
structure Conserved (world : World) : Prop where
  exposed : ∀ loaned ∈ world.live, loaned ≠ .empty
  once : ∀ pointer, world.exposing pointer + world.ended pointer =
    if pointer ∈ world.issued then 1 else 0

theorem exposes_iff (world : World) (pointer : Pointer) :
    world.Exposes pointer ↔ 0 < world.exposing pointer := by
  rw [World.exposing, List.count_pos_iff, List.mem_map]
  exact Iff.rfl

theorem conserved_init : Conserved .init := by
  constructor
  · intro loaned inside
    cases inside
  · intro pointer
    rfl

theorem conserved_endsOnce (world : World) (conserved : Conserved world) : EndsOnce world := by
  have total : ∀ pointer ∈ world.issued, world.exposing pointer + world.ended pointer = 1 := by
    intro pointer issued
    rw [conserved.once pointer, if_pos issued]
  constructor
  · intro pointer issued
    have sum := total pointer issued
    omega
  · intro pointer issued exposes
    have sum := total pointer issued
    have positive := (exposes_iff world pointer).mp exposes
    omega
  · intro pointer issued gone
    have sum := total pointer issued
    have zero := mt (exposes_iff world pointer).mpr gone
    omega

/-! The steps -/

theorem exposing_split (world : World) (index : Nat) (loaned : Loaned)
    (found : world.live[index]? = some loaned) (pointer : Pointer) :
    world.exposing pointer =
      ((loaned :: world.live.eraseIdx index).map Loaned.asMutPtr).count (some pointer) := by
  obtain ⟨bounded, same⟩ := List.getElem?_eq_some_iff.mp found
  subst same
  have order := List.getElem_cons_eraseIdx_perm bounded
  exact ((order.map Loaned.asMutPtr).count_eq (some pointer)).symm

theorem conserved_loan (world : World) (writer : Entity) (answer : Int × Pointer) (loaned : Loaned)
    (conserved : Conserved world) (lent : loan writer answer = some (.ok loaned))
    (fresh : answer.2 ∉ world.issued) :
    Conserved { world with
      issued := answer.2 :: world.issued
      live := loaned :: world.live } := by
  have made : loaned = .uninitialized answer.2 writer := by
    rw [loan] at lent
    split at lent
    · split at lent
      · cases lent
      · cases lent
        rfl
    · cases lent
  subst made
  constructor
  · intro other inside
    cases inside with
    | head => exact Loaned.noConfusion
    | tail _ before => exact conserved.exposed other before
  · intro pointer
    have before := conserved.once pointer
    simp only [World.exposing, World.ended, List.map_cons, Loaned.asMutPtr, List.count_cons,
      beq_iff_eq, Option.some.injEq, List.mem_cons] at before ⊢
    by_cases same : answer.2 = pointer
    · subst same
      simp only [fresh, if_false] at before
      simp
      omega
    · simp only [same, Ne.symm same, if_false, false_or]
      omega

theorem owned (world : World) (index : Nat) (loaned : Loaned) (conserved : Conserved world)
    (found : world.live[index]? = some loaned) :
    ∃ pointer ∈ world.issued, loaned.asMutPtr = some pointer := by
  have inside := List.mem_of_getElem? found
  have exposed : ∀ pointer, loaned.asMutPtr = some pointer → pointer ∈ world.issued := by
    intro pointer points
    have sum := conserved.once pointer
    have positive := (exposes_iff world pointer).mp ⟨loaned, inside, points⟩
    by_contra unknown
    rw [if_neg unknown] at sum
    omega
  cases loaned with
  | empty => exact absurd rfl (conserved.exposed _ inside)
  | uninitialized sample entity | initialized sample entity =>
      exact ⟨sample, exposed sample rfl, rfl⟩

theorem drop_ends (loaned : Loaned) (pointer : Pointer)
    (points : loaned.asMutPtr = some pointer) (other : Pointer) :
    (loaned.drop.map CCall.sample).count other = if pointer = other then 1 else 0 := by
  cases loaned with
  | empty => cases points
  | uninitialized sample entity | initialized sample entity =>
      cases points
      simp [Loaned.drop, CCall.sample, List.count_singleton]

/-- Whatever the C call answers: it ends the loan, and so does the drop behind it. -/
theorem returnLoan_ends (loaned : Loaned) (answer : Int) (pointer : Pointer)
    (points : loaned.asMutPtr = some pointer) :
    ((returnLoan loaned answer).2.map CCall.sample).count pointer = 2 := by
  cases loaned with
  | empty => cases points
  | uninitialized sample entity | initialized sample entity =>
      cases points
      simp [returnLoan, Loaned.drop, CCall.sample]

theorem ended_append (world : World) (live : List Loaned) (calls : List CCall)
    (pointer : Pointer) :
    World.ended { world with live := live, calls := world.calls ++ calls } pointer =
      world.ended pointer + (calls.map CCall.sample).count pointer := by
  simp only [World.ended, List.map_append, List.count_append]

/-- Dropping a value moves its loan from the one side to the other. -/
theorem conserved_drop (world : World) (index : Nat) (loaned : Loaned)
    (conserved : Conserved world) (found : world.live[index]? = some loaned) :
    Conserved { world with
      live := world.live.eraseIdx index
      calls := world.calls ++ loaned.drop } := by
  obtain ⟨owner, -, points⟩ := owned world index loaned conserved found
  constructor
  · intro other inside
    exact conserved.exposed other (List.mem_of_mem_eraseIdx inside)
  · intro pointer
    have sum := conserved.once pointer
    rw [exposing_split world index loaned found pointer, List.map_cons, List.count_cons,
      points] at sum
    rw [ended_append, drop_ends loaned owner points pointer]
    simp only [World.exposing, beq_iff_eq, Option.some.injEq] at sum ⊢
    omega

/-- The loan goes back while the new value still points to it. -/
theorem assumeInit_breaks (world : World) (index : Nat) (loaned : Loaned)
    (conserved : Conserved world) (found : world.live[index]? = some loaned) :
    ¬ EndsOnce { world with
      live := world.live.set index loaned.assumeInit.1
      calls := world.calls ++ loaned.assumeInit.2 } := by
  intro ends
  obtain ⟨pointer, issued, points⟩ := owned world index loaned conserved found
  obtain ⟨bounded, -⟩ := List.getElem?_eq_some_iff.mp found
  have same : loaned.assumeInit.1.asMutPtr = some pointer := by
    rw [← points]
    cases loaned <;> rfl
  have none := ends.notWhileExposed pointer issued
    ⟨loaned.assumeInit.1, List.mem_set bounded loaned.assumeInit.1, same⟩
  have one := drop_ends loaned pointer points pointer
  rw [ended_append] at none
  rw [if_pos rfl] at one
  have added : (loaned.assumeInit.2.map CCall.sample).count pointer = 1 := one
  omega

theorem returnLoan_breaks (world : World) (index : Nat) (loaned : Loaned) (answer : Int)
    (conserved : Conserved world) (found : world.live[index]? = some loaned) :
    ¬ EndsOnce { world with
      live := world.live.eraseIdx index
      calls := world.calls ++ (returnLoan loaned answer).2 } := by
  intro ends
  obtain ⟨pointer, issued, points⟩ := owned world index loaned conserved found
  have atMost := ends.atMostOnce pointer issued
  have two := returnLoan_ends loaned answer pointer points
  rw [ended_append] at atMost
  omega

/-! Whole sequences -/

theorem step_conserved (world : World) (action : Action) (next : World)
    (conserved : Conserved world) (taken : step world action = some next)
    (plain : ¬ Consumes action) : Conserved next := by
  cases action with
  | assumeInit index => exact absurd trivial plain
  | returnLoan index answer => exact absurd trivial plain
  | dropLoaned index =>
      obtain ⟨loaned, found, same⟩ := Option.map_eq_some_iff.mp taken
      subst same
      exact conserved_drop world index loaned conserved found
  | loan writer answer =>
      simp only [step] at taken
      split at taken
      case h_1 => cases taken
      case h_2 loaned lent =>
        split at taken
        case isTrue => cases taken
        case isFalse fresh =>
          cases taken
          exact conserved_loan world writer answer loaned conserved lent fresh
      case h_3 =>
        cases taken
        exact conserved

/-- A step keeps the promise unless a method consumes a value in it. -/
theorem step_endsOnce (world : World) (action : Action) (next : World)
    (conserved : Conserved world) (taken : step world action = some next) :
    EndsOnce next ↔ ¬ Consumes action := by
  constructor
  · intro ends consumes
    cases action with
    | loan writer answer => exact consumes
    | dropLoaned index => exact consumes
    | assumeInit index =>
        obtain ⟨loaned, found, same⟩ := Option.map_eq_some_iff.mp taken
        subst same
        exact assumeInit_breaks world index loaned conserved found ends
    | returnLoan index answer =>
        obtain ⟨loaned, found, same⟩ := Option.map_eq_some_iff.mp taken
        subst same
        exact returnLoan_breaks world index loaned answer conserved found ends
  · intro plain
    exact conserved_endsOnce next (step_conserved world action next conserved taken plain)

/-- Every loan ends once through the drop of its value. The two methods that consume a value
forget that its drop follows. -/
theorem loans_endOnce_iff (actions : List Action) :
    Along step (fun _ _ next => EndsOnce next) .init actions ↔
      Along step (fun _ action _ => ¬ Consumes action) .init actions := by
  apply along_iff step Conserved
  · intro world action next conserved taken
    exact step_endsOnce world action next conserved taken
  · intro world action next conserved taken ends
    have plain := (step_endsOnce world action next conserved taken).mp ends
    exact step_conserved world action next conserved taken plain
  · exact conserved_init

theorem assumed_init_returned :
    ¬ Along step (fun _ _ next => EndsOnce next) .init [.loan 7 (0, 4096), .assumeInit 0] := by
  intro along
  have lent := along _ rfl
  have assumed := lent.2 _ rfl
  have returned := assumed.1.notWhileExposed 4096 (List.mem_singleton.mpr rfl)
    ⟨.initialized 4096 7, List.mem_singleton.mpr rfl, rfl⟩
  cases returned

end CycloneddsRs.WriterLoans
