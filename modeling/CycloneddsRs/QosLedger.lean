import CycloneddsRs.DdsError
import CycloneddsRs.StepRuns
import Mathlib.Data.List.Nodup

/-!
dds_qos.rs and dds_builtin.rs: who owns a `dds_qos_t`. A `DdsQos` deletes its pointer when it is
dropped, unless the pointer was taken out of it before. Builtin samples hold pointers of the
C library, which are read through a `DdsQos` that is forgotten again.
-/

namespace CycloneddsRs.QosLedger

open DdsError StepRuns

/-! The C library -/

/-- What the calls of the crate leave on record: the addresses that were given out, and those that
were deleted. Every answer of the library is an input of a run. -/
structure Calls where
  made : List Nat
  deleted : List Nat
  /-- The uses and deletions of a deleted address. -/
  faults : List Nat
  deriving DecidableEq

/-- `dds_create_qos` answers an address or null. -/
def Calls.createQos (calls : Calls) (answer : Option Nat) : Calls :=
  { calls with made := answer.toList ++ calls.made }

def Calls.useQos (calls : Calls) : Option Nat → Calls
  | none => calls
  | some address =>
      if address ∈ calls.deleted then { calls with faults := calls.faults ++ [address] }
      else calls

/-- Deleting null does nothing. -/
def Calls.deleteQos (calls : Calls) : Option Nat → Calls
  | none => calls
  | some address =>
      let calls := calls.useQos (some address)
      { calls with deleted := calls.deleted ++ [address] }

def Calls.copyQos (calls : Calls) (target source : Option Nat) : Calls :=
  (calls.useQos target).useQos source

/-! The values -/

structure DdsQos where
  pointer : Option Nat
  deriving DecidableEq

def DdsQos.drop (qos : DdsQos) (calls : Calls) : Calls :=
  if qos.pointer.isSome then calls.deleteQos qos.pointer else calls

def DdsQos.create (answer : Option Nat) (calls : Calls) : Except DDSError DdsQos × Calls :=
  let calls := calls.createQos answer
  if answer.isSome then (.ok { pointer := answer }, calls) else (.error .outOfResources, calls)

/-- The pointer leaves the value before its drop. -/
def DdsQos.forget (qos : DdsQos) (calls : Calls) : Calls :=
  { qos with pointer := none }.drop calls

/-- `From<DdsQos> for *const dds_qos_t`. -/
def DdsQos.intoPointer (qos : DdsQos) (calls : Calls) : Option Nat × Calls :=
  (qos.pointer, { qos with pointer := none }.drop calls)

/-- What `clone` and `BuiltinSample::qos` do: create, copy, and delete again where that fails.
`copied` is the answer of `dds_copy_qos`. -/
def copyOf (source answer : Option Nat) (copied : Bool) (calls : Calls) :
    Option DdsQos × Calls :=
  let calls := (calls.createQos answer).copyQos answer source
  if copied then (some { pointer := answer }, calls) else (none, calls.deleteQos answer)

/-- `none` is a panic. -/
def DdsQos.clone (qos : DdsQos) (answer : Option Nat) (copied : Bool) (calls : Calls) :
    Option DdsQos × Calls :=
  copyOf qos.pointer answer copied calls

def DdsQos.merge (qos source : DdsQos) (calls : Calls) : Calls :=
  (calls.useQos qos.pointer).useQos source.pointer

/-- `BuiltinSample::qos` for the pointer in the sample. -/
def sampleQos (pointer answer : Option Nat) (copied : Bool) (calls : Calls) :
    Option DdsQos × Calls :=
  if pointer.isNone then (none, calls) else copyOf pointer answer copied calls

/-- What `Policy::from` reads. -/
def readPolicy (qos : DdsQos) (calls : Calls) : Calls := calls.useQos qos.pointer

/-- `BuiltinSample::policy`, through a value that must not delete the sample's pointer. -/
def samplePolicy (pointer : Option Nat) (calls : Calls) : Calls :=
  if pointer.isNone then calls
  else
    let qos : DdsQos := { pointer := pointer }
    qos.forget (readPolicy qos calls)

/-! Runs -/

structure World where
  calls : Calls
  values : List DdsQos
  /-- The pointers in the samples that the C library has lent. -/
  samples : List Nat
  /-- The pointers that were given to the creation of an entity. -/
  handed : List Nat
  deriving DecidableEq

def World.init : World :=
  { calls := { made := [], deleted := [], faults := [] }
    values := []
    samples := []
    handed := [] }

inductive Action where
  | create (answer : Option Nat)
  | clone (qos : DdsQos) (answer : Option Nat) (copied : Bool)
  | set (qos : DdsQos)
  | merge (qos source : DdsQos)
  | policy (qos : DdsQos)
  | drop (qos : DdsQos)
  /-- An entity is created with a QoS. C copies it and keeps nothing of it. -/
  | createEntity (qos : DdsQos)
  | lend (address : Nat)
  | returnLoan (sample : Nat)
  | sampleQos (sample : Nat) (answer : Option Nat) (copied : Bool)
  | samplePolicy (sample : Nat)

/-- An address that the allocator gives out once more counts as a new one. -/
def Calls.New (calls : Calls) (answer : Option Nat) : Prop :=
  ∀ address ∈ answer, address ∉ calls.made

/-- The answers that the library may give. `dds_copy_qos` refuses to copy into null. -/
def Permitted (calls : Calls) : Action → Prop
  | .create answer => calls.New answer
  | .clone _ answer copied | .sampleQos _ answer copied =>
      calls.New answer ∧ (copied = true → answer.isSome = true)
  | .lend address => address ∉ calls.made
  | _ => True

instance (calls : Calls) (answer : Option Nat) : Decidable (calls.New answer) :=
  inferInstanceAs (Decidable (∀ address ∈ answer, address ∉ calls.made))

instance (calls : Calls) (action : Action) : Decidable (Permitted calls action) :=
  match action with
  | .create answer => inferInstanceAs (Decidable (calls.New answer))
  | .clone _ answer copied | .sampleQos _ answer copied =>
      inferInstanceAs (Decidable (calls.New answer ∧ (copied = true → answer.isSome = true)))
  | .lend address => inferInstanceAs (Decidable (address ∉ calls.made))
  | .set _ | .merge _ _ | .policy _ | .drop _ | .createEntity _ | .returnLoan _
  | .samplePolicy _ => isTrue trivial

def perform (world : World) : Action → Option World
  | .create answer =>
      match DdsQos.create answer world.calls with
      | (.ok qos, calls) => some { world with calls := calls, values := qos :: world.values }
      | (.error _, calls) => some { world with calls := calls }
  | .clone qos answer copied =>
      if qos ∈ world.values then
        let clone := qos.clone answer copied world.calls
        some { world with calls := clone.2, values := clone.1.toList ++ world.values }
      else none
  | .set qos =>
      if qos ∈ world.values then some { world with calls := world.calls.useQos qos.pointer }
      else none
  | .merge qos source =>
      if qos ∈ world.values ∧ source ∈ world.values then
        some { world with calls := qos.merge source world.calls }
      else none
  | .policy qos =>
      if qos ∈ world.values then some { world with calls := readPolicy qos world.calls }
      else none
  | .drop qos =>
      if qos ∈ world.values then
        some { world with
          calls := qos.drop world.calls
          values := world.values.erase qos }
      else none
  | .createEntity qos =>
      if qos ∈ world.values then
        let (pointer, calls) := qos.intoPointer world.calls
        some { world with
          calls := calls.useQos pointer
          values := world.values.erase qos
          handed := pointer.toList ++ world.handed }
      else none
  | .lend address =>
      some { world with
        calls := world.calls.createQos (some address)
        samples := address :: world.samples }
  | .returnLoan sample =>
      if sample ∈ world.samples then
        some { world with
          calls := world.calls.deleteQos (some sample)
          samples := world.samples.erase sample }
      else none
  | .sampleQos sample answer copied =>
      if sample ∈ world.samples then
        let copy := QosLedger.sampleQos (some sample) answer copied world.calls
        some { world with calls := copy.2, values := copy.1.toList ++ world.values }
      else none
  | .samplePolicy sample =>
      if sample ∈ world.samples then
        some { world with calls := QosLedger.samplePolicy (some sample) world.calls }
      else none

def step (world : World) (action : Action) : Option World :=
  if Permitted world.calls action then perform world action else none

/-! What every step keeps -/

def World.owned (world : World) : List Nat := world.values.filterMap DdsQos.pointer

/-- In how many places an address stands. -/
def World.places (world : World) (address : Nat) : Nat :=
  world.calls.deleted.count address + world.owned.count address +
    world.samples.count address + world.handed.count address

structure Inv (world : World) : Prop where
  faultless : world.calls.faults = []
  filled : ∀ qos ∈ world.values, qos.pointer ≠ none
  distinct : world.calls.made.Nodup
  placed : ∀ address, world.places address = if address ∈ world.calls.made then 1 else 0

/-- What a step comes to: one address is made or goes to another place, or nothing changes. -/
inductive Moves (world : World) : World → Prop
  | still : Moves world world
  | own (address : Nat) : address ∉ world.calls.made → Moves world { world with
      calls := { world.calls with made := address :: world.calls.made }
      values := { pointer := some address } :: world.values }
  /-- A copy that failed. -/
  | discard (address : Nat) : address ∉ world.calls.made → Moves world { world with
      calls := { world.calls with
        made := address :: world.calls.made
        deleted := world.calls.deleted ++ [address] } }
  | lend (address : Nat) : address ∉ world.calls.made → Moves world { world with
      calls := { world.calls with made := address :: world.calls.made }
      samples := address :: world.samples }
  | delete (address : Nat) : { pointer := some address } ∈ world.values →
    Moves world { world with
      calls := { world.calls with deleted := world.calls.deleted ++ [address] }
      values := world.values.erase { pointer := some address } }
  | hand (address : Nat) : { pointer := some address } ∈ world.values →
    Moves world { world with
      values := world.values.erase { pointer := some address }
      handed := address :: world.handed }
  | give (sample : Nat) : sample ∈ world.samples → Moves world { world with
      calls := { world.calls with deleted := world.calls.deleted ++ [sample] }
      samples := world.samples.erase sample }

theorem useQos_live (calls : Calls) (address : Nat) (live : address ∉ calls.deleted) :
    calls.useQos (some address) = calls := by
  rw [Calls.useQos, if_neg live]

theorem deleteQos_live (calls : Calls) (address : Nat) (live : address ∉ calls.deleted) :
    calls.deleteQos (some address) = { calls with deleted := calls.deleted ++ [address] } := by
  rw [Calls.deleteQos, useQos_live calls address live]

theorem owned_live (world : World) (inv : Inv world) (address : Nat)
    (held : { pointer := some address } ∈ world.values) : address ∉ world.calls.deleted := by
  have owned : address ∈ world.owned := List.mem_filterMap.mpr ⟨_, held, rfl⟩
  have placed := inv.placed address
  have one := List.count_pos_iff.mpr owned
  intro deleted
  have two := List.count_pos_iff.mpr deleted
  rw [World.places] at placed
  split at placed <;> omega

theorem sample_live (world : World) (inv : Inv world) (sample : Nat)
    (lent : sample ∈ world.samples) : sample ∉ world.calls.deleted := by
  have placed := inv.placed sample
  have one := List.count_pos_iff.mpr lent
  intro deleted
  have two := List.count_pos_iff.mpr deleted
  rw [World.places] at placed
  split at placed <;> omega

theorem new_undeleted (world : World) (inv : Inv world) (address : Nat)
    (new : address ∉ world.calls.made) : address ∉ world.calls.deleted := by
  have placed := inv.placed address
  rw [if_neg new, World.places] at placed
  exact List.count_eq_zero.mp (by omega)

/-- A value has an address, and it is live. -/
theorem value_live (world : World) (inv : Inv world) (qos : DdsQos) (held : qos ∈ world.values) :
    ∃ address, qos = { pointer := some address } ∧ address ∉ world.calls.deleted := by
  obtain ⟨pointer⟩ := qos
  cases pointer with
  | none => exact absurd rfl (inv.filled _ held)
  | some address => exact ⟨address, rfl, owned_live world inv address held⟩

/-- A copy into a new value: it succeeds, or nothing is left of it. -/
theorem copyOf_moves (world : World) (inv : Inv world) (source : Nat)
    (live : source ∉ world.calls.deleted) (answer : Option Nat) (copied : Bool)
    (new : world.calls.New answer) (target : copied = true → answer.isSome = true) :
    let copy := copyOf (some source) answer copied world.calls
    Moves world { world with calls := copy.2, values := copy.1.toList ++ world.values } := by
  cases answer with
  | none =>
      cases copied with
      | true => exact absurd (target rfl) Bool.false_ne_true
      | false =>
          simpa [copyOf, Calls.createQos, Calls.copyQos, Calls.useQos, Calls.deleteQos, live]
            using Moves.still
  | some address =>
      have fresh := new address rfl
      have undeleted := new_undeleted world inv address fresh
      cases copied with
      | true =>
          simpa [copyOf, Calls.createQos, Calls.copyQos, Calls.useQos, live, undeleted] using
            Moves.own address fresh
      | false =>
          simpa [copyOf, Calls.createQos, Calls.copyQos, Calls.useQos, Calls.deleteQos, live,
            undeleted] using Moves.discard address fresh

theorem step_moves (world : World) (inv : Inv world) (action : Action) (next : World)
    (taken : step world action = some next) : Moves world next := by
  obtain ⟨permitted, taken⟩ := Option.ite_none_right_eq_some.mp taken
  cases action with
  | create answer =>
      cases answer with
      | some address =>
          cases taken
          exact .own address (permitted address rfl)
      | none =>
          cases taken
          exact .still
  | clone qos answer copied =>
      obtain ⟨held, same⟩ := Option.ite_none_right_eq_some.mp taken
      obtain ⟨address, rfl, live⟩ := value_live world inv qos held
      cases same
      exact copyOf_moves world inv address live answer copied permitted.1 permitted.2
  | set qos | policy qos =>
      obtain ⟨held, same⟩ := Option.ite_none_right_eq_some.mp taken
      obtain ⟨address, rfl, live⟩ := value_live world inv qos held
      cases same
      simpa only [readPolicy, useQos_live _ address live] using Moves.still
  | merge qos source =>
      obtain ⟨⟨held, given⟩, same⟩ := Option.ite_none_right_eq_some.mp taken
      obtain ⟨address, rfl, live⟩ := value_live world inv qos held
      obtain ⟨other, rfl, also⟩ := value_live world inv source given
      cases same
      simpa only [DdsQos.merge, useQos_live _ address live, useQos_live _ other also] using
        Moves.still
  | drop qos =>
      obtain ⟨held, same⟩ := Option.ite_none_right_eq_some.mp taken
      obtain ⟨address, rfl, live⟩ := value_live world inv qos held
      cases same
      simpa [DdsQos.drop, deleteQos_live _ address live] using Moves.delete address held
  | createEntity qos =>
      obtain ⟨held, same⟩ := Option.ite_none_right_eq_some.mp taken
      obtain ⟨address, rfl, live⟩ := value_live world inv qos held
      cases same
      simpa [DdsQos.intoPointer, DdsQos.drop, useQos_live _ address live] using
        Moves.hand address held
  | lend address =>
      cases taken
      exact .lend address permitted
  | returnLoan sample =>
      obtain ⟨lent, same⟩ := Option.ite_none_right_eq_some.mp taken
      cases same
      rw [deleteQos_live _ sample (sample_live world inv sample lent)]
      exact .give sample lent
  | sampleQos sample answer copied =>
      obtain ⟨lent, same⟩ := Option.ite_none_right_eq_some.mp taken
      cases same
      exact copyOf_moves world inv sample (sample_live world inv sample lent) answer copied
        permitted.1 permitted.2
  | samplePolicy sample =>
      obtain ⟨lent, same⟩ := Option.ite_none_right_eq_some.mp taken
      cases same
      simpa [QosLedger.samplePolicy, DdsQos.forget, DdsQos.drop, readPolicy,
        useQos_live _ sample (sample_live world inv sample lent)] using Moves.still

theorem pointers_cons (address : Nat) (rest : List DdsQos) :
    ({ pointer := some address } :: rest).filterMap DdsQos.pointer =
      [address] ++ rest.filterMap DdsQos.pointer :=
  rfl

theorem owned_erase (values : List DdsQos) (address place : Nat)
    (held : { pointer := some address } ∈ values) :
    (values.filterMap DdsQos.pointer).count place =
      ((values.erase { pointer := some address }).filterMap DdsQos.pointer).count place +
        [address].count place := by
  have whole := (List.perm_cons_erase held).filterMap DdsQos.pointer
  rw [whole.count_eq, pointers_cons, List.count_append, Nat.add_comm]

theorem sample_erase (samples : List Nat) (sample place : Nat) (lent : sample ∈ samples) :
    samples.count place = (samples.erase sample).count place + [sample].count place := by
  rw [(List.perm_cons_erase lent).count_eq, ← List.singleton_append, List.count_append,
    Nat.add_comm]

/-- The address that is made stands in one place, every other where it stood. -/
theorem made_placed (world : World) (inv : Inv world) (made address : Nat)
    (new : made ∉ world.calls.made) :
    world.places address + [made].count address =
      if address ∈ made :: world.calls.made then 1 else 0 := by
  rw [inv.placed address, List.count_singleton]
  by_cases same : made = address
  · subst same
    simp [new]
  · simp [same, Ne.symm same]

theorem moves_inv (world next : World) (inv : Inv world) (moves : Moves world next) :
    Inv next := by
  have kept : ∀ erased : DdsQos, ∀ qos ∈ world.values.erase erased, qos.pointer ≠ none :=
    fun erased qos held => inv.filled qos (List.mem_of_mem_erase held)
  cases moves with
  | still => exact inv
  | own made new =>
      refine ⟨inv.faultless, ?_, inv.distinct.cons new, fun address => ?_⟩
      · rintro qos (_ | ⟨_, held⟩)
        · exact Option.some_ne_none _
        · exact inv.filled qos held
      · rw [← made_placed world inv made address new]
        simp only [World.places, World.owned, List.filterMap_cons]
        rw [← List.singleton_append, List.count_append]
        omega
  | discard made new =>
      refine ⟨inv.faultless, inv.filled, inv.distinct.cons new, fun address => ?_⟩
      rw [← made_placed world inv made address new]
      simp only [World.places, World.owned, List.count_append]
      omega
  | lend made new =>
      refine ⟨inv.faultless, inv.filled, inv.distinct.cons new, fun address => ?_⟩
      rw [← made_placed world inv made address new]
      simp only [World.places, World.owned]
      rw [← List.singleton_append, List.count_append]
      omega
  | delete gone held =>
      refine ⟨inv.faultless, kept _, inv.distinct, fun address => ?_⟩
      have whole := owned_erase world.values gone address held
      rw [← inv.placed address]
      simp only [World.places, World.owned, List.count_append]
      omega
  | hand gone held =>
      refine ⟨inv.faultless, kept _, inv.distinct, fun address => ?_⟩
      have whole := owned_erase world.values gone address held
      rw [← inv.placed address]
      simp only [World.places, World.owned]
      rw [← List.singleton_append, List.count_append]
      omega
  | give sample lent =>
      refine ⟨inv.faultless, inv.filled, inv.distinct, fun address => ?_⟩
      have whole := sample_erase world.samples sample address lent
      rw [← inv.placed address]
      simp only [World.places, World.owned, List.count_append]
      omega

/-! Whole runs -/

def Action.createsEntity : Action → Bool
  | .createEntity _ => true
  | _ => false

theorem step_handed (world : World) (inv : Inv world) (action : Action) (next : World)
    (taken : step world action = some next) :
    next.handed.length = world.handed.length + [action].countP Action.createsEntity := by
  obtain ⟨-, taken⟩ := Option.ite_none_right_eq_some.mp taken
  cases action with
  | createEntity qos =>
      obtain ⟨held, same⟩ := Option.ite_none_right_eq_some.mp taken
      obtain ⟨address, rfl, -⟩ := value_live world inv qos held
      cases same
      rfl
  | create answer =>
      cases answer with
      | some | none =>
          cases taken
          rfl
  | lend address =>
      cases taken
      rfl
  | clone | set | merge | policy | drop | returnLoan | sampleQos | samplePolicy =>
      obtain ⟨-, same⟩ := Option.ite_none_right_eq_some.mp taken
      cases same
      rfl

def Ledger (past : List Action) (world : World) : Prop :=
  Inv world ∧ world.handed.length = past.countP Action.createsEntity

theorem ledger_init : Ledger [] World.init := by
  refine ⟨⟨rfl, ?_, List.nodup_nil, fun address => ?_⟩, rfl⟩
  · intro qos held
    exact absurd held List.not_mem_nil
  · rfl

theorem ledger_kept (past : List Action) (world : World) (action : Action) (next : World)
    (ledger : Ledger past world) (taken : step world action = some next) :
    Ledger (past ++ [action]) next := by
  obtain ⟨inv, handed⟩ := ledger
  have grown := step_handed world inv action next taken
  refine ⟨moves_inv world next inv (step_moves world inv action next taken), ?_⟩
  rw [List.countP_append, ← handed, grown]

theorem run_ledger (actions : List Action) (final : World)
    (run : exec step World.init actions = some final) : Ledger actions final := by
  simpa using exec_invariant step Ledger ledger_kept [] actions World.init final ledger_init run

def World.undeleted (world : World) : List Nat :=
  world.calls.made.filter fun address => address ∉ world.calls.deleted

/-- Nothing is left of the values and the samples: what was not deleted was handed on. -/
theorem undeleted_handed (world : World) (inv : Inv world) (dropped : world.values = [])
    (returned : world.samples = []) : world.undeleted.Perm world.handed := by
  have placed := inv.placed
  simp only [World.places, World.owned, dropped, returned, List.filterMap_nil,
    List.count_nil, Nat.add_zero] at placed
  have distinct : world.handed.Nodup := by
    refine List.nodup_iff_count_le_one.mpr fun address => ?_
    have here := placed address
    split at here <;> omega
  refine (List.perm_ext_iff_of_nodup (inv.distinct.filter _) distinct).mpr fun address => ?_
  have here := placed address
  rw [List.mem_filter, decide_eq_true_iff, ← List.count_eq_zero,
    ← List.count_pos_iff (l := world.handed)]
  by_cases made : address ∈ world.calls.made
  · rw [if_pos made] at here
    simp only [made, true_and]
    omega
  · rw [if_neg made] at here
    simp only [made, false_and, false_iff]
    omega

/-- No QoS is used after its deletion or deleted twice, each has one owner, and the ones given
to the creations of entities are the ones that nothing deletes. -/
theorem owned_once (actions : List Action) (final : World)
    (run : exec step World.init actions = some final) :
    final.calls.faults = [] ∧
    (∀ address, final.places address = if address ∈ final.calls.made then 1 else 0) ∧
    (final.values = [] → final.samples = [] →
      final.undeleted.Perm final.handed ∧
      final.undeleted.length = actions.countP Action.createsEntity) := by
  obtain ⟨inv, handed⟩ := run_ledger actions final run
  refine ⟨inv.faultless, inv.placed, fun dropped returned => ?_⟩
  have same := undeleted_handed final inv dropped returned
  exact ⟨same, same.length_eq.trans handed⟩

/-- A topic's QoS is copied for a reader, and the one of a sample is copied and dropped. -/
def Shared : List Action :=
  [.create (some 7), .clone { pointer := some 7 } (some 5) true,
    .createEntity { pointer := some 7 }, .lend 9, .sampleQos 9 (some 2) true, .samplePolicy 9,
    .clone { pointer := some 2 } (some 4) false,
    .merge { pointer := some 5 } { pointer := some 2 }, .drop { pointer := some 2 },
    .returnLoan 9, .createEntity { pointer := some 5 }]

def sharedWorld : World :=
  { calls := { made := [4, 2, 9, 5, 7], deleted := [4, 2, 9], faults := [] }
    values := []
    samples := []
    handed := [5, 7] }

theorem owned_once_shared :
    exec step World.init Shared = some sharedWorld ∧ sharedWorld.undeleted.Perm [5, 7] := by
  have run : exec step World.init Shared = some sharedWorld := by decide
  obtain ⟨-, -, once⟩ := owned_once Shared sharedWorld run
  exact ⟨run, (once rfl rfl).1⟩

end CycloneddsRs.QosLedger
