import CycloneddsRs.SampleHeap
import CycloneddsRs.StepRuns
import Mathlib.Data.List.Perm.Basic

/-!
The reference ledger of received samples. The parties are the Samples of the
application and every other holder of references in the C library (reader cache,
writer history, other readers). A run interleaves their steps in any order.
-/

namespace CycloneddsRs.SampleLedger

open Serdes Serdata SampleHeap StepRuns

variable {T : Type}

/-- `others` lists one address for each reference that is not a Sample's. -/
structure World (T : Type) where
  heap : Heap T
  samples : List (Sample T)
  others : List Nat

def World.empty : World T := { heap := fun _ => none, samples := [], others := [] }

inductive Action (T : Type) where
  /-- A constructor of serdata.rs hands a new object to the C library. -/
  | create (address : Nat) (serdata : SerData T)
  | newSample (data : Option T)
  | setSerdata (index address : Nat)
  | freeContents (index : Nat)
  | dropSample (index : Nat)
  | addref (address : Nat)
  | removeref (address : Nat)

/-- A step is refused when the caller breaks the contract of the C interface: it
uses an address that is not live, or gives up a reference it does not own. -/
def step (world : World T) : Action T → Option (World T)
  | .create address serdata =>
      if (world.heap address).isNone ∧ serdata.serdata.refc = 1 then
        some { world with
          heap := Function.update world.heap address (some serdata)
          others := address :: world.others }
      else none
  | .newSample data =>
      let sample : Sample T := match data with
        | some value => .from value
        | none => .default
      some { world with samples := world.samples ++ [sample] }
  | .setSerdata index address =>
      match world.samples[index]? with
      | some sample =>
          if (world.heap address).isSome then
            let result := Sample.setSerdata world.heap sample address
            some { world with
              heap := result.1
              samples := world.samples.set index result.2 }
          else none
      | none => none
  | .freeContents index =>
      match world.samples[index]? with
      | some sample =>
          let result := Sample.freeContents world.heap sample
          some { world with
            heap := result.1
            samples := world.samples.set index result.2 }
      | none => none
  | .dropSample index =>
      match world.samples[index]? with
      | some sample =>
          some { world with
            heap := Sample.drop world.heap sample
            samples := world.samples.eraseIdx index }
      | none => none
  | .addref address =>
      if (world.heap address).isSome then
        some { world with
          heap := ddsiSerdataAddref world.heap address
          others := address :: world.others }
      else none
  | .removeref address =>
      if address ∈ world.others then
        some { world with
          heap := ddsiSerdataRemoveref world.heap address
          others := world.others.erase address }
      else none

def heldBySamples (samples : List (Sample T)) (address : Nat) : Nat :=
  (samples.map Sample.serdata).count (some address)

def holders (world : World T) (address : Nat) : Nat :=
  heldBySamples world.samples address + world.others.count address

/-- The count of every live object is the number of its holders. -/
def LedgerExact (world : World T) : Prop :=
  ∀ address serdata, world.heap address = some serdata →
    serdata.serdata.refc = holders world address

/-- What a step frees had one reference left, and that one is gone. -/
def FreedByLast (before after : World T) : Prop :=
  ∀ address, before.heap address ≠ none → after.heap address = none →
    holders before address = 1 ∧ holders after address = 0

/-- A `set_serdata` that replaces a held object replaces another one than it is
given, and the Sample was the last holder of the replaced one. -/
def ReplacesLast (world : World T) : Action T → Prop
  | .setSerdata index address =>
      ∀ sample oldSerdata, world.samples[index]? = some sample →
        sample.serdata = some oldSerdata →
          refcount world.heap oldSerdata = 1 ∧ oldSerdata ≠ address
  | _ => True

structure Balanced (world : World T) : Prop where
  counts : ∀ address, refcount world.heap address = holders world address
  positive : Positive world.heap

theorem empty_balanced : Balanced (World.empty : World T) := by
  constructor
  · intro address
    rfl
  · intro address live
    exact absurd rfl live

theorem Balanced.ledgerExact {world : World T} (balanced : Balanced world) :
    LedgerExact world := by
  intro address serdata held
  rw [← refcount_of_some world.heap address serdata held]
  exact balanced.counts address

theorem heldBySamples_cons (sample : Sample T) (rest : List (Sample T)) (address : Nat) :
    heldBySamples (sample :: rest) address =
      heldBySamples rest address + if sample.serdata = some address then 1 else 0 := by
  simp [heldBySamples, List.count_cons]

theorem heldBySamples_append (left right : List (Sample T)) (address : Nat) :
    heldBySamples (left ++ right) address =
      heldBySamples left address + heldBySamples right address := by
  simp [heldBySamples]

theorem heldBySamples_erase (samples : List (Sample T)) (index address : Nat)
    (before : Sample T) (slot : samples[index]? = some before) :
    heldBySamples (samples.eraseIdx index) address +
        (if before.serdata = some address then 1 else 0) =
      heldBySamples samples address := by
  induction samples generalizing index with
  | nil => simp at slot
  | cons sample rest ih =>
      cases index with
      | zero =>
          have same : sample = before := by simpa using slot
          subst same
          rw [List.eraseIdx_cons_zero, heldBySamples_cons]
      | succ index =>
          have tail := ih index (by simpa using slot)
          rw [List.eraseIdx_cons_succ, heldBySamples_cons, heldBySamples_cons]
          omega

theorem heldBySamples_set (samples : List (Sample T)) (index address : Nat)
    (before after : Sample T) (slot : samples[index]? = some before) :
    heldBySamples (samples.set index after) address +
        (if before.serdata = some address then 1 else 0) =
      heldBySamples samples address + if after.serdata = some address then 1 else 0 := by
  obtain ⟨bounded, -⟩ := List.getElem?_eq_some_iff.mp slot
  have erased := heldBySamples_erase samples index address before slot
  have moved : heldBySamples (samples.set index after) address =
      heldBySamples (after :: samples.eraseIdx index) address :=
    ((List.set_perm_cons_eraseIdx bounded after).map Sample.serdata).count_eq (some address)
  rw [heldBySamples_cons] at moved
  omega

theorem released_refcount (heap : Heap T) (sample : Sample T) (address : Nat) :
    refcount (Sample.drop heap sample) address =
      refcount heap address - if sample.serdata = some address then 1 else 0 := by
  cases held : sample.serdata with
  | none => simp [Sample.drop, held]
  | some serdata =>
      have removed := removeref_refcount heap serdata address
      simpa [Sample.drop, held, eq_comm] using removed

theorem released_positive (heap : Heap T) (sample : Sample T) (positive : Positive heap) :
    Positive (Sample.drop heap sample) := by
  cases held : sample.serdata with
  | none => simpa [Sample.drop, held] using positive
  | some serdata => simpa [Sample.drop, held] using removeref_positive heap serdata positive

/-- Releasing the box of the old object is the same as removing a reference from it
when that was the last one. -/
theorem setSerdata_refcount (heap : Heap T) (sample : Sample T) (serdata address : Nat)
    (live : heap serdata ≠ none)
    (last : ∀ oldSerdata, sample.serdata = some oldSerdata →
      refcount heap oldSerdata = 1 ∧ oldSerdata ≠ serdata) :
    refcount (Sample.setSerdata heap sample serdata).1 address =
      refcount heap address + (if address = serdata then 1 else 0) -
        (if sample.serdata = some address then 1 else 0) := by
  cases held : sample.serdata with
  | none => simp [Sample.setSerdata, held, addref_refcount heap serdata address live]
  | some oldSerdata =>
      obtain ⟨one, other⟩ := last oldSerdata held
      have stillLive : serdataFree heap oldSerdata serdata ≠ none := by
        simpa [serdataFree, Ne.symm other] using live
      have added := addref_refcount (serdataFree heap oldSerdata) serdata address stillLive
      have replaced : refcount (Sample.setSerdata heap sample serdata).1 address =
          refcount (ddsiSerdataAddref (serdataFree heap oldSerdata) serdata) address := by
        simp [Sample.setSerdata, held]
      rw [replaced, added, free_refcount]
      -- Both ways the old object ends at count 0, and only its count is concerned.
      by_cases same : address = oldSerdata
      · subst same
        simp [one, other]
      · simp [same, Ne.symm same]

theorem setSerdata_positive (heap : Heap T) (sample : Sample T) (serdata : Nat)
    (positive : Positive heap) : Positive (Sample.setSerdata heap sample serdata).1 := by
  cases held : sample.serdata with
  | none =>
      simpa [Sample.setSerdata, held] using addref_positive heap serdata positive
  | some oldSerdata =>
      have freed := free_positive heap oldSerdata positive
      simpa [Sample.setSerdata, held] using
        addref_positive (serdataFree heap oldSerdata) serdata freed

theorem setSerdata_step (world next : World T) (index address : Nat)
    (taken : step world (.setSerdata index address) = some next) :
    ∃ sample, world.samples[index]? = some sample ∧ world.heap address ≠ none ∧
      next = { world with
        heap := (Sample.setSerdata world.heap sample address).1
        samples := world.samples.set index { sample with serdata := some address } } := by
  cases slot : world.samples[index]? with
  | none => simp [step, slot] at taken
  | some sample =>
      by_cases live : (world.heap address).isSome
      · simp only [step, slot, live, ↓reduceIte, Option.some.injEq] at taken
        exact ⟨sample, rfl, Option.isSome_iff_ne_none.mp live, taken.symm⟩
      · simp [step, slot, live] at taken

theorem release_step (world next : World T) (index : Nat)
    (taken : step world (.freeContents index) = some next ∨
      step world (.dropSample index) = some next) :
    ∃ sample, world.samples[index]? = some sample ∧
      next.heap = Sample.drop world.heap sample ∧ next.others = world.others ∧
      (next.samples = world.samples.set index .default ∨
        next.samples = world.samples.eraseIdx index) := by
  cases slot : world.samples[index]? with
  | none => simp [step, slot] at taken
  | some sample =>
      refine ⟨sample, rfl, ?_⟩
      rcases taken with freed | dropped
      · simp only [step, slot, Option.some.injEq] at freed
        subst next
        exact ⟨rfl, rfl, Or.inl rfl⟩
      · simp only [step, slot, Option.some.injEq] at dropped
        subst next
        exact ⟨rfl, rfl, Or.inr rfl⟩

theorem setSerdata_holders (world : World T) (heap : Heap T) (index address other : Nat)
    (sample : Sample T) (slot : world.samples[index]? = some sample) :
    holders { world with
        heap := heap
        samples := world.samples.set index { sample with serdata := some address } } other +
        (if sample.serdata = some other then 1 else 0) =
      holders world other + if other = address then 1 else 0 := by
  have counted := heldBySamples_set world.samples index other sample
    { sample with serdata := some address } slot
  simp only [Option.some.injEq, eq_comm] at counted
  simp only [holders]
  simp only [eq_comm] at counted ⊢
  omega

/-- What a `freeContents` or a drop of a Sample takes from the count and from the
holders of an object. -/
theorem release_holders (world next : World T) (index : Nat) (sample : Sample T) (other : Nat)
    (slot : world.samples[index]? = some sample) (kept : next.others = world.others)
    (samples : next.samples = world.samples.set index .default ∨
      next.samples = world.samples.eraseIdx index) :
    holders next other + (if sample.serdata = some other then 1 else 0) =
      holders world other := by
  rcases samples with cleared | erased
  · have counted := heldBySamples_set world.samples index other sample .default slot
    have empty : (Sample.default : Sample T).serdata = none := rfl
    rw [empty] at counted
    simp only [reduceCtorEq, ↓reduceIte, Nat.add_zero] at counted
    rw [holders, holders, kept, cleared]
    omega
  · have counted := heldBySamples_erase world.samples index other sample slot
    rw [holders, holders, kept, erased]
    omega

theorem create_balanced (world next : World T) (address : Nat) (serdata : SerData T)
    (balanced : Balanced world) (taken : step world (.create address serdata) = some next) :
    Balanced next := by
  simp only [step] at taken
  split at taken
  case isFalse => cases taken
  case isTrue fresh =>
    obtain ⟨absent, one⟩ := fresh
    cases taken
    have unheld : holders world address = 0 := by
      rw [← balanced.counts address]
      exact refcount_of_none world.heap address (Option.isNone_iff_eq_none.mp absent)
    constructor
    · intro other
      have before := balanced.counts other
      simp only [holders] at unheld before ⊢
      rw [refcount_update, List.count_cons]
      by_cases same : other = address
      · subst same
        simp only [↓reduceIte, Option.map_some, Option.getD_some, beq_self_eq_true]
        omega
      · simp [same, Ne.symm same, before]
    · intro other live
      rw [refcount_update]
      by_cases same : other = address
      · simp [same, one]
      · have wasLive : world.heap other ≠ none := by simpa [same] using live
        simpa [same] using balanced.positive other wasLive

theorem newSample_balanced (world next : World T) (data : Option T)
    (balanced : Balanced world) (taken : step world (.newSample data) = some next) :
    Balanced next := by
  cases taken
  refine ⟨?_, balanced.positive⟩
  intro other
  have before := balanced.counts other
  rw [holders] at before ⊢
  rw [heldBySamples_append, heldBySamples_cons]
  cases data <;> simpa [heldBySamples, Sample.default, Sample.from] using before

theorem setSerdata_balanced (world next : World T) (index address : Nat)
    (balanced : Balanced world) (taken : step world (.setSerdata index address) = some next)
    (last : ReplacesLast world (.setSerdata index address)) : Balanced next := by
  obtain ⟨sample, slot, live, rfl⟩ := setSerdata_step world next index address taken
  have replaced : ∀ oldSerdata, sample.serdata = some oldSerdata →
      refcount world.heap oldSerdata = 1 ∧ oldSerdata ≠ address :=
    fun oldSerdata held => last sample oldSerdata slot held
  constructor
  · intro other
    have before := balanced.counts other
    have moved := setSerdata_holders world
      (Sample.setSerdata world.heap sample address).1 index address other sample slot
    have counted := setSerdata_refcount world.heap sample address other live replaced
    rw [counted]
    omega
  · exact setSerdata_positive world.heap sample address balanced.positive

theorem release_balanced (world next : World T) (index : Nat) (balanced : Balanced world)
    (taken : step world (.freeContents index) = some next ∨
      step world (.dropSample index) = some next) : Balanced next := by
  obtain ⟨sample, slot, heapEq, kept, samples⟩ := release_step world next index taken
  constructor
  · intro other
    have before := balanced.counts other
    have moved := release_holders world next index sample other slot kept samples
    rw [heapEq, released_refcount]
    omega
  · rw [heapEq]
    exact released_positive world.heap sample balanced.positive

theorem addref_balanced (world next : World T) (address : Nat) (balanced : Balanced world)
    (taken : step world (.addref address) = some next) : Balanced next := by
  simp only [step] at taken
  split at taken
  case isFalse => cases taken
  case isTrue live =>
    cases taken
    constructor
    · intro other
      have before := balanced.counts other
      have added := addref_refcount world.heap address other (Option.isSome_iff_ne_none.mp live)
      rw [holders] at before ⊢
      rw [added, List.count_cons]
      by_cases same : other = address
      · subst same
        simp only [↓reduceIte, beq_self_eq_true]
        omega
      · simpa [same, Ne.symm same] using before
    · exact addref_positive world.heap address balanced.positive

theorem removeref_balanced (world next : World T) (address : Nat) (balanced : Balanced world)
    (taken : step world (.removeref address) = some next) : Balanced next := by
  simp only [step] at taken
  split at taken
  case isFalse => cases taken
  case isTrue owned =>
    cases taken
    constructor
    · intro other
      have before := balanced.counts other
      rw [holders] at before ⊢
      rw [removeref_refcount]
      by_cases same : other = address
      · subst same
        have once : 0 < world.others.count other := List.count_pos_iff.mpr owned
        simp only [List.count_erase_self, ↓reduceIte]
        omega
      · have elsewhere : (world.others.erase address).count other = world.others.count other :=
          List.count_erase_of_ne same
        simpa [same, elsewhere] using before
    · exact removeref_positive world.heap address balanced.positive

theorem step_balanced (world next : World T) (action : Action T) (balanced : Balanced world)
    (taken : step world action = some next) (last : ReplacesLast world action) :
    Balanced next := by
  cases action with
  | create address serdata => exact create_balanced world next address serdata balanced taken
  | newSample data => exact newSample_balanced world next data balanced taken
  | setSerdata index address =>
      exact setSerdata_balanced world next index address balanced taken last
  | freeContents index => exact release_balanced world next index balanced (Or.inl taken)
  | dropSample index => exact release_balanced world next index balanced (Or.inr taken)
  | addref address => exact addref_balanced world next address balanced taken
  | removeref address => exact removeref_balanced world next address balanced taken

/-- No step takes more than one reference away from an object. -/
theorem step_holders (world next : World T) (action : Action T) (address : Nat)
    (taken : step world action = some next) :
    holders world address ≤ holders next address + 1 := by
  cases action with
  | create other serdata =>
      simp only [step] at taken
      split at taken <;> cases taken
      simp only [holders, List.count_cons]
      omega
  | newSample data =>
      cases taken
      simp only [holders, heldBySamples_append]
      omega
  | setSerdata index other =>
      obtain ⟨sample, slot, -, rfl⟩ := setSerdata_step world next index other taken
      have moved := setSerdata_holders world (Sample.setSerdata world.heap sample other).1 index
        other address sample slot
      split at moved <;> omega
  | freeContents index =>
      obtain ⟨sample, slot, -, kept, samples⟩ := release_step world next index (Or.inl taken)
      have moved := release_holders world next index sample address slot kept samples
      split at moved <;> omega
  | dropSample index =>
      obtain ⟨sample, slot, -, kept, samples⟩ := release_step world next index (Or.inr taken)
      have moved := release_holders world next index sample address slot kept samples
      split at moved <;> omega
  | addref other =>
      simp only [step] at taken
      split at taken <;> cases taken
      simp only [holders, List.count_cons]
      omega
  | removeref other =>
      simp only [step] at taken
      split at taken <;> cases taken
      have erased := @List.count_erase _ _ _ address other world.others
      simp only [holders]
      split at erased <;> omega

theorem balanced_freedByLast (world next : World T) (action : Action T)
    (before : Balanced world) (after : Balanced next)
    (taken : step world action = some next) : FreedByLast world next := by
  intro address live freed
  have gone : holders next address = 0 := by
    rw [← after.counts address]
    exact refcount_of_none next.heap address freed
  have held : 0 < holders world address := by
    rw [← before.counts address]
    exact before.positive address live
  have bounded := step_holders world next action address taken
  exact ⟨by omega, gone⟩

/-- A `set_serdata` frees the object it replaces, whatever its count is. -/
theorem setSerdata_frees (heap : Heap T) (sample : Sample T) (oldSerdata address : Nat)
    (held : sample.serdata = some oldSerdata) :
    (Sample.setSerdata heap sample address).1 oldSerdata = none := by
  simp only [Sample.setSerdata, held]
  rw [addref_live]
  simp [serdataFree]

theorem freedByLast_replacesLast (world next : World T) (action : Action T)
    (balanced : Balanced world) (taken : step world action = some next)
    (freed : FreedByLast world next) : ReplacesLast world action := by
  cases action with
  | setSerdata index address =>
      obtain ⟨sample, slot, live, rfl⟩ := setSerdata_step world next index address taken
      intro other oldSerdata otherSlot held
      have same : other = sample := Option.some.inj (otherSlot.symm.trans slot)
      subst same
      have moved := setSerdata_holders world (Sample.setSerdata world.heap other address).1 index
        address oldSerdata other slot
      have without := heldBySamples_erase world.samples index oldSerdata other slot
      simp only [held, ↓reduceIte] at moved without
      have heldOnce : 0 < refcount world.heap oldSerdata := by
        rw [balanced.counts oldSerdata, holders]
        omega
      have oldLive : world.heap oldSerdata ≠ none := fun dead =>
        Nat.ne_of_gt heldOnce (refcount_of_none world.heap oldSerdata dead)
      -- The object replaced is freed for certain, so it had one holder before and none after.
      obtain ⟨one, gone⟩ := freed oldSerdata oldLive
        (setSerdata_frees world.heap other oldSerdata address held)
      rw [gone] at moved
      refine ⟨(balanced.counts oldSerdata).trans one, ?_⟩
      -- Given again, it would be held by the Sample and not be gone.
      intro again
      rw [if_pos again] at moved
      omega
  | create | newSample | freeContents | dropSample | addref | removeref => trivial

/-- In every run from the empty world the ledger stays exact and every object is
freed by its last reference, if and only if each `set_serdata` that replaces a held
object replaces a different one of which the Sample was the last holder. -/
theorem ledger_iff_replacesLast (actions : List (Action T)) :
    Along step (fun world _ next => LedgerExact next ∧ FreedByLast world next)
        World.empty actions ↔
      Along step (fun world action _ => ReplacesLast world action) World.empty actions := by
  apply along_iff step Balanced
  · intro world action next balanced taken
    constructor
    · intro lawful
      exact freedByLast_replacesLast world next action balanced taken lawful.2
    · intro last
      have after := step_balanced world next action balanced taken last
      exact ⟨after.ledgerExact, balanced_freedByLast world next action balanced after taken⟩
  · intro world action next balanced taken lawful
    exact step_balanced world next action balanced taken
      (freedByLast_replacesLast world next action balanced taken lawful.2)
  · exact empty_balanced

def cachedSerdata : SerData Unit :=
  { serdata :=
      { hash := 0, refc := 1, kind := .sdkData, type := none, timestamp := 0, statusinfo := 0 }
    sample := .sdkData ()
    cdr := none
    keyHash := .none }

/-- One slot of a buffer is read into twice; the reader cache keeps both samples. -/
def reusedSlot : List (Action Unit) :=
  [.create 0 cachedSerdata, .newSample none, .setSerdata 0 0,
    .create 1 cachedSerdata, .setSerdata 0 1]

theorem reusedSlot_frees_cached :
    ¬ Along step (fun world _ next => LedgerExact next ∧ FreedByLast world next)
      World.empty reusedSlot := by
  intro lawful
  obtain ⟨-, lawful⟩ := lawful _ rfl
  obtain ⟨-, lawful⟩ := lawful _ rfl
  obtain ⟨-, lawful⟩ := lawful _ rfl
  obtain ⟨-, lawful⟩ := lawful _ rfl
  obtain ⟨⟨-, freed⟩, -⟩ := lawful _ rfl
  have cached : holders _ 0 = 1 := (freed 0 (by decide) (by decide)).1
  exact absurd cached (by decide)

end CycloneddsRs.SampleLedger
