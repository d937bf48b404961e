import CycloneddsRs.Serdata
import Mathlib.Logic.Function.Basic

/-!
The shared objects of serdes.rs and the inline functions of the C library. A heap
maps addresses to live objects. Touching a freed object is undefined behaviour in
the source; here it leaves the heap as it is, so that a run goes on after the fault.
-/

namespace CycloneddsRs.SampleHeap

open ScatterGather Serdes Serdata

variable {T : Type}

abbrev Heap (T : Type) := Nat → Option (SerData T)

def ddsiSerdataAddref (heap : Heap T) (address : Nat) : Heap T :=
  match heap address with
  | some serdata => Function.update heap address (some serdata.addref)
  | none => heap

/-- `serdata_free`: the box is taken over with `SerData::from_raw` and dropped. -/
def serdataFree (heap : Heap T) (address : Nat) : Heap T :=
  Function.update heap address none

def ddsiSerdataRemoveref (heap : Heap T) (address : Nat) : Heap T :=
  match heap address with
  | some serdata =>
      if serdata.serdata.refc = 1 then serdataFree heap address
      else
        let inner := { serdata.serdata with refc := serdata.serdata.refc - 1 }
        Function.update heap address (some { serdata with serdata := inner })
  | none => heap

/-- A serdata already held is not released by `ddsi_serdata_removeref`: its box is
rebuilt by `SerData::from_raw` and dropped on the spot. -/
def Sample.setSerdata (heap : Heap T) (sample : Sample T) (serdata : Nat) :
    Heap T × Sample T :=
  let released := match sample.serdata with
    | some oldSerdata => serdataFree heap oldSerdata
    | none => heap
  (ddsiSerdataAddref released serdata, { sample with serdata := some serdata })

def Sample.freeContents (heap : Heap T) (sample : Sample T) : Heap T × Sample T :=
  let released := match sample.serdata with
    | some serdata => ddsiSerdataRemoveref heap serdata
    | none => heap
  (released, { serdata := none, sample := none })

def Sample.drop (heap : Heap T) (sample : Sample T) : Heap T :=
  match sample.serdata with
  | some serdata => ddsiSerdataRemoveref heap serdata
  | none => heap

def Sample.tryDeref (heap : Heap T) (sample : Sample T) : Option T := do
  let address ← sample.serdata
  let serdata ← heap address
  match serdata.sample with
  | .sdkData value => some value
  | _ => none

/-- The part of `serdata_to_sample` that decodes CDR bytes not decoded before. -/
def decodeReceived (cdr : CdrCrate T) (serdata : SerData T) : Option (SerData T) :=
  match serdata.sample with
  | .uninitialized => do
      let bytes ← serdata.cdr
      let decoded ← cdr.deserializeFrom bytes bytes.length
      return { serdata with sample := .sdkData decoded }
  | _ => some serdata

def serdataToSample (cdr : CdrCrate T) (heap : Heap T) (address : Nat) (sample : Sample T) :
    Bool × Heap T × Sample T :=
  match heap address with
  | none => (false, heap, sample)
  | some serdata =>
      match decodeReceived cdr serdata with
      | none => (false, heap, sample)
      | some decoded =>
          let heap := Function.update heap address (some decoded)
          match decoded.sample with
          | .sdkData _ => (true, Sample.setSerdata heap sample address)
          | _ => (true, heap, sample)

/-! Reference counts -/

def refcount (heap : Heap T) (address : Nat) : Nat :=
  match heap address with
  | some serdata => serdata.serdata.refc
  | none => 0

theorem refcount_of_some (heap : Heap T) (address : Nat) (serdata : SerData T)
    (held : heap address = some serdata) : refcount heap address = serdata.serdata.refc := by
  rw [refcount, held]

theorem refcount_of_none (heap : Heap T) (address : Nat) (freed : heap address = none) :
    refcount heap address = 0 := by
  rw [refcount, freed]

theorem refcount_update (heap : Heap T) (address other : Nat) (cell : Option (SerData T)) :
    refcount (Function.update heap address cell) other =
      if other = address then (cell.map fun serdata => serdata.serdata.refc).getD 0
      else refcount heap other := by
  by_cases same : other = address
  · subst same
    cases cell <;> simp [refcount]
  · simp [refcount, same]

theorem addref_refcount (heap : Heap T) (address other : Nat) (live : heap address ≠ none) :
    refcount (ddsiSerdataAddref heap address) other =
      refcount heap other + if other = address then 1 else 0 := by
  cases held : heap address with
  | none => exact absurd held live
  | some serdata =>
      rw [ddsiSerdataAddref, held]
      simp only [refcount_update]
      by_cases same : other = address
      · subst same
        simp [refcount, held, SerData.addref]
      · simp [same]

theorem addref_live (heap : Heap T) (address other : Nat) :
    ddsiSerdataAddref heap address other = none ↔ heap other = none := by
  unfold ddsiSerdataAddref
  cases held : heap address with
  | none => exact Iff.rfl
  | some serdata =>
      by_cases same : other = address
      · subst same
        simp [held]
      · simp [same]

theorem free_refcount (heap : Heap T) (address other : Nat) :
    refcount (serdataFree heap address) other =
      if other = address then 0 else refcount heap other := by
  rw [serdataFree, refcount_update]
  rfl

theorem removeref_refcount (heap : Heap T) (address other : Nat) :
    refcount (ddsiSerdataRemoveref heap address) other =
      refcount heap other - if other = address then 1 else 0 := by
  unfold ddsiSerdataRemoveref
  cases held : heap address with
  | none =>
      by_cases same : other = address
      · subst same
        simp [refcount_of_none heap other held]
      · simp [same]
  | some serdata =>
      by_cases last : serdata.serdata.refc = 1
      · by_cases same : other = address
        · subst same
          simp only [last, ↓reduceIte, free_refcount, refcount_of_some heap other serdata held]
        · simp [last, free_refcount, same]
      · by_cases same : other = address
        · subst same
          simp [last, refcount_update, refcount_of_some heap other serdata held]
        · simp [last, refcount_update, same]

/-- No live object is without a reference. -/
def Positive (heap : Heap T) : Prop :=
  ∀ address, heap address ≠ none → 0 < refcount heap address

theorem addref_positive (heap : Heap T) (address : Nat) (positive : Positive heap) :
    Positive (ddsiSerdataAddref heap address) := by
  intro other live
  have wasLive : heap other ≠ none := fun freed =>
    live ((addref_live heap address other).mpr freed)
  have before := positive other wasLive
  by_cases addressLive : heap address = none
  · simpa [ddsiSerdataAddref, addressLive] using before
  · rw [addref_refcount heap address other addressLive]
    omega

theorem free_positive (heap : Heap T) (address : Nat) (positive : Positive heap) :
    Positive (serdataFree heap address) := by
  intro other live
  by_cases same : other = address
  · subst same
    simp [serdataFree] at live
  · have wasLive : heap other ≠ none := by simpa [serdataFree, same] using live
    simpa [free_refcount, same] using positive other wasLive

/-- `ddsi_serdata_removeref` frees what it brings to zero. -/
theorem removeref_positive (heap : Heap T) (address : Nat) (positive : Positive heap) :
    Positive (ddsiSerdataRemoveref heap address) := by
  unfold ddsiSerdataRemoveref
  cases held : heap address with
  | none => exact positive
  | some serdata =>
      have counted : 0 < serdata.serdata.refc := by
        have := positive address (by simp [held])
        rwa [refcount_of_some heap address serdata held] at this
      by_cases last : serdata.serdata.refc = 1
      · simpa [last] using free_positive heap address positive
      · simp only [last, ↓reduceIte]
        intro other live
        rw [refcount_update]
        by_cases same : other = address
        · simp only [same, ↓reduceIte, Option.map_some, Option.getD_some]
          omega
        · have wasLive : heap other ≠ none := by simpa [same] using live
          simpa [same] using positive other wasLive

end CycloneddsRs.SampleHeap
