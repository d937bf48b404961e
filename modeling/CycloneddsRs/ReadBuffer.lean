import CycloneddsRs.DdsError
import CycloneddsRs.SampleLedger

/-!
serdes.rs: the buffer an application reads into, and the two reads of dds_reader.rs
that fill it. Here an access to a freed object is a fault that ends the operation.
What the C library hands over is given as a batch.
-/

namespace CycloneddsRs.ReadBuffer

open Serdes Serdata SampleHeap SampleLedger DdsError

inductive Fault where
  | useAfterFree
  | indexOutOfBounds
  deriving DecidableEq, Repr

abbrev Checked := Except Fault

structure DdsSampleInfo where
  validData : Bool
  sourceTimestamp : Int
  deriving DecidableEq, Repr

def DdsSampleInfo.default : DdsSampleInfo := { validData := false, sourceTimestamp := 0 }

/-- `buffer` and `sample_info` keep the length they get from `new`: they are one list
of slots here. -/
structure Slot (T : Type) where
  sample : Sample T
  info : DdsSampleInfo

structure SampleBuffer (T : Type) where
  slots : List (Slot T)
  size : Nat

/-- What the library hands over for one sample. -/
structure BatchItem where
  serdata : Nat
  info : DdsSampleInfo

/-- The answer of a read function of the library: a batch, or a negative code. -/
inductive DdsAnswer where
  | batch (items : List BatchItem)
  | failed (code : Nat)

section Operations

variable {T : Type}

/-! One Sample, with its accesses checked. -/

def usable (heap : Heap T) : Option Nat → Bool
  | some address => (heap address).isSome
  | none => true

/-- The heap between the two steps of `set_serdata`. -/
def releaseBox (heap : Heap T) (sample : Sample T) : Heap T :=
  match sample.serdata with
  | some oldSerdata => serdataFree heap oldSerdata
  | none => heap

def setSerdata (heap : Heap T) (sample : Sample T) (serdata : Nat) : Checked (Heap T × Sample T) :=
  if usable heap sample.serdata && (releaseBox heap sample serdata).isSome then
    .ok (Sample.setSerdata heap sample serdata)
  else .error .useAfterFree

def freeContents (heap : Heap T) (sample : Sample T) : Checked (Heap T × Sample T) :=
  if usable heap sample.serdata then .ok (Sample.freeContents heap sample)
  else .error .useAfterFree

def dropSample (heap : Heap T) (sample : Sample T) : Checked (Heap T) :=
  if usable heap sample.serdata then .ok (Sample.drop heap sample) else .error .useAfterFree

def tryDeref (heap : Heap T) (sample : Sample T) : Checked (Option T) :=
  if usable heap sample.serdata then .ok (Sample.tryDeref heap sample) else .error .useAfterFree

/-- `serdata_to_sample` of SampleHeap with `set_serdata` checked. -/
def toSample (cdr : CdrCrate T) (heap : Heap T) (address : Nat) (sample : Sample T) :
    Checked (Bool × Heap T × Sample T) :=
  match heap address with
  | none => .error .useAfterFree
  | some serdata =>
      match decodeReceived cdr serdata with
      | none => .ok (false, heap, sample)
      | some decoded =>
          let heap := Function.update heap address (some decoded)
          match decoded.sample with
          | .sdkData _ => do
              let (heap, sample) ← setSerdata heap sample address
              return (true, heap, sample)
          | _ => .ok (true, heap, sample)

def untypedToSample (heap : Heap T) (sample : Sample T) : Checked (Bool × Heap T × Sample T) := do
  let (heap, sample) ← freeContents heap sample
  return (true, heap, sample)

/-! The buffer -/

def SampleBuffer.new (len : Nat) : SampleBuffer T :=
  { slots := List.replicate len { sample := .default, info := .default }, size := 0 }

def SampleBuffer.len (buffer : SampleBuffer T) : Nat := buffer.slots.length

def SampleBuffer.isValidSample (buffer : SampleBuffer T) (index : Nat) : Checked Bool :=
  match buffer.slots[index]? with
  | some slot => .ok slot.info.validData
  | none => .error .indexOutOfBounds

/-- The slots that hold a value, in order, as the iterators make them. -/
def derefSlots {Item : Type} (heap : Heap T) (make : Slot T → T → Item) :
    List (Slot T) → Checked (List Item)
  | [] => .ok []
  | slot :: rest => do
      let value ← tryDeref heap slot.sample
      let items ← derefSlots heap make rest
      return (value.map (make slot)).toList ++ items

def SampleBuffer.iter (heap : Heap T) (buffer : SampleBuffer T) : Checked (List T) :=
  derefSlots heap (fun _ value => value) (buffer.slots.take buffer.size)

def SampleBuffer.iterItems (heap : Heap T) (buffer : SampleBuffer T) :
    Checked (List (T × DdsSampleInfo)) :=
  derefSlots heap (fun slot value => (value, slot.info)) (buffer.slots.take buffer.size)

def clearSlots (heap : Heap T) : List (Slot T) → Checked (Heap T × List (Slot T))
  | [] => .ok (heap, [])
  | slot :: rest => do
      let (heap, sample) ← freeContents heap slot.sample
      let (heap, rest) ← clearSlots heap rest
      return (heap, { slot with sample := sample } :: rest)

def SampleBuffer.clear (heap : Heap T) (buffer : SampleBuffer T) :
    Checked (Heap T × SampleBuffer T) := do
  let (heap, slots) ← clearSlots heap buffer.slots
  return (heap, { slots := slots, size := 0 })

def dropSlots (heap : Heap T) : List (Slot T) → Checked (Heap T)
  | [] => .ok heap
  | slot :: rest => do dropSlots (← dropSample heap slot.sample) rest

def SampleBuffer.drop (heap : Heap T) (buffer : SampleBuffer T) : Checked (Heap T) :=
  dropSlots heap buffer.slots

def SampleBuffer.beginRead (buffer : SampleBuffer T) : SampleBuffer T × Nat :=
  ({ buffer with size := 0 }, buffer.len)

/-! dds_reader.rs -/

/-- `dds_take` or `dds_read` fills one slot through the operation table. A take then
gives up the reference of the reader cache. -/
def fillSlot (cdr : CdrCrate T) (take : Bool) (heap : Heap T) (slot : Slot T) (item : BatchItem) :
    Checked (Heap T × Slot T) := do
  if item.info.validData then
    let (_, heap, sample) ← toSample cdr heap item.serdata slot.sample
    let heap := if take then ddsiSerdataRemoveref heap item.serdata else heap
    return (heap, { sample := sample, info := item.info })
  else
    let (_, heap, sample) ← untypedToSample heap slot.sample
    return (heap, { sample := sample, info := item.info })

def fillSlots (cdr : CdrCrate T) (take : Bool) :
    Heap T → List (Slot T) → List BatchItem → Checked (Heap T × List (Slot T))
  | heap, slot :: slots, item :: items => do
      let (heap, slot) ← fillSlot cdr take heap slot item
      let (heap, slots) ← fillSlots cdr take heap slots items
      return (heap, slot :: slots)
  | heap, slots, _ => .ok (heap, slots)

def readnFromEntityNow (cdr : CdrCrate T) (heap : Heap T) (buffer : SampleBuffer T) (take : Bool)
    (answer : DdsAnswer) : Checked (Except DDSError Nat × Heap T × SampleBuffer T) :=
  let (buffer, maxs) := buffer.beginRead
  if maxs = 0 then .ok (.error .badParameter, heap, buffer)
  else
    match answer with
    | .failed code => .ok (.error (.ofReturn (.negSucc code)), heap, buffer)
    | .batch items => do
        let (heap, slots) ← fillSlots cdr take heap buffer.slots items
        let buffer := { buffer with slots := slots }
        if items.length = 0 then return (.error .noData, heap, buffer)
        -- Only the first sample is looked at.
        else if ← buffer.isValidSample 0 then
          return (.ok items.length, heap, { buffer with size := items.length })
        else return (.error .noData, heap, buffer)

/-- The loop of `readcdrn_from_entity_now`, which looks at no `valid_data`. -/
def setSlots (heap : Heap T) :
    List (Slot T) → List BatchItem → Checked (Heap T × List (Slot T))
  | slot :: slots, item :: items => do
      let (heap, sample) ← setSerdata heap slot.sample item.serdata
      let (heap, slots) ← setSlots heap slots items
      return (heap, { sample := sample, info := item.info } :: slots)
  | slots, _ => .ok (heap, slots)

def readcdrnFromEntityNow (heap : Heap T) (buffer : SampleBuffer T) (answer : DdsAnswer) :
    Checked (Except DDSError Nat × Heap T × SampleBuffer T) :=
  let (buffer, maxCaps) := buffer.beginRead
  if maxCaps = 0 then .ok (.error .badParameter, heap, buffer)
  else
    match answer with
    | .failed code => .ok (.error (.ofReturn (.negSucc code)), heap, buffer)
    | .batch items =>
        if items.length = 0 then .ok (.error .noData, heap, buffer)
        else do
          let (heap, slots) ← setSlots heap buffer.slots items
          return (.ok items.length, heap, { slots := slots, size := items.length })

/-! What the checked operations do. -/

theorem bind_ok {α β : Type} {checked : Checked α} {next : α → Checked β} {result : β}
    (done : checked >>= next = .ok result) :
    ∃ value, checked = .ok value ∧ next value = .ok result := by
  cases checked with
  | error fault => cases done
  | ok value => exact ⟨value, rfl, done⟩

theorem usable_iff (heap : Heap T) (held : Option Nat) :
    usable heap held = true ↔ ∀ address, held = some address → heap address ≠ none := by
  cases held with
  | none => simp [usable]
  | some address => simp [usable, Option.isSome_iff_ne_none]

theorem releaseBox_live (heap : Heap T) (sample : Sample T) (address : Nat) :
    releaseBox heap sample address ≠ none ↔
      heap address ≠ none ∧ sample.serdata ≠ some address := by
  cases held : sample.serdata with
  | none => simp [releaseBox, held]
  | some oldSerdata =>
      by_cases same : address = oldSerdata
      · simp [releaseBox, held, serdataFree, same]
      · simp [releaseBox, held, serdataFree, same, Ne.symm same]

theorem setSerdata_ok (heap : Heap T) (sample : Sample T) (serdata : Nat)
    (result : Heap T × Sample T) :
    setSerdata heap sample serdata = .ok result ↔
      (∀ address, sample.serdata = some address → heap address ≠ none) ∧
        (heap serdata ≠ none ∧ sample.serdata ≠ some serdata) ∧
        result = Sample.setSerdata heap sample serdata := by
  rw [setSerdata, ← usable_iff, ← releaseBox_live, ← Option.isSome_iff_ne_none]
  cases usable heap sample.serdata <;> cases (releaseBox heap sample serdata).isSome <;>
    simp [eq_comm]

theorem freeContents_ok (heap : Heap T) (sample : Sample T) (result : Heap T × Sample T) :
    freeContents heap sample = .ok result ↔
      (∀ address, sample.serdata = some address → heap address ≠ none) ∧
        result = (Sample.drop heap sample, .default) := by
  have same : Sample.freeContents heap sample = (Sample.drop heap sample, .default) := rfl
  rw [freeContents, ← usable_iff, same]
  cases usable heap sample.serdata <;> simp [eq_comm]

/-- The count of the object set goes up, the object replaced is gone. -/
theorem setSerdata_counts (heap : Heap T) (sample : Sample T) (serdata address : Nat)
    (live : heap serdata ≠ none ∧ sample.serdata ≠ some serdata) :
    refcount (Sample.setSerdata heap sample serdata).1 address =
      (if sample.serdata = some address then 0 else refcount heap address) +
        if address = serdata then 1 else 0 := by
  have released := (releaseBox_live heap sample serdata).mpr live
  have counted := addref_refcount (releaseBox heap sample) serdata address released
  have same : (Sample.setSerdata heap sample serdata).1 =
      ddsiSerdataAddref (releaseBox heap sample) serdata := rfl
  rw [same, counted]
  congr 1
  cases held : sample.serdata with
  | none => simp [releaseBox, held]
  | some oldSerdata => simp [releaseBox, held, free_refcount, eq_comm]

theorem fillSlots_cons (cdr : CdrCrate T) (take : Bool) (heap after : Heap T) (slot : Slot T)
    (slots done : List (Slot T)) (item : BatchItem) (items : List BatchItem) :
    fillSlots cdr take heap (slot :: slots) (item :: items) = .ok (after, done) ↔
      ∃ next first rest, fillSlot cdr take heap slot item = .ok (next, first) ∧
        fillSlots cdr take next slots items = .ok (after, rest) ∧ done = first :: rest := by
  constructor
  · intro filled
    obtain ⟨⟨next, first⟩, head, filled⟩ := bind_ok filled
    obtain ⟨⟨last, rest⟩, tail, filled⟩ := bind_ok filled
    cases filled
    exact ⟨next, first, rest, head, tail, rfl⟩
  · rintro ⟨next, first, rest, head, tail, rfl⟩
    simp [fillSlots, head, tail, bind, Except.bind, pure, Except.pure]

theorem derefSlots_cons {Item : Type} (heap : Heap T) (make : Slot T → T → Item) (slot : Slot T)
    (slots : List (Slot T)) (items : List Item) :
    derefSlots heap make (slot :: slots) = .ok items ↔
      ∃ value rest, tryDeref heap slot.sample = .ok value ∧
        derefSlots heap make slots = .ok rest ∧
          items = (value.map (make slot)).toList ++ rest := by
  constructor
  · intro made
    obtain ⟨value, head, made⟩ := bind_ok made
    obtain ⟨rest, tail, made⟩ := bind_ok made
    cases made
    exact ⟨value, rest, head, tail, rfl⟩
  · rintro ⟨value, rest, head, tail, rfl⟩
    simp [derefSlots, head, tail, bind, Except.bind, pure, Except.pure]

theorem iterItems_values (heap : Heap T) (buffer : SampleBuffer T) :
    (buffer.iterItems heap).map (List.map Prod.fst) = buffer.iter heap := by
  unfold SampleBuffer.iterItems SampleBuffer.iter
  induction buffer.slots.take buffer.size with
  | nil => rfl
  | cons slot rest ih =>
      rw [derefSlots, derefSlots, ← ih]
      cases tryDeref heap slot.sample with
      | error fault => rfl
      | ok value =>
          cases derefSlots heap (fun slot value => (value, slot.info)) rest with
          | error fault => rfl
          | ok items => cases value <;> rfl

end Operations

end CycloneddsRs.ReadBuffer
