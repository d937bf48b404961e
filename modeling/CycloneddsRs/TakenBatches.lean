import CycloneddsRs.ReadBuffer
import Mathlib.Data.List.Basic

/-!
A batch of valid and invalid samples read into a buffer of any content. `Evolved`
says how the objects change while the slots are filled: an object that stays alive
keeps its value. What a batch can lose is lost by the look at the first sample only,
or by the release of an object that another slot still uses.
-/

namespace CycloneddsRs.TakenBatches

open Serdes Serdata SampleHeap SampleLedger DdsError ReadBuffer

section Objects

variable {T : Type} (cdr : CdrCrate T)

def valueOf (serdata : SerData T) : Option T :=
  match serdata.sample with
  | .sdkData value => some value
  | .sdkKey | .uninitialized => none

def heldValue (heap : Heap T) (address : Nat) : Option T := (heap address).bind valueOf

/-- The value of an object, decoded already or by the next read. -/
def readValue (heap : Heap T) (address : Nat) : Option T :=
  (heap address).bind fun serdata => (decodeReceived cdr serdata).bind valueOf

structure Evolved (before after : Heap T) : Prop where
  dead : ∀ address, before address = none → after address = none
  held : ∀ address value, heldValue before address = some value → after address ≠ none →
    heldValue after address = some value
  readable : ∀ address value, readValue cdr before address = some value → after address ≠ none →
    readValue cdr after address = some value

theorem Evolved.refl (heap : Heap T) : Evolved cdr heap heap :=
  ⟨fun _ dead => dead, fun _ _ held _ => held, fun _ _ readable _ => readable⟩

variable {cdr}

theorem Evolved.trans {first second third : Heap T} (left : Evolved cdr first second)
    (right : Evolved cdr second third) : Evolved cdr first third := by
  have between : ∀ address, third address ≠ none → second address ≠ none :=
    fun address live dead => live (right.dead address dead)
  constructor
  · intro address dead
    exact right.dead address (left.dead address dead)
  · intro address value held live
    exact right.held address value (left.held address value held (between address live)) live
  · intro address value readable live
    exact right.readable address value
      (left.readable address value readable (between address live)) live

theorem evolved_free (heap : Heap T) (address : Nat) :
    Evolved cdr heap (serdataFree heap address) := by
  have kept : ∀ other, serdataFree heap address other ≠ none →
      serdataFree heap address other = heap other := by
    intro other live
    by_cases same : other = address
    · simp [serdataFree, same] at live
    · simp [serdataFree, same]
  constructor
  · intro other dead
    by_cases same : other = address <;> simp [serdataFree, same, dead]
  · intro other value held live
    rwa [heldValue, kept other live]
  · intro other value readable live
    rwa [readValue, kept other live]

theorem evolved_update (heap : Heap T) (address : Nat) (old new : SerData T)
    (held : heap address = some old)
    (kept : ∀ value, valueOf old = some value → valueOf new = some value)
    (decoded : ∀ value, (decodeReceived cdr old).bind valueOf = some value →
      (decodeReceived cdr new).bind valueOf = some value) :
    Evolved cdr heap (Function.update heap address (some new)) := by
  constructor
  · intro other dead
    by_cases same : other = address
    · subst same
      rw [held] at dead
      cases dead
    · simpa [same] using dead
  · intro other value before _
    by_cases same : other = address
    · subst same
      simp only [heldValue, held, Option.bind_some] at before
      simpa [heldValue] using kept value before
    · simpa [heldValue, same] using before
  · intro other value before _
    by_cases same : other = address
    · subst same
      simp only [readValue, held, Option.bind_some] at before
      simpa [readValue] using decoded value before
    · simpa [readValue, same] using before

/-- A new count leaves the value alone. -/
theorem decoded_count (serdata : SerData T) (inner : DdsiSerdata) :
    (decodeReceived cdr { serdata with serdata := inner }).bind valueOf =
      (decodeReceived cdr serdata).bind valueOf := by
  cases sample : serdata.sample with
  | sdkKey | sdkData => simp [decodeReceived, sample, valueOf]
  | uninitialized =>
      cases held : serdata.cdr with
      | none => simp [decodeReceived, sample, held]
      | some bytes =>
          cases decodes : cdr.deserializeFrom bytes bytes.length with
          | none => simp [decodeReceived, sample, held, decodes]
          | some value => simp [decodeReceived, sample, held, decodes, valueOf]

theorem evolved_addref (heap : Heap T) (address : Nat) :
    Evolved cdr heap (ddsiSerdataAddref heap address) := by
  unfold ddsiSerdataAddref
  cases held : heap address with
  | none => exact .refl cdr heap
  | some serdata =>
      apply evolved_update heap address serdata _ held
      · intro value same
        exact same
      · intro value decoded
        rw [SerData.addref, decoded_count]
        exact decoded

theorem evolved_removeref (heap : Heap T) (address : Nat) :
    Evolved cdr heap (ddsiSerdataRemoveref heap address) := by
  unfold ddsiSerdataRemoveref
  cases held : heap address with
  | none => exact .refl cdr heap
  | some serdata =>
      by_cases last : serdata.serdata.refc = 1
      · simpa [last] using evolved_free heap address
      · simp only [last, ↓reduceIte]
        apply evolved_update heap address serdata _ held
        · intro value same
          exact same
        · intro value decoded
          rw [decoded_count]
          exact decoded

theorem evolved_drop (heap : Heap T) (sample : Sample T) :
    Evolved cdr heap (Sample.drop heap sample) := by
  cases held : sample.serdata with
  | none => simpa [Sample.drop, held] using Evolved.refl cdr heap
  | some address => simpa [Sample.drop, held] using evolved_removeref heap address

theorem evolved_setSerdata (heap : Heap T) (sample : Sample T) (serdata : Nat) :
    Evolved cdr heap (Sample.setSerdata heap sample serdata).1 := by
  cases held : sample.serdata with
  | none => simpa [Sample.setSerdata, held] using evolved_addref heap serdata
  | some oldSerdata =>
      simpa [Sample.setSerdata, held] using
        (evolved_free heap oldSerdata).trans (evolved_addref _ serdata)

theorem decoded_again (decoded : SerData T) (value : T) (ready : valueOf decoded = some value) :
    (decodeReceived cdr decoded).bind valueOf = some value := by
  cases sample : decoded.sample with
  | sdkData other =>
      rw [valueOf, sample] at ready
      simpa [decodeReceived, sample, valueOf] using ready
  | sdkKey | uninitialized => simp [valueOf, sample] at ready

theorem decode_fields (serdata decoded : SerData T)
    (decodes : decodeReceived cdr serdata = some decoded) :
    decoded.serdata = serdata.serdata ∧
      ∀ value, valueOf serdata = some value → valueOf decoded = some value := by
  cases sample : serdata.sample with
  | sdkKey | sdkData =>
      simp only [decodeReceived, sample, Option.some.injEq] at decodes
      subst decodes
      exact ⟨rfl, fun value same => same⟩
  | uninitialized =>
      simp only [decodeReceived, sample] at decodes
      obtain ⟨bytes, -, decodes⟩ := Option.bind_eq_some_iff.mp decodes
      obtain ⟨value, -, decodes⟩ := Option.bind_eq_some_iff.mp decodes
      cases decodes
      exact ⟨rfl, fun value same => by simp [valueOf, sample] at same⟩

theorem evolved_decode (heap : Heap T) (address : Nat) (serdata decoded : SerData T)
    (held : heap address = some serdata) (decodes : decodeReceived cdr serdata = some decoded) :
    Evolved cdr heap (Function.update heap address (some decoded)) := by
  apply evolved_update heap address serdata decoded held (decode_fields serdata decoded decodes).2
  intro value ready
  rw [decodes, Option.bind_some] at ready
  exact decoded_again decoded value ready

theorem live_of_refcount (heap : Heap T) (address : Nat) (counted : 0 < refcount heap address) :
    heap address ≠ none := by
  intro dead
  rw [refcount_of_none heap address dead] at counted
  exact absurd counted (Nat.lt_irrefl 0)

end Objects

/-! One slot -/

section Batches

variable {T : Type} (cdr : CdrCrate T)

def validAddresses (items : List BatchItem) : List Nat :=
  (items.filter fun item => item.info.validData).map BatchItem.serdata

/-- The values of the valid samples, in the order of the batch. -/
def validValues (heap : Heap T) (items : List BatchItem) : List T :=
  (validAddresses items).filterMap (readValue cdr heap)

/-- How often the slots that a batch fills hold an object. -/
def heldInBatch (slots : List (Slot T)) (items : List BatchItem) (address : Nat) : Nat :=
  heldBySamples ((slots.take items.length).map Slot.sample) address

/-- What a valid sample with a value makes of its slot and of the heap. -/
structure Filled (take : Bool) (slot : Slot T) (item : BatchItem) (value : T)
    (before after : Heap T) : Prop where
  evolved : Evolved cdr before after
  holds : after item.serdata ≠ none → heldValue after item.serdata = some value
  counts : ∀ address, refcount after address =
    (if slot.sample.serdata = some address then 0 else refcount before address) +
        (if address = item.serdata then 1 else 0) -
      (if take = true ∧ address = item.serdata then 1 else 0)

variable {cdr}

theorem heldInBatch_cons (slot : Slot T) (slots : List (Slot T)) (item : BatchItem)
    (items : List BatchItem) (address : Nat) :
    heldInBatch (slot :: slots) (item :: items) address =
      heldInBatch slots items address +
        if slot.sample.serdata = some address then 1 else 0 := by
  simp only [heldInBatch, List.length_cons, List.take_succ_cons, List.map_cons,
    heldBySamples_cons]

theorem validAddresses_cons (item : BatchItem) (items : List BatchItem) :
    validAddresses (item :: items) =
      if item.info.validData = true then item.serdata :: validAddresses items
      else validAddresses items := by
  by_cases valid : item.info.validData = true <;> simp [validAddresses, valid]

theorem validAddresses_tail (item : BatchItem) (items : List BatchItem) :
    validAddresses items ⊆ validAddresses (item :: items) := by
  intro address later
  rw [validAddresses_cons]
  split
  · exact List.mem_cons_of_mem _ later
  · exact later

/-- `set_serdata` on the decoded object, then the release of a take. -/
def filledHeap (take : Bool) (heap : Heap T) (slot : Slot T) (item : BatchItem)
    (decoded : SerData T) : Heap T :=
  let updated := Function.update heap item.serdata (some decoded)
  let set := (Sample.setSerdata updated slot.sample item.serdata).1
  if take then ddsiSerdataRemoveref set item.serdata else set

def filledSlot (slot : Slot T) (item : BatchItem) : Slot T :=
  { sample := { slot.sample with serdata := some item.serdata }, info := item.info }

theorem update_live (heap : Heap T) (address other : Nat) (decoded : SerData T)
    (live : heap address ≠ none) :
    Function.update heap address (some decoded) other ≠ none ↔ heap other ≠ none := by
  by_cases same : other = address
  · subst same
    simpa using live
  · simp [same]

theorem fillSlot_valid (take : Bool) (heap : Heap T) (slot : Slot T) (item : BatchItem)
    (serdata decoded : SerData T) (value : T) (result : Heap T × Slot T)
    (valid : item.info.validData = true) (held : heap item.serdata = some serdata)
    (decodes : decodeReceived cdr serdata = some decoded)
    (ready : decoded.sample = .sdkData value) :
    fillSlot cdr take heap slot item = .ok result ↔
      (∀ address, slot.sample.serdata = some address → heap address ≠ none) ∧
        slot.sample.serdata ≠ some item.serdata ∧
        result = (filledHeap take heap slot item decoded, filledSlot slot item) := by
  have live : heap item.serdata ≠ none := by simp [held]
  have usable := fun address => update_live heap item.serdata address decoded live
  have checked := setSerdata_ok (Function.update heap item.serdata (some decoded)) slot.sample
    item.serdata
  simp only [usable] at checked
  cases set : setSerdata (Function.update heap item.serdata (some decoded)) slot.sample
      item.serdata with
  | error fault =>
      have refused : ¬ ((∀ address, slot.sample.serdata = some address → heap address ≠ none) ∧
          slot.sample.serdata ≠ some item.serdata) := by
        rintro ⟨old, other⟩
        have done := (checked _).mpr ⟨old, ⟨live, other⟩, rfl⟩
        rw [set] at done
        cases done
      apply iff_of_false
      · simp [fillSlot, toSample, valid, held, decodes, ready, set, bind, Except.bind]
      · rintro ⟨old, other, -⟩
        exact refused ⟨old, other⟩
  | ok done =>
      obtain ⟨old, ⟨-, other⟩, rfl⟩ := (checked done).mp set
      have filled : fillSlot cdr take heap slot item =
          .ok (filledHeap take heap slot item decoded, filledSlot slot item) := by
        simp [fillSlot, toSample, valid, held, decodes, ready, set, bind, Except.bind, pure,
          Except.pure, filledHeap, filledSlot, Sample.setSerdata]
      rw [filled]
      constructor
      · intro same
        exact ⟨old, other, (Except.ok.inj same).symm⟩
      · rintro ⟨-, -, rfl⟩
        rfl

theorem fillSlot_invalid (take : Bool) (heap : Heap T) (slot : Slot T) (item : BatchItem)
    (result : Heap T × Slot T) (invalid : item.info.validData = false) :
    fillSlot cdr take heap slot item = .ok result ↔
      (∀ address, slot.sample.serdata = some address → heap address ≠ none) ∧
        result = (Sample.drop heap slot.sample, { sample := .default, info := item.info }) := by
  have checked := freeContents_ok heap slot.sample
  cases freed : freeContents heap slot.sample with
  | error fault =>
      apply iff_of_false
      · simp [fillSlot, untypedToSample, invalid, freed, bind, Except.bind]
      · rintro ⟨old, -⟩
        have done := (checked _).mpr ⟨old, rfl⟩
        rw [freed] at done
        cases done
  | ok done =>
      obtain ⟨old, rfl⟩ := (checked done).mp freed
      have filled : fillSlot cdr take heap slot item =
          .ok (Sample.drop heap slot.sample, { sample := .default, info := item.info }) := by
        simp [fillSlot, untypedToSample, invalid, freed, bind, Except.bind, pure, Except.pure]
      rw [filled]
      constructor
      · intro same
        exact ⟨old, (Except.ok.inj same).symm⟩
      · rintro ⟨-, rfl⟩
        rfl

theorem readValue_cases (heap : Heap T) (address : Nat) (value : T)
    (readable : readValue cdr heap address = some value) :
    ∃ serdata decoded, heap address = some serdata ∧
      decodeReceived cdr serdata = some decoded ∧ decoded.sample = .sdkData value := by
  obtain ⟨serdata, held, ready⟩ := Option.bind_eq_some_iff.mp readable
  obtain ⟨decoded, decodes, ready⟩ := Option.bind_eq_some_iff.mp ready
  refine ⟨serdata, decoded, held, decodes, ?_⟩
  cases sample : decoded.sample with
  | sdkData other =>
      rw [valueOf, sample] at ready
      rw [Option.some.inj ready]
  | sdkKey | uninitialized => simp [valueOf, sample] at ready

theorem filledHeap_filled (take : Bool) (heap : Heap T) (slot : Slot T) (item : BatchItem)
    (serdata decoded : SerData T) (value : T) (held : heap item.serdata = some serdata)
    (decodes : decodeReceived cdr serdata = some decoded)
    (ready : decoded.sample = .sdkData value) (other : slot.sample.serdata ≠ some item.serdata) :
    Filled cdr take slot item value heap (filledHeap take heap slot item decoded) := by
  let updated := Function.update heap item.serdata (some decoded)
  let set := (Sample.setSerdata updated slot.sample item.serdata).1
  have live : updated item.serdata ≠ none := by simp [updated]
  have fields := decode_fields serdata decoded decodes
  have toUpdated : Evolved cdr heap updated :=
    evolved_decode heap item.serdata serdata decoded held decodes
  have toSet : Evolved cdr updated set := evolved_setSerdata updated slot.sample item.serdata
  have toFilled : Evolved cdr set (filledHeap take heap slot item decoded) := by
    cases take with
    | true => exact evolved_removeref set item.serdata
    | false => exact .refl cdr set
  have updatedCount : ∀ address, refcount updated address = refcount heap address := by
    intro address
    rw [refcount_update]
    by_cases same : address = item.serdata
    · simp [same, refcount, held, fields.1]
    · simp [same]
  have setCount := fun address =>
    setSerdata_counts updated slot.sample item.serdata address ⟨live, other⟩
  constructor
  · exact toUpdated.trans (toSet.trans toFilled)
  · have decodedValue : heldValue updated item.serdata = some value := by
      simp [heldValue, updated, valueOf, ready]
    exact (toSet.trans toFilled).held item.serdata value decodedValue
  · intro address
    simp only [updatedCount] at setCount
    cases take with
    | true =>
        have released : refcount (filledHeap true heap slot item decoded) address =
            refcount set address - if address = item.serdata then 1 else 0 :=
          removeref_refcount set item.serdata address
        rw [released, setCount]
        simp
    | false =>
        have same : filledHeap false heap slot item decoded = set := rfl
        rw [same, setCount]
        simp

/-! A whole batch -/

/-- A valid sample displaces no object that the batch hands over or that a later slot
of the batch holds. -/
def ReplacesSafely (valid : List Nat) : List (Slot T) → List BatchItem → Prop
  | slot :: slots, item :: items =>
      (item.info.validData = true → ∀ old, slot.sample.serdata = some old →
        old ∉ valid ∧ heldInBatch slots items old = 0) ∧
      ReplacesSafely valid slots items
  | _, _ => True

/-- Every valid sample still alive can be read. -/
def Readable (cdr : CdrCrate T) (heap : Heap T) (items : List BatchItem) : Prop :=
  ∀ address ∈ validAddresses items, heap address ≠ none →
    ∃ value, readValue cdr heap address = some value

theorem Readable.evolved {before after : Heap T} {items : List BatchItem}
    (readable : Readable cdr before items) (evolved : Evolved cdr before after) :
    Readable cdr after items := by
  intro address member live
  have wasLive : before address ≠ none := fun dead => live (evolved.dead address dead)
  obtain ⟨value, read⟩ := readable address member wasLive
  exact ⟨value, evolved.readable address value read live⟩

theorem Readable.tail {heap : Heap T} {item : BatchItem} {items : List BatchItem}
    (readable : Readable cdr heap (item :: items)) : Readable cdr heap items := by
  intro address member
  exact readable address (validAddresses_tail item items member)

theorem validValues_evolved (before after : Heap T) (items : List BatchItem)
    (readable : Readable cdr before items) (evolved : Evolved cdr before after)
    (live : ∀ address ∈ validAddresses items, after address ≠ none) :
    validValues cdr after items = validValues cdr before items := by
  apply List.filterMap_congr
  intro address member
  have wasLive : before address ≠ none := fun dead =>
    live address member (evolved.dead address dead)
  obtain ⟨value, read⟩ := readable address member wasLive
  rw [read, evolved.readable address value read (live address member)]

theorem tryDeref_held (heap : Heap T) (sample : Sample T) (address : Nat) (value : T)
    (set : sample.serdata = some address) (held : heldValue heap address = some value) :
    ReadBuffer.tryDeref heap sample = .ok (some value) := by
  obtain ⟨serdata, live, ready⟩ := Option.bind_eq_some_iff.mp held
  cases kind : serdata.sample with
  | sdkData other =>
      rw [valueOf, kind] at ready
      rw [← ready]
      simp [ReadBuffer.tryDeref, usable, Sample.tryDeref, set, live, kind]
  | sdkKey | uninitialized => simp [valueOf, kind] at ready

/-- The counts cover the slots and samples still to come and the slots filled. -/
def Covered (heap : Heap T) (slots : List (Slot T)) (items : List BatchItem)
    (filled : List Nat) : Prop :=
  ∀ address, heldInBatch slots items address + (validAddresses items).count address +
    filled.count address ≤ refcount heap address

theorem covered_usable (heap : Heap T) (slot : Slot T) (slots : List (Slot T)) (item : BatchItem)
    (items : List BatchItem) (filled : List Nat)
    (covered : Covered heap (slot :: slots) (item :: items) filled) (address : Nat)
    (held : slot.sample.serdata = some address) : heap address ≠ none := by
  have bounded := covered address
  rw [heldInBatch_cons, if_pos held] at bounded
  exact live_of_refcount heap address (by omega)

theorem covered_valid (valid : List Nat) (take : Bool) (heap after : Heap T) (slot : Slot T)
    (slots : List (Slot T)) (item : BatchItem) (items : List BatchItem) (filled : List Nat)
    (value : T) (kind : item.info.validData = true)
    (covered : Covered heap (slot :: slots) (item :: items) filled)
    (step : Filled cdr take slot item value heap after)
    (replaces : ∀ old, slot.sample.serdata = some old →
      old ∉ valid ∧ heldInBatch slots items old = 0)
    (handed : validAddresses (item :: items) ⊆ valid) (earlier : filled ⊆ valid) :
    Covered after slots items (item.serdata :: filled) := by
  intro address
  have bounded := covered address
  simp only [heldInBatch_cons, validAddresses_cons, kind, ↓reduceIte, List.count_cons,
    beq_iff_eq] at bounded handed
  rw [step.counts, List.count_cons, beq_eq_decide]
  by_cases displaced : slot.sample.serdata = some address
  · -- The displaced object is in no later slot, no later sample and no slot filled.
    obtain ⟨unlisted, unheld⟩ := replaces address displaced
    have unvalid : (validAddresses items).count address = 0 :=
      List.count_eq_zero.mpr fun later => unlisted (handed (List.mem_cons_of_mem _ later))
    have unfilled : filled.count address = 0 :=
      List.count_eq_zero.mpr fun before => unlisted (earlier before)
    have different : item.serdata ≠ address := by
      rintro rfl
      exact unlisted (handed List.mem_cons_self)
    simp [unheld, unvalid, unfilled, different]
  · by_cases same : address = item.serdata
    · subst same
      simp only [displaced, ↓reduceIte, decide_true, and_true] at bounded ⊢
      split <;> omega
    · simp only [displaced, same, Ne.symm same, ↓reduceIte, decide_false, Bool.false_eq_true,
        and_false] at bounded ⊢
      omega

theorem covered_invalid (heap : Heap T) (slot : Slot T) (slots : List (Slot T)) (item : BatchItem)
    (items : List BatchItem) (filled : List Nat) (kind : item.info.validData = false)
    (covered : Covered heap (slot :: slots) (item :: items) filled) :
    Covered (Sample.drop heap slot.sample) slots items filled := by
  intro address
  have bounded := covered address
  simp only [heldInBatch_cons, validAddresses_cons, kind, Bool.false_eq_true, ↓reduceIte] at bounded
  rw [released_refcount]
  omega

theorem covered_live (heap : Heap T) (slots : List (Slot T)) (items : List BatchItem)
    (filled : List Nat) (covered : Covered heap slots items filled) (address : Nat)
    (member : address ∈ validAddresses items ∨ address ∈ filled) : heap address ≠ none := by
  have bounded := covered address
  apply live_of_refcount heap address
  rcases member with later | earlier
  · have counted := List.count_pos_iff.mpr later
    omega
  · have counted := List.count_pos_iff.mpr earlier
    omega

/-- The value that a slot is to hold for one sample of the batch. -/
def itemValue (cdr : CdrCrate T) (heap : Heap T) (item : BatchItem) : Option T :=
  if item.info.validData = true then readValue cdr heap item.serdata else none

theorem validValues_cons (heap : Heap T) (item : BatchItem) (items : List BatchItem) :
    validValues cdr heap (item :: items) =
      (itemValue cdr heap item).toList ++ validValues cdr heap items := by
  rw [validValues, validAddresses_cons, itemValue]
  split
  · cases read : readValue cdr heap item.serdata <;> simp [validValues, read]
  · rfl

theorem fillSlot_valid_safe (valid : List Nat) (take : Bool) (heap : Heap T) (slot : Slot T)
    (slots : List (Slot T)) (item : BatchItem) (items : List BatchItem) (filled : List Nat)
    (kind : item.info.validData = true) (readable : Readable cdr heap (item :: items))
    (covered : Covered heap (slot :: slots) (item :: items) filled)
    (replaces : ∀ old, slot.sample.serdata = some old →
      old ∉ valid ∧ heldInBatch slots items old = 0)
    (handed : validAddresses (item :: items) ⊆ valid) (earlier : filled ⊆ valid) :
    ∃ next, fillSlot cdr take heap slot item = .ok (next, filledSlot slot item) ∧
      Evolved cdr heap next ∧ Covered next slots items (item.serdata :: filled) ∧
      ∀ after, Evolved cdr next after → after item.serdata ≠ none →
        ReadBuffer.tryDeref after (filledSlot slot item).sample =
          .ok (readValue cdr heap item.serdata) := by
  have usable := covered_usable heap slot slots item items filled covered
  have member : item.serdata ∈ validAddresses (item :: items) := by
    simp [validAddresses_cons, kind]
  have live := covered_live heap _ _ filled covered item.serdata (.inl member)
  obtain ⟨value, read⟩ := readable item.serdata member live
  obtain ⟨serdata, decoded, held, decodes, ready⟩ := readValue_cases heap _ value read
  have other : slot.sample.serdata ≠ some item.serdata := by
    intro same
    exact (replaces _ same).1 (handed member)
  have step := filledHeap_filled take heap slot item serdata decoded value held decodes ready other
  refine ⟨filledHeap take heap slot item decoded, ?_, step.evolved, ?_, ?_⟩
  · exact (fillSlot_valid take heap slot item serdata decoded value _ kind held decodes
      ready).mpr ⟨usable, other, rfl⟩
  · exact covered_valid valid take heap _ slot slots item items filled value kind covered step
      replaces handed earlier
  · intro after evolved finalLive
    have nextLive : filledHeap take heap slot item decoded item.serdata ≠ none :=
      fun dead => finalLive (evolved.dead _ dead)
    have kept := evolved.held item.serdata value (step.holds nextLive) finalLive
    rw [read]
    exact tryDeref_held after _ item.serdata value rfl kept

/-- One slot of a safe batch. The slots filled so far keep their values whatever is still to
come, as long as their objects stay alive. -/
theorem fillSlot_safe (valid : List Nat) (take : Bool) (heap : Heap T) (slot : Slot T)
    (slots : List (Slot T)) (item : BatchItem) (items : List BatchItem) (filled : List Nat)
    (readable : Readable cdr heap (item :: items))
    (covered : Covered heap (slot :: slots) (item :: items) filled)
    (replaces : item.info.validData = true → ∀ old, slot.sample.serdata = some old →
      old ∉ valid ∧ heldInBatch slots items old = 0)
    (handed : validAddresses (item :: items) ⊆ valid) (earlier : filled ⊆ valid) :
    ∃ next first now, fillSlot cdr take heap slot item = .ok (next, first) ∧
      Evolved cdr heap next ∧ Covered next slots items now ∧ filled ⊆ now ∧ now ⊆ valid ∧
      ∀ after, Evolved cdr next after → (∀ address ∈ now, after address ≠ none) →
        ReadBuffer.tryDeref after first.sample = .ok (itemValue cdr heap item) := by
  unfold itemValue
  cases kind : item.info.validData with
  | true =>
      have member : item.serdata ∈ validAddresses (item :: items) := by
        simp [validAddresses_cons, kind]
      obtain ⟨next, done, evolved, nextCovered, derefs⟩ := fillSlot_valid_safe valid take heap slot
        slots item items filled kind readable covered (replaces kind) handed earlier
      refine ⟨next, _, item.serdata :: filled, done, evolved, nextCovered,
        List.subset_cons_self _ _, List.cons_subset.mpr ⟨handed member, earlier⟩, ?_⟩
      intro after later alive
      exact derefs after later (alive item.serdata List.mem_cons_self)
  | false =>
      have usable := covered_usable heap slot slots item items filled covered
      exact ⟨Sample.drop heap slot.sample, _, filled,
        (fillSlot_invalid take heap slot item _ kind).mpr ⟨usable, rfl⟩,
        evolved_drop heap slot.sample,
        covered_invalid heap slot slots item items filled kind covered,
        List.Subset.refl _, earlier, fun _ _ _ => rfl⟩

theorem fillSlots_safe (valid : List Nat) (take : Bool) (heap : Heap T) (slots : List (Slot T))
    (items : List BatchItem) (filled : List Nat) (fits : items.length ≤ slots.length)
    (readable : Readable cdr heap items) (covered : Covered heap slots items filled)
    (safe : ReplacesSafely valid slots items) (handed : validAddresses items ⊆ valid)
    (earlier : filled ⊆ valid) :
    ∃ after done, fillSlots cdr take heap slots items = .ok (after, done) ∧
      Evolved cdr heap after ∧ (∀ address ∈ filled, after address ≠ none) ∧
      derefSlots after (fun _ value => value) (done.take items.length) =
        .ok (validValues cdr heap items) := by
  induction items generalizing heap slots filled with
  | nil =>
      refine ⟨heap, slots, by cases slots <;> rfl, .refl cdr heap, ?_, rfl⟩
      intro address member
      exact covered_live heap slots [] filled covered address (.inr member)
  | cons item items ih =>
      cases slots with
      | nil => simp at fits
      | cons slot slots =>
          have shorter : items.length ≤ slots.length := by simpa using fits
          have tailHanded := List.Subset.trans (validAddresses_tail item items) handed
          obtain ⟨next, first, now, head, evolved, nextCovered, grown, listed, derefs⟩ :=
            fillSlot_safe valid take heap slot slots item items filled readable covered safe.1
              handed earlier
          obtain ⟨after, done, rest, later, alive, values⟩ :=
            ih next slots now shorter (readable.tail.evolved evolved) nextCovered safe.2 tailHanded
              listed
          have kept := validValues_evolved heap next items readable.tail evolved
            fun address member => covered_live next slots items now nextCovered address (.inl member)
          refine ⟨after, first :: done,
            (fillSlots_cons cdr take heap after slot slots _ item items).mpr
              ⟨next, first, done, head, rest, rfl⟩,
            evolved.trans later, fun address member => alive address (grown member), ?_⟩
          rw [validValues_cons, ← kept]
          exact (derefSlots_cons after _ first _ _).mpr
            ⟨_, _, derefs after later alive, values, by simp⟩

/-! What a batch without a fault has done -/

theorem displaced_dead (cdr : CdrCrate T) (take : Bool) (heap : Heap T) (slot : Slot T)
    (item : BatchItem) (decoded : SerData T) (old : Nat) (held : slot.sample.serdata = some old) :
    filledHeap take heap slot item decoded old = none := by
  have freed := setSerdata_frees (Function.update heap item.serdata (some decoded)) slot.sample old
    item.serdata held
  cases take with
  | true =>
      have evolved : Evolved cdr _ (filledHeap true heap slot item decoded) :=
        evolved_removeref _ item.serdata
      exact evolved.dead old freed
  | false => exact freed

theorem fillSlot_valid_done (take : Bool) (heap next : Heap T) (slot first : Slot T)
    (item : BatchItem) (kind : item.info.validData = true)
    (readable : heap item.serdata ≠ none → ∃ value, readValue cdr heap item.serdata = some value)
    (done : fillSlot cdr take heap slot item = .ok (next, first)) :
    heap item.serdata ≠ none ∧
      (∀ address, slot.sample.serdata = some address → heap address ≠ none) ∧
      first = filledSlot slot item ∧ Evolved cdr heap next ∧
      ∀ old, slot.sample.serdata = some old → next old = none := by
  have live : heap item.serdata ≠ none := by
    intro dead
    simp [fillSlot, toSample, kind, dead, bind, Except.bind] at done
  obtain ⟨value, read⟩ := readable live
  obtain ⟨serdata, decoded, held, decodes, ready⟩ := readValue_cases heap _ value read
  obtain ⟨usable, other, same⟩ :=
    (fillSlot_valid take heap slot item serdata decoded value _ kind held decodes ready).mp done
  obtain ⟨rfl, rfl⟩ := Prod.mk.inj same
  have step := filledHeap_filled take heap slot item serdata decoded value held decodes ready other
  exact ⟨live, usable, rfl, step.evolved,
    displaced_dead cdr take heap slot item decoded⟩

theorem fillSlot_done (take : Bool) (heap next : Heap T) (slot first : Slot T) (item : BatchItem)
    (items : List BatchItem) (readable : Readable cdr heap (item :: items))
    (done : fillSlot cdr take heap slot item = .ok (next, first)) :
    (item.info.validData = true → heap item.serdata ≠ none) ∧
      (∀ address, slot.sample.serdata = some address → heap address ≠ none) ∧
      Evolved cdr heap next ∧
      (item.info.validData = true → first = filledSlot slot item ∧
        ∀ old, slot.sample.serdata = some old → next old = none) := by
  cases kind : item.info.validData with
  | true =>
      have member : item.serdata ∈ validAddresses (item :: items) := by
        simp [validAddresses_cons, kind]
      obtain ⟨live, usable, same, evolved, dead⟩ :=
        fillSlot_valid_done take heap next slot first item kind (readable _ member) done
      exact ⟨fun _ => live, usable, evolved, fun _ => ⟨same, dead⟩⟩
  | false =>
      obtain ⟨usable, same⟩ := (fillSlot_invalid take heap slot item _ kind).mp done
      obtain ⟨rfl, -⟩ := Prod.mk.inj same
      exact ⟨nofun, usable, evolved_drop heap slot.sample, nofun⟩

theorem fillSlots_evolved (take : Bool) (heap after : Heap T) (slots done : List (Slot T))
    (items : List BatchItem) (readable : Readable cdr heap items)
    (filled : fillSlots cdr take heap slots items = .ok (after, done)) :
    Evolved cdr heap after := by
  induction items generalizing heap slots done with
  | nil =>
      cases slots <;> cases filled <;> exact .refl cdr _
  | cons item items ih =>
      cases slots with
      | nil =>
          cases filled
          exact .refl cdr _
      | cons slot slots =>
          obtain ⟨next, first, rest, head, tail, rfl⟩ :=
            (fillSlots_cons cdr take heap after slot slots done item items).mp filled
          obtain ⟨-, -, evolved, -⟩ := fillSlot_done take heap next slot first item items readable head
          exact evolved.trans (ih next slots rest (readable.tail.evolved evolved) tail)

/-- A dead object is neither handed over later nor held by a slot still to be filled. -/
theorem fillSlots_dead (take : Bool) (heap after : Heap T) (slots done : List (Slot T))
    (items : List BatchItem) (fits : items.length ≤ slots.length)
    (readable : Readable cdr heap items)
    (filled : fillSlots cdr take heap slots items = .ok (after, done)) (old : Nat)
    (dead : heap old = none) :
    old ∉ validAddresses items ∧ heldInBatch slots items old = 0 := by
  induction items generalizing heap slots done with
  | nil => exact ⟨List.not_mem_nil, rfl⟩
  | cons item items ih =>
      cases slots with
      | nil => simp at fits
      | cons slot slots =>
          obtain ⟨next, first, rest, head, tail, rfl⟩ :=
            (fillSlots_cons cdr take heap after slot slots done item items).mp filled
          obtain ⟨live, usable, evolved, -⟩ :=
            fillSlot_done take heap next slot first item items readable head
          obtain ⟨unlisted, unheld⟩ := ih next slots rest (by simpa using fits)
            (readable.tail.evolved evolved) tail (evolved.dead old dead)
          have other : slot.sample.serdata ≠ some old := fun held => usable old held dead
          refine ⟨?_, by simp [heldInBatch_cons, unheld, other]⟩
          rw [validAddresses_cons]
          split
          · rename_i kind
            intro member
            rcases List.mem_cons.mp member with rfl | later
            · exact live kind dead
            · exact unlisted later
          · exact unlisted

theorem tryDeref_live (heap : Heap T) (sample : Sample T) (value : Option T)
    (derefs : ReadBuffer.tryDeref heap sample = .ok value) (address : Nat)
    (held : sample.serdata = some address) : heap address ≠ none := by
  intro dead
  simp [ReadBuffer.tryDeref, usable, held, dead] at derefs

theorem fillSlots_alive (take : Bool) (heap after : Heap T) (slots done : List (Slot T))
    (items : List BatchItem) (values : List T) (fits : items.length ≤ slots.length)
    (readable : Readable cdr heap items)
    (filled : fillSlots cdr take heap slots items = .ok (after, done))
    (derefs : derefSlots after (fun _ value => value) (done.take items.length) = .ok values)
    (address : Nat) (member : address ∈ validAddresses items) : after address ≠ none := by
  induction items generalizing heap slots done values with
  | nil => cases member
  | cons item items ih =>
      cases slots with
      | nil => simp at fits
      | cons slot slots =>
          obtain ⟨next, first, rest, head, tail, rfl⟩ :=
            (fillSlots_cons cdr take heap after slot slots done item items).mp filled
          obtain ⟨-, -, evolved, same⟩ :=
            fillSlot_done take heap next slot first item items readable head
          obtain ⟨value, others, derefsFirst, derefsRest, -⟩ :=
            (derefSlots_cons after _ first _ values).mp derefs
          have later := ih next slots rest others (by simpa using fits)
            (readable.tail.evolved evolved) tail derefsRest
          rw [validAddresses_cons] at member
          split at member
          · rename_i kind
            obtain ⟨rfl, -⟩ := same kind
            rcases List.mem_cons.mp member with rfl | inRest
            · exact tryDeref_live after _ value derefsFirst item.serdata rfl
            · exact later inRest
          · exact later member

theorem fillSlots_replaces (valid : List Nat) (take : Bool) (heap after : Heap T)
    (slots done : List (Slot T)) (items : List BatchItem) (fits : items.length ≤ slots.length)
    (readable : Readable cdr heap items)
    (filled : fillSlots cdr take heap slots items = .ok (after, done))
    (alive : ∀ address ∈ valid, after address ≠ none) : ReplacesSafely valid slots items := by
  induction items generalizing heap slots done with
  | nil => cases slots <;> trivial
  | cons item items ih =>
      cases slots with
      | nil => trivial
      | cons slot slots =>
          have shorter : items.length ≤ slots.length := by simpa using fits
          obtain ⟨next, first, rest, head, tail, rfl⟩ :=
            (fillSlots_cons cdr take heap after slot slots done item items).mp filled
          obtain ⟨-, -, evolved, same⟩ :=
            fillSlot_done take heap next slot first item items readable head
          have nextReadable := readable.tail.evolved evolved
          refine ⟨?_, ih next slots rest shorter nextReadable tail⟩
          intro kind old held
          have dead := (same kind).2 old held
          have gone := (fillSlots_evolved take next after slots rest items nextReadable tail).dead old
            dead
          exact ⟨fun listed => alive old listed gone,
            (fillSlots_dead take next after slots rest items shorter nextReadable tail old dead).2⟩

/-! The read -/

def LosesNothing (cdr : CdrCrate T) (heap : Heap T) (buffer : SampleBuffer T) (take : Bool)
    (items : List BatchItem) : Prop :=
  ∃ result after filled,
    readnFromEntityNow cdr heap buffer take (.batch items) = .ok (result, after, filled) ∧
      filled.iter after = .ok (validValues cdr heap items) ∧
      (result = .error .noData → validAddresses items = [])

/-- The first sample is valid, and no valid one displaces an object still in use. -/
def KeepsValid (buffer : SampleBuffer T) (items : List BatchItem) : Prop :=
  (∃ first, items.head? = some first ∧ first.info.validData = true) ∧
    ReplacesSafely (validAddresses items) buffer.slots items

theorem iter_unread (heap : Heap T) (slots : List (Slot T)) :
    ({ slots := slots, size := 0 } : SampleBuffer T).iter heap = .ok [] := rfl

/-- The read once the batch has filled the slots. -/
theorem readn_filled (cdr : CdrCrate T) (heap after : Heap T) (buffer : SampleBuffer T)
    (take : Bool) (first : BatchItem) (rest : List BatchItem) (slot : Slot T)
    (done : List (Slot T)) (capacity : buffer.slots ≠ [])
    (filled : fillSlots cdr take heap buffer.slots (first :: rest) = .ok (after, slot :: done))
    (info : slot.info = first.info) :
    readnFromEntityNow cdr heap buffer take (.batch (first :: rest)) =
      if first.info.validData = true then
        .ok (.ok (rest.length + 1), after, { slots := slot :: done, size := rest.length + 1 })
      else .ok (.error .noData, after, { slots := slot :: done, size := 0 }) := by
  have nonempty : buffer.slots.length ≠ 0 := fun none => capacity (List.length_eq_zero_iff.mp none)
  cases kind : first.info.validData <;>
    simp [readnFromEntityNow, SampleBuffer.beginRead, SampleBuffer.len, nonempty, filled,
      SampleBuffer.isValidSample, info, kind, bind, Except.bind, pure, Except.pure]

theorem fillSlot_info (cdr : CdrCrate T) (take : Bool) (heap next : Heap T) (slot first : Slot T)
    (item : BatchItem) (done : fillSlot cdr take heap slot item = .ok (next, first)) :
    first.info = item.info := by
  unfold fillSlot at done
  split at done
  · obtain ⟨set, -, done⟩ := bind_ok done
    cases done
    rfl
  · obtain ⟨freed, -, done⟩ := bind_ok done
    cases done
    rfl

theorem filled_batch_iff (cdr : CdrCrate T) (heap : Heap T) (buffer : SampleBuffer T) (take : Bool)
    (first : BatchItem) (rest : List BatchItem) (fits : (first :: rest).length ≤ buffer.len) :
    LosesNothing cdr heap buffer take (first :: rest) ↔
      ∃ after done, fillSlots cdr take heap buffer.slots (first :: rest) = .ok (after, done) ∧
        (first.info.validData = true →
          derefSlots after (fun _ value => value) (done.take (rest.length + 1)) =
            .ok (validValues cdr heap (first :: rest))) ∧
        (first.info.validData = false → validAddresses (first :: rest) = []) := by
  cases buffer with
  | mk slots size =>
      cases slots with
      | nil => simp [SampleBuffer.len] at fits
      | cons slot slots =>
          constructor
          · rintro ⟨result, after, filled, read, values, noData⟩
            cases filling : fillSlots cdr take heap (slot :: slots) (first :: rest) with
            | error fault =>
                simp [readnFromEntityNow, SampleBuffer.beginRead, SampleBuffer.len, filling, bind,
                  Except.bind] at read
            | ok filledSlots =>
                obtain ⟨last, done⟩ := filledSlots
                obtain ⟨next, head, tail, filledFirst, -, rfl⟩ :=
                  (fillSlots_cons cdr take heap last slot slots done first rest).mp filling
                have info := fillSlot_info cdr take heap next slot head first filledFirst
                rw [readn_filled cdr heap last { slots := slot :: slots, size := size } take first rest
                  head tail nofun filling info] at read
                refine ⟨last, head :: tail, rfl, ?_, ?_⟩
                · intro kind
                  rw [if_pos kind] at read
                  cases read
                  exact values
                · intro kind
                  rw [if_neg (by simp [kind])] at read
                  cases read
                  exact noData rfl
          · rintro ⟨after, done, filling, values, noValid⟩
            obtain ⟨next, head, tail, filledFirst, -, rfl⟩ :=
              (fillSlots_cons cdr take heap after slot slots done first rest).mp filling
            have info := fillSlot_info cdr take heap next slot head first filledFirst
            have read := readn_filled cdr heap after { slots := slot :: slots, size := size } take
              first rest head tail nofun filling info
            cases kind : first.info.validData with
            | true =>
                rw [if_pos kind] at read
                exact ⟨_, after, _, read, values kind, nofun⟩
            | false =>
                rw [if_neg (by simp [kind])] at read
                have none := noValid kind
                refine ⟨_, after, _, read, ?_, fun _ => none⟩
                rw [iter_unread, validValues, none]
                rfl

theorem replacesSafely_invalid (slots : List (Slot T)) (items : List BatchItem)
    (none : validAddresses items = []) : ReplacesSafely [] slots items := by
  induction items generalizing slots with
  | nil => cases slots <;> trivial
  | cons item items ih =>
      cases slots with
      | nil => trivial
      | cons slot slots =>
          rw [validAddresses_cons] at none
          split at none
          · cases none
          · rename_i invalid
            exact ⟨fun valid => absurd valid invalid, ih slots none⟩

theorem heldInBatch_le (slots : List (Slot T)) (items : List BatchItem) (address : Nat) :
    heldInBatch slots items address ≤ heldBySamples (slots.map Slot.sample) address := by
  have all := heldBySamples_append ((slots.take items.length).map Slot.sample)
    ((slots.drop items.length).map Slot.sample) address
  rw [← List.map_append, List.take_append_drop] at all
  rw [heldInBatch, all]
  exact Nat.le_add_right _ _

theorem empty_batch (cdr : CdrCrate T) (heap : Heap T) (buffer : SampleBuffer T) (take : Bool) :
    LosesNothing cdr heap buffer take [] := by
  cases buffer with
  | mk slots size =>
      cases slots with
      | nil => exact ⟨.error .badParameter, heap, _, rfl, rfl, fun _ => rfl⟩
      | cons slot slots => exact ⟨.error .noData, heap, _, rfl, rfl, fun _ => rfl⟩

/-- A batch is read without a loss if and only if it holds no valid sample, or begins
with one and displaces only objects that nothing of the batch uses any more. The
counts cover what the slots hold and one reference of the library for each sample. -/
theorem taken_batch_iff (cdr : CdrCrate T) (heap : Heap T) (buffer : SampleBuffer T) (take : Bool)
    (items : List BatchItem) (fits : items.length ≤ buffer.len)
    (readable : ∀ address ∈ validAddresses items,
      ∃ value, readValue cdr heap address = some value)
    (owned : ∀ address, heldBySamples (buffer.slots.map Slot.sample) address +
      (validAddresses items).count address ≤ refcount heap address) :
    LosesNothing cdr heap buffer take items ↔
      validAddresses items = [] ∨ KeepsValid buffer items := by
  have read : Readable cdr heap items := fun address member _ => readable address member
  have covered : Covered heap buffer.slots items [] := by
    intro address
    have inBatch := heldInBatch_le buffer.slots items address
    have counted := owned address
    simp only [List.count_nil]
    omega
  have safely := fun valid => fillSlots_safe valid take heap buffer.slots items [] fits read covered
  cases items with
  | nil => exact iff_of_true (empty_batch cdr heap buffer take) (.inl rfl)
  | cons first rest =>
      rw [filled_batch_iff cdr heap buffer take first rest fits]
      constructor
      · rintro ⟨after, done, filling, values, noValid⟩
        cases kind : first.info.validData with
        | false => exact .inl (noValid kind)
        | true =>
            have alive := fillSlots_alive take heap after buffer.slots done (first :: rest) _ fits
              read filling (values kind)
            exact .inr ⟨⟨first, rfl, kind⟩, fillSlots_replaces _ take heap after buffer.slots done
              (first :: rest) fits read filling alive⟩
      · rintro (none | ⟨⟨head, found, kind⟩, replaces⟩)
        · have invalid : first.info.validData = false := by
            cases kind : first.info.validData with
            | false => rfl
            | true => simp [validAddresses_cons, kind] at none
          obtain ⟨after, done, filling, -⟩ := safely []
            (replacesSafely_invalid buffer.slots (first :: rest) none)
            (by rw [none]; exact List.Subset.refl _) (List.nil_subset _)
          exact ⟨after, done, filling, fun valid => by simp [invalid] at valid, fun _ => none⟩
        · obtain ⟨after, done, filling, -, -, values⟩ := safely _ replaces
            (List.Subset.refl _) (List.nil_subset _)
          cases found
          exact ⟨after, done, filling, fun _ => values, fun invalid => by simp [kind] at invalid⟩

end Batches

/-! Two lamps with a dispose notification between them, taken into a buffer that holds a
third lamp from an earlier read. -/

def undecodedLamp (id : UInt8) : SerData Lamp :=
  { (SerData.new plainInit lampSertype .sdkData : SerData Lamp) with
    cdr := some [0, 0, 0, 0, id, 9] }

/-- Every lamp at the address of its id. -/
def lampHeap : Heap Lamp := fun address =>
  if address = 1 ∨ address = 2 ∨ address = 3 then some (undecodedLamp (UInt8.ofNat address))
  else none

def staleBuffer : SampleBuffer Lamp :=
  { slots :=
      [{ sample := { serdata := some 3, sample := none }, info := .default },
        { sample := .default, info := .default }, { sample := .default, info := .default }]
    size := 1 }

def lampItem (address : Nat) : BatchItem :=
  { serdata := address, info := { validData := true, sourceTimestamp := 1 } }

def disposeItem : BatchItem :=
  { serdata := 4, info := { validData := false, sourceTimestamp := 0 } }

def mixedBatch : List BatchItem := [lampItem 1, disposeItem, lampItem 2]

theorem lampHeap_owned (address : Nat) :
    heldBySamples (staleBuffer.slots.map Slot.sample) address +
      (validAddresses mixedBatch).count address ≤ refcount lampHeap address := by
  show ([some 3, none, none] : List (Option Nat)).count (some address) + [1, 2].count address ≤
    refcount lampHeap address
  by_cases first : address = 1
  · subst first
    decide
  · by_cases second : address = 2
    · subst second
      decide
    · by_cases stale : address = 3
      · subst stale
        decide
      · simp [Ne.symm first, Ne.symm second, Ne.symm stale]

theorem mixedBatch_taken :
    LosesNothing lampCdr lampHeap staleBuffer true mixedBatch ∧
      validValues lampCdr lampHeap mixedBatch =
        [{ id := 1, level := 9 }, { id := 2, level := 9 }] := by
  refine ⟨(taken_batch_iff lampCdr lampHeap staleBuffer true mixedBatch (by decide) ?_
    lampHeap_owned).mpr (.inr ⟨⟨_, rfl, rfl⟩, ?_⟩), rfl⟩
  · intro address member
    rcases List.mem_cons.mp member with rfl | later
    · exact ⟨{ id := 1, level := 9 }, rfl⟩
    · rw [List.mem_singleton.mp later]
      exact ⟨{ id := 2, level := 9 }, rfl⟩
  · refine ⟨?_, ?_, ?_, trivial⟩
    · rintro _ old ⟨⟩
      decide
    · rintro ⟨⟩
    · rintro _ old ⟨⟩

/-! A reader with one sample at address 0. -/

def unitCdr : CdrCrate Unit := byteFieldsCdr (fun _ => []) fun _ => some ()

def cachedHeap : Heap Unit := Function.update (fun _ => none) 0 (some cachedSerdata)

def cachedItem : BatchItem :=
  { serdata := 0, info := { validData := true, sourceTimestamp := 1 } }

/-- The dispose notification comes first; the sample behind it is taken and not seen. -/
theorem dispose_first_loses_sample :
    validAddresses [disposeItem, cachedItem] = [0] ∧
      ¬ LosesNothing unitCdr cachedHeap (.new 2) true [disposeItem, cachedItem] := by
  refine ⟨rfl, ?_⟩
  rintro ⟨result, after, filled, read, -, noData⟩
  cases read
  exact absurd (noData rfl) (by decide)

end CycloneddsRs.TakenBatches
