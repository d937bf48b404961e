import CycloneddsRs.SampleLedger
import CycloneddsRs.Transports

/-!
The memory that `to_ser_ref` hands out. An iovec points into the vector of serialized bytes or
into the key of its object until `to_ser_unref`, while other holders read, serialize and
release the same object. An object that has to be serialized first is open to other calls
between the test of its `cdr` and the assignment.
-/

namespace CycloneddsRs.SharedWindows

open ScatterGather Serdes Serdata SampleHeap Transports StepRuns

variable {T : Type}

/-! Memory -/

/-- How many objects were made at an address, and how many vectors were put into its `cdr`. -/
structure Stamps where
  object : Nat → Nat
  vector : Nat → Nat

def Stamps.none : Stamps := { object := fun _ => 0, vector := fun _ => 0 }

def Stamps.made (stamps : Stamps) (address : Nat) : Stamps :=
  { object := Function.update stamps.object address (stamps.object address + 1)
    vector := Function.update stamps.vector address (stamps.vector address + 1) }

/-- `self.cdr = Some(buffer)` drops the vector that stood there. -/
def Stamps.assigned (stamps : Stamps) (address : Nat) : Stamps :=
  { stamps with vector := Function.update stamps.vector address (stamps.vector address + 1) }

/-- Where `iov_base` points to: into a vector of the object, or to the array of its key. -/
inductive Base where
  | null
  | vector (stamp offset : Nat)
  | key (stamp : Nat)

/-- An iovec in use, with the object that it belongs to and the bytes it was handed out for. -/
structure Window where
  address : Nat
  base : Base
  shown : Bytes

/-- What is found behind an iovec. Nothing is left of a dropped vector or object. -/
def Window.read (heap : Heap T) (stamps : Stamps) (window : Window) : Option Bytes :=
  match window.base with
  | .null => some []
  | .vector stamp offset =>
      if stamps.vector window.address = stamp then
        ((heap window.address).bind SerData.cdr).map fun bytes =>
          (bytes.drop offset).take window.shown.length
      else none
  | .key stamp =>
      if stamps.object window.address = stamp then
        (heap window.address).bind fun serdata =>
          match serdata.keyHash with
          | .none => none
          | .cdrKey key => some (key.toList.take window.shown.length)
      else none

def Intact (heap : Heap T) (stamps : Stamps) (window : Window) : Prop :=
  window.read heap stamps = some window.shown

/-! The two halves of `to_ser_ref` -/

/-- The bytes that the call is about to put into `cdr`, if it has found none there. Without an
answer the serialization has failed. -/
def toSerRefSerialize (cdr : CdrCrate T) (typed : Bool) (serdata : SerData T) :
    Panics (Option (Option Bytes)) :=
  if typed then
    match serdata.sample with
    | .uninitialized => .error "Attempt to serialize uninitialized Sample"
    | .sdkKey => .ok (some none)
    | .sdkData value =>
        if serdata.cdr.isNone then .ok ((cdr.serialize value).map some) else .ok (some none)
  else .ok (some none)

/-- What the iovec is set to, and the bytes that this exposes. -/
def toSerRefExpose (stamps : Stamps) (address : Nat) (typed : Bool) (serdata : SerData T)
    (offset size : Nat) : Panics (Option Window) :=
  match typed, serdata.sample with
  | true, .sdkKey =>
      match serdata.keyHash with
      | .none => .ok (some { address, base := .null, shown := [] })
      | .cdrKey key =>
          .ok (some { address, base := .key (stamps.object address), shown := key.toList })
  | _, _ =>
      match serdata.cdr with
      | none => .ok none
      | some bytes => do
          let shown ← cdrWindow bytes offset size
          let base := if shown.isEmpty then .null else .vector (stamps.vector address) offset
          return some { address, base, shown }

def Window.iovec (window : Window) : Iovec :=
  { base := match window.base with
      | .null => none
      | _ => some window.shown
    len := window.shown.length }

/-- One after the other the halves are the two operations of the tables. -/
theorem toSerRef_halves (cdr : CdrCrate T) (stamps : Stamps) (address : Nat) (typed : Bool)
    (serdata : SerData T) (offset size : Nat) :
    (if typed then serdataToSerRef cdr serdata offset size
      else forwardSerdataToSerRef serdata offset size) =
    (do
      match ← toSerRefSerialize cdr typed serdata with
      | none => return none
      | some stored =>
          let cached := { serdata with cdr := stored.or serdata.cdr }
          let window ← toSerRefExpose stamps address typed cached offset size
          return window.map fun window => (window.iovec, cached.addref)) := by
  have sliced : ∀ (bytes : Bytes) (cached : SerData T),
      (do let window ← cdrWindow bytes offset size
          return some (windowIovec window, cached.addref) : Panics _) =
      (do
        let window ← (do
          let shown ← cdrWindow bytes offset size
          let base := if shown.isEmpty then Base.null
            else .vector (stamps.vector address) offset
          return some { address, base, shown } : Panics (Option Window))
        return window.map fun window => (window.iovec, cached.addref)) := by
    intro bytes cached
    cases cdrWindow bytes offset size with
    | error message => rfl
    | ok shown => cases shown <;> rfl
  obtain ⟨inner, sample, cached, keyHash⟩ := serdata
  cases typed with
  | false =>
      cases cached with
      | none => rfl
      | some bytes => exact sliced bytes ⟨inner, sample, some bytes, keyHash⟩
  | true =>
      cases sample with
      | uninitialized => rfl
      | sdkKey =>
          cases keyHash with
          | none => rfl
          | cdrKey key =>
              simp [serdataToSerRef, toSerRefSerialize, toSerRefExpose, Window.iovec, bind,
                Except.bind, pure, Except.pure]
      | sdkData value =>
          cases cached with
          | some bytes => exact sliced bytes ⟨inner, .sdkData value, some bytes, keyHash⟩
          | none =>
              simp only [if_true, serdataToSerRef, toSerRefSerialize, Option.isNone_none,
                SerData.serializeSample]
              cases cdr.serialize value with
              | none => rfl
              | some bytes => exact sliced bytes ⟨inner, .sdkData value, some bytes, keyHash⟩

/-! Runs -/

/-- A call that has serialized an object and not stored the bytes yet. It relies on a reference
of its caller. -/
structure Call where
  address : Nat
  bytes : Bytes
  offset : Nat
  size : Nat

/-- The reference of a window stands in `others` of the ledger, too. -/
structure World (T : Type) where
  ledger : SampleLedger.World T
  stamps : Stamps
  pending : List Call
  windows : List Window

def World.empty : World T :=
  { ledger := .empty, stamps := .none, pending := [], windows := [] }

inductive Action (T : Type) where
  | ledger (action : SampleLedger.Action T)
  | toSample (index address : Nat)
  | toSerRef (address : Nat) (typed : Bool) (offset size : Nat)
  /-- The second half of a call that had to serialize. -/
  | store (index : Nat)
  | toSerUnref (index : Nat)

def claims (world : World T) (address : Nat) : Nat :=
  (world.windows.map Window.address).count address +
    (world.pending.map Call.address).count address

/-- The references that windows and calls rely on are not for others to give up. -/
def Spares (world : World T) : SampleLedger.Action T → Prop
  | .removeref address => claims world address < world.ledger.others.count address
  | _ => True

instance (world : World T) (action : SampleLedger.Action T) : Decidable (Spares world action) := by
  cases action <;> unfold Spares <;> infer_instance

def Stamps.after (stamps : Stamps) : SampleLedger.Action T → Stamps
  | .create address _ => stamps.made address
  | _ => stamps

def World.expose (world : World T) (address : Nat) (typed : Bool) (serdata : SerData T)
    (offset size : Nat) : Option (World T) :=
  match toSerRefExpose world.stamps address typed serdata offset size with
  -- A panic in a callback of the C library ends the process.
  | .error _ => none
  | .ok none => some world
  | .ok (some window) =>
      some { world with
        ledger := { world.ledger with
          heap := Function.update world.ledger.heap address (some serdata.addref)
          others := address :: world.ledger.others }
        windows := window :: world.windows }

def World.stored (world : World T) (address : Nat) (serdata : SerData T) : World T :=
  { world with
    ledger := { world.ledger with
      heap := Function.update world.ledger.heap address (some serdata) }
    stamps := world.stamps.assigned address }

def step (cdr : CdrCrate T) (world : World T) : Action T → Option (World T)
  | .ledger action =>
      if Spares world action then
        (SampleLedger.step world.ledger action).map fun ledger =>
          { world with ledger := ledger, stamps := world.stamps.after action }
      else none
  | .toSample index address =>
      match world.ledger.samples[index]? with
      | some sample =>
          if (world.ledger.heap address).isSome then
            let (_, heap, filled) := serdataToSample cdr world.ledger.heap address sample
            some { world with
              ledger := { world.ledger with
                heap := heap
                samples := world.ledger.samples.set index filled } }
          else none
      | none => none
  | .toSerRef address typed offset size =>
      match world.ledger.heap address with
      | none => none
      | some serdata =>
          match toSerRefSerialize cdr typed serdata with
          | .error _ => none
          | .ok none => some world
          | .ok (some none) => world.expose address typed serdata offset size
          | .ok (some (some bytes)) =>
              if claims world address < world.ledger.others.count address then
                some { world with pending := { address, bytes, offset, size } :: world.pending }
              else none
  | .store index =>
      match world.pending[index]? with
      | none => none
      | some call =>
          match world.ledger.heap call.address with
          | none => none
          | some serdata =>
              let cached := { serdata with cdr := some call.bytes }
              ({ world with pending := world.pending.eraseIdx index }.stored call.address
                cached).expose call.address true cached call.offset call.size
  | .toSerUnref index =>
      match world.windows[index]? with
      | some window =>
          (SampleLedger.step world.ledger (.removeref window.address)).map fun ledger =>
            { world with ledger := ledger, windows := world.windows.eraseIdx index }
      | none => none

/-- The guard of `set_serdata`, where the call gets as far as that. -/
def ReplacesLast (cdr : CdrCrate T) (world : World T) : Action T → Prop
  | .ledger action => SampleLedger.ReplacesLast world.ledger action
  | .toSample index address =>
      ∀ decoded value, (world.ledger.heap address).bind (decodeReceived cdr) = some decoded →
        decoded.sample = .sdkData value →
          SampleLedger.ReplacesLast world.ledger (.setSerdata index address)
  | _ => True

/-- The second half of a call does not drop a vector that an iovec points into: no other call
has stored the bytes in between and handed them out. -/
def StoresAlone (world : World T) : Action T → Prop
  | .store index =>
      ∀ call, world.pending[index]? = some call → ∀ window ∈ world.windows,
        window.address = call.address → ∀ stamp offset, window.base ≠ .vector stamp offset
  | _ => True

/-! What no operation takes back -/

structure Grown (before after : SerData T) : Prop where
  keyHash : after.keyHash = before.keyHash
  cdr : ∀ bytes, before.cdr = some bytes → after.cdr = some bytes
  sample : before.sample ≠ .uninitialized → after.sample = before.sample

/-- The objects that are still there have only grown. -/
def HeapGrown (before after : Heap T) : Prop :=
  ∀ address old new, before address = some old → after address = some new → Grown old new

theorem Grown.refl (serdata : SerData T) : Grown serdata serdata :=
  ⟨rfl, fun _ cached => cached, fun _ => rfl⟩

theorem Grown.inner (serdata : SerData T) (inner : DdsiSerdata) :
    Grown serdata { serdata with serdata := inner } :=
  ⟨rfl, fun _ cached => cached, fun _ => rfl⟩

theorem HeapGrown.refl (heap : Heap T) : HeapGrown heap heap := by
  intro address old new before after
  cases before.symm.trans after
  exact .refl old

theorem HeapGrown.update (heap : Heap T) (address : Nat) (serdata after : SerData T)
    (held : heap address = some serdata) (grown : Grown serdata after) :
    HeapGrown heap (Function.update heap address (some after)) := by
  intro other old new before current
  by_cases same : other = address
  · subst same
    rw [Function.update_self] at current
    cases current
    cases held.symm.trans before
    exact grown
  · rw [Function.update_of_ne same] at current
    exact HeapGrown.refl heap other old new before current

theorem HeapGrown.free (heap : Heap T) (address : Nat) :
    HeapGrown heap (serdataFree heap address) := by
  intro other old new before current
  by_cases same : other = address
  · subst same
    simp [serdataFree] at current
  · rw [serdataFree, Function.update_of_ne same] at current
    exact HeapGrown.refl heap other old new before current

theorem HeapGrown.addref (heap : Heap T) (address : Nat) :
    HeapGrown heap (ddsiSerdataAddref heap address) := by
  unfold ddsiSerdataAddref
  cases held : heap address with
  | none => exact .refl heap
  | some serdata => exact .update heap address serdata serdata.addref held (.inner serdata _)

theorem HeapGrown.removeref (heap : Heap T) (address : Nat) :
    HeapGrown heap (ddsiSerdataRemoveref heap address) := by
  unfold ddsiSerdataRemoveref
  cases held : heap address with
  | none => exact .refl heap
  | some serdata =>
      by_cases last : serdata.serdata.refc = 1
      · simpa [last] using HeapGrown.free heap address
      · simp only [last, ↓reduceIte]
        exact .update heap address serdata _ held (.inner serdata _)

theorem HeapGrown.setSerdata (heap : Heap T) (sample : Sample T) (address : Nat) :
    HeapGrown heap (Sample.setSerdata heap sample address).1 := by
  cases held : sample.serdata with
  | none => simpa [Sample.setSerdata, held] using HeapGrown.addref heap address
  | some oldSerdata =>
      have replaced : (Sample.setSerdata heap sample address).1 =
          ddsiSerdataAddref (serdataFree heap oldSerdata) address := by
        simp [Sample.setSerdata, held]
      rw [replaced]
      intro other old new before after
      cases middle : serdataFree heap oldSerdata other with
      | none =>
          rw [(addref_live _ address other).mpr middle] at after
          cases after
      | some kept =>
          -- An object that is freed is not the one that is still there.
          have unchanged := HeapGrown.free heap oldSerdata other old kept before middle
          have added := HeapGrown.addref _ address other kept new middle after
          exact ⟨added.keyHash.trans unchanged.keyHash,
            fun bytes cached => added.cdr bytes (unchanged.cdr bytes cached),
            fun ready => by
              have same := unchanged.sample ready
              rw [added.sample (same ▸ ready), same]⟩

theorem HeapGrown.drop (heap : Heap T) (sample : Sample T) :
    HeapGrown heap (Sample.drop heap sample) := by
  cases held : sample.serdata with
  | none => simpa [Sample.drop, held] using HeapGrown.refl heap
  | some serdata => simpa [Sample.drop, held] using HeapGrown.removeref heap serdata

/-! What is behind an iovec -/

/-- What a step must leave alone in the object of an iovec. -/
structure Kept (stamps after : Stamps) (window : Window) (old new : SerData T) : Prop where
  keyHash : new.keyHash = old.keyHash
  object : after.object window.address = stamps.object window.address
  vector : ∀ stamp offset, window.base = .vector stamp offset →
    after.vector window.address = stamps.vector window.address ∧
      ∀ bytes, old.cdr = some bytes → new.cdr = some bytes

theorem Grown.kept {old new : SerData T} (grown : Grown old new) (stamps : Stamps)
    (window : Window) : Kept stamps stamps window old new where
  keyHash := grown.keyHash
  object := rfl
  vector := fun _ _ _ => ⟨rfl, grown.cdr⟩

theorem Kept.intact {heap heapAfter : Heap T} {stamps after : Stamps} {window : Window}
    {old new : SerData T} (kept : Kept stamps after window old new)
    (held : heap window.address = some old) (current : heapAfter window.address = some new)
    (intact : Intact heap stamps window) : Intact heapAfter after window := by
  obtain ⟨address, base, shown⟩ := window
  cases base with
  | null => exact intact
  | vector stamp offset =>
      obtain ⟨same, bytesKept⟩ := kept.vector stamp offset rfl
      obtain ⟨fresh, found⟩ := Option.ite_none_right_eq_some.mp intact
      obtain ⟨bytes, cached, slice⟩ := Option.map_eq_some_iff.mp found
      rw [held, Option.bind_some] at cached
      refine Option.ite_none_right_eq_some.mpr ⟨same.trans fresh, ?_⟩
      refine Option.map_eq_some_iff.mpr ⟨bytes, ?_, slice⟩
      rw [current, Option.bind_some, bytesKept bytes cached]
  | key stamp =>
      obtain ⟨fresh, found⟩ := Option.ite_none_right_eq_some.mp intact
      refine Option.ite_none_right_eq_some.mpr ⟨kept.object.trans fresh, ?_⟩
      rw [current, Option.bind_some, kept.keyHash]
      rwa [held, Option.bind_some] at found

theorem cdrWindow_read (bytes shown : Bytes) (offset size : Nat)
    (cut : cdrWindow bytes offset size = .ok shown) :
    (bytes.drop offset).take shown.length = shown := by
  have begins : shown <+: bytes.drop offset := by
    rw [cdrWindow] at cut
    split at cut
    case isFalse =>
      cases cut
      exact List.nil_prefix
    case isTrue =>
      cases sum : usizeAdd offset size with
      | error message =>
          rw [sum] at cut
          cases cut
      | ok last =>
          rw [sum] at cut
          cases cut
          rw [List.drop_take]
          exact List.take_prefix _ _
  exact (List.prefix_iff_eq_take.mp begins).symm

/-- A window is about the object it was asked of, and shows what it is to show. -/
theorem toSerRefExpose_intact (heap : Heap T) (stamps : Stamps) (address : Nat) (typed : Bool)
    (serdata cached : SerData T) (offset size : Nat) (window : Window)
    (exposed : toSerRefExpose stamps address typed serdata offset size = .ok (some window))
    (held : heap address = some cached) (keyHash : cached.keyHash = serdata.keyHash)
    (bytes : cached.cdr = serdata.cdr) :
    window.address = address ∧ Intact heap stamps window := by
  have slice : (match serdata.cdr with
      | none => .ok none
      | some bytes => do
          let shown ← cdrWindow bytes offset size
          let base := if shown.isEmpty then Base.null else .vector (stamps.vector address) offset
          return some { address, base, shown } : Panics (Option Window)) = .ok (some window) →
      window.address = address ∧ Intact heap stamps window := by
    intro given
    cases there : serdata.cdr with
    | none =>
        rw [there] at given
        cases given
    | some stored =>
        rw [there] at given
        cases cut : cdrWindow stored offset size with
        | error message =>
            simp only [cut] at given
            cases given
        | ok shown =>
            simp only [cut] at given
            cases given
            refine ⟨rfl, ?_⟩
            cases shown with
            | nil => rfl
            | cons byte rest =>
                refine Option.ite_none_right_eq_some.mpr ⟨rfl, ?_⟩
                rw [held, Option.bind_some, bytes, there, Option.map_some]
                exact congrArg some (cdrWindow_read stored (byte :: rest) offset size cut)
  unfold toSerRefExpose at exposed
  split at exposed
  case h_1 =>
      split at exposed
      case h_1 =>
          cases exposed
          exact ⟨rfl, rfl⟩
      case h_2 key known =>
          cases exposed
          refine ⟨rfl, Option.ite_none_right_eq_some.mpr ⟨rfl, ?_⟩⟩
          rw [held, Option.bind_some, keyHash, known]
          exact congrArg some (List.take_of_length_le (Nat.le_refl _))
  case h_2 => exact slice exposed

/-! One step -/

structure Inv (world : World T) : Prop where
  balanced : SampleLedger.Balanced world.ledger
  owned : ∀ address, claims world address ≤ world.ledger.others.count address
  intact : ∀ window ∈ world.windows, Intact world.ledger.heap world.stamps window

section Steps

variable {cdr : CdrCrate T} {world next : World T}

theorem claims_window (world : World T) (window : Window) (member : window ∈ world.windows) :
    0 < claims world window.address :=
  Nat.lt_of_lt_of_le (List.count_pos_iff.mpr (List.mem_map_of_mem member)) (Nat.le_add_right _ _)

/-- What is relied on is alive. -/
theorem claimed_live (world : World T) (balanced : SampleLedger.Balanced world.ledger)
    (owned : ∀ address, claims world address ≤ world.ledger.others.count address) (address : Nat)
    (claimed : 0 < claims world address) : ∃ serdata, world.ledger.heap address = some serdata := by
  have counted : 0 < refcount world.ledger.heap address := by
    have others := owned address
    rw [balanced.counts address, SampleLedger.holders]
    omega
  cases current : world.ledger.heap address with
  | none =>
      rw [refcount_of_none _ _ current] at counted
      cases counted
  | some serdata => exact ⟨serdata, rfl⟩

/-- A window holds its object, so it is enough that its object is left alone. -/
theorem intact_kept (next : World T) (inv : Inv world)
    (balanced : SampleLedger.Balanced next.ledger)
    (owned : ∀ address, claims next address ≤ next.ledger.others.count address)
    (window : Window) (before : window ∈ world.windows) (after : window ∈ next.windows)
    (kept : ∀ old new, world.ledger.heap window.address = some old →
      next.ledger.heap window.address = some new →
        Kept world.stamps next.stamps window old new) :
    Intact next.ledger.heap next.stamps window := by
  obtain ⟨old, held⟩ := claimed_live world inv.balanced inv.owned window.address
    (claims_window world window before)
  obtain ⟨new, current⟩ := claimed_live next balanced owned window.address
    (claims_window next window after)
  exact (kept old new held current).intact held current (inv.intact window before)

theorem ledger_grown (before after : SampleLedger.World T) (action : SampleLedger.Action T)
    (taken : SampleLedger.step before action = some after) : HeapGrown before.heap after.heap := by
  cases action with
  | create address serdata =>
      simp only [SampleLedger.step] at taken
      split at taken
      case isFalse => cases taken
      case isTrue fresh =>
        cases taken
        intro other old new held current
        by_cases same : other = address
        · subst same
          rw [Option.isNone_iff_eq_none.mp fresh.1] at held
          cases held
        · have kept : before.heap other = some new :=
            (Function.update_of_ne same _ _).symm.trans current
          exact HeapGrown.refl before.heap other old new held kept
  | newSample data =>
      cases taken
      exact .refl before.heap
  | setSerdata index address =>
      obtain ⟨sample, -, -, rfl⟩ := SampleLedger.setSerdata_step before after index address taken
      exact .setSerdata before.heap sample address
  | freeContents index =>
      obtain ⟨sample, -, heap, -⟩ := SampleLedger.release_step before after index (.inl taken)
      rw [heap]
      exact .drop before.heap sample
  | dropSample index =>
      obtain ⟨sample, -, heap, -⟩ := SampleLedger.release_step before after index (.inr taken)
      rw [heap]
      exact .drop before.heap sample
  | addref address =>
      simp only [SampleLedger.step] at taken
      split at taken <;> cases taken
      exact .addref before.heap address
  | removeref address =>
      simp only [SampleLedger.step] at taken
      split at taken <;> cases taken
      exact .removeref before.heap address

/-- Only `removeref` takes references of others away, and it spares those relied on. -/
theorem ledger_owned (after : SampleLedger.World T) (action : SampleLedger.Action T)
    (owned : ∀ address, claims world address ≤ world.ledger.others.count address)
    (spared : Spares world action)
    (taken : SampleLedger.step world.ledger action = some after) (address : Nat) :
    claims world address ≤ after.others.count address := by
  have before := owned address
  cases action with
  | create other serdata =>
      simp only [SampleLedger.step] at taken
      split at taken <;> cases taken
      exact Nat.le_trans before List.count_le_count_cons
  | newSample data =>
      cases taken
      exact before
  | setSerdata index other =>
      obtain ⟨sample, -, -, rfl⟩ :=
        SampleLedger.setSerdata_step world.ledger after index other taken
      exact before
  | freeContents index =>
      obtain ⟨sample, -, -, kept, -⟩ :=
        SampleLedger.release_step world.ledger after index (.inl taken)
      rwa [kept]
  | dropSample index =>
      obtain ⟨sample, -, -, kept, -⟩ :=
        SampleLedger.release_step world.ledger after index (.inr taken)
      rwa [kept]
  | addref other =>
      simp only [SampleLedger.step] at taken
      split at taken <;> cases taken
      exact Nat.le_trans before List.count_le_count_cons
  | removeref other =>
      have spare : claims world other < world.ledger.others.count other := spared
      simp only [SampleLedger.step] at taken
      split at taken <;> cases taken
      by_cases same : address = other
      · subst same
        rw [List.count_erase_self]
        omega
      · rwa [List.count_erase_of_ne same]

/-- A new object is made where none was: no iovec is about its address. -/
theorem stamps_after (action : SampleLedger.Action T) (after : SampleLedger.World T)
    (moved : SampleLedger.step world.ledger action = some after) (address : Nat)
    (old : SerData T) (held : world.ledger.heap address = some old) :
    (world.stamps.after action).object address = world.stamps.object address ∧
      (world.stamps.after action).vector address = world.stamps.vector address := by
  cases action with
  | create made serdata =>
      simp only [SampleLedger.step] at moved
      split at moved
      case isFalse => cases moved
      case isTrue fresh =>
        have other : address ≠ made := by
          rintro rfl
          rw [Option.isNone_iff_eq_none.mp fresh.1] at held
          cases held
        exact ⟨Function.update_of_ne other _ _, Function.update_of_ne other _ _⟩
  | newSample | setSerdata | freeContents | dropSample | addref | removeref => exact ⟨rfl, rfl⟩

theorem ledgerStep_inv (world : World T) (action : SampleLedger.Action T)
    (after : SampleLedger.World T) (inv : Inv world) (spared : Spares world action)
    (last : SampleLedger.ReplacesLast world.ledger action)
    (moved : SampleLedger.step world.ledger action = some after) :
    Inv { world with ledger := after, stamps := world.stamps.after action } := by
  have balanced := SampleLedger.step_balanced world.ledger after action inv.balanced moved last
  have owned := ledger_owned after action inv.owned spared moved
  have grown := ledger_grown world.ledger after action moved
  refine ⟨balanced, owned, fun window member => ?_⟩
  refine intact_kept _ inv balanced owned window member member fun old new held current => ?_
  obtain ⟨object, vector⟩ := stamps_after action after moved window.address old held
  have same := grown window.address old new held current
  exact ⟨same.keyHash, object, fun _ _ _ => ⟨vector, same.cdr⟩⟩

/-! `to_ser_ref` and its end -/

/-- The counts do not see what an object has serialized or decoded. -/
theorem refcount_inner (heap : Heap T) (address : Nat) (serdata after : SerData T)
    (held : heap address = some serdata) (inner : after.serdata = serdata.serdata) :
    refcount (Function.update heap address (some after)) = refcount heap := by
  funext other
  rw [refcount_update]
  split
  case isTrue same => rw [same, refcount_of_some heap address serdata held, ← inner]; rfl
  case isFalse => rfl

theorem balanced_inner (ledger : SampleLedger.World T) (address : Nat) (serdata after : SerData T)
    (held : ledger.heap address = some serdata) (inner : after.serdata = serdata.serdata)
    (balanced : SampleLedger.Balanced ledger) :
    SampleLedger.Balanced
      { ledger with heap := Function.update ledger.heap address (some after) } := by
  have counts := refcount_inner ledger.heap address serdata after held inner
  constructor
  · intro other
    exact (congrFun counts other).trans (balanced.counts other)
  · intro other live
    rw [congrFun counts other]
    apply balanced.positive
    by_cases same : other = address
    · rw [same, held]
      exact Option.some_ne_none serdata
    · have kept : Function.update ledger.heap address (some after) other = ledger.heap other :=
        Function.update_of_ne same _ _
      rwa [← kept]

theorem claims_expose (world : World T) (window : Window) (ledger : SampleLedger.World T)
    (address : Nat) :
    claims { world with ledger := ledger, windows := window :: world.windows } address =
      claims world address + (if window.address = address then 1 else 0) := by
  simp only [claims, List.map_cons, List.count_cons, beq_iff_eq]
  omega

/-- The second half of `to_ser_ref` takes a reference for its iovec. -/
theorem expose_inv (address : Nat) (typed : Bool) (serdata : SerData T) (offset size : Nat)
    (inv : Inv world) (held : world.ledger.heap address = some serdata)
    (taken : world.expose address typed serdata offset size = some next) : Inv next := by
  cases exposed : toSerRefExpose world.stamps address typed serdata offset size with
  | error message => simp [World.expose, exposed] at taken
  | ok answer =>
      cases answer with
      | none =>
          simp only [World.expose, exposed, Option.some.injEq] at taken
          exact taken ▸ inv
      | some window =>
          simp only [World.expose, exposed, Option.some.injEq] at taken
          obtain ⟨about, shows⟩ := toSerRefExpose_intact next.ledger.heap world.stamps address
            typed serdata serdata.addref offset size window exposed
            (by rw [← taken]; exact Function.update_self ..) rfl rfl
          have balanced : SampleLedger.Balanced next.ledger := by
            refine SampleLedger.addref_balanced _ _ address inv.balanced ?_
            simp [SampleLedger.step, ddsiSerdataAddref, held, ← taken]
          have owned : ∀ other, claims next other ≤ next.ledger.others.count other := by
            intro other
            have before := inv.owned other
            rw [← taken, claims_expose, about]
            simp only [List.count_cons, beq_iff_eq]
            omega
          have grown : HeapGrown world.ledger.heap next.ledger.heap := by
            rw [← taken]
            exact .update _ address serdata serdata.addref held (.inner serdata _)
          have stamps : next.stamps = world.stamps := by rw [← taken]
          refine ⟨balanced, owned, fun other member => ?_⟩
          have all := member
          rw [← taken] at member
          rcases List.mem_cons.mp member with rfl | old
          · rw [stamps]
            exact shows
          · refine intact_kept _ inv balanced owned other old all fun before after there now => ?_
            rw [stamps]
            exact (grown other.address before after there now).kept world.stamps other

theorem claims_pending (world : World T) (call : Call) (address : Nat) :
    claims { world with pending := call :: world.pending } address =
      claims world address + (if call.address = address then 1 else 0) := by
  simp only [claims, List.map_cons, List.count_cons, beq_iff_eq]
  omega

theorem toSerRef_inv (address : Nat) (typed : Bool) (offset size : Nat) (inv : Inv world)
    (taken : step cdr world (.toSerRef address typed offset size) = some next) :
    Inv next := by
  cases held : world.ledger.heap address with
  | none => simp [step, held] at taken
  | some serdata =>
      simp only [step, held] at taken
      split at taken
      case h_1 => cases taken
      case h_2 =>
          cases taken
          exact inv
      case h_3 => exact expose_inv address typed serdata offset size inv held taken
      case h_4 bytes _ =>
          obtain ⟨spare, same⟩ := Option.ite_none_right_eq_some.mp taken
          cases same
          refine ⟨inv.balanced, fun other => ?_, inv.intact⟩
          rw [claims_pending]
          have before := inv.owned other
          by_cases here : address = other
          · subst here
            rw [if_pos rfl]
            exact spare
          · rw [if_neg here]
            exact before

theorem claims_erase_le (world : World T) (index address : Nat) :
    claims { world with pending := world.pending.eraseIdx index } address ≤
      claims world address := by
  have fewer := ((List.eraseIdx_sublist world.pending index).map Call.address).count_le address
  simp only [claims]
  omega

/-- Where no iovec points into the vector that is dropped, all of them stay intact. -/
theorem stored_inv (address : Nat) (serdata : SerData T) (bytes : Bytes) (inv : Inv world)
    (held : world.ledger.heap address = some serdata)
    (alone : ∀ window ∈ world.windows, window.address = address →
      ∀ stamp offset, window.base ≠ .vector stamp offset) :
    Inv (world.stored address { serdata with cdr := some bytes }) := by
  have balanced := balanced_inner world.ledger address serdata
    { serdata with cdr := some bytes } held rfl inv.balanced
  refine ⟨balanced, inv.owned, fun window member => ?_⟩
  refine intact_kept (world.stored address { serdata with cdr := some bytes }) inv balanced
    inv.owned window member member fun old new there now => ?_
  by_cases same : window.address = address
  · have current : serdata = old := by
      rw [same, held] at there
      exact Option.some.inj there
    have later : { serdata with cdr := some bytes } = new := by
      rw [same] at now
      have placed : (world.stored address { serdata with cdr := some bytes }).ledger.heap address =
          some { serdata with cdr := some bytes } := Function.update_self ..
      exact Option.some.inj (placed.symm.trans now)
    refine ⟨?_, rfl, fun stamp offset points => ?_⟩
    · rw [← current, ← later]
    · exact absurd points (alone window member same stamp offset)
  · have unchanged : old = new := by
      have stays : (world.stored address { serdata with cdr := some bytes }).ledger.heap
          window.address = world.ledger.heap window.address := Function.update_of_ne same _ _
      exact Option.some.inj (there.symm.trans (stays.symm.trans now))
    subst unchanged
    exact ⟨rfl, rfl, fun _ _ _ => ⟨Function.update_of_ne same _ _, fun _ cached => cached⟩⟩

theorem store_inv (index : Nat) (inv : Inv world) (alone : StoresAlone world (.store index))
    (taken : step cdr world (.store index) = some next) : Inv next := by
  cases found : world.pending[index]? with
  | none => simp [step, found] at taken
  | some call =>
      cases held : world.ledger.heap call.address with
      | none => simp [step, found, held] at taken
      | some serdata =>
          simp only [step, found, held] at taken
          -- The call's claim on the object passes to the window that it hands out.
          have called : Inv { world with pending := world.pending.eraseIdx index } :=
            ⟨inv.balanced, fun address =>
              Nat.le_trans (claims_erase_le world index address) (inv.owned address), inv.intact⟩
          have stored := stored_inv call.address serdata call.bytes called held (alone call found)
          exact expose_inv call.address true { serdata with cdr := some call.bytes } call.offset
            call.size stored (Function.update_self ..) taken

theorem claims_unref (world : World T) (index address : Nat) (window : Window)
    (found : world.windows[index]? = some window) :
    claims { world with windows := world.windows.eraseIdx index } address +
      (if window.address = address then 1 else 0) = claims world address := by
  obtain ⟨bounded, rfl⟩ := List.getElem?_eq_some_iff.mp found
  have moved := ((List.getElem_cons_eraseIdx_perm bounded).map Window.address).count_eq address
  rw [List.map_cons, List.count_cons] at moved
  simp only [beq_iff_eq] at moved
  simp only [claims]
  omega

theorem toSerUnref_inv (index : Nat) (inv : Inv world)
    (taken : step cdr world (.toSerUnref index) = some next) : Inv next := by
  cases found : world.windows[index]? with
  | none => simp [step, found] at taken
  | some window =>
      simp only [step, found] at taken
      obtain ⟨after, moved, rfl⟩ := Option.map_eq_some_iff.mp taken
      have balanced := SampleLedger.step_balanced world.ledger after (.removeref window.address)
        inv.balanced moved trivial
      have owned : ∀ address,
          claims { world with windows := world.windows.eraseIdx index } address ≤
            after.others.count address := by
        intro address
        have erased := claims_unref world index address window found
        have before := inv.owned address
        simp only [SampleLedger.step] at moved
        split at moved <;> cases moved
        -- The reference that goes is the one that the window has claimed.
        by_cases same : window.address = address
        · subst same
          rw [if_pos rfl] at erased
          rw [List.count_erase_self]
          omega
        · rw [if_neg same] at erased
          rw [List.count_erase_of_ne (Ne.symm same)]
          omega
      have grown := ledger_grown world.ledger after (.removeref window.address) moved
      refine ⟨balanced, owned, fun other member => ?_⟩
      refine intact_kept _ inv balanced owned other (List.mem_of_mem_eraseIdx member) member
        fun old new held current => ?_
      exact (grown other.address old new held current).kept world.stamps other

/-! `to_sample` -/

theorem decode_grown (serdata decoded : SerData T)
    (decodes : decodeReceived cdr serdata = some decoded) :
    Grown serdata decoded ∧ decoded.serdata = serdata.serdata := by
  cases sample : serdata.sample with
  | uninitialized =>
      simp only [decodeReceived, sample] at decodes
      obtain ⟨bytes, -, decodes⟩ := Option.bind_eq_some_iff.mp decodes
      obtain ⟨value, -, decodes⟩ := Option.bind_eq_some_iff.mp decodes
      cases decodes
      exact ⟨⟨rfl, fun _ cached => cached, fun ready => absurd sample ready⟩, rfl⟩
  | sdkKey =>
      simp only [decodeReceived, sample, Option.some.injEq] at decodes
      exact decodes ▸ ⟨.refl serdata, rfl⟩
  | sdkData value =>
      simp only [decodeReceived, sample, Option.some.injEq] at decodes
      exact decodes ▸ ⟨.refl serdata, rfl⟩

/-- A `to_sample` changes nothing, or it decodes in place and then calls `set_serdata` if
there is a value. -/
theorem toSample_cases (index address : Nat)
    (taken : step cdr world (.toSample index address) = some next) :
    (next = world ∧ (world.ledger.heap address).bind (decodeReceived cdr) = none) ∨
      ∃ serdata decoded, world.ledger.heap address = some serdata ∧
      decodeReceived cdr serdata = some decoded ∧
      (next = { world with ledger := { world.ledger with
          heap := Function.update world.ledger.heap address (some decoded) } } ∧
        (∀ value, decoded.sample ≠ .sdkData value) ∨
      ∃ value after, decoded.sample = .sdkData value ∧
        SampleLedger.step { world.ledger with
          heap := Function.update world.ledger.heap address (some decoded) }
            (.setSerdata index address) = some after ∧
        next = { world with ledger := after }) := by
  cases slot : world.ledger.samples[index]? with
  | none => simp [step, slot] at taken
  | some sample =>
      have same : world.ledger.samples.set index sample = world.ledger.samples := by
        obtain ⟨bounded, rfl⟩ := List.getElem?_eq_some_iff.mp slot
        exact List.set_getElem_self bounded
      cases held : world.ledger.heap address with
      | none => simp [step, slot, held] at taken
      | some serdata =>
          cases decodes : decodeReceived cdr serdata with
          | none =>
              left
              simp only [step, slot, held, Option.isSome_some, ↓reduceIte, serdataToSample,
                decodes, same, Option.some.injEq] at taken
              exact ⟨taken.symm, by rw [Option.bind_some, decodes]⟩
          | some decoded =>
              refine .inr ⟨serdata, decoded, rfl, decodes, ?_⟩
              cases ready : decoded.sample with
              | sdkData value =>
                  right
                  simp only [step, slot, held, Option.isSome_some, ↓reduceIte, serdataToSample,
                    decodes, ready, Option.some.injEq] at taken
                  refine ⟨value, _, rfl, ?_, taken.symm⟩
                  simp [SampleLedger.step, slot]
              | uninitialized =>
                  left
                  simp only [step, slot, held, Option.isSome_some, ↓reduceIte, serdataToSample,
                    decodes, ready, same, Option.some.injEq] at taken
                  exact ⟨taken.symm, fun value => by simp⟩
              | sdkKey =>
                  left
                  simp only [step, slot, held, Option.isSome_some, ↓reduceIte, serdataToSample,
                    decodes, ready, same, Option.some.injEq] at taken
                  exact ⟨taken.symm, fun value => by simp⟩

/-- Where the object of a `set_serdata` is decoded first, the guard stays the same. -/
theorem replacesLast_inner (ledger : SampleLedger.World T) (index address : Nat)
    (serdata decoded : SerData T) (held : ledger.heap address = some serdata)
    (inner : decoded.serdata = serdata.serdata) :
    SampleLedger.ReplacesLast
        { ledger with heap := Function.update ledger.heap address (some decoded) }
          (.setSerdata index address) ↔
      SampleLedger.ReplacesLast ledger (.setSerdata index address) := by
  simp only [SampleLedger.ReplacesLast,
    refcount_inner ledger.heap address serdata decoded held inner]

theorem toSample_inv (index address : Nat) (inv : Inv world)
    (last : ReplacesLast cdr world (.toSample index address))
    (taken : step cdr world (.toSample index address) = some next) : Inv next := by
  rcases toSample_cases index address taken with
    ⟨rfl, -⟩ | ⟨serdata, decoded, held, decodes, filled⟩
  · exact inv
  · obtain ⟨grown, inner⟩ := decode_grown serdata decoded decodes
    have placed := balanced_inner world.ledger address serdata decoded held inner inv.balanced
    have heapGrown := HeapGrown.update world.ledger.heap address serdata decoded held grown
    have decodedInv : Inv { world with ledger := { world.ledger with
        heap := Function.update world.ledger.heap address (some decoded) } } := by
      refine ⟨placed, inv.owned, fun window member => ?_⟩
      refine intact_kept { world with ledger := { world.ledger with
        heap := Function.update world.ledger.heap address (some decoded) } } inv placed inv.owned
        window member member fun old new there now => ?_
      exact (heapGrown window.address old new there now).kept world.stamps window
    rcases filled with ⟨rfl, -⟩ | ⟨value, after, ready, moved, rfl⟩
    · exact decodedInv
    · refine ledgerStep_inv { world with ledger := { world.ledger with
        heap := Function.update world.ledger.heap address (some decoded) } }
        (.setSerdata index address) after decodedInv trivial ?_ moved
      rw [replacesLast_inner world.ledger index address serdata decoded held inner]
      refine last decoded value ?_ ready
      rw [held]
      exact decodes

theorem step_inv (action : Action T) (inv : Inv world)
    (last : ReplacesLast cdr world action) (alone : StoresAlone world action)
    (taken : step cdr world action = some next) : Inv next := by
  cases action with
  | ledger action =>
      obtain ⟨spared, went⟩ := Option.ite_none_right_eq_some.mp taken
      obtain ⟨after, moved, rfl⟩ := Option.map_eq_some_iff.mp went
      exact ledgerStep_inv world action after inv spared last moved
  | toSample index address => exact toSample_inv index address inv last taken
  | toSerRef address typed offset size => exact toSerRef_inv address typed offset size inv taken
  | store index => exact store_inv index inv alone taken
  | toSerUnref index => exact toSerUnref_inv index inv taken

/-- What no step frees too early and no window loses. -/
def Law (before : World T) (_ : Action T) (after : World T) : Prop :=
  SampleLedger.LedgerExact after.ledger ∧
    SampleLedger.FreedByLast before.ledger after.ledger ∧
    ∀ window ∈ after.windows, Intact after.ledger.heap after.stamps window

theorem inv_law (action : Action T) (before : Inv world) (after : Inv next)
    (holders : ∀ address, SampleLedger.holders world.ledger address ≤
      SampleLedger.holders next.ledger address + 1) : Law world action next := by
  refine ⟨after.balanced.ledgerExact, fun address live freed => ?_, after.intact⟩
  have gone : SampleLedger.holders next.ledger address = 0 := by
    rw [← after.balanced.counts address]
    exact refcount_of_none next.ledger.heap address freed
  have held : 0 < SampleLedger.holders world.ledger address := by
    rw [← before.balanced.counts address]
    exact before.balanced.positive address live
  have bounded := holders address
  exact ⟨by omega, gone⟩

/-- The second half of `to_ser_ref` gives no reference up. -/
theorem expose_holders (address : Nat) (typed : Bool) (serdata : SerData T) (offset size : Nat)
    (taken : world.expose address typed serdata offset size = some next) (other : Nat) :
    SampleLedger.holders world.ledger other ≤ SampleLedger.holders next.ledger other ∧
      ∀ window ∈ world.windows, window ∈ next.windows := by
  cases exposed : toSerRefExpose world.stamps address typed serdata offset size with
  | error message => simp [World.expose, exposed] at taken
  | ok answer =>
      cases answer with
      | none =>
          simp only [World.expose, exposed, Option.some.injEq] at taken
          exact taken ▸ ⟨Nat.le_refl _, fun _ member => member⟩
      | some window =>
          simp only [World.expose, exposed, Option.some.injEq] at taken
          rw [← taken]
          refine ⟨?_, fun _ member => List.mem_cons_of_mem window member⟩
          exact Nat.add_le_add_left List.count_le_count_cons _

theorem expose_stamps (address : Nat) (typed : Bool) (serdata : SerData T) (offset size : Nat)
    (taken : world.expose address typed serdata offset size = some next) :
    next.stamps = world.stamps := by
  unfold World.expose at taken
  split at taken <;> cases taken <;> rfl

theorem step_holders (action : Action T) (taken : step cdr world action = some next)
    (address : Nat) : SampleLedger.holders world.ledger address ≤
      SampleLedger.holders next.ledger address + 1 := by
  cases action with
  | ledger action =>
      obtain ⟨-, went⟩ := Option.ite_none_right_eq_some.mp taken
      obtain ⟨after, moved, rfl⟩ := Option.map_eq_some_iff.mp went
      exact SampleLedger.step_holders world.ledger after action address moved
  | toSample index other =>
      rcases toSample_cases index other taken with
        ⟨rfl, -⟩ | ⟨serdata, decoded, -, -, ⟨rfl, -⟩ | ⟨value, after, -, moved, rfl⟩⟩
      · exact Nat.le_succ _
      · exact Nat.le_succ _
      · have bounded := SampleLedger.step_holders _ after (.setSerdata index other) address moved
        exact bounded
  | toSerRef other typed offset size =>
      cases held : world.ledger.heap other with
      | none => simp [step, held] at taken
      | some serdata =>
          simp only [step, held] at taken
          split at taken
          case h_1 => cases taken
          case h_2 =>
              cases taken
              exact Nat.le_succ _
          case h_3 =>
              exact Nat.le_succ_of_le (expose_holders other typed serdata offset size taken
                address).1
          case h_4 =>
              obtain ⟨-, same⟩ := Option.ite_none_right_eq_some.mp taken
              cases same
              exact Nat.le_succ _
  | store index =>
      cases found : world.pending[index]? with
      | none => simp [step, found] at taken
      | some call =>
          cases held : world.ledger.heap call.address with
          | none => simp [step, found, held] at taken
          | some serdata =>
              simp only [step, found, held] at taken
              exact Nat.le_succ_of_le (expose_holders _ _ _ _ _ taken address).1
  | toSerUnref index =>
      cases found : world.windows[index]? with
      | none => simp [step, found] at taken
      | some window =>
          simp only [step, found] at taken
          obtain ⟨after, moved, rfl⟩ := Option.map_eq_some_iff.mp taken
          exact SampleLedger.step_holders world.ledger after (.removeref window.address) address
            moved

theorem law_replacesLast (action : Action T) (inv : Inv world)
    (taken : step cdr world action = some next)
    (freed : SampleLedger.FreedByLast world.ledger next.ledger) :
    ReplacesLast cdr world action := by
  cases action with
  | ledger action =>
      obtain ⟨-, went⟩ := Option.ite_none_right_eq_some.mp taken
      obtain ⟨after, moved, rfl⟩ := Option.map_eq_some_iff.mp went
      exact SampleLedger.freedByLast_replacesLast world.ledger after action inv.balanced moved
        freed
  | toSample index address =>
      intro decoded value decodes ready
      have whole := decodes
      obtain ⟨serdata, held, decodes⟩ := Option.bind_eq_some_iff.mp decodes
      have inner := (decode_grown serdata decoded decodes).2
      rcases toSample_cases index address taken with
        ⟨-, refused⟩ | ⟨other, same, otherHeld, otherDecodes, filled⟩
      · cases refused.symm.trans whole
      · cases held.symm.trans otherHeld
        cases decodes.symm.trans otherDecodes
        rcases filled with ⟨-, no⟩ | ⟨-, after, -, moved, rfl⟩
        · exact absurd ready (no value)
        · rw [← replacesLast_inner world.ledger index address serdata decoded held inner]
          have placed := balanced_inner world.ledger address serdata decoded held inner inv.balanced
          refine SampleLedger.freedByLast_replacesLast _ after _ placed moved ?_
          intro other live gone
          refine freed other (fun dead => live ?_) gone
          by_cases here : other = address
          · rw [here, held] at dead
            cases dead
          · exact (Function.update_of_ne here _ _).trans dead
  | toSerRef | store | toSerUnref => trivial

/-- An iovec into the vector that is dropped would find nothing any more. -/
theorem law_storesAlone (action : Action T) (inv : Inv world)
    (taken : step cdr world action = some next)
    (intact : ∀ window ∈ next.windows, Intact next.ledger.heap next.stamps window) :
    StoresAlone world action := by
  cases action with
  | store index =>
      intro call found window member about stamp offset points
      cases held : world.ledger.heap call.address with
      | none => simp [step, found, held] at taken
      | some serdata =>
          simp only [step, found, held] at taken
          obtain ⟨-, kept⟩ := expose_holders _ _ _ _ _ taken call.address
          have stamps := expose_stamps _ _ _ _ _ taken
          have before := inv.intact window member
          have after := intact window (kept window member)
          rw [Intact, Window.read, points] at before after
          obtain ⟨old, -⟩ := Option.ite_none_right_eq_some.mp before
          obtain ⟨new, -⟩ := Option.ite_none_right_eq_some.mp after
          rw [stamps, about] at new
          rw [about] at old
          have bumped := new.symm.trans (Function.update_self ..)
          rw [old] at bumped
          exact absurd bumped.symm (Nat.succ_ne_self stamp)
  | ledger | toSample | toSerRef | toSerUnref => trivial

end Steps

theorem empty_inv : Inv (World.empty : World T) :=
  ⟨SampleLedger.empty_balanced, fun _ => Nat.le_refl 0,
    fun _ member => absurd member List.not_mem_nil⟩

/-- No iovec handed out by `to_ser_ref` dangles or changes before its `to_ser_unref`, the
counts are exact and every object goes with its last reference, if and only if each
`set_serdata` that replaces a held object replaces a different one of which the Sample was
the last holder, and no call stores its serialized bytes over those that an iovec points to. -/
theorem windows_intact_iff (cdr : CdrCrate T) (actions : List (Action T)) :
    Along (step cdr) Law World.empty actions ↔
      Along (step cdr) (fun world action _ => ReplacesLast cdr world action ∧
        StoresAlone world action) World.empty actions := by
  refine along_iff (step cdr) Inv _ _ ?_ ?_ World.empty actions empty_inv
  · intro world action next inv taken
    constructor
    · intro lawful
      exact ⟨law_replacesLast action inv taken lawful.2.1,
        law_storesAlone action inv taken lawful.2.2⟩
    · rintro ⟨last, alone⟩
      exact inv_law action inv (step_inv action inv last alone taken) (step_holders action taken)
  · intro world action next inv taken lawful
    exact step_inv action inv (law_replacesLast action inv taken lawful.2.1)
      (law_storesAlone action inv taken lawful.2.2) taken

/-- Lamp 3 at level 9 as its writer made it, not serialized yet. -/
def writtenLamp : SerData Lamp :=
  { (SerData.new plainInit lampSertype .sdkData : SerData Lamp) with
    sample := .sdkData { id := 3, level := 9 } }

/-- Two calls find the lamp unserialized. The second one to store drops what the first handed
out. -/
example : (exec (step lampCdr) World.empty
    [.ledger (.create 0 writtenLamp), .ledger (.addref 0), .toSerRef 0 true 4 2,
      .toSerRef 0 true 0 6, .store 1, .store 0]).map (fun world =>
        world.windows.map (Window.read world.ledger.heap world.stamps)) =
    some [some [0, 0, 0, 0, 3, 9], none] := rfl

end CycloneddsRs.SharedWindows
