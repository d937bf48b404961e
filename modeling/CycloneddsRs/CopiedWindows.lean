import CycloneddsRs.InstanceIdentity
import CycloneddsRs.Transports

/-!
Copies of a window of the serialized bytes. The operation tables of the C library
call `to_ser` with the offset first; the two functions of serdata.rs name that
argument `size`. Memory is a function from addresses to bytes.
-/

namespace CycloneddsRs.CopiedWindows

open ScatterGather Serdes Serdata InstanceIdentity Transports

abbrev Memory := Nat → UInt8

def write (memory : Memory) (base : Nat) (bytes : Bytes) : Memory := fun address =>
  if address < base then memory address else (bytes[address - base]?).getD (memory address)

def read (memory : Memory) (base size : Nat) : Bytes :=
  (List.range size).map fun index => memory (base + index)

theorem write_below (memory : Memory) (base address : Nat) (bytes : Bytes)
    (below : address < base) : write memory base bytes address = memory address :=
  if_pos below

theorem write_append (memory : Memory) (base : Nat) (left right : Bytes) :
    write (write memory base left) (base + left.length) right =
      write memory base (left ++ right) := by
  funext address
  by_cases below : address < base
  · have early : address < base + left.length := by omega
    simp [write, below, early]
  · by_cases inLeft : address < base + left.length
    · have inside : address - base < left.length := by omega
      simp [write, below, inLeft, List.getElem?_append_left inside]
    · have beyond : left.length ≤ address - base := by omega
      have index : address - (base + left.length) = address - base - left.length := by omega
      simp [write, below, inLeft, index, List.getElem?_append_right beyond,
        List.getElem?_eq_none beyond]

section Operations

variable {T : Type}

def copyCdrData (s : Bytes) (size offset : Nat) (memory : Memory) (buf : Nat) : Panics Memory :=
  if size = 0 then .ok memory
  else if s.length ≤ offset then .ok (write memory buf (List.replicate size 0))
  else do
    let last := min (← usizeAdd offset size) s.length
    let cdr := (s.take last).drop offset
    let copied := write memory buf cdr
    if cdr.length < size then
      return write copied (buf + cdr.length) (List.replicate (size - cdr.length) 0)
    else return copied

def forwardSerdataToSer (serdata : SerData T) (size offset : Nat) (memory : Memory) (buf : Nat) :
    Panics Memory :=
  let buf := buf + offset
  if size = 0 then .ok memory
  else
    match serdata.cdr with
    | some cdr => copyCdrData cdr size offset memory buf
    | none => .ok memory

def serdataToSer (cdr : CdrCrate T) (serdata : SerData T) (size offset : Nat) (memory : Memory)
    (buf : Nat) : Panics Memory :=
  let buf := buf + offset
  if size = 0 then .ok memory
  else
    match serdata.cdr with
    | some bytes => copyCdrData bytes size offset memory buf
    | none =>
        match serdata.sample with
        | .uninitialized => .error "Attempt to serialize uninitialized serdata"
        | .sdkKey =>
            match serdata.keyHash with
            | .none => .ok (write memory buf (List.replicate size 0))
            | .cdrKey key => copyCdrData key.toList size offset memory buf
        | .sdkData value =>
            -- `serialize_into` writes to the first `size` bytes, whatever the offset is.
            match cdr.serializeInto (read memory buf size) value with
            | some bytes => .ok (write memory buf (bytes.take size))
            | none => .error "Unable to serialize type"

/-- `ddsi_serdata_to_ser_t` is called with the offset and then the size. -/
def ddsiSerdataToSer (cdr : CdrCrate T) (serdata : SerData T) (off sz : Nat) (memory : Memory)
    (buf : Nat) : Panics Memory :=
  serdataToSer cdr serdata off sz memory buf

def alignUp4 (size : Nat) : Nat := (size + 3) / 4 * 4

/-- The serialized bytes of an object. One with key data only has no CDR. -/
inductive Serialized (cdr : CdrCrate T) (serdata : SerData T) : Bytes → Prop where
  | cached (bytes : Bytes) :
      serdata.cdr = some bytes → serdata.sample ≠ .sdkKey →
      Serialized cdr serdata bytes
  | value (value : T) (bytes : Bytes) :
      serdata.cdr = none → serdata.sample = .sdkData value →
      cdr.serialize value = some bytes → Serialized cdr serdata bytes
  | key (key : Vector UInt8 20) :
      serdata.cdr = none → serdata.sample = .sdkKey → serdata.keyHash = .cdrKey key →
      Serialized cdr serdata key.toList

/-- The window asked for, with zeros behind the end of the bytes. -/
def paddedWindow (s : Bytes) (off sz : Nat) : Bytes :=
  (List.range sz).map fun index => s.getD (off + index) 0

def ToSerCopies (cdr : CdrCrate T) (serdata : SerData T) (s : Bytes) (off sz buf : Nat) : Prop :=
  ∀ memory, ddsiSerdataToSer cdr serdata off sz memory buf =
    .ok (write memory buf (paddedWindow s off sz))

def ToSerRefExposes (cdr : CdrCrate T) (serdata : SerData T) (s : Bytes) (off sz : Nat) : Prop :=
  ∃ iov next, serdataToSerRef cdr serdata off sz = .ok (some (iov, next)) ∧
    iov.bytes = (s.take (min (off + sz) s.length)).drop off ∧ iov.len = iov.bytes.length

/-- `to_ser_ref` ignores the window of a key and panics on an object not read yet. -/
def ExposesWindow (serdata : SerData T) (off sz : Nat) : Prop :=
  match serdata.sample with
  | .sdkData _ => True
  | .sdkKey => off = 0 ∧ sz = 20
  | .uninitialized => False

theorem paddedWindow_split (s : Bytes) (off sz : Nat) :
    paddedWindow s off sz =
      (s.drop off).take sz ++ List.replicate (sz - ((s.drop off).take sz).length) 0 := by
  apply List.ext_getElem?
  intro index
  rw [paddedWindow, List.getElem?_map]
  by_cases wanted : index < sz
  · rw [List.getElem?_range wanted]
    by_cases held : off + index < s.length
    · have inside : index < ((s.drop off).take sz).length := by
        rw [List.length_take, List.length_drop]
        omega
      rw [List.getElem?_append_left inside, List.getElem?_take_of_lt wanted, List.getElem?_drop]
      simp [held]
    · have beyond : ((s.drop off).take sz).length ≤ index := by
        rw [List.length_take, List.length_drop]
        omega
      have padded : index - ((s.drop off).take sz).length <
          sz - ((s.drop off).take sz).length := by omega
      rw [List.getElem?_append_right beyond, List.getElem?_replicate, if_pos padded]
      simp [held]
  · have shorter : ((s.drop off).take sz).length ≤ sz := by
      rw [List.length_take]
      exact Nat.min_le_left _ _
    rw [List.getElem?_eq_none (by simpa using wanted), List.getElem?_eq_none]
    · rfl
    · rw [List.length_append, List.length_replicate]
      omega

/-- Given the size and the offset in its own order, the copy is exact. -/
theorem copyCdrData_exact (s : Bytes) (size offset : Nat) (memory : Memory) (buf : Nat)
    (fits : offset + size ≤ usizeMax) :
    copyCdrData s size offset memory buf = .ok (write memory buf (paddedWindow s offset size)) := by
  have split := paddedWindow_split s offset size
  by_cases nothing : size = 0
  · have empty : write memory buf [] = memory := by
      funext address
      simp [write]
    simp [copyCdrData, nothing, paddedWindow, empty]
  · by_cases past : s.length ≤ offset
    · rw [split, List.drop_eq_nil_of_le past]
      simp [copyCdrData, nothing, past]
    · rw [split, ← clipped_window s offset size]
      by_cases short : ((s.take (min (offset + size) s.length)).drop offset).length < size
      · simp only [copyCdrData, nothing, past, usizeAdd, fits, short, ↓reduceIte, bind, Except.bind,
          pure, Except.pure, write_append]
      · have full := Nat.sub_eq_zero_of_le (Nat.le_of_not_lt short)
        simp only [copyCdrData, nothing, past, usizeAdd, fits, short, ↓reduceIte, bind, Except.bind,
          pure, Except.pure, full, List.replicate_zero, List.append_nil]

theorem copyCdrData_below (s : Bytes) (size offset : Nat) (memory after : Memory)
    (buf address : Nat) (below : address < buf)
    (copied : copyCdrData s size offset memory buf = .ok after) :
    after address = memory address := by
  have later : address < buf + ((s.take (min (offset + size) s.length)).drop offset).length :=
    Nat.lt_add_right _ below
  unfold copyCdrData at copied
  split at copied
  · cases copied
    rfl
  · split at copied
    · cases copied
      exact write_below memory buf address _ below
    · by_cases fits : offset + size ≤ usizeMax
      · simp only [usizeAdd, fits, ↓reduceIte, bind, Except.bind, pure, Except.pure] at copied
        split at copied
        · cases copied
          rw [write_below _ _ _ _ later, write_below _ _ _ _ below]
        · cases copied
          exact write_below _ _ _ _ below
      · simp [usizeAdd, fits, bind, Except.bind] at copied

/-- Nothing is written in front of `buf + offset`. -/
theorem toSer_below (cdr : CdrCrate T) (serdata : SerData T) (size offset : Nat)
    (memory after : Memory) (buf address : Nat) (below : address < buf + offset)
    (done : serdataToSer cdr serdata size offset memory buf = .ok after) :
    after address = memory address := by
  unfold serdataToSer at done
  simp only at done
  split at done
  · cases done
    rfl
  · split at done
    · exact copyCdrData_below _ _ _ _ _ _ _ below done
    · split at done
      · cases done
      · split at done
        · cases done
          exact write_below _ _ _ _ below
        · exact copyCdrData_below _ _ _ _ _ _ _ below done
      · split at done
        · cases done
          exact write_below _ _ _ _ below
        · cases done

theorem forwardToSer_below (serdata : SerData T) (size offset : Nat) (memory after : Memory)
    (buf address : Nat) (below : address < buf + offset)
    (done : forwardSerdataToSer serdata size offset memory buf = .ok after) :
    after address = memory address := by
  unfold forwardSerdataToSer at done
  simp only at done
  split at done
  · cases done
    rfl
  · split at done
    · exact copyCdrData_below _ _ _ _ _ _ _ below done
    · cases done
      rfl

/-- The window asked for starts at `buf`, the bytes written at `buf + sz` or later. -/
theorem never_copies (operation : Memory → Panics Memory) (s : Bytes) (off sz buf : Nat)
    (nonempty : off < off + sz)
    (kept : ∀ memory after, operation memory = .ok after → after buf = memory buf) :
    ¬ ∀ memory, operation memory = .ok (write memory buf (paddedWindow s off sz)) := by
  intro copies
  have wanted : 0 < sz := by omega
  let memory : Memory := fun _ => s.getD off 0 + 1
  have same := kept memory _ (copies memory)
  have first : (paddedWindow s off sz)[0]? = some (s.getD off 0) := by
    simp [paddedWindow, List.getElem?_range wanted]
  simp [write, first, memory] at same

theorem toSer_never_copies (cdr : CdrCrate T) (serdata : SerData T) (s : Bytes) (off sz buf : Nat)
    (nonempty : off < off + sz) : ¬ ToSerCopies cdr serdata s off sz buf := by
  apply never_copies _ s off sz buf nonempty
  intro memory after done
  exact toSer_below cdr serdata off sz memory after buf buf (by omega) done

theorem forwardToSer_never_copies (serdata : SerData T) (s : Bytes) (off sz buf : Nat)
    (nonempty : off < off + sz) :
    ¬ ∀ memory, forwardSerdataToSer serdata off sz memory buf =
      .ok (write memory buf (paddedWindow s off sz)) := by
  apply never_copies _ s off sz buf nonempty
  intro memory after done
  exact forwardToSer_below serdata off sz memory after buf buf (by omega) done

theorem constructed_key_uncached (ddsi : DdsiInit) (topic : TopicType T)
    (murmur3 : Bytes → UInt32 → UInt32) (sertype : DdsiSertype) (origin : Origin T)
    (serdata : SerData T) (built : Constructed ddsi topic murmur3 sertype origin serdata)
    (key : serdata.sample = .sdkKey) : serdata.cdr = none := by
  induction built with
  | fromSample sample value serdata expected built =>
      obtain ⟨hash, -, rfl⟩ :=
        fromSample_ok ddsi topic murmur3 sertype sample value serdata expected built
      cases key
  | received bytes serdata received =>
      rw [(received_fields ddsi sertype bytes serdata received).sample] at key
      cases key
  | fromKeyhash keyhash => rfl
  | toUntyped origin serdata untyped _ built _ =>
      obtain ⟨type, -, built⟩ := Option.bind_eq_some_iff.mp built
      cases built
      rfl

theorem window_usize (s : Bytes) (off sz : Nat) (inside : off + sz ≤ alignUp4 s.length)
    (vec : s.length ≤ isizeMax) : off + sz ≤ usizeMax := by
  simp only [alignUp4, isizeMax, usizeMax] at *
  omega

theorem toSerRef_key (s : Bytes) (off sz : Nat) (length : s.length = 20)
    (nonempty : off < off + sz) (inside : off + sz ≤ alignUp4 s.length) :
    s = (s.take (min (off + sz) s.length)).drop off ↔ off = 0 ∧ sz = 20 := by
  rw [length] at inside ⊢
  constructor
  · intro same
    have sizes := congrArg List.length same
    rw [List.length_drop, List.length_take, length] at sizes
    simp only [alignUp4] at inside
    omega
  · rintro ⟨rfl, rfl⟩
    simp [← length]

theorem toSerRef_exposes_iff (cdr : CdrCrate T) (serdata : SerData T) (s : Bytes) (off sz : Nat)
    (serialized : Serialized cdr serdata s) (nonempty : off < off + sz)
    (inside : off + sz ≤ alignUp4 s.length) (vec : s.length ≤ isizeMax) :
    ToSerRefExposes cdr serdata s off sz ↔ ExposesWindow serdata off sz := by
  have window := cdrWindow_take s off sz (window_usize s off sz inside vec)
  have exposed : ∀ next : SerData T,
      serdataToSerRef cdr serdata off sz =
        .ok (some (windowIovec ((s.drop off).take sz), next)) →
      ToSerRefExposes cdr serdata s off sz := by
    intro next answer
    refine ⟨_, next, answer, ?_, ?_⟩
    · rw [windowIovec_bytes, clipped_window]
    · rw [windowIovec_bytes]
      rfl
  unfold ExposesWindow
  cases serialized with
  | cached bytes held data =>
      cases sample : serdata.sample with
      | uninitialized =>
          apply iff_of_false
          · simp [ToSerRefExposes, serdataToSerRef, sample]
          · exact id
      | sdkKey => exact absurd sample data
      | sdkData value =>
          refine iff_of_true (exposed serdata.addref ?_) trivial
          simp [serdataToSerRef, sample, held, window, bind, Except.bind, pure, Except.pure]
  | value value bytes uncached sample encoded =>
      rw [sample]
      refine iff_of_true (exposed ({ serdata with cdr := some s } : SerData T).addref ?_) trivial
      simp [serdataToSerRef, sample, uncached, SerData.serializeSample, encoded, window, bind,
        Except.bind, pure, Except.pure]
  | key key uncached sample recorded =>
      have whole := toSerRef_key key.toList off sz Vector.length_toList nonempty inside
      have all : key.toList.take key.size = key.toList :=
        List.take_of_length_le Vector.length_toList.le
      rw [sample]
      simp only [ToSerRefExposes, serdataToSerRef, sample, recorded, Except.ok.injEq,
        Option.some.injEq, Prod.mk.injEq]
      rw [← whole]
      constructor
      · rintro ⟨iov, next, ⟨rfl, -⟩, same, -⟩
        simpa [Iovec.bytes, all] using same
      · intro same
        exact ⟨_, _, ⟨rfl, rfl⟩, by simpa [Iovec.bytes, all] using same, by simp [Iovec.bytes]⟩

/-- Called as the C library does, `to_ser` copies no window at all. `to_ser_ref`
exposes the window of every object with a value, and the whole of a key. -/
theorem copied_windows (cdr : CdrCrate T) (serdata : SerData T) (s : Bytes) (off sz buf : Nat)
    (serialized : Serialized cdr serdata s) (nonempty : off < off + sz)
    (inside : off + sz ≤ alignUp4 s.length) (vec : s.length ≤ isizeMax) :
    ¬ ToSerCopies cdr serdata s off sz buf ∧
      (ToSerRefExposes cdr serdata s off sz ↔ ExposesWindow serdata off sz) :=
  ⟨toSer_never_copies cdr serdata s off sz buf nonempty,
    toSerRef_exposes_iff cdr serdata s off sz serialized nonempty inside vec⟩

end Operations

def writtenLamp : SerData Lamp :=
  lampSerdata plainInit murmur3_32 lampSertype { id := 7, level := 3 }

theorem writtenLamp_serialized : Serialized lampCdr writtenLamp [0, 0, 0, 0, 7, 3] :=
  .value { id := 7, level := 3 } _ rfl rfl rfl

theorem copied_windows_lamp :
    ¬ ToSerCopies lampCdr writtenLamp [0, 0, 0, 0, 7, 3] 0 8 100 ∧
      (ToSerRefExposes lampCdr writtenLamp [0, 0, 0, 0, 7, 3] 0 8 ↔
        ExposesWindow writtenLamp 0 8) :=
  copied_windows lampCdr writtenLamp _ 0 8 100 writtenLamp_serialized (by decide) (by decide)
    (by decide)

/-- The whole of a written lamp is asked for; the buffer keeps what it held. -/
theorem whole_lamp_not_copied :
    paddedWindow [0, 0, 0, 0, 7, 3] 0 8 = [0, 0, 0, 0, 7, 3, 0, 0] ∧
      ddsiSerdataToSer lampCdr writtenLamp 0 8 (fun _ => 255) 100 = .ok (fun _ => 255) ∧
      ¬ ToSerCopies lampCdr writtenLamp [0, 0, 0, 0, 7, 3] 0 8 100 := by
  refine ⟨by decide, rfl, ?_⟩
  intro copies
  have same := congrFun (Except.ok.inj (copies fun _ => 255)) 104
  exact absurd same (by decide)

end CycloneddsRs.CopiedWindows
