import CycloneddsRs.SampleHeap
import Mathlib.Algebra.Ring.Nat

/-!
From the written value to the received one. The network reads the sender's bytes
in windows and cuts them again into fragments; a local reader gets them as iovecs;
PSMX passes a buffer. Then the way back: a received object sent on.
-/

namespace CycloneddsRs.Transports

open ScatterGather Serdes Serdata SampleHeap

variable {T : Type}

/-! sertype.rs: the two operations of the PSMX writer path. -/

/-- The size and the encoding identifier, 0 for CDR big-endian. -/
def sertypeGetSerializedSize (cdr : CdrCrate T) (sample : Sample T) : Panics (Nat × UInt16) := do
  let value ← sample.getExpected
  return (cdr.calcSerializedSize value, 0)

def sertypeSerializeInto (cdr : CdrCrate T) (sample : Sample T) (dstBuffer : Bytes) :
    Panics (Bool × Bytes) := do
  let value ← sample.getExpected
  if dstBuffer.length < cdr.calcSerializedSize value then
    return (false, dstBuffer)
  else
    match cdr.serializeInto dstBuffer value with
    | some written => return (true, written)
    | none => return (false, dstBuffer)

/-! The sender's windows -/

/-- `serdata_to_ser_ref` called for one window after the other. -/
def readWindows (cdr : CdrCrate T) :
    SerData T → Nat → List Nat → Panics (Option (List Bytes × SerData T))
  | serdata, _, [] => .ok (some ([], serdata))
  | serdata, offset, size :: rest => do
      match ← serdataToSerRef cdr serdata offset size with
      | none => return none
      | some (iov, serdata) =>
          match ← readWindows cdr serdata (offset + size) rest with
          | none => return none
          | some (windows, last) => return some (iov.bytes :: windows, last)

/-- A written object, before or after its serialization has been cached. -/
structure Written (value : T) (bytes : Bytes) (serdata : SerData T) : Prop where
  sample : serdata.sample = .sdkData value
  cdr : serdata.cdr = none ∨ serdata.cdr = some bytes

/-- The slice of the source, cut at the end of the data, as offset and size. -/
theorem clipped_window (bytes : Bytes) (offset size : Nat) :
    (bytes.take (min (offset + size) bytes.length)).drop offset =
      (bytes.drop offset).take size := by
  rw [← List.take_take, List.take_length, List.drop_take]
  congr 1
  omega

theorem cdrWindow_take (bytes : Bytes) (offset size : Nat) (fits : offset + size ≤ usizeMax) :
    cdrWindow bytes offset size = .ok ((bytes.drop offset).take size) := by
  by_cases inside : offset < bytes.length
  · rw [cdrWindow, if_pos inside, usizeAdd, if_pos fits]
    exact congrArg Except.ok (clipped_window bytes offset size)
  · rw [cdrWindow, if_neg inside, List.drop_eq_nil_of_le (Nat.le_of_not_lt inside), List.take_nil]

@[simp] theorem windowIovec_bytes (window : Bytes) : (windowIovec window).bytes = window := by
  cases window with
  | nil => rfl
  | cons byte rest => exact List.take_length

theorem getSize_written (cdr : CdrCrate T) (laws : CdrLaws cdr) (value : T) (bytes : Bytes)
    (serdata : SerData T) (encoded : cdr.serialize value = some bytes)
    (written : Written value bytes serdata) :
    serdataGetSize cdr serdata = u32OfUsize bytes.length := by
  rw [serdataGetSize, written.sample]
  rcases written.cdr with lazy | cached
  · rw [lazy, laws.size value bytes encoded]
  · rw [cached]

theorem toSerRef_written (cdr : CdrCrate T) (value : T) (bytes : Bytes) (serdata : SerData T)
    (offset size : Nat) (encoded : cdr.serialize value = some bytes)
    (written : Written value bytes serdata) (fits : offset + size ≤ usizeMax) :
    ∃ next, serdataToSerRef cdr serdata offset size =
        .ok (some (windowIovec ((bytes.drop offset).take size), next)) ∧
      Written value bytes next := by
  have window := cdrWindow_take bytes offset size fits
  -- The first window serializes the value and caches it, later ones find it cached.
  rcases written.cdr with lazy | cached
  · refine ⟨{ serdata with cdr := some bytes }.addref, ?_, written.sample, .inr rfl⟩
    simp [serdataToSerRef, written.sample, lazy, SerData.serializeSample, encoded, window, bind,
      Except.bind, pure, Except.pure]
  · refine ⟨serdata.addref, ?_, written.sample, .inr cached⟩
    simp [serdataToSerRef, written.sample, cached, window, bind, Except.bind, pure, Except.pure]

theorem readWindows_written (cdr : CdrCrate T) (value : T) (bytes : Bytes)
    (encoded : cdr.serialize value = some bytes) (sizes : List Nat) (serdata : SerData T)
    (offset : Nat) (written : Written value bytes serdata)
    (fits : offset + sizes.sum ≤ usizeMax) :
    ∃ windows last, readWindows cdr serdata offset sizes = .ok (some (windows, last)) ∧
      windows.flatten = (bytes.drop offset).take sizes.sum ∧ Written value bytes last := by
  induction sizes generalizing serdata offset with
  | nil => exact ⟨[], serdata, rfl, rfl, written⟩
  | cons size rest ih =>
      rw [List.sum_cons] at fits
      obtain ⟨next, read, kept⟩ :=
        toSerRef_written cdr value bytes serdata offset size encoded written (by omega)
      obtain ⟨windows, last, reads, joined, lastKept⟩ := ih next (offset + size) kept (by omega)
      refine ⟨(bytes.drop offset).take size :: windows, last, ?_, ?_, lastKept⟩
      · simp [readWindows, read, reads, bind, Except.bind, pure, Except.pure]
      · rw [List.flatten_cons, joined, List.sum_cons, List.take_add, List.drop_drop]

/-! Fragments -/

def Carries (stream : Bytes) (frag : Rdata) : Prop :=
  frag.payload.take (frag.maxp1.toNat - frag.min.toNat) =
    (stream.take frag.maxp1.toNat).drop frag.min.toNat

/-- A chain cut from the stream that leaves no gap behind the bytes up to `off`.
Fragments may overlap, repeat bytes or lie wholly inside earlier ones. -/
def CutFrom (stream : Bytes) : Nat → List Rdata → Prop
  | off, [] => off = stream.length
  | off, frag :: rest =>
      frag.min.toNat ≤ off ∧ frag.maxp1.toNat ≤ stream.length ∧ Carries stream frag ∧
        CutFrom stream (max off frag.maxp1.toNat) rest

theorem carried_source (stream : Bytes) (frag : Rdata) (off : Nat)
    (carries : Carries stream frag) (noGap : frag.min.toNat ≤ off) :
    (frag.payload.drop (off - frag.min.toNat)).take (frag.maxp1.toNat - off) =
      (stream.take frag.maxp1.toNat).drop off := by
  have rest : frag.maxp1.toNat - off =
      frag.maxp1.toNat - frag.min.toNat - (off - frag.min.toNat) := by omega
  rw [rest, ← List.drop_take, carries, List.drop_drop]
  congr 1
  omega

theorem gatherFragments_cut (stream : Bytes) (frags : List Rdata) (off : UInt32)
    (sgList : List Bytes) (cut : CutFrom stream off.toNat frags) :
    ∃ pieces, gatherFragments stream.length off sgList frags = .ok (.ok (sgList ++ pieces)) ∧
      pieces.flatten = stream.drop off.toNat ∧ ∀ piece ∈ pieces, piece ≠ [] := by
  induction frags generalizing off sgList with
  | nil =>
      refine ⟨[], by rw [gatherFragments, List.append_nil], ?_, nofun⟩
      rw [show off.toNat = stream.length from cut, List.drop_length]
      rfl
  | cons frag rest ih =>
      obtain ⟨noGap, bounded, carries, cut⟩ := cut
      have ordered : ¬ off < frag.min := by
        rw [UInt32.lt_iff_toNat_lt]
        omega
      -- A fragment that reaches past `off` adds the slice from there to its own end.
      by_cases advances : off < frag.maxp1
      · have ahead := UInt32.lt_iff_toNat_lt.mp advances
        have offset : (off - frag.min).toNat = off.toNat - frag.min.toNat :=
          UInt32.toNat_sub_of_le off frag.min (UInt32.le_iff_toNat_le.mpr noGap)
        have count : (frag.maxp1 - off).toNat = frag.maxp1.toNat - off.toNat :=
          UInt32.toNat_sub_of_le frag.maxp1 off (UInt32.le_iff_toNat_le.mpr (Nat.le_of_lt ahead))
        have source := carried_source stream frag off.toNat carries noGap
        rw [Nat.max_eq_right (Nat.le_of_lt ahead)] at cut
        obtain ⟨pieces, gathered, joined, filled⟩ :=
          ih frag.maxp1 (sgList ++ [(stream.take frag.maxp1.toNat).drop off.toNat]) cut
        refine ⟨(stream.take frag.maxp1.toNat).drop off.toNat :: pieces, ?_, ?_, ?_⟩
        · simpa [gatherFragments_cons, ordered, advances, Nat.not_lt.mpr bounded, offset, count,
            source] using gathered
        · have reach : off.toNat ≤ (stream.take frag.maxp1.toNat).length := by
            rw [List.length_take]
            omega
          rw [List.flatten_cons, joined, ← List.drop_append_of_le_length reach,
            List.take_append_drop]
        · intro piece member
          rcases List.mem_cons.mp member with rfl | later
          · apply List.ne_nil_of_length_pos
            rw [List.length_drop, List.length_take]
            omega
          · exact filled piece later
      · have behind : frag.maxp1.toNat ≤ off.toNat := by
          rw [UInt32.lt_iff_toNat_lt] at advances
          omega
        rw [Nat.max_eq_left behind] at cut
        -- A fragment with nothing new adds no slice.
        simpa [gatherFragments_cons, ordered, advances] using ih off sgList cut

theorem assembleFragchain_cut (stream : Bytes) (chain : Fragchain)
    (cut : CutFrom stream 0 chain.toList) (fits : stream.length ≤ isizeMax) :
    assembleFragchain chain stream.length = .ok (.ok stream) := by
  obtain ⟨pieces, gathered, joined, filled⟩ :=
    gatherFragments_cut stream chain.toList 0 [] cut
  have start : chain.first.min = 0 := by
    apply UInt32.toNat_inj.mp
    exact Nat.le_zero.mp cut.1
  have bounds : ¬ (chain.first.min ≠ 0 ∨ chain.first.maxp1 < 0) := by
    rintro (moved | negative)
    · exact moved start
    · exact absurd (UInt32.lt_iff_toNat_lt.mp negative) (Nat.not_lt_zero _)
  have whole : pieces.flatten = stream := joined
  have read := intoVec_filled pieces stream.length filled (congrArg List.length whole) fits
  rw [whole] at read
  rw [assembleFragchain, if_neg bounds, gathered, List.nil_append]
  simp only [bind, Except.bind, read]
  rfl

/-! The receiver -/

/-- The object is accepted and a Sample reads the value from it. It sits at a new
address, so a Sample in use holds some other object. -/
def Delivered (cdr : CdrCrate T) (value : T) (result : Option (SerData T)) : Prop :=
  ∃ received, result = some received ∧
    ∀ (heap : Heap T) (address : Nat) (sample : Sample T),
      heap address = none → (∀ held, sample.serdata = some held → heap held ≠ none) →
        ∃ after filled,
          serdataToSample cdr (Function.update heap address (some received)) address sample =
              (true, after, filled) ∧
            Sample.tryDeref after filled = some value

/-- A receive operation that answers with such an object, and does not panic. -/
def DeliveredBy (cdr : CdrCrate T) (value : T)
    (answer : Panics (Option (SerData T) × DiscardedSamples)) : Prop :=
  ∃ received after, answer = .ok (received, after) ∧ Delivered cdr value received

theorem toSample_decoded (cdr : CdrCrate T) (heap : Heap T) (address : Nat) (sample : Sample T)
    (serdata decoded : SerData T) (value : T) (held : heap address = some serdata)
    (decodes : decodeReceived cdr serdata = some decoded)
    (ready : decoded.sample = .sdkData value) :
    serdataToSample cdr heap address sample =
      (true, Sample.setSerdata (Function.update heap address (some decoded)) sample address) := by
  simp only [serdataToSample, held, decodes, ready]

theorem setSerdata_at (heap : Heap T) (sample : Sample T) (address : Nat) (serdata : SerData T)
    (held : heap address = some serdata) :
    (Sample.setSerdata heap sample address).1 address =
      if sample.serdata = some address then none else some serdata.addref := by
  rw [Sample.setSerdata]
  cases before : sample.serdata with
  | none => simp [ddsiSerdataAddref, held]
  | some old =>
      by_cases same : old = address
      · subst same
        simp [ddsiSerdataAddref, serdataFree]
      · have kept : serdataFree heap old address = some serdata := by
          simp [serdataFree, Ne.symm same, held]
        simp [ddsiSerdataAddref, kept, same]

theorem tryDeref_held (heap : Heap T) (sample : Sample T) (address : Nat) (serdata : SerData T)
    (value : T) (held : sample.serdata = some address) (live : heap address = some serdata)
    (ready : serdata.sample = .sdkData value) : Sample.tryDeref heap sample = some value := by
  simp only [Sample.tryDeref, held, live, ready, bind, Option.bind]

theorem asReceived_delivered (cdr : CdrCrate T) (laws : CdrLaws cdr) (value : T) (bytes : Bytes)
    (sertype : DdsiSertype) (received : SerData T) (encoded : cdr.serialize value = some bytes)
    (fields : AsReceived sertype bytes received) : Delivered cdr value (some received) := by
  refine ⟨received, rfl, ?_⟩
  intro heap address sample fresh live
  have decodes : decodeReceived cdr received =
      some { received with sample := .sdkData value } := by
    simp [decodeReceived, fields.sample, fields.cdr, laws.deserialize value bytes encoded]
  have other : sample.serdata ≠ some address := fun holds => live address holds fresh
  have stored : Function.update (Function.update heap address (some received)) address
      (some { received with sample := .sdkData value }) address =
        some { received with sample := .sdkData value } := Function.update_self ..
  have placed := setSerdata_at _ sample address _ stored
  rw [if_neg other] at placed
  refine ⟨_, _, toSample_decoded cdr _ address sample received _ value (Function.update_self ..)
    decodes rfl, ?_⟩
  exact tryDeref_held _ _ address _ value rfl placed rfl

theorem fromFragchain_delivered (ddsi : DdsiInit) (sertype : DdsiSertype) (cdr : CdrCrate T)
    (laws : CdrLaws cdr) (value : T) (bytes : Bytes) (encoded : cdr.serialize value = some bytes)
    (kind : SerdataKind) (chain : Fragchain) (stats : DiscardedSamples)
    (cut : CutFrom bytes 0 chain.toList) (fits : bytes.length ≤ isizeMax) :
    DeliveredBy cdr value (serdataFromFragchain ddsi sertype kind chain bytes.length stats) := by
  have built : (serdataFromFragchain ddsi sertype kind chain bytes.length stats :
      Panics (Option (SerData T) × DiscardedSamples)) =
        .ok (some { SerData.new ddsi sertype kind with cdr := some bytes }, stats) := by
    rw [serdataFromFragchain, assembleFragchain_cut bytes chain cut fits]
    rfl
  exact ⟨_, _, built, asReceived_delivered cdr laws value bytes sertype _ encoded
    (received_fields ddsi sertype bytes _ (.fromFragchain kind chain _ stats stats built rfl))⟩

theorem fromSerIov_delivered (ddsi : DdsiInit) (sertype : DdsiSertype) (cdr : CdrCrate T)
    (laws : CdrLaws cdr) (value : T) (bytes : Bytes) (encoded : cdr.serialize value = some bytes)
    (kind : SerdataKind) (iovs : List Iovec) (stats : DiscardedSamples)
    (filled : ∀ iov ∈ iovs, iov.bytes ≠ []) (split : (iovs.map Iovec.bytes).flatten = bytes)
    (fits : bytes.length ≤ isizeMax) :
    DeliveredBy cdr value (serdataFromSerIov ddsi sertype kind iovs bytes.length stats) := by
  have slices : ∀ slice ∈ iovs.map Iovec.bytes, slice ≠ [] := by
    intro slice member
    obtain ⟨iov, among, rfl⟩ := List.mem_map.mp member
    exact filled iov among
  have read := intoVec_filled _ bytes.length slices (congrArg List.length split) fits
  rw [split] at read
  have built : (serdataFromSerIov ddsi sertype kind iovs bytes.length stats :
      Panics (Option (SerData T) × DiscardedSamples)) =
        .ok (some { SerData.new ddsi sertype kind with cdr := some bytes }, stats) := by
    rw [serdataFromSerIov, read]
    rfl
  exact ⟨_, _, built, asReceived_delivered cdr laws value bytes sertype _ encoded
    (received_fields ddsi sertype bytes _ (.fromSerIov kind iovs _ stats stats built rfl))⟩

theorem serializeInto_whole (cdr : CdrCrate T) (laws : CdrLaws cdr) (value : T) (bytes : Bytes)
    (sample : Sample T) (buffer : Bytes) (encoded : cdr.serialize value = some bytes)
    (expected : sample.getExpected = .ok value) (sized : buffer.length = bytes.length) :
    sertypeSerializeInto cdr sample buffer = .ok (true, bytes) := by
  have fits : ¬ buffer.length < cdr.calcSerializedSize value := by
    rw [← laws.size value bytes encoded, sized]
    exact Nat.lt_irrefl _
  have written := laws.into value bytes buffer encoded (Nat.le_of_eq sized.symm)
  rw [← sized, List.drop_length, List.append_nil] at written
  simp only [sertypeSerializeInto, expected, bind, Except.bind, if_neg fits, written]
  rfl

/-- A loan as PSMX hands it over for a buffer the writer path filled. -/
def serializedLoan (buffer : Bytes) (size : Nat) (encIdentifier : UInt16) (timestamp : Int)
    (statusinfo : UInt32) : LoanedSample :=
  { metadata := some
      { sampleState := .serializedData
        sampleSize := u32OfUsize size
        timestamp := timestamp
        statusinfo := statusinfo
        cdrIdentifier := encIdentifier
        cdrOptions := 0 }
    samplePtr := some buffer }

theorem fromPsmx_delivered (ddsi : DdsiInit) (sertype : DdsiSertype) (cdr : CdrCrate T)
    (laws : CdrLaws cdr) (value : T) (bytes : Bytes) (encoded : cdr.serialize value = some bytes)
    (small : bytes.length < 2 ^ 32) (timestamp : Int) (statusinfo : UInt32) :
    Delivered cdr value (serdataFromPsmx ddsi (some sertype)
      (some (serializedLoan bytes bytes.length 0 timestamp statusinfo))) := by
  have size : (u32OfUsize bytes.length).toNat = bytes.length :=
    UInt32.toNat_ofNat_of_lt' small
  have built : (serdataFromPsmx ddsi (some sertype)
      (some (serializedLoan bytes bytes.length 0 timestamp statusinfo)) : Option (SerData T)) =
        some { SerData.new ddsi sertype .sdkData with
          cdr := some bytes
          serdata :=
            { ddsi.init sertype .sdkData with
              statusinfo := statusinfo
              timestamp := timestamp } } := by
    simp only [serdataFromPsmx, serializedLoan, bind, Option.bind, LoanedSampleState.kind, size,
      List.take_length]
    rfl
  rw [built]
  exact asReceived_delivered cdr laws value bytes sertype _ encoded
    (received_fields ddsi sertype bytes _ (.fromPsmx _ built rfl))

/-- What the three transports make of a written object of `value`. -/
structure Transported (ddsi : DdsiInit) (topic : TopicType T) (sertype : DdsiSertype) (value : T)
    (serdata : SerData T) : Prop where
  windows : ∀ sizes, (serdataGetSize topic.cdr serdata).toNat ≤ sizes.sum →
    sizes.sum ≤ usizeMax → ∃ windows last,
      readWindows topic.cdr serdata 0 sizes = .ok (some (windows, last)) ∧
        serdataGetSize topic.cdr last = serdataGetSize topic.cdr serdata ∧
        (∀ kind chain stats, CutFrom windows.flatten 0 chain.toList →
          DeliveredBy topic.cdr value (serdataFromFragchain ddsi sertype kind chain
            (serdataGetSize topic.cdr serdata).toNat stats)) ∧
        ∀ kind iovs stats, (∀ iov ∈ iovs, iov.bytes ≠ []) →
          (iovs.map Iovec.bytes).flatten = windows.flatten →
            DeliveredBy topic.cdr value (serdataFromSerIov ddsi sertype kind iovs
              (serdataGetSize topic.cdr serdata).toNat stats)
  psmx : ∀ sample, sample.getExpected = .ok value → ∃ size encIdentifier,
    sertypeGetSerializedSize topic.cdr sample = .ok (size, encIdentifier) ∧
      ∀ buffer : Bytes, buffer.length = size → ∃ filled,
        sertypeSerializeInto topic.cdr sample buffer = .ok (true, filled) ∧
          ∀ timestamp statusinfo, Delivered topic.cdr value (serdataFromPsmx ddsi (some sertype)
            (some (serializedLoan filled size encIdentifier timestamp statusinfo)))

theorem fromSample_written (ddsi : DdsiInit) (topic : TopicType T)
    (murmur3 : Bytes → UInt32 → UInt32) (sertype : DdsiSertype)
    (sample : Sample T) (value : T) (bytes key : Bytes) (expected : sample.getExpected = .ok value)
    (serialized : topic.keyHolderCdr.serialize (topic.toKeyHolder value) = some key) :
    ∃ serdata, serdataFromSample ddsi topic murmur3 sertype .sdkData sample = .ok serdata ∧
      Written value bytes serdata := by
  have hashed : topic.hash murmur3 value sertype.serdataBasehash =
      .ok (murmur3 key 0 ^^^ sertype.serdataBasehash) := by
    simp [TopicType.hash, TopicType.keyCdr, serialized, bind, Except.bind, pure, Except.pure]
  exact ⟨_, fromSample_hashed ddsi topic murmur3 sertype sample value _ expected hashed, rfl,
    .inl rfl⟩

/-- Every transport delivers the written value, where cdr can encode it and its key. -/
theorem transports_deliver (ddsi : DdsiInit) (topic : TopicType T)
    (murmur3 : Bytes → UInt32 → UInt32) (sertype : DdsiSertype) (laws : CdrLaws topic.cdr)
    (sample : Sample T) (value : T) (bytes key : Bytes)
    (expected : sample.getExpected = .ok value)
    (encoded : topic.cdr.serialize value = some bytes)
    (keyEncoded : topic.keyHolderCdr.serialize (topic.toKeyHolder value) = some key)
    (small : topic.cdr.calcSerializedSize value < 2 ^ 32) :
    ∃ serdata, serdataFromSample ddsi topic murmur3 sertype .sdkData sample = .ok serdata ∧
      Transported ddsi topic sertype value serdata := by
  obtain ⟨serdata, built, written⟩ :=
    fromSample_written ddsi topic murmur3 sertype sample value bytes key expected keyEncoded
  have calculated := laws.size value bytes encoded
  have fits : bytes.length < 2 ^ 32 := calculated ▸ small
  have vec : bytes.length ≤ isizeMax := by
    rw [isizeMax]
    omega
  have size : ∀ state, Written value bytes state →
      serdataGetSize topic.cdr state = u32OfUsize bytes.length :=
    fun state => getSize_written topic.cdr laws value bytes state encoded
  have number : (serdataGetSize topic.cdr serdata).toNat = bytes.length := by
    rw [size serdata written]
    exact UInt32.toNat_ofNat_of_lt' fits
  refine ⟨serdata, built, ?_, ?_⟩
  · intro sizes covers bounded
    rw [number] at covers ⊢
    obtain ⟨windows, last, reads, joined, kept⟩ :=
      readWindows_written topic.cdr value bytes encoded sizes serdata 0 written (by omega)
    have whole : windows.flatten = bytes := by
      rw [joined, List.drop_zero, List.take_of_length_le covers]
    refine ⟨windows, last, reads, (size last kept).trans (size serdata written).symm, ?_, ?_⟩
    · intro kind chain stats cut
      rw [whole] at cut
      exact fromFragchain_delivered ddsi sertype topic.cdr laws value bytes encoded kind chain
        stats cut vec
    · intro kind iovs stats filled split
      exact fromSerIov_delivered ddsi sertype topic.cdr laws value bytes encoded kind iovs stats
        filled (split.trans whole) vec
  · intro sample expected
    refine ⟨bytes.length, 0, ?_, ?_⟩
    · rw [sertypeGetSerializedSize, expected, calculated]
      rfl
    · intro buffer sized
      exact ⟨bytes, serializeInto_whole topic.cdr laws value bytes sample buffer encoded expected
        sized, fromPsmx_delivered ddsi sertype topic.cdr laws value bytes encoded fits⟩

theorem lamp_transported : ∃ serdata,
    serdataFromSample plainInit lampTopic murmur3_32 lampSertype .sdkData
        (Sample.from { id := 3, level := 9 }) = .ok serdata ∧
      Transported plainInit lampTopic lampSertype { id := 3, level := 9 } serdata :=
  transports_deliver plainInit lampTopic murmur3_32 lampSertype lampCdr_laws
    (Sample.from { id := 3, level := 9 }) { id := 3, level := 9 } [0, 0, 0, 0, 3, 9]
    [0, 0, 0, 0, 3] rfl rfl rfl (by decide)

/-! Received objects sent on -/

/-- Both operation tables give out exactly the received bytes. -/
structure ResendsAs (cdr : CdrCrate T) (bytes : Bytes) (serdata : SerData T) : Prop where
  size : (serdataGetSize cdr serdata).toNat = bytes.length
  forwardSize : (forwardSerdataGetSize serdata).toNat = bytes.length
  windows : ∀ offset size, offset + size ≤ usizeMax → ∃ iov next,
    serdataToSerRef cdr serdata offset size = .ok (some (iov, next)) ∧
      forwardSerdataToSerRef serdata offset size = .ok (some (iov, next)) ∧
      iov.bytes = (bytes.take (min (offset + size) bytes.length)).drop offset

/-- One `serdata_to_sample` after the other on the object at `address`. -/
def toSampleCalls (cdr : CdrCrate T) (address : Nat) (heap : Heap T) (samples : List (Sample T)) :
    Heap T :=
  samples.foldl (fun heap sample => (serdataToSample cdr heap address sample).2.1) heap

def HoldsAddress (address : Nat) (samples : List (Sample T)) : Prop :=
  ∃ sample ∈ samples, sample.serdata = some address

theorem toSampleCalls_gone (cdr : CdrCrate T) (address : Nat) (heap : Heap T)
    (samples : List (Sample T)) (gone : heap address = none) :
    toSampleCalls cdr address heap samples address = none := by
  induction samples generalizing heap with
  | nil => exact gone
  | cons sample rest ih =>
      apply ih
      simp only [serdataToSample, gone]

theorem toSampleCalls_undecodable (cdr : CdrCrate T) (address : Nat) (heap : Heap T)
    (samples : List (Sample T)) (serdata : SerData T) (held : heap address = some serdata)
    (fails : decodeReceived cdr serdata = none) :
    toSampleCalls cdr address heap samples = heap := by
  induction samples with
  | nil => rfl
  | cons sample rest ih =>
      have kept : (serdataToSample cdr heap address sample).2.1 = heap := by
        simp only [serdataToSample, held, fails]
      rw [toSampleCalls, List.foldl_cons, kept]
      exact ih

theorem toSample_at (cdr : CdrCrate T) (address : Nat) (heap : Heap T) (sample : Sample T)
    (serdata decoded : SerData T) (value : T) (held : heap address = some serdata)
    (decodes : decodeReceived cdr serdata = some decoded)
    (ready : decoded.sample = .sdkData value) :
    (serdataToSample cdr heap address sample).2.1 address =
      if sample.serdata = some address then none else some decoded.addref := by
  rw [toSample_decoded cdr heap address sample serdata decoded value held decodes ready]
  exact setSerdata_at _ sample address decoded (Function.update_self ..)

/-- A decoded object keeps its bytes and value until a Sample that holds it already
is filled from it again. -/
theorem toSampleCalls_decoded (cdr : CdrCrate T) (address : Nat) (heap : Heap T)
    (samples : List (Sample T)) (serdata : SerData T) (value : T)
    (held : heap address = some serdata) (ready : serdata.sample = .sdkData value) :
    (HoldsAddress address samples → toSampleCalls cdr address heap samples address = none) ∧
      (¬ HoldsAddress address samples → ∃ current,
        toSampleCalls cdr address heap samples address = some current ∧
          current.sample = .sdkData value ∧ current.cdr = serdata.cdr) := by
  induction samples generalizing heap serdata with
  | nil =>
      constructor
      · rintro ⟨sample, member, -⟩
        exact absurd member List.not_mem_nil
      · intro _
        exact ⟨serdata, held, ready, rfl⟩
  | cons sample rest ih =>
      have decodes : decodeReceived cdr serdata = some serdata := by
        rw [decodeReceived, ready]
      have first := toSample_at cdr address heap sample serdata serdata value held decodes ready
      -- `set_serdata` drops the box that the Sample holds before it takes the reference.
      by_cases holds : sample.serdata = some address
      · rw [if_pos holds] at first
        have gone := toSampleCalls_gone cdr address _ rest first
        exact ⟨fun _ => gone, fun free => absurd ⟨sample, List.mem_cons_self, holds⟩ free⟩
      · rw [if_neg holds] at first
        obtain ⟨freed, kept⟩ := ih _ serdata.addref first ready
        constructor
        · rintro ⟨other, member, again⟩
          rcases List.mem_cons.mp member with rfl | later
          · exact absurd again holds
          · exact freed ⟨other, later, again⟩
        · intro free
          apply kept
          rintro ⟨other, later, again⟩
          exact free ⟨other, List.mem_cons_of_mem _ later, again⟩

/-- The first call decodes; the calls are those on the decoded object. -/
theorem toSampleCalls_first (cdr : CdrCrate T) (address : Nat) (heap : Heap T)
    (sample : Sample T) (rest : List (Sample T)) (serdata decoded : SerData T) (value : T)
    (held : heap address = some serdata) (decodes : decodeReceived cdr serdata = some decoded)
    (ready : decoded.sample = .sdkData value) :
    toSampleCalls cdr address heap (sample :: rest) =
      toSampleCalls cdr address (Function.update heap address (some decoded)) (sample :: rest) := by
  have again : decodeReceived cdr decoded = some decoded := by
    rw [decodeReceived, ready]
  rw [toSampleCalls, toSampleCalls, List.foldl_cons, List.foldl_cons,
    toSample_decoded cdr heap address sample serdata decoded value held decodes ready,
    toSample_decoded cdr _ address sample decoded decoded value (Function.update_self ..) again
      ready, Function.update_idem]

theorem uninitialized_not_resent (cdr : CdrCrate T) (bytes : Bytes) (serdata : SerData T)
    (raw : serdata.sample = .uninitialized) : ¬ ResendsAs cdr bytes serdata := by
  intro resends
  obtain ⟨iov, next, typed, -⟩ := resends.windows 0 0 (Nat.zero_le _)
  simp [serdataToSerRef, raw] at typed

theorem decoded_resent_iff (cdr : CdrCrate T) (bytes : Bytes) (serdata : SerData T) (value : T)
    (ready : serdata.sample = .sdkData value) (cached : serdata.cdr = some bytes) :
    ResendsAs cdr bytes serdata ↔ bytes.length < 2 ^ 32 := by
  have forward : forwardSerdataGetSize serdata = u32OfUsize bytes.length := by
    rw [forwardSerdataGetSize, cached]
  constructor
  · intro resends
    rw [← resends.forwardSize]
    exact UInt32.toNat_lt _
  · intro small
    have number : (u32OfUsize bytes.length).toNat = bytes.length :=
      UInt32.toNat_ofNat_of_lt' small
    refine ⟨?_, forward ▸ number, ?_⟩
    · rw [serdataGetSize, ready, cached]
      exact number
    · intro offset size fits
      have window := cdrWindow_take bytes offset size fits
      refine ⟨windowIovec ((bytes.drop offset).take size), serdata.addref, ?_, ?_, ?_⟩
      · simp [serdataToSerRef, ready, cached, window, bind, Except.bind, pure, Except.pure]
      · simp [forwardSerdataToSerRef, cached, window, bind, Except.bind, pure, Except.pure]
      · rw [windowIovec_bytes, clipped_window]

/-- Exactly the objects that were read as a typed sample can be sent on. -/
theorem resends_iff_read (ddsi : DdsiInit) (sertype : DdsiSertype) (cdr : CdrCrate T)
    (bytes : Bytes) (serdata : SerData T) (heap : Heap T) (address : Nat)
    (samples : List (Sample T)) (received : Received ddsi sertype bytes serdata)
    (held : heap address = some serdata) :
    (∃ current, toSampleCalls cdr address heap samples address = some current ∧
        ResendsAs cdr bytes current) ↔
      samples ≠ [] ∧ (∃ value, cdr.deserializeFrom bytes bytes.length = some value) ∧
        ¬ HoldsAddress address samples ∧ bytes.length < 2 ^ 32 := by
  have fields := received_fields ddsi sertype bytes serdata received
  cases samples with
  | nil =>
      apply iff_of_false
      · rintro ⟨current, same, resends⟩
        cases held.symm.trans same
        exact uninitialized_not_resent cdr bytes serdata fields.sample resends
      · rintro ⟨some, -⟩
        exact some rfl
  | cons sample rest =>
      cases decoded : cdr.deserializeFrom bytes bytes.length with
      | none =>
          have fails : decodeReceived cdr serdata = none := by
            simp [decodeReceived, fields.sample, fields.cdr, decoded]
          rw [toSampleCalls_undecodable cdr address heap (sample :: rest) serdata held fails]
          apply iff_of_false
          · rintro ⟨current, same, resends⟩
            cases held.symm.trans same
            exact uninitialized_not_resent cdr bytes serdata fields.sample resends
          · rintro ⟨-, ⟨value, impossible⟩, -⟩
            cases impossible
      | some value =>
          have decodes : decodeReceived cdr serdata =
              some { serdata with sample := .sdkData value } := by
            simp [decodeReceived, fields.sample, fields.cdr, decoded]
          rw [toSampleCalls_first cdr address heap sample rest serdata _ value held decodes rfl]
          obtain ⟨freed, kept⟩ := toSampleCalls_decoded cdr address
            (Function.update heap address (some { serdata with sample := .sdkData value }))
            (sample :: rest) _ value (Function.update_self ..) rfl
          constructor
          · rintro ⟨current, same, resends⟩
            have free : ¬ HoldsAddress address (sample :: rest) := by
              intro holds
              rw [freed holds] at same
              cases same
            obtain ⟨last, survives, ready, cached⟩ := kept free
            cases same.symm.trans survives
            exact ⟨List.cons_ne_nil _ _, ⟨value, rfl⟩, free,
              (decoded_resent_iff cdr bytes current value ready (cached.trans fields.cdr)).mp
                resends⟩
          · rintro ⟨-, -, free, small⟩
            obtain ⟨last, survives, ready, cached⟩ := kept free
            exact ⟨last, survives,
              (decoded_resent_iff cdr bytes last value ready (cached.trans fields.cdr)).mpr small⟩

/-- Lamp 3 at level 9 as PSMX hands it over. -/
def receivedLamp : SerData Lamp :=
  { (SerData.new plainInit lampSertype .sdkData : SerData Lamp) with
    cdr := some [0, 0, 0, 0, 3, 9] }

theorem receivedLamp_received :
    Received plainInit lampSertype [0, 0, 0, 0, 3, 9] receivedLamp :=
  .fromPsmx (serializedLoan [0, 0, 0, 0, 3, 9] 6 0 0 0) rfl rfl

def lampHeap : Heap Lamp := Function.update (fun _ => none) 0 (some receivedLamp)

theorem resends_read_lamp :
    (∃ current, toSampleCalls lampCdr 0 lampHeap [.default] 0 = some current ∧
        ResendsAs lampCdr [0, 0, 0, 0, 3, 9] current) ↔
      ([.default] : List (Sample Lamp)) ≠ [] ∧
        (∃ value, lampCdr.deserializeFrom [0, 0, 0, 0, 3, 9] 6 = some value) ∧
        ¬ HoldsAddress 0 ([.default] : List (Sample Lamp)) ∧
        ([0, 0, 0, 0, 3, 9] : Bytes).length < 2 ^ 32 :=
  resends_iff_read plainInit lampSertype lampCdr [0, 0, 0, 0, 3, 9] receivedLamp lampHeap 0
    [.default] receivedLamp_received rfl

theorem unread_lamp_not_resent :
    Received plainInit lampSertype [0, 0, 0, 0, 3, 9] receivedLamp ∧
      (serdataGetSize lampCdr receivedLamp, forwardSerdataGetSize receivedLamp) = (0, 6) ∧
      serdataToSerRef lampCdr receivedLamp 0 6 =
        .error "Attempt to serialize uninitialized Sample" ∧
      ¬ ResendsAs lampCdr [0, 0, 0, 0, 3, 9] receivedLamp := by
  refine ⟨receivedLamp_received, rfl, rfl, ?_⟩
  intro resends
  obtain ⟨iov, next, typed, -⟩ := resends.windows 0 6 (by decide)
  cases typed

end CycloneddsRs.Transports
