import CycloneddsRs.StepRuns
import CycloneddsRs.Transports

/-!
untyped.rs and `DdsWriter::forward`: received objects sent on from process to process,
by readers that know the type and by readers that do not. Every object may be sent
any number of times, cut in another way each time.
-/

namespace CycloneddsRs.Relay

open ScatterGather Serdes Serdata SampleHeap Transports StepRuns

variable {T : Type}

/-- `forward_serdata_to_ser_ref` called for one window after the other. -/
def forwardWindows :
    SerData T → Nat → List Nat → Panics (Option (List Bytes × SerData T))
  | serdata, _, [] => .ok (some ([], serdata))
  | serdata, offset, size :: rest => do
      match ← forwardSerdataToSerRef serdata offset size with
      | none => return none
      | some (iov, serdata) =>
          match ← forwardWindows serdata (offset + size) rest with
          | none => return none
          | some (windows, last) => return some (iov.bytes :: windows, last)

/-- The bytes of one sending as they reach the receiver. -/
inductive Wire where
  | fragments (chain : Fragchain)
  | slices (iovs : List Iovec)

def Wire.Carries (stream : Bytes) : Wire → Prop
  | .fragments chain => CutFrom stream 0 chain.toList
  | .slices iovs =>
      (∀ iov ∈ iovs, iov.bytes ≠ []) ∧ (iovs.map Iovec.bytes).flatten = stream

/-- A network loses nothing of a sending that it delivers, however it cuts it. -/
structure Network where
  wire : Bytes → Wire
  carries : ∀ stream : Bytes, stream.length < 2 ^ 32 → (wire stream).Carries stream

/-- The receiving side. `typed` tells the operations of `create_serdata_ops_serdes` from those
of `create_serdata_ops_base`. -/
structure Receiver where
  sertype : DdsiSertype
  typed : Bool
  kind : SerdataKind
  stats : DiscardedSamples

def Receiver.receive (ddsi : DdsiInit) (receiver : Receiver) (size : Nat) :
    Wire → Option (SerData T)
  | .fragments chain =>
      (serdataFromFragchain ddsi receiver.sertype receiver.kind chain size
        receiver.stats).toOption.bind Prod.fst
  | .slices iovs =>
      (serdataFromSerIov ddsi receiver.sertype receiver.kind iovs size
        receiver.stats).toOption.bind Prod.fst

/-- An object somewhere on its way. `origin` is the value that was written. -/
structure Held (T : Type) where
  origin : T
  typed : Bool
  serdata : SerData T

def Held.getSize (cdr : CdrCrate T) (held : Held T) : UInt32 :=
  if held.typed then serdataGetSize cdr held.serdata else forwardSerdataGetSize held.serdata

def Held.windows (cdr : CdrCrate T) (held : Held T) (sizes : List Nat) :
    Panics (Option (List Bytes × SerData T)) :=
  if held.typed then readWindows cdr held.serdata 0 sizes
  else forwardWindows held.serdata 0 sizes

def Held.read (cdr : CdrCrate T) (held : Held T) : Held T :=
  if held.typed then { held with serdata := (decodeReceived cdr held.serdata).getD held.serdata }
  else held

inductive Action (T : Type) where
  | write (value : T)
  /-- A sample is taken. Only a typed reader decodes. -/
  | read (index : Nat)
  | send (index : Nat) (sizes : List Nat) (network : Network) (receiver : Receiver)

/-- CycloneDDS asks for at least one window, and the windows reach the size it was told. -/
def Covers (sizes : List Nat) (size : UInt32) : Prop :=
  sizes ≠ [] ∧ size.toNat ≤ sizes.sum ∧ sizes.sum ≤ usizeMax

instance (sizes : List Nat) (size : UInt32) : Decidable (Covers sizes size) :=
  inferInstanceAs (Decidable (_ ∧ _))

def sendOn (ddsi : DdsiInit) (cdr : CdrCrate T) (objects : List (Held T)) (index : Nat)
    (sizes : List Nat) (network : Network) (receiver : Receiver) : Option (List (Held T)) := do
  let held ← objects[index]?
  if Covers sizes (held.getSize cdr) then
    match held.windows cdr sizes with
    | .ok (some (windows, last)) => do
        let received ← receiver.receive ddsi (held.getSize cdr).toNat
          (network.wire windows.flatten)
        some (objects.set index { held with serdata := last } ++
          [{ origin := held.origin, typed := receiver.typed, serdata := received }])
    | _ => none
  else none

def step (ddsi : DdsiInit) (topic : TopicType T) (murmur3 : Bytes → UInt32 → UInt32)
    (sertype : DdsiSertype) (objects : List (Held T)) : Action T → Option (List (Held T))
  | .write value =>
      match serdataFromSample ddsi topic murmur3 sertype .sdkData (Sample.from value) with
      | .ok serdata => some (objects ++ [{ origin := value, typed := true, serdata := serdata }])
      | .error _ => none
  | .read index => do
      let held ← objects[index]?
      some (objects.set index (held.read topic.cdr))
  | .send index sizes network receiver =>
      sendOn ddsi topic.cdr objects index sizes network receiver

/-! What an object on its way always is -/

/-- Either a typed sample, which may be serialized yet or not, or received bytes that
nobody has decoded. -/
def Faithful (cdr : CdrCrate T) (bytes : Bytes) (held : Held T) : Prop :=
  cdr.serialize held.origin = some bytes ∧
    ((held.typed = true ∧ Written held.origin bytes held.serdata) ∨
      (held.serdata.sample = .uninitialized ∧ held.serdata.cdr = some bytes))

/-- The object of a typed reader has been read, or it was written there. -/
def Readable (held : Held T) : Prop :=
  held.typed = true → held.serdata.sample = .sdkData held.origin

section Objects

variable {cdr : CdrCrate T} {bytes : Bytes} {held : Held T}

theorem toSerRef_received (serdata : SerData T) (offset size : Nat)
    (cached : serdata.cdr = some bytes) (fits : offset + size ≤ usizeMax) :
    forwardSerdataToSerRef serdata offset size =
      .ok (some (windowIovec ((bytes.drop offset).take size), serdata.addref)) := by
  have window := cdrWindow_take bytes offset size fits
  simp [forwardSerdataToSerRef, cached, window, bind, Except.bind, pure, Except.pure]

theorem forwardWindows_received (sizes : List Nat) (serdata : SerData T) (offset : Nat)
    (cached : serdata.cdr = some bytes) (fits : offset + sizes.sum ≤ usizeMax) :
    ∃ windows last, forwardWindows serdata offset sizes = .ok (some (windows, last)) ∧
      windows.flatten = (bytes.drop offset).take sizes.sum ∧ last.cdr = some bytes ∧
      last.sample = serdata.sample := by
  induction sizes generalizing serdata offset with
  | nil => exact ⟨[], serdata, rfl, rfl, cached, rfl⟩
  | cons size rest ih =>
      rw [List.sum_cons] at fits
      have read := toSerRef_received serdata offset size cached (by omega)
      obtain ⟨windows, last, reads, joined, kept, same⟩ :=
        ih serdata.addref (offset + size) cached (by omega)
      refine ⟨(bytes.drop offset).take size :: windows, last, ?_, ?_, kept, same⟩
      · simp [forwardWindows, read, reads, bind, Except.bind, pure, Except.pure]
      · rw [List.flatten_cons, joined, List.sum_cons, List.take_add, List.drop_drop]

/-- An undecoded object of a typed reader cannot be serialized. -/
theorem undecoded_refused (typed : held.typed = true)
    (raw : held.serdata.sample = .uninitialized) (sizes : List Nat) (asked : sizes ≠ []) :
    held.windows cdr sizes = .error "Attempt to serialize uninitialized Sample" := by
  cases sizes with
  | nil => exact absurd rfl asked
  | cons first rest =>
      simp [Held.windows, typed, readWindows, serdataToSerRef, raw, bind, Except.bind]

theorem getSize_faithful (laws : CdrLaws cdr) (small : bytes.length < 2 ^ 32)
    (faithful : Faithful cdr bytes held) (readable : Readable held) :
    (held.getSize cdr).toNat = bytes.length := by
  have number : (u32OfUsize bytes.length).toNat = bytes.length :=
    UInt32.toNat_ofNat_of_lt' small
  obtain ⟨encoded, ⟨typed, written⟩ | ⟨raw, cached⟩⟩ := faithful
  · rw [Held.getSize, if_pos typed,
      getSize_written cdr laws held.origin bytes held.serdata encoded written, number]
  · cases typed : held.typed with
    | true =>
        rw [readable typed] at raw
        cases raw
    | false => simp [Held.getSize, typed, forwardSerdataGetSize, cached, number]

theorem windows_faithful (sizes : List Nat) (faithful : Faithful cdr bytes held)
    (readable : Readable held) (bounded : sizes.sum ≤ usizeMax) :
    ∃ windows last, held.windows cdr sizes = .ok (some (windows, last)) ∧
      windows.flatten = bytes.take sizes.sum ∧
      Faithful cdr bytes { held with serdata := last } := by
  have fits : 0 + sizes.sum ≤ usizeMax := by omega
  obtain ⟨encoded, ⟨typed, written⟩ | ⟨raw, cached⟩⟩ := faithful
  · obtain ⟨windows, last, reads, joined, kept⟩ :=
      readWindows_written cdr held.origin bytes encoded sizes held.serdata 0 written fits
    refine ⟨windows, last, ?_, joined, encoded, .inl ⟨typed, kept⟩⟩
    rw [Held.windows, if_pos typed, reads]
  · cases typed : held.typed with
    | true =>
        rw [readable typed] at raw
        cases raw
    | false =>
        obtain ⟨windows, last, reads, joined, kept, same⟩ :=
          forwardWindows_received sizes held.serdata 0 cached fits
        refine ⟨windows, last, ?_, joined, encoded, .inr ⟨same.trans raw, kept⟩⟩
        simp [Held.windows, typed, reads]

theorem read_faithful (laws : CdrLaws cdr) (faithful : Faithful cdr bytes held) :
    Faithful cdr bytes (held.read cdr) ∧ Readable (held.read cdr) := by
  obtain ⟨encoded, ⟨typed, written⟩ | ⟨raw, cached⟩⟩ := faithful
  · have same : held.read cdr = held := by
      rw [Held.read, if_pos typed, decodeReceived, written.sample]
      rfl
    rw [same]
    exact ⟨⟨encoded, .inl ⟨typed, written⟩⟩, fun _ => written.sample⟩
  · cases typed : held.typed with
    | true =>
        have decoded : held.read cdr =
            { held with serdata := { held.serdata with sample := .sdkData held.origin } } := by
          simp [Held.read, typed, decodeReceived, raw, cached,
            laws.deserialize held.origin bytes encoded]
        rw [decoded]
        exact ⟨⟨encoded, .inl ⟨typed, rfl, .inr cached⟩⟩, fun _ => rfl⟩
    | false =>
        have same : held.read cdr = held := by simp [Held.read, typed]
        rw [same]
        refine ⟨⟨encoded, .inr ⟨raw, cached⟩⟩, fun impossible => ?_⟩
        rw [typed] at impossible
        cases impossible

theorem receive_carried (ddsi : DdsiInit) (receiver : Receiver) (wire : Wire)
    (carries : wire.Carries bytes) (fits : bytes.length ≤ isizeMax) :
    ∃ received : SerData T, receiver.receive ddsi bytes.length wire = some received ∧
      received.sample = .uninitialized ∧ received.cdr = some bytes := by
  cases wire with
  | fragments chain =>
      refine ⟨{ SerData.new ddsi receiver.sertype receiver.kind with cdr := some bytes }, ?_, rfl,
        rfl⟩
      rw [Receiver.receive, serdataFromFragchain, assembleFragchain_cut bytes chain carries fits]
      rfl
  | slices iovs =>
      obtain ⟨filled, split⟩ := carries
      have slices : ∀ slice ∈ iovs.map Iovec.bytes, slice ≠ [] := by
        intro slice member
        obtain ⟨iov, among, rfl⟩ := List.mem_map.mp member
        exact filled iov among
      have read := intoVec_filled _ bytes.length slices (congrArg List.length split) fits
      rw [split] at read
      refine ⟨{ SerData.new ddsi receiver.sertype receiver.kind with cdr := some bytes }, ?_, rfl,
        rfl⟩
      rw [Receiver.receive, serdataFromSerIov, read]
      rfl

/-- A typed reader gets the written value, whether it has been read before or not. -/
theorem delivered_faithful (laws : CdrLaws cdr) (faithful : Faithful cdr bytes held) :
    Delivered cdr held.origin (some held.serdata) := by
  refine ⟨held.serdata, rfl, ?_⟩
  intro heap address sample fresh live
  have other : sample.serdata ≠ some address := fun holds => live address holds fresh
  have decodes : ∃ decoded, decodeReceived cdr held.serdata = some decoded ∧
      decoded.sample = .sdkData held.origin := by
    obtain ⟨encoded, ⟨-, written⟩ | ⟨raw, cached⟩⟩ := faithful
    · exact ⟨held.serdata, by rw [decodeReceived, written.sample], written.sample⟩
    · refine ⟨{ held.serdata with sample := .sdkData held.origin }, ?_, rfl⟩
      simp [decodeReceived, raw, cached, laws.deserialize held.origin bytes encoded]
  obtain ⟨decoded, decodes, ready⟩ := decodes
  have placed := setSerdata_at
    (Function.update (Function.update heap address (some held.serdata)) address (some decoded))
    sample address decoded (Function.update_self ..)
  rw [if_neg other] at placed
  refine ⟨_, _, toSample_decoded cdr _ address sample held.serdata decoded held.origin
    (Function.update_self ..) decodes ready, ?_⟩
  exact tryDeref_held _ _ address _ held.origin rfl placed ready

end Objects

/-! One step, and whole runs -/

section Runs

variable (ddsi : DdsiInit) {topic : TopicType T} {murmur3 : Bytes → UInt32 → UInt32}
  {sertype : DdsiSertype}

theorem sendOn_readable (laws : CdrLaws topic.cdr) (objects : List (Held T)) (held : Held T)
    (index : Nat) (bytes : Bytes) (sizes : List Nat) (network : Network) (receiver : Receiver)
    (found : objects[index]? = some held) (small : bytes.length < 2 ^ 32)
    (faithful : Faithful topic.cdr bytes held) (readable : Readable held)
    (covers : Covers sizes (held.getSize topic.cdr)) :
    ∃ last received,
      sendOn ddsi topic.cdr objects index sizes network receiver =
        some (objects.set index { held with serdata := last } ++
          [{ origin := held.origin, typed := receiver.typed, serdata := received }]) ∧
      Faithful topic.cdr bytes { held with serdata := last } ∧
      received.sample = .uninitialized ∧ received.cdr = some bytes := by
  have size := getSize_faithful laws small faithful readable
  obtain ⟨windows, last, reads, joined, kept⟩ :=
    windows_faithful sizes faithful readable covers.2.2
  have whole : windows.flatten = bytes := by
    rw [joined]
    exact List.take_of_length_le (size ▸ covers.2.1)
  obtain ⟨received, accepted, raw, cached⟩ :=
    receive_carried ddsi receiver (network.wire bytes) (network.carries bytes small)
      (by rw [isizeMax]; omega)
  refine ⟨last, received, ?_, kept, raw, cached⟩
  simp [sendOn, found, covers, reads, whole, size, accepted]

/-- What a typed reader has not read yet cannot be sent on, everything else can. -/
theorem sendOn_iff (laws : CdrLaws topic.cdr) (objects : List (Held T)) (held : Held T)
    (index : Nat) (bytes : Bytes) (sizes : List Nat) (network : Network) (receiver : Receiver)
    (found : objects[index]? = some held) (small : bytes.length < 2 ^ 32)
    (faithful : Faithful topic.cdr bytes held)
    (covers : Covers sizes (held.getSize topic.cdr)) :
    (∃ next, sendOn ddsi topic.cdr objects index sizes network receiver = some next) ↔
      Readable held := by
  constructor
  · rintro ⟨next, sent⟩ typed
    obtain ⟨-, ⟨-, written⟩ | ⟨raw, -⟩⟩ := faithful
    · exact written.sample
    · have refused : held.windows topic.cdr sizes = _ :=
        undecoded_refused typed raw sizes covers.1
      simp [sendOn, found, covers, refused] at sent
  · intro readable
    obtain ⟨last, received, sent, -⟩ := sendOn_readable ddsi laws objects held index
      bytes sizes network receiver found small faithful readable covers
    exact ⟨_, sent⟩

/-- Every object is of a written value, whose bytes it stands for. -/
def Inv (cdr : CdrCrate T) (past : List (Action T)) (objects : List (Held T)) : Prop :=
  ∀ held ∈ objects, .write held.origin ∈ past ∧ ∃ bytes, Faithful cdr bytes held

/-- The cdr crate can encode every value that is written, in less than 4 GiB. -/
def Encodable (cdr : CdrCrate T) (actions : List (Action T)) : Prop :=
  ∀ value, .write value ∈ actions →
    ∃ bytes, cdr.serialize value = some bytes ∧ bytes.length < 2 ^ 32

theorem small_bytes (past : List (Action T)) (held : Held T) (bytes : Bytes)
    (encodable : Encodable topic.cdr past) (written : .write held.origin ∈ past)
    (faithful : Faithful topic.cdr bytes held) : bytes.length < 2 ^ 32 := by
  obtain ⟨encoded, serialized, small⟩ := encodable held.origin written
  cases serialized.symm.trans faithful.1
  exact small

theorem step_inv (laws : CdrLaws topic.cdr)
    (past : List (Action T)) (objects next : List (Held T)) (action : Action T)
    (encodable : Encodable topic.cdr (past ++ [action])) (inv : Inv topic.cdr past objects)
    (taken : step ddsi topic murmur3 sertype objects action = some next) :
    Inv topic.cdr (past ++ [action]) next := by
  have earlier : ∀ held ∈ objects, .write held.origin ∈ past ++ [action] ∧
      ∃ bytes, Faithful topic.cdr bytes held :=
    fun held member => ⟨List.mem_append_left _ (inv held member).1, (inv held member).2⟩
  cases action with
  | write value =>
      obtain ⟨bytes, encoded, -⟩ :=
        encodable value (List.mem_append_right _ List.mem_cons_self)
      cases built : serdataFromSample ddsi topic murmur3 sertype .sdkData (Sample.from value) with
      | error message => simp [step, built] at taken
      | ok serdata =>
          obtain ⟨hash, -, rfl⟩ := fromSample_ok ddsi topic murmur3 sertype (Sample.from value)
            value serdata rfl built
          simp only [step, built, Option.some.injEq] at taken
          subst taken
          intro held member
          rcases List.mem_append.mp member with old | new
          · exact earlier held old
          · rw [List.mem_singleton.mp new]
            exact ⟨List.mem_append_right _ List.mem_cons_self, bytes, encoded,
              .inl ⟨rfl, rfl, .inl rfl⟩⟩
  | read index =>
      obtain ⟨held, found, ⟨⟩⟩ := Option.bind_eq_some_iff.mp taken
      intro other member
      rcases List.mem_or_eq_of_mem_set member with old | rfl
      · exact earlier other old
      · obtain ⟨written, bytes, faithful⟩ := earlier held (List.mem_of_getElem? found)
        have origin : (held.read topic.cdr).origin = held.origin := by
          rw [Held.read]
          split <;> rfl
        exact ⟨origin ▸ written, bytes, (read_faithful laws faithful).1⟩
  | send index sizes network receiver =>
      obtain ⟨held, found, -⟩ := Option.bind_eq_some_iff.mp taken
      obtain ⟨written, bytes, faithful⟩ := earlier held (List.mem_of_getElem? found)
      have short := small_bytes _ held bytes encodable written faithful
      have covers : Covers sizes (held.getSize topic.cdr) := by
        by_contra uncovered
        simp [step, sendOn, found, uncovered] at taken
      have readable := (sendOn_iff ddsi laws objects held index bytes sizes network receiver found
        short faithful covers).mp ⟨next, taken⟩
      obtain ⟨last, received, sent, kept, raw, cached⟩ := sendOn_readable ddsi laws
        objects held index bytes sizes network receiver found short faithful readable covers
      cases Option.some.inj (sent.symm.trans taken)
      intro other member
      rcases List.mem_append.mp member with old | new
      · rcases List.mem_or_eq_of_mem_set old with old | rfl
        · exact earlier other old
        · exact ⟨written, bytes, kept⟩
      · rw [List.mem_singleton.mp new]
        exact ⟨written, bytes, faithful.1, .inr ⟨raw, cached⟩⟩

theorem run_inv (laws : CdrLaws topic.cdr)
    (actions : List (Action T)) (objects : List (Held T)) (encodable : Encodable topic.cdr actions)
    (run : exec (step ddsi topic murmur3 sertype) [] actions = some objects) :
    Inv topic.cdr actions objects := by
  have lifted := exec_invariant (step ddsi topic murmur3 sertype)
    (fun past objects => Encodable topic.cdr past → Inv topic.cdr past objects)
    (fun past objects action next inv taken encodable => by
      have before : Encodable topic.cdr past :=
        fun value written => encodable value (List.mem_append_left _ written)
      exact step_inv ddsi laws past objects next action encodable (inv before) taken)
    [] actions [] objects (fun _ held member => absurd member List.not_mem_nil) run
  exact lifted encodable

/-- Wherever an object has come, over whatever way, it is the one that was written: a typed
reader gets its value and an untyped one its bytes. It goes on in windows and cuts of any
kind, once a typed reader has read it, and at once where no reader knows the type. -/
theorem relayed_exactly (laws : CdrLaws topic.cdr)
    (actions : List (Action T)) (objects : List (Held T)) (encodable : Encodable topic.cdr actions)
    (run : exec (step ddsi topic murmur3 sertype) [] actions = some objects)
    (index : Nat) (held : Held T) (found : objects[index]? = some held) :
    .write held.origin ∈ actions ∧ ∃ bytes, topic.cdr.serialize held.origin = some bytes ∧
      (held.typed = true → Delivered topic.cdr held.origin (some held.serdata)) ∧
      (held.typed = false → held.serdata.cdr = some bytes) ∧
      ∀ sizes network receiver, Covers sizes (held.getSize topic.cdr) →
        ((∃ next, step ddsi topic murmur3 sertype objects
            (.send index sizes network receiver) = some next) ↔
          (held.typed = true → held.serdata.sample = .sdkData held.origin)) := by
  obtain ⟨written, bytes, faithful⟩ :=
    run_inv ddsi laws actions objects encodable run held (List.mem_of_getElem? found)
  have short := small_bytes actions held bytes encodable written faithful
  refine ⟨written, bytes, faithful.1, fun _ => delivered_faithful laws faithful, ?_, ?_⟩
  · intro untyped
    obtain ⟨-, ⟨typed, -⟩ | ⟨-, cached⟩⟩ := faithful
    · rw [untyped] at typed
      cases typed
    · exact cached
  · intro sizes network receiver covers
    exact sendOn_iff ddsi laws objects held index bytes sizes network receiver found short faithful
      covers

end Runs

/-! A lamp over two relays -/

theorem u32OfUsize_le (size : Nat) : (u32OfUsize size).toNat - (0 : UInt32).toNat ≤ size :=
  Nat.mod_le size (2 ^ 32)

/-- One fragment with everything. -/
def wholeFragment (stream : Bytes) : Fragchain :=
  { first :=
      { min := 0
        maxp1 := u32OfUsize stream.length
        payload := stream
        covers := u32OfUsize_le stream.length }
    nextfrag := [] }

theorem wholeFragment_cut (stream : Bytes) (small : stream.length < 2 ^ 32) :
    CutFrom stream 0 (wholeFragment stream).toList := by
  have number : (u32OfUsize stream.length).toNat = stream.length :=
    UInt32.toNat_ofNat_of_lt' small
  exact ⟨Nat.le_refl 0, Nat.le_of_eq number, rfl, (Nat.max_eq_right (Nat.zero_le _)).trans number⟩

def wholeNetwork : Network :=
  { wire := fun stream => .fragments (wholeFragment stream)
    carries := wholeFragment_cut }

def lampReceiver (typed : Bool) : Receiver :=
  { sertype := lampSertype
    typed := typed
    kind := .sdkData
    stats := { invalidFragchain := 0, cdrAssemblyFailed := 0 } }

def lampWay : List (Action Lamp) :=
  [.write { id := 3, level := 9 }, .send 0 [4, 2] wholeNetwork (lampReceiver false),
    .send 1 [1, 8] wholeNetwork (lampReceiver true), .read 2]

theorem lampWay_encodable : Encodable lampTopic.cdr lampWay := by
  intro value _
  exact ⟨_, rfl, (by decide : 6 < 2 ^ 32)⟩

theorem lamp_relayed : ∃ objects held,
    exec (step plainInit lampTopic murmur3_32 lampSertype) [] lampWay = some objects ∧
      objects[2]? = some held ∧ .write held.origin ∈ lampWay ∧
      ∃ bytes, lampTopic.cdr.serialize held.origin = some bytes ∧
        (held.typed = true → Delivered lampTopic.cdr held.origin (some held.serdata)) := by
  refine ⟨_, _, rfl, rfl, ?_⟩
  obtain ⟨written, bytes, encoded, delivered, -⟩ :=
    relayed_exactly plainInit lampCdr_laws lampWay _ lampWay_encodable rfl 2 _ rfl
  exact ⟨written, bytes, encoded, delivered⟩

end CycloneddsRs.Relay
