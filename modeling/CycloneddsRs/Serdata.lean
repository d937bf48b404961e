import CycloneddsRs.Serdes
import Mathlib.Algebra.Group.Nat.Defs

/-!
serdata.rs: the object CycloneDDS keeps for one sample and the operation tables
over it. A null result is `none`, a panic an error with its message. Operations
that look at one object take and return its value; reference counts of shared
objects are the business of the sample heap.
-/

namespace CycloneddsRs.Serdata

open ScatterGather Serdes

inductive KeyHash where
  | none
  | cdrKey (key : Vector UInt8 20)
  deriving DecidableEq

def KeyHash.keyLength : KeyHash → Nat
  | .none => 0
  | .cdrKey key => key.size

inductive SampleData (T : Type) where
  | uninitialized
  | sdkKey
  | sdkData (value : T)

inductive SerdataKind where
  | sdkEmpty | sdkKey | sdkData
  deriving DecidableEq, Repr

structure DdsiSertype where
  typeName : String
  serdataBasehash : UInt32

structure DdsiSerdata where
  hash : UInt32
  refc : Nat
  kind : SerdataKind
  type : Option DdsiSertype
  timestamp : Int
  statusinfo : UInt32

/-- `ddsi_serdata_init` of the C library, with the fields it is documented to set. -/
structure DdsiInit where
  init : DdsiSertype → SerdataKind → DdsiSerdata
  hash_zero : ∀ sertype kind, (init sertype kind).hash = 0
  refc_one : ∀ sertype kind, (init sertype kind).refc = 1
  kind_given : ∀ sertype kind, (init sertype kind).kind = kind
  type_given : ∀ sertype kind, (init sertype kind).type = some sertype

structure SerData (T : Type) where
  serdata : DdsiSerdata
  sample : SampleData T
  cdr : Option Bytes
  keyHash : KeyHash

variable {T : Type}

def SerData.new (ddsi : DdsiInit) (sertype : DdsiSertype) (kind : SerdataKind) : SerData T :=
  { serdata := ddsi.init sertype kind, sample := .uninitialized, cdr := none, keyHash := .none }

def SerData.addref (serdata : SerData T) : SerData T :=
  { serdata with serdata := { serdata.serdata with refc := serdata.serdata.refc + 1 } }

/-! stats.rs -/

inductive DiscardReason where
  | invalidFragchain
  | cdrAssemblyFailed
  deriving DecidableEq, Repr

structure DiscardedSamples where
  invalidFragchain : UInt64
  cdrAssemblyFailed : UInt64
  deriving DecidableEq, Repr

def countDiscardedSample (stats : DiscardedSamples) : DiscardReason → DiscardedSamples
  | .invalidFragchain => { stats with invalidFragchain := stats.invalidFragchain + 1 }
  | .cdrAssemblyFailed => { stats with cdrAssemblyFailed := stats.cdrAssemblyFailed + 1 }

/-! Constructors -/

def serdataEqkey (left right : SerData T) : Bool := left.keyHash = right.keyHash

/-- One received fragment. The payload holds the bytes from `min` to `maxp1`. -/
structure Rdata where
  min : UInt32
  maxp1 : UInt32
  payload : Bytes
  covers : maxp1.toNat - min.toNat ≤ payload.length

/-- A fragment chain as the C library hands it over: it has a first element. -/
structure Fragchain where
  first : Rdata
  nextfrag : List Rdata

def Fragchain.toList (chain : Fragchain) : List Rdata := chain.first :: chain.nextfrag

def checkedSub (left right : UInt32) : Option UInt32 :=
  if right ≤ left then some (left - right) else none

/-- A `u32` subtraction outside `checked_sub`. -/
def u32Sub (left right : UInt32) : Panics UInt32 :=
  if right ≤ left then .ok (left - right) else .error "attempt to subtract with overflow"

/-- The while loop over the chain. `off` is the end of the bytes collected so far. -/
def gatherFragments (size : Nat) :
    UInt32 → List Bytes → List Rdata → Panics (Except DiscardReason (List Bytes))
  | _, sgList, [] => .ok (.ok sgList)
  | off, sgList, frag :: rest =>
      match checkedSub off frag.min with
      | none => .ok (.error .invalidFragchain)
      | some fragOffset =>
          if off < frag.maxp1 then do
            let nBytes ← u32Sub frag.maxp1 off
            let source := (frag.payload.drop fragOffset.toNat).take nBytes.toNat
            if size < frag.maxp1.toNat then return .error .invalidFragchain
            else gatherFragments size frag.maxp1 (sgList ++ [source]) rest
          else gatherFragments size off sgList rest

/-- The subtraction that is not checked stands behind a comparison, so it cannot panic. -/
theorem gatherFragments_cons (size : Nat) (off : UInt32) (sgList : List Bytes) (frag : Rdata)
    (rest : List Rdata) :
    gatherFragments size off sgList (frag :: rest) =
      if off < frag.min then .ok (.error .invalidFragchain)
      else if off < frag.maxp1 then
        if size < frag.maxp1.toNat then .ok (.error .invalidFragchain)
        else gatherFragments size frag.maxp1 (sgList ++
          [(frag.payload.drop (off - frag.min).toNat).take (frag.maxp1 - off).toNat]) rest
      else gatherFragments size off sgList rest := by
  by_cases behind : off < frag.min
  · have refused : ¬ frag.min ≤ off := UInt32.not_le.mpr behind
    simp only [gatherFragments, checkedSub, if_neg refused, if_pos behind]
  · have ordered : frag.min ≤ off := UInt32.not_lt.mp behind
    by_cases longer : off < frag.maxp1
    · have above : off ≤ frag.maxp1 := UInt32.le_of_lt longer
      simp only [gatherFragments, checkedSub, u32Sub, if_pos ordered, if_pos longer, if_pos above,
        if_neg behind]
      rfl
    · simp only [gatherFragments, checkedSub, if_pos ordered, if_neg longer, if_neg behind]

def assembleFragchain (chain : Fragchain) (size : Nat) : Panics (Except DiscardReason Bytes) :=
  if chain.first.min ≠ 0 ∨ chain.first.maxp1 < 0 then .ok (.error .invalidFragchain)
  else do
    match ← gatherFragments size 0 [] chain.toList with
    | .error reason => return .error reason
    | .ok sgList =>
        match ← (SGReader.new sgList).intoVec size with
        | .ok cdr => return .ok cdr
        | .error _ => return .error .cdrAssemblyFailed

def serdataFromFragchain (ddsi : DdsiInit) (sertype : DdsiSertype) (kind : SerdataKind)
    (chain : Fragchain) (size : Nat) (stats : DiscardedSamples) :
    Panics (Option (SerData T) × DiscardedSamples) := do
  match ← assembleFragchain chain size with
  | .ok cdr => return (some { SerData.new ddsi sertype kind with cdr := some cdr }, stats)
  | .error reason => return (none, countDiscardedSample stats reason)

/-- A C `iovec`: the bytes behind a base pointer, which may be null, and a length. -/
structure Iovec where
  base : Option Bytes
  len : Nat

def Iovec.bytes (iov : Iovec) : Bytes := (iov.base.getD []).take iov.len

def serdataFromSerIov (ddsi : DdsiInit) (sertype : DdsiSertype) (kind : SerdataKind)
    (iovs : List Iovec) (size : Nat) (stats : DiscardedSamples) :
    Panics (Option (SerData T) × DiscardedSamples) := do
  match ← (SGReader.new (iovs.map Iovec.bytes)).intoVec size with
  | .ok cdr => return (some { SerData.new ddsi sertype kind with cdr := some cdr }, stats)
  | .error _ => return (none, countDiscardedSample stats .cdrAssemblyFailed)

def serdataFromKeyhash (ddsi : DdsiInit) (sertype : DdsiSertype) (keyhash : Vector UInt8 16) :
    SerData T :=
  let serdata : SerData T := SerData.new ddsi sertype .sdkKey
  { serdata with
    sample := .sdkKey
    keyHash := .cdrKey (Vector.replicate 4 (0 : UInt8) ++ keyhash : Vector UInt8 (4 + 16)) }

def serdataFromSample (ddsi : DdsiInit) (topic : TopicType T)
    (murmur3 : Bytes → UInt32 → UInt32) (sertype : DdsiSertype) (kind : SerdataKind)
    (sample : Sample T) : Panics (SerData T) :=
  match kind with
  | .sdkData => do
      let serdata : SerData T := SerData.new ddsi sertype kind
      let value ← sample.getExpected
      let hash ← topic.hash murmur3 value sertype.serdataBasehash
      return { serdata with
        serdata := { serdata.serdata with hash := hash }
        sample := .sdkData value }
  | .sdkKey => .error "Don't know how to create serdata from sample for SDK_KEY"
  | .sdkEmpty => .error "Unexpected kind"

def writtenSerdata (ddsi : DdsiInit) (sertype : DdsiSertype) (hash : UInt32) (value : T) :
    SerData T :=
  { (SerData.new ddsi sertype .sdkData : SerData T) with
    serdata := { ddsi.init sertype .sdkData with hash := hash }
    sample := .sdkData value }

theorem fromSample_hashed (ddsi : DdsiInit) (topic : TopicType T)
    (murmur3 : Bytes → UInt32 → UInt32) (sertype : DdsiSertype) (sample : Sample T) (value : T)
    (hash : UInt32) (expected : sample.getExpected = .ok value)
    (hashed : topic.hash murmur3 value sertype.serdataBasehash = .ok hash) :
    serdataFromSample ddsi topic murmur3 sertype .sdkData sample =
      .ok (writtenSerdata ddsi sertype hash value) := by
  simp only [serdataFromSample, expected, hashed, bind, Except.bind, pure, Except.pure]
  rfl

theorem fromSample_ok (ddsi : DdsiInit) (topic : TopicType T) (murmur3 : Bytes → UInt32 → UInt32)
    (sertype : DdsiSertype) (sample : Sample T) (value : T) (serdata : SerData T)
    (expected : sample.getExpected = .ok value)
    (built : serdataFromSample ddsi topic murmur3 sertype .sdkData sample = .ok serdata) :
    ∃ hash, topic.hash murmur3 value sertype.serdataBasehash = .ok hash ∧
      serdata = writtenSerdata ddsi sertype hash value := by
  cases hashed : topic.hash murmur3 value sertype.serdataBasehash with
  | error message =>
      simp [serdataFromSample, expected, hashed, bind, Except.bind] at built
  | ok hash =>
      rw [fromSample_hashed ddsi topic murmur3 sertype sample value hash expected hashed] at built
      exact ⟨hash, rfl, (Except.ok.inj built).symm⟩

inductive LoanedSampleState where
  | unitialized | rawKey | rawData | serializedKey | serializedData
  deriving DecidableEq, Repr

structure PsmxMetadata where
  sampleState : LoanedSampleState
  sampleSize : UInt32
  timestamp : Int
  statusinfo : UInt32
  cdrIdentifier : UInt16
  cdrOptions : UInt16

structure LoanedSample where
  metadata : Option PsmxMetadata
  samplePtr : Option Bytes

def LoanedSampleState.kind : LoanedSampleState → Option SerdataKind
  | .serializedData => some .sdkData
  | .serializedKey => some .sdkKey
  | _ => none

def serdataFromPsmx (ddsi : DdsiInit) (sertype : Option DdsiSertype)
    (loanedSample : Option LoanedSample) : Option (SerData T) := do
  let sertype ← sertype
  let loan ← loanedSample
  let metadata ← loan.metadata
  let samplePtr ← loan.samplePtr
  let kind ← metadata.sampleState.kind
  -- Only XCDR1 big-endian is read.
  if metadata.cdrIdentifier ≠ 0 ∨ metadata.cdrOptions ≠ 0 then none
  else
    let serdata : SerData T := SerData.new ddsi sertype kind
    some { serdata with
      cdr := some (samplePtr.take metadata.sampleSize.toNat)
      serdata := { serdata.serdata with
        statusinfo := metadata.statusinfo
        timestamp := metadata.timestamp } }

/-- The objects built directly from received CDR bytes, whichever way they came. -/
inductive Received (ddsi : DdsiInit) (sertype : DdsiSertype) (bytes : Bytes) :
    SerData T → Prop where
  | fromFragchain {serdata : SerData T} (kind : SerdataKind) (chain : Fragchain) (size : Nat)
      (stats after : DiscardedSamples) :
      serdataFromFragchain ddsi sertype kind chain size stats = .ok (some serdata, after) →
      serdata.cdr = some bytes → Received ddsi sertype bytes serdata
  | fromSerIov {serdata : SerData T} (kind : SerdataKind) (iovs : List Iovec) (size : Nat)
      (stats after : DiscardedSamples) :
      serdataFromSerIov ddsi sertype kind iovs size stats = .ok (some serdata, after) →
      serdata.cdr = some bytes → Received ddsi sertype bytes serdata
  | fromPsmx {serdata : SerData T} (loanedSample : LoanedSample) :
      serdataFromPsmx ddsi (some sertype) (some loanedSample) = some serdata →
      serdata.cdr = some bytes → Received ddsi sertype bytes serdata

/-- What every receive path leaves in the object besides the bytes. -/
structure AsReceived (sertype : DdsiSertype) (bytes : Bytes) (serdata : SerData T) : Prop where
  cdr : serdata.cdr = some bytes
  sample : serdata.sample = .uninitialized
  keyHash : serdata.keyHash = .none
  hash : serdata.serdata.hash = 0
  type : serdata.serdata.type = some sertype

theorem fromFragchain_some (ddsi : DdsiInit) (sertype : DdsiSertype) (kind : SerdataKind)
    (chain : Fragchain) (size : Nat) (stats after : DiscardedSamples) (serdata : SerData T)
    (built : serdataFromFragchain ddsi sertype kind chain size stats = .ok (some serdata, after)) :
    ∃ cdr, assembleFragchain chain size = .ok (.ok cdr) ∧
      serdata = { SerData.new ddsi sertype kind with cdr := some cdr } ∧ after = stats := by
  unfold serdataFromFragchain at built
  cases assembled : assembleFragchain chain size with
  | error message =>
      rw [assembled] at built
      cases built
  | ok outcome =>
      rw [assembled] at built
      cases outcome with
      | error reason => cases built
      | ok cdr =>
          cases built
          exact ⟨cdr, rfl, rfl, rfl⟩

theorem fromSerIov_some (ddsi : DdsiInit) (sertype : DdsiSertype) (kind : SerdataKind)
    (iovs : List Iovec) (size : Nat) (stats after : DiscardedSamples) (serdata : SerData T)
    (built : serdataFromSerIov ddsi sertype kind iovs size stats = .ok (some serdata, after)) :
    ∃ cdr, (SGReader.new (iovs.map Iovec.bytes)).intoVec size = .ok (.ok cdr) ∧
      serdata = { SerData.new ddsi sertype kind with cdr := some cdr } ∧ after = stats := by
  unfold serdataFromSerIov at built
  cases assembled : (SGReader.new (iovs.map Iovec.bytes)).intoVec size with
  | error message =>
      rw [assembled] at built
      cases built
  | ok outcome =>
      rw [assembled] at built
      cases outcome with
      | error kind => cases built
      | ok cdr =>
          cases built
          exact ⟨cdr, rfl, rfl, rfl⟩

theorem fromPsmx_some (ddsi : DdsiInit) (sertype : DdsiSertype) (loanedSample : LoanedSample)
    (serdata : SerData T)
    (built : serdataFromPsmx ddsi (some sertype) (some loanedSample) = some serdata) :
    ∃ (kind : SerdataKind) (metadata : PsmxMetadata) (samplePtr : Bytes),
      serdata = { SerData.new ddsi sertype kind with
        cdr := some (samplePtr.take metadata.sampleSize.toNat)
        serdata := { ddsi.init sertype kind with
          statusinfo := metadata.statusinfo
          timestamp := metadata.timestamp } } := by
  obtain ⟨metadata, -, built⟩ := Option.bind_eq_some_iff.mp built
  obtain ⟨samplePtr, -, built⟩ := Option.bind_eq_some_iff.mp built
  obtain ⟨kind, -, built⟩ := Option.bind_eq_some_iff.mp built
  split at built
  · cases built
  · exact ⟨kind, metadata, samplePtr, (Option.some.inj built).symm⟩

theorem received_fields (ddsi : DdsiInit) (sertype : DdsiSertype) (bytes : Bytes)
    (serdata : SerData T) (received : Received ddsi sertype bytes serdata) :
    AsReceived sertype bytes serdata := by
  cases received with
  | fromFragchain kind chain size stats after built cdr =>
      obtain ⟨_, -, rfl, -⟩ :=
        fromFragchain_some ddsi sertype kind chain size stats after serdata built
      exact ⟨cdr, rfl, rfl, ddsi.hash_zero sertype kind, ddsi.type_given sertype kind⟩
  | fromSerIov kind iovs size stats after built cdr =>
      obtain ⟨_, -, rfl, -⟩ :=
        fromSerIov_some ddsi sertype kind iovs size stats after serdata built
      exact ⟨cdr, rfl, rfl, ddsi.hash_zero sertype kind, ddsi.type_given sertype kind⟩
  | fromPsmx loanedSample built cdr =>
      obtain ⟨kind, _, _, rfl⟩ := fromPsmx_some ddsi sertype loanedSample serdata built
      exact ⟨cdr, rfl, rfl, ddsi.hash_zero sertype kind, ddsi.type_given sertype kind⟩

/-- An object without a type cannot be made untyped again: `ddsi_serdata_init`
would read through a null `type_`. -/
def serdataToUntyped (ddsi : DdsiInit) (serdata : SerData T) : Option (SerData T) := do
  let type ← serdata.serdata.type
  let untyped : SerData T := SerData.new ddsi type .sdkKey
  return { untyped with
    serdata := { untyped.serdata with type := none, hash := serdata.serdata.hash }
    sample := .sdkKey
    keyHash := serdata.keyHash }

/-! Serialized access -/

def usizeMax : Nat := 2 ^ 64 - 1

def usizeAdd (left right : Nat) : Panics Nat :=
  if left + right ≤ usizeMax then .ok (left + right)
  else .error "attempt to add with overflow"

/-- The slice both `to_ser_ref` operations expose of the serialized bytes. -/
def cdrWindow (cdr : Bytes) (offset size : Nat) : Panics Bytes :=
  if offset < cdr.length then do
    let last := min (← usizeAdd offset size) cdr.length
    return (cdr.take last).drop offset
  else .ok []

def windowIovec (window : Bytes) : Iovec :=
  { base := if window.isEmpty then none else some window, len := window.length }

/-- The new state of the object carries the reference taken for the caller. -/
def forwardSerdataToSerRef (serdata : SerData T) (offset size : Nat) :
    Panics (Option (Iovec × SerData T)) :=
  match serdata.cdr with
  | some cdr => do
      let window ← cdrWindow cdr offset size
      return some (windowIovec window, serdata.addref)
  | none => .ok none

def SerData.serializeSample (serdata : SerData T) (cdr : CdrCrate T) (sample : T) :
    Option (SerData T) :=
  (cdr.serialize sample).map fun bytes => { serdata with cdr := some bytes }

def serdataToSerRef (cdr : CdrCrate T) (serdata : SerData T) (offset size : Nat) :
    Panics (Option (Iovec × SerData T)) :=
  match serdata.sample with
  | .uninitialized => .error "Attempt to serialize uninitialized Sample"
  | .sdkKey =>
      let iov : Iovec := match serdata.keyHash with
        | .none => { base := none, len := 0 }
        | .cdrKey key => { base := some key.toList, len := key.size }
      .ok (some (iov, serdata.addref))
  | .sdkData sample =>
      let serialized := if serdata.cdr.isNone then serdata.serializeSample cdr sample
        else some serdata
      match serialized with
      | none => .ok none
      | some serdata =>
          match serdata.cdr with
          | some cdr => do
              let window ← cdrWindow cdr offset size
              return some (windowIovec window, serdata.addref)
          | none => .ok none

def u32OfUsize (size : Nat) : UInt32 := UInt32.ofNat size

def forwardSerdataGetSize (serdata : SerData T) : UInt32 :=
  match serdata.cdr with
  | some cdr => u32OfUsize cdr.length
  | none => 0

def serdataGetSize (cdr : CdrCrate T) (serdata : SerData T) : UInt32 :=
  match serdata.sample with
  | .sdkKey => u32OfUsize serdata.keyHash.keyLength
  | .sdkData sample =>
      match serdata.cdr with
      | some bytes => u32OfUsize bytes.length
      | none => u32OfUsize (cdr.calcSerializedSize sample)
  | .uninitialized => 0

/-- The `ddsi_keyhash` buffer after the call. Without a record it is not written, and
`force_md5` is not looked at. -/
def serdataGetKeyhash (serdata : SerData T) (keyhash : Vector UInt8 16) (_forceMd5 : Bool) :
    Vector UInt8 16 :=
  match serdata.keyHash with
  | .none => keyhash
  | .cdrKey key => (key.drop 4 : Vector UInt8 (20 - 4))

/-! The C library and the sertype of a lamp, for concrete runs. -/

def plainInit : DdsiInit :=
  { init := fun sertype kind =>
      { hash := 0, refc := 1, kind := kind, type := some sertype, timestamp := 0, statusinfo := 0 }
    hash_zero := fun _ _ => rfl
    refc_one := fun _ _ => rfl
    kind_given := fun _ _ => rfl
    type_given := fun _ _ => rfl }

def lampSertype : DdsiSertype := { typeName := "Lamp", serdataBasehash := 0 }

end CycloneddsRs.Serdata
