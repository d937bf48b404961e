import CycloneddsRs.ScatterGather

/-!
serdes.rs: what `derive(Topic)` gives the binding about a type, and the `Sample`
an application reads into or writes from. The cdr and murmur3 crates are not
part of the repository: `CdrCrate` collects the calls made to cdr at one type,
`CdrLaws` what the binding relies on, and murmur3 is a plain parameter.
-/

namespace CycloneddsRs.Serdes

open ScatterGather

/-- A Rust panic, with its message. -/
abbrev Panics := Except String

structure CdrCrate (T : Type) where
  serialize : T → Option Bytes
  /-- `serialize_into` a `&mut [u8]`; the result is the buffer after the call. -/
  serializeInto : Bytes → T → Option Bytes
  calcSerializedSize : T → Nat
  deserializeFrom : Bytes → Nat → Option T

/-- What the binding relies on, of the values that cdr can encode. -/
structure CdrLaws {T : Type} (cdr : CdrCrate T) : Prop where
  header : ∀ value bytes, cdr.serialize value = some bytes → bytes.take 4 = [0, 0, 0, 0]
  size : ∀ value bytes, cdr.serialize value = some bytes →
    bytes.length = cdr.calcSerializedSize value
  into : ∀ value bytes buffer, cdr.serialize value = some bytes →
    bytes.length ≤ buffer.length →
      cdr.serializeInto buffer value = some (bytes ++ buffer.drop bytes.length)
  deserialize : ∀ value bytes, cdr.serialize value = some bytes →
    cdr.deserializeFrom bytes bytes.length = some value

theorem CdrLaws.injective {T : Type} {cdr : CdrCrate T} (laws : CdrLaws cdr) (left right : T)
    (bytes : Bytes) (leftEncoded : cdr.serialize left = some bytes)
    (rightEncoded : cdr.serialize right = some bytes) : left = right := by
  have first := laws.deserialize left bytes leftEncoded
  have second := laws.deserialize right bytes rightEncoded
  exact Option.some.inj (first.symm.trans second)

/-- `KeyHolder` is the generated key holder struct, `toKeyHolder` its `From<&T>`. -/
structure TopicType (T : Type) where
  KeyHolder : Type
  toKeyHolder : T → KeyHolder
  cdr : CdrCrate T
  keyHolderCdr : CdrCrate KeyHolder
  hasKey : Bool
  forceMd5Keyhash : Bool

variable {T : Type}

def TopicType.keyCdr (topic : TopicType T) (value : T) : Panics Bytes :=
  match topic.keyHolderCdr.serialize (topic.toKeyHolder value) with
  | some encoded => .ok encoded
  | none => .error "Unable to serialize key"

def TopicType.hash (topic : TopicType T) (murmur3 : Bytes → UInt32 → UInt32) (value : T)
    (basehash : UInt32) : Panics UInt32 := do
  let cdr ← topic.keyCdr value
  return murmur3 cdr 0 ^^^ basehash

inductive SampleStorage (T : Type) where
  | owned (value : T)
  | loaned (value : T)

/-- `serdata` is the address of the received object; it is counted, not owned. -/
structure Sample (T : Type) where
  serdata : Option Nat
  sample : Option (SampleStorage T)

def Sample.default : Sample T := { serdata := none, sample := none }

def Sample.from (data : T) : Sample T :=
  { serdata := none, sample := some (.owned data) }

def Sample.getExpected (sample : Sample T) : Panics T :=
  match sample.sample with
  | some (.owned value) => .ok value
  | _ => .error "Sample does not contain owned data"

/-! MurmurHash3, the 32-bit variant, as the murmur3 crate computes it. -/

def rotateLeft (word : UInt32) (count : UInt32) : UInt32 :=
  word <<< count ||| word >>> (32 - count)

def littleEndian : Bytes → UInt32
  | [] => 0
  | byte :: rest => byte.toUInt32 ||| littleEndian rest <<< 8

def scramble (block : UInt32) : UInt32 := rotateLeft (block * 0xcc9e2d51) 15 * 0x1b873593

def murmurBlocks : UInt32 → Bytes → UInt32
  | hash, first :: second :: third :: fourth :: rest =>
      let mixed := hash ^^^ scramble (littleEndian [first, second, third, fourth])
      murmurBlocks (rotateLeft mixed 13 * 5 + 0xe6546b64) rest
  | hash, tail => hash ^^^ scramble (littleEndian tail)

def murmur3_32 (bytes : Bytes) (seed : UInt32) : UInt32 :=
  let hash := murmurBlocks seed bytes ^^^ UInt32.ofNat bytes.length
  let hash := (hash ^^^ hash >>> 16) * 0x85ebca6b
  let hash := (hash ^^^ hash >>> 13) * 0xc2b2ae35
  hash ^^^ hash >>> 16

/-! A keyed type with two byte fields, the smallest one `derive(Topic)` gives a
key holder with a field: `struct Lamp { #[topic_key] id: u8, level: u8 }`. -/

structure Lamp where
  id : UInt8
  level : UInt8
  deriving DecidableEq

/-- cdr at a type whose fields are bytes: the CDR_BE header, then the fields. -/
def byteFieldsCdr (toBytes : T → Bytes) (ofBytes : Bytes → Option T) : CdrCrate T :=
  { serialize := fun value => some ([0, 0, 0, 0] ++ toBytes value)
    serializeInto := fun buffer value =>
      let bytes := [0, 0, 0, 0] ++ toBytes value
      if bytes.length ≤ buffer.length then some (bytes ++ buffer.drop bytes.length) else none
    calcSerializedSize := fun value => 4 + (toBytes value).length
    deserializeFrom := fun bytes bound => ofBytes ((bytes.take bound).drop 4) }

theorem byteFieldsCdr_laws (toBytes : T → Bytes) (ofBytes : Bytes → Option T)
    (inverse : ∀ value, ofBytes (toBytes value) = some value) :
    CdrLaws (byteFieldsCdr toBytes ofBytes) := by
  constructor
  · intro value bytes encoded
    cases encoded
    rfl
  · intro value bytes encoded
    cases encoded
    exact List.length_append
  · intro value bytes buffer encoded fits
    cases encoded
    exact if_pos fits
  · intro value bytes encoded
    cases encoded
    simpa [byteFieldsCdr] using inverse value

def lampCdr : CdrCrate Lamp :=
  byteFieldsCdr (fun lamp => [lamp.id, lamp.level]) fun bytes =>
    match bytes with
    | id :: level :: _ => some { id := id, level := level }
    | _ => none

def lampKeyCdr : CdrCrate UInt8 := byteFieldsCdr (fun id => [id]) List.head?

def lampTopic : TopicType Lamp :=
  { KeyHolder := UInt8
    toKeyHolder := Lamp.id
    cdr := lampCdr
    keyHolderCdr := lampKeyCdr
    hasKey := true
    forceMd5Keyhash := false }

theorem lampCdr_laws : CdrLaws lampCdr := byteFieldsCdr_laws _ _ fun _ => rfl

theorem lampKeyCdr_laws : CdrLaws lampKeyCdr := byteFieldsCdr_laws _ _ fun _ => rfl

end CycloneddsRs.Serdes
