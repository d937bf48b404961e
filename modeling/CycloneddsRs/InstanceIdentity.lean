import CycloneddsRs.Serdata

/-!
Instances. CycloneDDS tells instances apart with `eqkey` and finds them by the
hash in the object. `Constructed` ranges over every way an object comes into
being; the two spec lemmas say what each leaves in the key hash and in the hash,
and the two laws of an instance table are measured against that.
-/

namespace CycloneddsRs.InstanceIdentity

open ScatterGather Serdes Serdata

variable {T : Type}

/-- What an object was first made from; `serdata_to_untyped` does not change it. -/
inductive Origin (T : Type) where
  | sample (value : T)
  | received (bytes : Bytes)
  | keyhash (key : Vector UInt8 16)

inductive Constructed (ddsi : DdsiInit) (topic : TopicType T) (murmur3 : Bytes → UInt32 → UInt32)
    (sertype : DdsiSertype) : Origin T → SerData T → Prop where
  | fromSample (sample : Sample T) (value : T) (serdata : SerData T) :
      sample.getExpected = .ok value →
      serdataFromSample ddsi topic murmur3 sertype .sdkData sample = .ok serdata →
      Constructed ddsi topic murmur3 sertype (.sample value) serdata
  | received (bytes : Bytes) (serdata : SerData T) :
      Received ddsi sertype bytes serdata →
      Constructed ddsi topic murmur3 sertype (.received bytes) serdata
  | fromKeyhash (keyhash : Vector UInt8 16) :
      Constructed ddsi topic murmur3 sertype (.keyhash keyhash)
        (serdataFromKeyhash ddsi sertype keyhash)
  | toUntyped (origin : Origin T) (serdata untyped : SerData T) :
      Constructed ddsi topic murmur3 sertype origin serdata →
      serdataToUntyped ddsi serdata = some untyped →
      Constructed ddsi topic murmur3 sertype origin untyped

section Records

variable (ddsi : DdsiInit) (topic : TopicType T) (murmur3 : Bytes → UInt32 → UInt32)
  (sertype : DdsiSertype)

def Origin.keyHash : Origin T → KeyHash
  | .keyhash key => .cdrKey (Vector.replicate 4 (0 : UInt8) ++ key : Vector UInt8 (4 + 16))
  | .sample _ | .received _ => .none

def Origin.hash : Origin T → Panics UInt32
  | .sample value => topic.hash murmur3 value sertype.serdataBasehash
  | .received _ | .keyhash _ => .ok 0

theorem toUntyped_some (serdata untyped : SerData T)
    (built : serdataToUntyped ddsi serdata = some untyped) :
    untyped.keyHash = serdata.keyHash ∧ untyped.serdata.hash = serdata.serdata.hash := by
  obtain ⟨type, -, built⟩ := Option.bind_eq_some_iff.mp built
  cases built
  exact ⟨rfl, rfl⟩

theorem constructed_keyHash (origin : Origin T) (serdata : SerData T)
    (built : Constructed ddsi topic murmur3 sertype origin serdata) :
    serdata.keyHash = origin.keyHash := by
  induction built with
  | fromSample sample value serdata expected built =>
      obtain ⟨hash, -, rfl⟩ :=
        fromSample_ok ddsi topic murmur3 sertype sample value serdata expected built
      rfl
  | received bytes serdata received =>
      exact (received_fields ddsi sertype bytes serdata received).keyHash
  | fromKeyhash keyhash => rfl
  | toUntyped origin serdata untyped _ built ih =>
      exact (toUntyped_some ddsi serdata untyped built).1.trans ih

theorem constructed_hash (origin : Origin T) (serdata : SerData T)
    (built : Constructed ddsi topic murmur3 sertype origin serdata) :
    origin.hash topic murmur3 sertype = .ok serdata.serdata.hash := by
  induction built with
  | fromSample sample value serdata expected built =>
      obtain ⟨hash, hashed, rfl⟩ :=
        fromSample_ok ddsi topic murmur3 sertype sample value serdata expected built
      exact hashed
  | received bytes serdata received =>
      rw [(received_fields ddsi sertype bytes serdata received).hash]
      rfl
  | fromKeyhash keyhash =>
      exact congrArg Except.ok (ddsi.hash_zero sertype .sdkKey).symm
  | toUntyped origin serdata untyped _ built ih =>
      rw [(toUntyped_some ddsi serdata untyped built).2]
      exact ih

theorem eqkey_records (left right : Origin T) (leftSerdata rightSerdata : SerData T)
    (leftBuilt : Constructed ddsi topic murmur3 sertype left leftSerdata)
    (rightBuilt : Constructed ddsi topic murmur3 sertype right rightSerdata) :
    serdataEqkey leftSerdata rightSerdata = true ↔ left.keyHash = right.keyHash := by
  have leftRecord := constructed_keyHash ddsi topic murmur3 sertype left leftSerdata leftBuilt
  have rightRecord := constructed_keyHash ddsi topic murmur3 sertype right rightSerdata rightBuilt
  rw [serdataEqkey, leftRecord, rightRecord, decide_eq_true_iff]

end Records

/-! Written lamps. -/

def lampSerdata (ddsi : DdsiInit) (murmur3 : Bytes → UInt32 → UInt32) (sertype : DdsiSertype)
    (lamp : Lamp) : SerData Lamp :=
  writtenSerdata ddsi sertype (murmur3 [0, 0, 0, 0, lamp.id] 0 ^^^ sertype.serdataBasehash) lamp

theorem lampSerdata_constructed (ddsi : DdsiInit) (murmur3 : Bytes → UInt32 → UInt32)
    (sertype : DdsiSertype) (lamp : Lamp) :
    Constructed ddsi lampTopic murmur3 sertype (.sample lamp)
      (lampSerdata ddsi murmur3 sertype lamp) :=
  .fromSample (Sample.from lamp) lamp _ rfl rfl

def lampKeyhash (id : UInt8) : Vector UInt8 16 :=
  (#v[id] ++ Vector.replicate 15 (0 : UInt8) : Vector UInt8 (1 + 15))

def lampKeySerdata (id : UInt8) : SerData Lamp :=
  serdataFromKeyhash plainInit lampSertype (lampKeyhash id)

/-! Identity: `eqkey` against the keys themselves. -/

/-- The 16 bytes of a short key: the encoded key without its header, zero-padded. -/
def paddedBody (encoded : Bytes) : Bytes :=
  encoded.drop 4 ++ List.replicate (16 - (encoded.length - 4)) 0

def HasKey (topic : TopicType T) : Origin T → topic.KeyHolder → Prop
  | .sample value, key => topic.toKeyHolder value = key
  | .received bytes, key =>
      ∃ value, topic.cdr.serialize value = some bytes ∧ topic.toKeyHolder value = key
  | .keyhash body, key =>
      topic.forceMd5Keyhash = false ∧ ∃ encoded, topic.keyHolderCdr.serialize key = some encoded ∧
        encoded.length ≤ 4 + 16 ∧ body.toList = paddedBody encoded

/-- Only `serdata_from_keyhash` records the key of the object. -/
def Origin.recordsKey : Origin T → Bool
  | .keyhash _ => true
  | .sample _ | .received _ => false

/-- Two recorded keys are compared. Otherwise the keys play no part: two objects
without a record always pass for one instance, and a mixed pair never does. -/
def IdentityDecided {Key : Type} (left right : Origin T) (leftKey rightKey : Key) : Prop :=
  match left.recordsKey, right.recordsKey with
  | true, true => True
  | false, false => leftKey = rightKey
  | _, _ => leftKey ≠ rightKey

theorem keyhash_injective (left right : Vector UInt8 16) :
    (Origin.keyhash left : Origin T).keyHash = (Origin.keyhash right : Origin T).keyHash ↔
      left = right := by
  constructor
  · intro same
    have lists := congrArg Vector.toList (KeyHash.cdrKey.inj same)
    have tails : (Vector.replicate 4 (0 : UInt8)).toList ++ left.toList =
        (Vector.replicate 4 (0 : UInt8)).toList ++ right.toList := by
      simpa only [Vector.toList_append] using lists
    exact Vector.toList_inj.mp (List.append_cancel_left tails)
  · intro same
    rw [same]

/-- Zero padding keeps encoded keys of one length apart. -/
theorem paddedBody_injective (left right : Bytes) (leftHeader : left.take 4 = [0, 0, 0, 0])
    (rightHeader : right.take 4 = [0, 0, 0, 0]) (lengths : left.length = right.length)
    (same : paddedBody left = paddedBody right) : left = right := by
  have bodies : left.drop 4 = right.drop 4 := by
    apply (List.append_inj same _).1
    rw [List.length_drop, List.length_drop, lengths]
  rw [← List.take_append_drop 4 left, ← List.take_append_drop 4 right, leftHeader, rightHeader,
    bodies]

theorem eqkey_identity_iff (ddsi : DdsiInit) (topic : TopicType T)
    (murmur3 : Bytes → UInt32 → UInt32) (sertype : DdsiSertype)
    (laws : CdrLaws topic.keyHolderCdr)
    (fixedLength : topic.forceMd5Keyhash = false → ∀ left right leftBytes rightBytes,
      topic.keyHolderCdr.serialize left = some leftBytes →
      topic.keyHolderCdr.serialize right = some rightBytes →
        leftBytes.length = rightBytes.length)
    (left right : Origin T) (leftSerdata rightSerdata : SerData T)
    (leftKey rightKey : topic.KeyHolder)
    (leftBuilt : Constructed ddsi topic murmur3 sertype left leftSerdata)
    (rightBuilt : Constructed ddsi topic murmur3 sertype right rightSerdata)
    (leftHas : HasKey topic left leftKey) (rightHas : HasKey topic right rightKey) :
    (serdataEqkey leftSerdata rightSerdata = true ↔ leftKey = rightKey) ↔
      IdentityDecided left right leftKey rightKey := by
  rw [eqkey_records ddsi topic murmur3 sertype left right leftSerdata rightSerdata leftBuilt
    rightBuilt]
  cases left with
  | keyhash leftHash =>
      cases right with
      | keyhash rightHash =>
          obtain ⟨short, leftBytes, leftEncoded, -, leftPadded⟩ := leftHas
          obtain ⟨-, rightBytes, rightEncoded, -, rightPadded⟩ := rightHas
          have exact : leftHash = rightHash ↔ leftKey = rightKey := by
            constructor
            · intro same
              have padded : paddedBody leftBytes = paddedBody rightBytes := by
                rw [← leftPadded, ← rightPadded, same]
              have bytes := paddedBody_injective leftBytes rightBytes
                (laws.header leftKey leftBytes leftEncoded)
                (laws.header rightKey rightBytes rightEncoded)
                (fixedLength short leftKey rightKey leftBytes rightBytes leftEncoded rightEncoded)
                padded
              exact laws.injective leftKey rightKey leftBytes leftEncoded
                (by rw [rightEncoded, bytes])
            · intro same
              subst same
              have bytes : leftBytes = rightBytes :=
                Option.some.inj (leftEncoded.symm.trans rightEncoded)
              apply Vector.toList_inj.mp
              rw [leftPadded, rightPadded, bytes]
          rw [keyhash_injective]
          exact iff_of_true exact trivial
      | sample _ | received _ =>
          simp [Origin.keyHash, IdentityDecided, Origin.recordsKey]
  | sample _ | received _ =>
      cases right <;> simp [Origin.keyHash, IdentityDecided, Origin.recordsKey]

theorem eqkey_identity_recorded_lamp :
    (serdataEqkey (lampKeySerdata 7) (lampKeySerdata 7) = true ↔ (7 : UInt8) = 7) ↔
      IdentityDecided (.keyhash (lampKeyhash 7) : Origin Lamp) (.keyhash (lampKeyhash 7))
        (7 : UInt8) 7 :=
  eqkey_identity_iff plainInit lampTopic murmur3_32 lampSertype lampKeyCdr_laws
    (fun _ left right leftBytes rightBytes leftEncoded rightEncoded => by
      cases leftEncoded
      cases rightEncoded
      rfl)
    (.keyhash (lampKeyhash 7)) (.keyhash (lampKeyhash 7)) (lampKeySerdata 7) (lampKeySerdata 7)
    (7 : UInt8) (7 : UInt8) (.fromKeyhash (lampKeyhash 7)) (.fromKeyhash (lampKeyhash 7))
    ⟨rfl, _, rfl, by decide, rfl⟩ ⟨rfl, _, rfl, by decide, rfl⟩

theorem written_lamps_confused :
    Constructed plainInit lampTopic murmur3_32 lampSertype (.sample { id := 1, level := 0 })
        (lampSerdata plainInit murmur3_32 lampSertype { id := 1, level := 0 }) ∧
      Constructed plainInit lampTopic murmur3_32 lampSertype (.sample { id := 2, level := 0 })
        (lampSerdata plainInit murmur3_32 lampSertype { id := 2, level := 0 }) ∧
      ¬ (serdataEqkey (lampSerdata plainInit murmur3_32 lampSertype { id := 1, level := 0 })
            (lampSerdata plainInit murmur3_32 lampSertype { id := 2, level := 0 }) = true ↔
          lampTopic.toKeyHolder { id := 1, level := 0 } =
            lampTopic.toKeyHolder { id := 2, level := 0 }) := by
  refine ⟨lampSerdata_constructed _ _ _ _, lampSerdata_constructed _ _ _ _, ?_⟩
  intro identity
  have confused : (1 : UInt8) = 2 := identity.mp rfl
  exact absurd confused (by decide)

/-! The hash contract: objects that `eqkey` puts together have one hash. -/

def keyMurmur (topic : TopicType T) (murmur3 : Bytes → UInt32 → UInt32) (value : T) :
    Panics UInt32 := do
  let cdr ← topic.keyCdr value
  return murmur3 cdr 0

theorem hash_ok (topic : TopicType T) (murmur3 : Bytes → UInt32 → UInt32) (value : T)
    (basehash hash : UInt32) :
    topic.hash murmur3 value basehash = .ok hash ↔
      keyMurmur topic murmur3 value = .ok (hash ^^^ basehash) := by
  unfold TopicType.hash keyMurmur
  cases topic.keyCdr value with
  | error message => exact iff_of_false nofun nofun
  | ok cdr =>
      simp only [bind, Except.bind, pure, Except.pure, Except.ok.injEq]
      constructor
      · intro hashed
        rw [← hashed, UInt32.xor_assoc, UInt32.xor_self, UInt32.xor_zero]
      · intro hashed
        rw [hashed, UInt32.xor_assoc, UInt32.xor_self, UInt32.xor_zero]

/-- A written object carries the hash of its key, every other object carries 0. -/
def HashesAgree (topic : TopicType T) (murmur3 : Bytes → UInt32 → UInt32)
    (sertype : DdsiSertype) : Origin T → Origin T → Prop
  | .sample left, .sample right => keyMurmur topic murmur3 left = keyMurmur topic murmur3 right
  | .sample value, .received _ | .received _, .sample value =>
      keyMurmur topic murmur3 value = .ok sertype.serdataBasehash
  | _, _ => True

theorem hash_zero_iff (topic : TopicType T) (murmur3 : Bytes → UInt32 → UInt32) (value : T)
    (basehash hash : UInt32) (hashed : topic.hash murmur3 value basehash = .ok hash) :
    hash = 0 ↔ keyMurmur topic murmur3 value = .ok basehash := by
  rw [hash_ok] at hashed
  rw [hashed, Except.ok.injEq]
  constructor
  · rintro rfl
    exact UInt32.zero_xor
  · intro fixed
    apply (UInt32.xor_left_inj basehash).mp
    rw [fixed, UInt32.zero_xor]

theorem eqkey_hash_iff (ddsi : DdsiInit) (topic : TopicType T)
    (murmur3 : Bytes → UInt32 → UInt32) (sertype : DdsiSertype) (left right : Origin T)
    (leftSerdata rightSerdata : SerData T)
    (leftBuilt : Constructed ddsi topic murmur3 sertype left leftSerdata)
    (rightBuilt : Constructed ddsi topic murmur3 sertype right rightSerdata) :
    (serdataEqkey leftSerdata rightSerdata = true →
        leftSerdata.serdata.hash = rightSerdata.serdata.hash) ↔
      HashesAgree topic murmur3 sertype left right := by
  have leftHashed := constructed_hash ddsi topic murmur3 sertype left leftSerdata leftBuilt
  have rightHashed := constructed_hash ddsi topic murmur3 sertype right rightSerdata rightBuilt
  rw [eqkey_records ddsi topic murmur3 sertype left right leftSerdata rightSerdata leftBuilt
    rightBuilt]
  cases left with
  | sample value =>
      cases right with
      | sample other =>
          rw [HashesAgree, (hash_ok _ _ _ _ _).mp leftHashed, (hash_ok _ _ _ _ _).mp rightHashed,
            Except.ok.injEq, UInt32.xor_left_inj]
          exact forall_prop_of_true rfl
      | received bytes =>
          rw [← Except.ok.inj rightHashed, HashesAgree,
            ← hash_zero_iff topic murmur3 value _ _ leftHashed]
          exact forall_prop_of_true rfl
      | keyhash body => exact iff_of_true nofun trivial
  | received bytes =>
      cases right with
      | sample value =>
          rw [← Except.ok.inj leftHashed, HashesAgree,
            ← hash_zero_iff topic murmur3 value _ _ rightHashed]
          exact ⟨fun agree => (agree rfl).symm, fun agree _ => agree.symm⟩
      | received other =>
          exact iff_of_true (fun _ => Except.ok.inj (leftHashed.symm.trans rightHashed)) trivial
      | keyhash body => exact iff_of_true nofun trivial
  | keyhash body =>
      cases right with
      | sample value => exact iff_of_true nofun trivial
      | received bytes => exact iff_of_true nofun trivial
      | keyhash other =>
          exact iff_of_true (fun _ => Except.ok.inj (leftHashed.symm.trans rightHashed)) trivial

theorem eqkey_hash_same_lamp :
    (serdataEqkey (lampSerdata plainInit murmur3_32 lampSertype { id := 1, level := 0 })
          (lampSerdata plainInit murmur3_32 lampSertype { id := 1, level := 9 }) = true →
        (lampSerdata plainInit murmur3_32 lampSertype { id := 1, level := 0 }).serdata.hash =
          (lampSerdata plainInit murmur3_32 lampSertype { id := 1, level := 9 }).serdata.hash) ↔
      HashesAgree lampTopic murmur3_32 lampSertype (.sample { id := 1, level := 0 })
        (.sample { id := 1, level := 9 }) :=
  eqkey_hash_iff plainInit lampTopic murmur3_32 lampSertype _ _ _ _
    (lampSerdata_constructed _ _ _ _) (lampSerdata_constructed _ _ _ _)

theorem written_lamps_split :
    Constructed plainInit lampTopic murmur3_32 lampSertype (.sample { id := 1, level := 0 })
        (lampSerdata plainInit murmur3_32 lampSertype { id := 1, level := 0 }) ∧
      Constructed plainInit lampTopic murmur3_32 lampSertype (.sample { id := 2, level := 0 })
        (lampSerdata plainInit murmur3_32 lampSertype { id := 2, level := 0 }) ∧
      serdataEqkey (lampSerdata plainInit murmur3_32 lampSertype { id := 1, level := 0 })
        (lampSerdata plainInit murmur3_32 lampSertype { id := 2, level := 0 }) = true ∧
      (lampSerdata plainInit murmur3_32 lampSertype { id := 1, level := 0 }).serdata.hash ≠
        (lampSerdata plainInit murmur3_32 lampSertype { id := 2, level := 0 }).serdata.hash :=
  ⟨lampSerdata_constructed _ _ _ _, lampSerdata_constructed _ _ _ _, by decide, by decide⟩

/-! The key hash that CycloneDDS asks for, against the algorithm that `KeyHash` cites. -/

def KeyhashOfValue (md5 : Bytes → Vector UInt8 16) (topic : TopicType T) (forceMd5 : Bool)
    (value : T) (keyhash : Vector UInt8 16) : Prop :=
  ∃ encoded, topic.keyCdr value = .ok encoded ∧
    if forceMd5 = false ∧ topic.forceMd5Keyhash = false ∧ (encoded.drop 4).length ≤ 16 then
      keyhash.toList = paddedBody encoded
    else keyhash = md5 (encoded.drop 4)

def KeyhashDue (md5 : Bytes → Vector UInt8 16) (topic : TopicType T) (forceMd5 : Bool) :
    Origin T → Vector UInt8 16 → Prop
  | .sample value, due => KeyhashOfValue md5 topic forceMd5 value due
  | .received bytes, due =>
      ∃ value, topic.cdr.serialize value = some bytes ∧
        KeyhashOfValue md5 topic forceMd5 value due
  | .keyhash body, due => due = body

/-- The 16 bytes given to `serdata_from_keyhash` come back. -/
theorem getKeyhash_recorded (serdata : SerData T) (body keyhash : Vector UInt8 16)
    (forceMd5 : Bool) (recorded : serdata.keyHash = (Origin.keyhash body : Origin T).keyHash) :
    serdataGetKeyhash serdata keyhash forceMd5 = body := by
  have bytes : ((Vector.replicate 4 (0 : UInt8) ++ body : Vector UInt8 (4 + 16)).drop 4).toList =
      body.toList := by
    rw [Vector.toList_drop, Vector.toList_append]
    rfl
  simp only [serdataGetKeyhash, recorded, Origin.keyHash]
  exact Vector.toList_inj.mp bytes

theorem getKeyhash_unrecorded (serdata : SerData T) (due : Vector UInt8 16) (forceMd5 : Bool)
    (unrecorded : serdata.keyHash = .none) :
    ¬ ∀ keyhash, serdataGetKeyhash serdata keyhash forceMd5 = due := by
  intro written
  have kept : ∀ keyhash, keyhash = due := by
    intro keyhash
    simpa only [serdataGetKeyhash, unrecorded] using written keyhash
  have same : (Vector.replicate 16 0 : Vector UInt8 16) = Vector.replicate 16 1 :=
    (kept _).trans (kept _).symm
  exact absurd same (by decide)

theorem getKeyhash_iff (ddsi : DdsiInit) (topic : TopicType T)
    (murmur3 : Bytes → UInt32 → UInt32) (sertype : DdsiSertype)
    (md5 : Bytes → Vector UInt8 16) (origin : Origin T) (serdata : SerData T)
    (forceMd5 : Bool) (due : Vector UInt8 16)
    (built : Constructed ddsi topic murmur3 sertype origin serdata)
    (owed : KeyhashDue md5 topic forceMd5 origin due) :
    (∀ keyhash, serdataGetKeyhash serdata keyhash forceMd5 = due) ↔
      origin.recordsKey = true := by
  have record := constructed_keyHash ddsi topic murmur3 sertype origin serdata built
  cases origin with
  | keyhash body =>
      cases owed
      have written : ∀ keyhash, serdataGetKeyhash serdata keyhash forceMd5 = due :=
        fun keyhash => getKeyhash_recorded serdata due keyhash forceMd5 record
      exact iff_of_true written rfl
  | sample _ | received _ =>
      exact iff_of_false (getKeyhash_unrecorded serdata due forceMd5 record) nofun

theorem getKeyhash_iff_recorded_lamp :
    (∀ keyhash, serdataGetKeyhash (lampKeySerdata 7) keyhash false = lampKeyhash 7) ↔
      (Origin.keyhash (lampKeyhash 7) : Origin Lamp).recordsKey = true :=
  getKeyhash_iff plainInit lampTopic murmur3_32 lampSertype (fun _ => Vector.replicate 16 0)
    (.keyhash (lampKeyhash 7)) (lampKeySerdata 7) false (lampKeyhash 7)
    (.fromKeyhash (lampKeyhash 7)) rfl

/-- The key hash due is 7 followed by zeros; the buffer keeps what it held. -/
theorem written_lamp_keyhash_unwritten :
    Constructed plainInit lampTopic murmur3_32 lampSertype (.sample { id := 7, level := 0 })
        (lampSerdata plainInit murmur3_32 lampSertype { id := 7, level := 0 }) ∧
      KeyhashDue (fun _ => Vector.replicate 16 0) lampTopic false
        (.sample { id := 7, level := 0 }) (lampKeyhash 7) ∧
      serdataGetKeyhash (lampSerdata plainInit murmur3_32 lampSertype { id := 7, level := 0 })
        (Vector.replicate 16 255) false ≠ lampKeyhash 7 :=
  ⟨lampSerdata_constructed _ _ _ _, ⟨_, rfl, by simp; rfl⟩, by decide⟩

end CycloneddsRs.InstanceIdentity
