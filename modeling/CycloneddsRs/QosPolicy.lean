import CycloneddsRs.DdsError
import Mathlib.Algebra.Order.Ring.Int
import Mathlib.Algebra.Order.Ring.Nat

/-!
dds_qos.rs: the `Policy` summary and its two conversions with a `DdsQos`. A `DdsQos` is
the record of the policies set so far: a getter returns what was set, or `none`. The
policies that `Policy` never sets or reads are left out.
-/

namespace CycloneddsRs.QosPolicy
open DdsError

/-- `std::time::Duration`. -/
@[ext] structure Duration where
  secs : Nat
  nanos : Nat
  secsBound : secs < 2 ^ 64
  nanosBound : nanos < 1000000000
  deriving DecidableEq, Repr

namespace Duration

def asNanos (duration : Duration) : Nat :=
  duration.secs * 1000000000 + duration.nanos

/-- The `u64` argument bounds the seconds. -/
def fromNanos (nanos : UInt64) : Duration where
  secs := nanos.toNat / 1000000000
  nanos := nanos.toNat % 1000000000
  secsBound := Nat.lt_of_le_of_lt (Nat.div_le_self _ _) nanos.toNat_lt
  nanosBound := Nat.mod_lt _ (by decide)

def fromMillis (millis : UInt64) : Duration where
  secs := millis.toNat / 1000
  nanos := millis.toNat % 1000 * 1000000
  secsBound := Nat.lt_of_le_of_lt (Nat.div_le_self _ _) millis.toNat_lt
  nanosBound := by
    have small : millis.toNat % 1000 < 1000 := Nat.mod_lt _ (by decide)
    omega

def zero : Duration where
  secs := 0
  nanos := 0
  secsBound := by decide
  nanosBound := by decide

theorem asNanos_injective (first second : Duration) (same : first.asNanos = second.asNanos) :
    first = second := by
  have firstNanos := first.nanosBound
  have secondNanos := second.nanosBound
  simp only [asNanos] at same
  ext
  · omega
  · omega

@[simp] theorem asNanos_fromNanos (nanos : UInt64) : (fromNanos nanos).asNanos = nanos.toNat := by
  simp only [asNanos, fromNanos]
  omega

end Duration

/-- `DDS_INFINITY`. -/
def ddsInfinity : Int64 := Int64.maxValue

/-- The cast to `i64` after the minimum. -/
def toDdsDuration (duration : Duration) : Int64 :=
  Int64.ofNat (min duration.asNanos (2 ^ 63 - 1))

/-- The cast to `u64` after the maximum. -/
def fromDdsDuration (duration : Int64) : Duration :=
  Duration.fromNanos (UInt64.ofNat (max duration.toInt 0).toNat)

/-- `i32::saturating_mul`. -/
def saturatingMul (left right : Int32) : Int32 :=
  Int32.ofInt (max (-2147483648) (min 2147483647 (left.toInt * right.toInt)))

inductive HistoryKind where
  | keepLast
  | keepAll
  deriving DecidableEq, Repr

inductive ReliabilityKind where
  | bestEffort
  | reliable
  deriving DecidableEq, Repr

inductive DurabilityKind where
  | volatile
  | transientLocal
  | transient
  | persistent
  deriving DecidableEq, Repr

structure ResourceLimits where
  maxSamples : Int32
  maxInstances : Int32
  maxSamplesPerInstance : Int32
  deriving DecidableEq, Repr

structure DurabilityService where
  serviceCleanupDelay : Int64
  historyKind : HistoryKind
  historyDepth : Int32
  resourceLimits : ResourceLimits
  deriving DecidableEq, Repr

structure DdsQos where
  durabilitySet : Option DurabilityKind
  historySet : Option (HistoryKind × Int32)
  resourceLimitsSet : Option ResourceLimits
  reliabilitySet : Option (ReliabilityKind × Int64)
  durabilityServiceSet : Option DurabilityService
  deriving DecidableEq, Repr

def validateHistory (history : HistoryKind) (depth : Int32) : Except DDSError Unit :=
  if history = .keepLast ∧ depth ≤ 0 then .error .badParameter else .ok ()

namespace DdsQos

/-- `dds_create_qos` returns a null pointer when no memory is left. -/
def create (allocated : Bool) : Except DDSError DdsQos :=
  if allocated then .ok ⟨none, none, none, none, none⟩ else .error .outOfResources

def setDurability (qos : DdsQos) (durability : DurabilityKind) : DdsQos :=
  { qos with durabilitySet := some durability }

def setHistory (qos : DdsQos) (history : HistoryKind) (depth : Int32) :
    Except DDSError DdsQos := do
  validateHistory history depth
  return { qos with historySet := some (history, depth) }

def setResourceLimits (qos : DdsQos) (maxSamples maxInstances maxSamplesPerInstance : Int32) :
    DdsQos :=
  { qos with resourceLimitsSet := some ⟨maxSamples, maxInstances, maxSamplesPerInstance⟩ }

def setReliability (qos : DdsQos) (kind : ReliabilityKind) (maxBlockingTime : Duration) :
    DdsQos :=
  { qos with reliabilitySet := some (kind, toDdsDuration maxBlockingTime) }

def setDurabilityService (qos : DdsQos) (serviceCleanupDelay : Duration)
    (historyKind : HistoryKind) (historyDepth maxSamples maxInstances maxSamplesPerInstance : Int32) :
    Except DDSError DdsQos := do
  validateHistory historyKind historyDepth
  let service : DurabilityService := {
    serviceCleanupDelay := toDdsDuration serviceCleanupDelay
    historyKind := historyKind
    historyDepth := historyDepth
    resourceLimits := ⟨maxSamples, maxInstances, maxSamplesPerInstance⟩
  }
  return { qos with durabilityServiceSet := some service }

def durability (qos : DdsQos) : Option DurabilityKind := qos.durabilitySet

def history (qos : DdsQos) : Option (HistoryKind × Int32) := qos.historySet

def reliability (qos : DdsQos) : Option (ReliabilityKind × Duration) :=
  qos.reliabilitySet.map fun held => (held.1, fromDdsDuration held.2)

def durabilityService (qos : DdsQos) : Option (HistoryKind × Int32) :=
  qos.durabilityServiceSet.map fun held => (held.historyKind, held.historyDepth)

end DdsQos

/-- `NonZeroU16`. -/
structure NonZeroU16 where
  get : UInt16
  nonzero : get ≠ 0
  deriving DecidableEq, Repr

namespace NonZeroU16

def new (value : UInt16) : Option NonZeroU16 :=
  if nonzero : value ≠ 0 then some ⟨value, nonzero⟩ else none

def minimum : NonZeroU16 := ⟨1, by decide⟩

def maximum : NonZeroU16 := ⟨65535, by decide⟩

/-- `i32::from`. -/
def toI32 (value : NonZeroU16) : Int32 := Int32.ofNat value.get.toNat

end NonZeroU16

/-- `u16::try_from`. -/
def u16TryFrom (value : Int32) : Option UInt16 :=
  if 0 ≤ value.toInt ∧ value.toInt ≤ 65535 then some (UInt16.ofNat value.toInt.toNat) else none

inductive History where
  | keepLast (depth : Int32)
  | keepAll
  deriving DecidableEq, Repr

def History.default : History := .keepLast 1

inductive Reliability where
  | reliable (maxBlockingTime : Duration)
  | bestEffort
  deriving DecidableEq, Repr

def Reliability.default : Reliability := .bestEffort

inductive Durability where
  | volatile
  | transientLocal (syncDepth : NonZeroU16)
  deriving DecidableEq, Repr

structure Policy where
  history : History
  reliability : Reliability
  durability : Durability
  deriving DecidableEq, Repr

namespace Policy

def supportInstances : Int32 := 4

def syncDepth (history : Int32) : Except DDSError NonZeroU16 :=
  match (u16TryFrom history).bind NonZeroU16.new with
  | some depth => .ok depth
  | none => .error .badParameter

def createTransientLocal (history : Int32) (deadline : Option Duration) :
    Except DDSError Policy := do
  validateHistory .keepLast history
  let depth ← syncDepth history
  return {
    history := .keepLast history
    reliability := .reliable (deadline.getD (Duration.fromMillis 100))
    durability := .transientLocal depth
  }

def setHistory (policy : Policy) (qos : DdsQos) : Except DDSError DdsQos :=
  match policy.history with
  | .keepLast depth => do
      let qos ← qos.setHistory .keepLast depth
      let maxSample := saturatingMul depth supportInstances
      return qos.setResourceLimits maxSample supportInstances depth
  | .keepAll => qos.setHistory .keepAll 0

def setReliability (policy : Policy) (qos : DdsQos) : DdsQos :=
  match policy.reliability with
  | .reliable maxBlockingTime => qos.setReliability .reliable maxBlockingTime
  | .bestEffort => qos.setReliability .bestEffort (Duration.fromNanos 0)

/-- A transient local policy without reliability is made reliable. -/
def setDurability (policy : Policy) (qos : DdsQos) : Except DDSError DdsQos :=
  match policy.durability with
  | .volatile => return qos.setDurability .volatile
  | .transientLocal syncDepth => do
      let qos := qos.setDurability .transientLocal
      let depth := syncDepth.toI32
      let qos ← qos.setDurabilityService Duration.zero .keepLast depth
        (saturatingMul depth supportInstances) supportInstances depth
      if policy.reliability = .bestEffort then
        return qos.setReliability .reliable (Duration.fromMillis 100)
      else
        return qos

/-- `to_qos`, one definition for each axis that it sets. -/
def toQos (policy : Policy) (allocated : Bool) : Except DDSError DdsQos := do
  let qos ← DdsQos.create allocated
  let qos ← policy.setHistory qos
  let qos := policy.setReliability qos
  policy.setDurability qos

def historyFrom (qos : DdsQos) : History :=
  match qos.history with
  | some (.keepLast, depth) => .keepLast depth
  | some (.keepAll, _) => .keepAll
  | none => History.default

def reliabilityFrom (qos : DdsQos) : Reliability :=
  match qos.reliability with
  | some (.reliable, maxBlockingTime) => .reliable maxBlockingTime
  | some (.bestEffort, _) => .bestEffort
  | none => Reliability.default

/-- A depth that no `NonZeroU16` holds goes to the nearest end. -/
def syncDepthFrom (qos : DdsQos) : NonZeroU16 :=
  match qos.durabilityService with
  | some (.keepLast, depth) =>
      if depth ≤ 0 then .minimum
      else
        match syncDepth depth with
        | .ok held => held
        | .error _ => .maximum
  | some (.keepAll, _) => .maximum
  | none => .minimum

def durabilityFrom (qos : DdsQos) : Durability :=
  match qos.durability with
  | some .volatile | none => .volatile
  | some _ => .transientLocal (syncDepthFrom qos)

/-- `From<&DdsQos>`. -/
def fromQos (qos : DdsQos) : Policy where
  history := historyFrom qos
  reliability := reliabilityFrom qos
  durability := durabilityFrom qos

end Policy

/-- The duration that a `dds_duration_t` holds of it. -/
def Duration.capped (duration : Duration) : Duration :=
  .fromNanos (UInt64.ofNat (min duration.asNanos (2 ^ 63 - 1)))

@[simp] theorem toDdsDuration_toInt (duration : Duration) :
    (toDdsDuration duration).toInt = (min duration.asNanos (2 ^ 63 - 1) : Nat) :=
  Int64.toInt_ofNat_of_lt (by omega)

theorem asNanos_capped (duration : Duration) :
    duration.capped.asNanos = min duration.asNanos (2 ^ 63 - 1) := by
  have small : min duration.asNanos (2 ^ 63 - 1) < UInt64.size := by
    have := Nat.min_le_right duration.asNanos (2 ^ 63 - 1)
    simp only [UInt64.size]
    omega
  rw [Duration.capped, Duration.asNanos_fromNanos, UInt64.toNat_ofNat_of_lt' small]

/-- Written to a QoS and read back, a duration is capped at `i64::MAX` nanoseconds. -/
theorem fromDdsDuration_toDdsDuration (duration : Duration) :
    fromDdsDuration (toDdsDuration duration) = duration.capped := by
  rw [fromDdsDuration, toDdsDuration_toInt, Duration.capped]
  congr 2
  omega

theorem capped_eq_iff (duration : Duration) :
    duration.capped = duration ↔ duration.asNanos ≤ 2 ^ 63 - 1 := by
  constructor
  · intro same
    have nanos := congrArg Duration.asNanos same
    rw [asNanos_capped] at nanos
    omega
  · intro fits
    apply Duration.asNanos_injective
    rw [asNanos_capped]
    omega

theorem capped_capped (duration : Duration) : duration.capped.capped = duration.capped := by
  rw [capped_eq_iff, asNanos_capped]
  omega

theorem saturatingMul_toInt (left right : Int32) :
    (saturatingMul left right).toInt =
      max (-2147483648) (min 2147483647 (left.toInt * right.toInt)) := by
  rw [saturatingMul, Int32.toInt_ofInt_of_le] <;> omega

theorem ofNat_ne_zero (value : UInt16) (nonzero : value ≠ 0) : value.toNat ≠ 0 := by
  intro zero
  exact nonzero (UInt16.toNat_inj.mp zero)

namespace NonZeroU16

theorem toI32_toInt (value : NonZeroU16) : value.toI32.toInt = value.get.toNat := by
  have bound := value.get.toNat_lt
  exact Int32.toInt_ofNat_of_lt (by omega)

theorem toI32_pos (value : NonZeroU16) : ¬ value.toI32 ≤ 0 := by
  have positive := ofNat_ne_zero value.get value.nonzero
  rw [Int32.le_iff_toInt_le, toI32_toInt, Int32.toInt_zero]
  omega

end NonZeroU16

namespace Policy

/-- A depth that comes from a `NonZeroU16` is read back as it. -/
theorem syncDepth_toI32 (value : NonZeroU16) : syncDepth value.toI32 = .ok value := by
  have bound := value.get.toNat_lt
  have converted : u16TryFrom value.toI32 = some value.get := by
    rw [u16TryFrom, NonZeroU16.toI32_toInt, if_pos (by omega)]
    simp
  rw [syncDepth, converted]
  simp [NonZeroU16.new, value.nonzero]

/-- An accepted depth is the one the `NonZeroU16` holds. -/
theorem syncDepth_ok (history : Int32) (depth : NonZeroU16) (held : syncDepth history = .ok depth) :
    depth.toI32 = history := by
  rw [syncDepth] at held
  split at held
  case h_2 => cases held
  case h_1 found =>
      cases held
      obtain ⟨value, converted, made⟩ := Option.bind_eq_some_iff.mp found
      rw [u16TryFrom] at converted
      split at converted
      case isFalse => cases converted
      case isTrue inRange =>
          cases converted
          rw [NonZeroU16.new] at made
          split at made
          case isFalse => cases made
          case isTrue nonzero =>
              cases made
              apply Int32.toInt_inj.mp
              rw [NonZeroU16.toI32_toInt, UInt16.toNat_ofNat']
              omega

/-- The reliability that a policy ends up with. -/
def requestedReliability (policy : Policy) : Reliability :=
  match policy.durability, policy.reliability with
  | .transientLocal _, .bestEffort => .reliable (Duration.fromMillis 100)
  | _, kept => kept

/-- Everything that a successful `to_qos` has set. -/
def builtQos (policy : Policy) : DdsQos where
  durabilitySet :=
    match policy.durability with
    | .volatile => some .volatile
    | .transientLocal _ => some .transientLocal
  historySet :=
    match policy.history with
    | .keepLast depth => some (.keepLast, depth)
    | .keepAll => some (.keepAll, 0)
  resourceLimitsSet :=
    match policy.history with
    | .keepLast depth => some ⟨saturatingMul depth supportInstances, supportInstances, depth⟩
    | .keepAll => none
  reliabilitySet :=
    match policy.requestedReliability with
    | .reliable maxBlockingTime => some (.reliable, toDdsDuration maxBlockingTime)
    | .bestEffort => some (.bestEffort, toDdsDuration (Duration.fromNanos 0))
  durabilityServiceSet :=
    match policy.durability with
    | .volatile => none
    | .transientLocal depth => some {
        serviceCleanupDelay := toDdsDuration Duration.zero
        historyKind := .keepLast
        historyDepth := depth.toI32
        resourceLimits :=
          ⟨saturatingMul depth.toI32 supportInstances, supportInstances, depth.toI32⟩
      }

def ValidHistory (policy : Policy) : Prop :=
  ∀ depth, policy.history = .keepLast depth → ¬ depth ≤ 0

theorem validateHistory_invalid (depth : Int32) (invalid : depth ≤ 0) :
    validateHistory .keepLast depth = .error .badParameter := by
  simp [validateHistory, invalid]

theorem validateHistory_valid (depth : Int32) (valid : ¬ depth ≤ 0) :
    validateHistory .keepLast depth = .ok () := by
  simp [validateHistory, valid]

theorem toQos_invalid (policy : Policy) (depth : Int32) (kept : policy.history = .keepLast depth)
    (invalid : depth ≤ 0) : policy.toQos true = .error .badParameter := by
  simp only [toQos, DdsQos.create, setHistory, kept, DdsQos.setHistory,
    validateHistory_invalid depth invalid]
  rfl

theorem setHistory_valid (policy : Policy) (qos : DdsQos) (valid : policy.ValidHistory)
    (unlimited : qos.resourceLimitsSet = none) :
    policy.setHistory qos = .ok { qos with
      historySet := policy.builtQos.historySet
      resourceLimitsSet := policy.builtQos.resourceLimitsSet } := by
  cases kept : policy.history with
  | keepLast depth =>
      simp only [setHistory, kept, DdsQos.setHistory, validateHistory_valid depth (valid depth kept),
        builtQos]
      rfl
  | keepAll =>
      simp only [setHistory, kept, DdsQos.setHistory, builtQos, ← unlimited]
      rfl

/-- The last write of the reliability decides. -/
theorem setDurability_setReliability (policy : Policy) (qos : DdsQos)
    (unset : qos.durabilityServiceSet = none) :
    policy.setDurability (policy.setReliability qos) = .ok { qos with
      durabilitySet := policy.builtQos.durabilitySet
      reliabilitySet := policy.builtQos.reliabilitySet
      durabilityServiceSet := policy.builtQos.durabilityServiceSet } := by
  cases durable : policy.durability with
  | volatile =>
      cases reliable : policy.reliability with
      | reliable maxBlockingTime =>
          simp only [setDurability, setReliability, durable, reliable, builtQos,
            requestedReliability, ← unset]
          rfl
      | bestEffort =>
          simp only [setDurability, setReliability, durable, reliable, builtQos,
            requestedReliability, ← unset]
          rfl
  | transientLocal depth =>
      cases reliable : policy.reliability with
      | reliable maxBlockingTime =>
          simp only [setDurability, setReliability, durable, reliable, builtQos,
            requestedReliability, DdsQos.setDurabilityService,
            validateHistory_valid _ depth.toI32_pos, reduceCtorEq, if_false]
          rfl
      | bestEffort =>
          simp only [setDurability, setReliability, durable, reliable, builtQos,
            requestedReliability, DdsQos.setDurabilityService,
            validateHistory_valid _ depth.toI32_pos, if_true]
          rfl

theorem toQos_valid (policy : Policy) (valid : policy.ValidHistory) :
    policy.toQos true = .ok policy.builtQos := by
  have history := setHistory_valid policy ⟨none, none, none, none, none⟩ valid rfl
  calc policy.toQos true
      = (policy.setHistory ⟨none, none, none, none, none⟩ >>= fun qos =>
          policy.setDurability (policy.setReliability qos)) := rfl
    _ = policy.setDurability (policy.setReliability _) := by rw [history]; rfl
    _ = .ok policy.builtQos := setDurability_setReliability policy _ rfl

theorem toQos_ok (policy : Policy) (allocated : Bool) (qos : DdsQos)
    (built : policy.toQos allocated = .ok qos) : policy.ValidHistory ∧ qos = policy.builtQos := by
  cases allocated with
  | false => cases built
  | true =>
      have valid : policy.ValidHistory := by
        intro depth kept invalid
        rw [toQos_invalid policy depth kept invalid] at built
        cases built
      rw [toQos_valid policy valid] at built
      cases built
      exact ⟨valid, rfl⟩

/-- What a policy becomes on its way through a `DdsQos`. -/
def normalised (policy : Policy) : Policy :=
  { policy with
    reliability :=
      match policy.requestedReliability with
      | .reliable maxBlockingTime => .reliable maxBlockingTime.capped
      | .bestEffort => .bestEffort }

theorem historyFrom_builtQos (policy : Policy) :
    historyFrom policy.builtQos = policy.history := by
  cases kept : policy.history <;> simp [historyFrom, DdsQos.history, builtQos, kept]

theorem reliabilityFrom_builtQos (policy : Policy) :
    reliabilityFrom policy.builtQos = policy.normalised.reliability := by
  cases requested : policy.requestedReliability with
  | reliable maxBlockingTime =>
      simp [reliabilityFrom, DdsQos.reliability, builtQos, normalised, requested,
        fromDdsDuration_toDdsDuration]
  | bestEffort => simp [reliabilityFrom, DdsQos.reliability, builtQos, normalised, requested]

theorem durabilityFrom_builtQos (policy : Policy) :
    durabilityFrom policy.builtQos = policy.durability := by
  cases durable : policy.durability with
  | volatile => simp [durabilityFrom, DdsQos.durability, builtQos, durable]
  | transientLocal depth =>
      have positive := depth.toI32_pos
      simp [durabilityFrom, DdsQos.durability, syncDepthFrom, DdsQos.durabilityService, builtQos,
        durable, positive, syncDepth_toI32]

theorem fromQos_builtQos (policy : Policy) : fromQos policy.builtQos = policy.normalised := by
  simp only [fromQos, historyFrom_builtQos, reliabilityFrom_builtQos, durabilityFrom_builtQos]
  rfl

theorem normalised_eq_iff (policy : Policy) :
    policy.normalised = policy ↔
      (∀ maxBlockingTime, policy.reliability = .reliable maxBlockingTime →
        maxBlockingTime.asNanos ≤ 2 ^ 63 - 1) ∧
      ¬ (policy.reliability = .bestEffort ∧ ∃ depth, policy.durability = .transientLocal depth) := by
  obtain ⟨history, reliability, durability⟩ := policy
  cases reliability with
  | reliable maxBlockingTime =>
      cases durability <;> simp [normalised, requestedReliability, capped_eq_iff]
  | bestEffort => cases durability <;> simp [normalised, requestedReliability]

theorem normalised_normalised (policy : Policy) :
    policy.normalised.normalised = policy.normalised := by
  obtain ⟨history, reliability, durability⟩ := policy
  have millis : (Duration.fromMillis 100).capped = Duration.fromMillis 100 := by
    rw [capped_eq_iff]
    decide
  cases reliability <;> cases durability <;>
    simp [normalised, requestedReliability, capped_capped]

theorem createTransientLocal_ok (history : Int32) (deadline : Option Duration) (policy : Policy)
    (created : createTransientLocal history deadline = .ok policy) :
    policy.ValidHistory ∧
    policy.reliability = .reliable (deadline.getD (Duration.fromMillis 100)) := by
  by_cases invalid : history ≤ 0
  · simp only [createTransientLocal, validateHistory_invalid history invalid] at created
    cases created
  · simp only [createTransientLocal, validateHistory_valid history invalid] at created
    cases held : syncDepth history with
    | error reason =>
        rw [held] at created
        cases created
    | ok depth =>
        rw [held] at created
        cases created
        constructor
        · intro kept same
          cases same
          exact invalid
        · rfl

/-- A policy comes back from its QoS up to the two rewritings of its reliability. -/
theorem policy_round_trip :
    (∀ policy allocated qos, toQos policy allocated = .ok qos →
      fromQos qos = policy.normalised ∧
      (fromQos qos = policy ↔
        (∀ maxBlockingTime, policy.reliability = .reliable maxBlockingTime →
          maxBlockingTime.asNanos ≤ 2 ^ 63 - 1) ∧
        ¬ (policy.reliability = .bestEffort ∧
          ∃ depth, policy.durability = .transientLocal depth)) ∧
      ∃ again, (fromQos qos).toQos true = .ok again ∧ fromQos again = fromQos qos) ∧
    (∀ history deadline policy, createTransientLocal history deadline = .ok policy →
      (∀ duration, deadline = some duration → duration.asNanos ≤ 2 ^ 63 - 1) →
      ∃ qos, policy.toQos true = .ok qos ∧ fromQos qos = policy) := by
  constructor
  · intro policy allocated qos built
    obtain ⟨valid, rfl⟩ := toQos_ok policy allocated qos built
    rw [fromQos_builtQos]
    refine ⟨rfl, normalised_eq_iff policy, policy.normalised.builtQos, ?_, ?_⟩
    · exact toQos_valid policy.normalised valid
    · rw [fromQos_builtQos, normalised_normalised]
  · intro history deadline policy created inRange
    obtain ⟨valid, reliable⟩ := createTransientLocal_ok history deadline policy created
    refine ⟨policy.builtQos, toQos_valid policy valid, ?_⟩
    rw [fromQos_builtQos, normalised_eq_iff]
    constructor
    · intro maxBlockingTime same
      rw [reliable] at same
      cases same
      cases deadline with
      | none => decide
      | some duration => exact inRange duration rfl
    · rintro ⟨effort, -⟩
      rw [reliable] at effort
      cases effort

/-- A transient local policy of best effort comes back with 100 ms of reliability, one made by
`create_transient_local` as it was. -/
theorem policy_round_trip_transient_local :
    fromQos (builtQos ⟨.keepLast 3, .bestEffort, .transientLocal .minimum⟩) =
      ⟨.keepLast 3, .reliable (Duration.fromMillis 100), .transientLocal .minimum⟩ ∧
    ∃ policy, createTransientLocal 1 none = .ok policy ∧
      policy = ⟨.keepLast 1, .reliable (Duration.fromMillis 100), .transientLocal .minimum⟩ ∧
      ∃ qos, policy.toQos true = .ok qos ∧ fromQos qos = policy := by
  have valid : ValidHistory ⟨.keepLast 3, .bestEffort, .transientLocal .minimum⟩ := by
    intro depth kept
    cases kept
    decide
  constructor
  · rw [(policy_round_trip.1 _ true _ (toQos_valid _ valid)).1]
    rfl
  · exact ⟨_, rfl, rfl, policy_round_trip.2 1 none _ rfl (by simp)⟩

/-- The limits hold what a history of this depth asks of them. -/
def LimitsHold (limits : ResourceLimits) (depth : Int32) : Prop :=
  1 ≤ depth.toInt ∧ depth.toInt ≤ limits.maxSamplesPerInstance.toInt ∧
    limits.maxSamplesPerInstance.toInt ≤ limits.maxSamples.toInt ∧ 1 ≤ limits.maxInstances.toInt

def InDurationRange (duration : Int64) : Prop :=
  0 ≤ duration.toInt ∧ duration.toInt ≤ 2 ^ 63 - 1

/-- A QoS that no entity refuses for the policies set here. -/
structure Consistent (policy : Policy) (qos : DdsQos) : Prop where
  keepLast : ∀ depth, policy.history = .keepLast depth →
    qos.history = some (.keepLast, depth) ∧
    ∃ limits, qos.resourceLimitsSet = some limits ∧ LimitsHold limits depth
  keepAll : policy.history = .keepAll →
    (∃ depth, qos.history = some (.keepAll, depth)) ∧ qos.resourceLimitsSet = none
  transientLocal : ∀ depth, policy.durability = .transientLocal depth →
    (∃ service, qos.durabilityServiceSet = some service ∧ service.historyKind = .keepLast ∧
      service.historyDepth.toInt = depth.get.toNat ∧
      LimitsHold service.resourceLimits service.historyDepth) ∧
    ∃ maxBlockingTime, qos.reliabilitySet = some (.reliable, maxBlockingTime)
  blockingTime : ∀ kind maxBlockingTime, qos.reliabilitySet = some (kind, maxBlockingTime) →
    InDurationRange maxBlockingTime
  cleanupDelay : ∀ service, qos.durabilityServiceSet = some service →
    InDurationRange service.serviceCleanupDelay

theorem toDdsDuration_inRange (duration : Duration) : InDurationRange (toDdsDuration duration) := by
  rw [InDurationRange, toDdsDuration_toInt]
  omega

theorem limitsHold_of_depth (depth : Int32) (valid : ¬ depth ≤ 0) :
    LimitsHold ⟨saturatingMul depth supportInstances, supportInstances, depth⟩ depth := by
  have positive : ¬ depth.toInt ≤ 0 := by
    simpa [Int32.le_iff_toInt_le] using valid
  have bound := depth.toInt_lt
  have instances : supportInstances.toInt = 4 := rfl
  have saturated := saturatingMul_toInt depth supportInstances
  simp only [LimitsHold, saturated, instances]
  omega

theorem builtQos_consistent (policy : Policy) (valid : policy.ValidHistory) :
    Consistent policy policy.builtQos where
  keepLast := by
    intro depth kept
    have limits := limitsHold_of_depth depth (valid depth kept)
    simpa [DdsQos.history, builtQos, kept] using limits
  keepAll := by
    intro kept
    simp [DdsQos.history, builtQos, kept]
  transientLocal := by
    intro depth durable
    constructor
    · simp only [builtQos, durable]
      exact ⟨_, rfl, rfl, depth.toI32_toInt, limitsHold_of_depth _ depth.toI32_pos⟩
    · cases reliable : policy.reliability with
      | reliable maxBlockingTime => simp [builtQos, requestedReliability, durable, reliable]
      | bestEffort => simp [builtQos, requestedReliability, durable, reliable]
  blockingTime := by
    intro kind maxBlockingTime held
    cases requested : policy.requestedReliability with
    | reliable asked =>
        simp only [builtQos, requested, Option.some.injEq, Prod.mk.injEq] at held
        rw [← held.2]
        exact toDdsDuration_inRange asked
    | bestEffort =>
        simp only [builtQos, requested, Option.some.injEq, Prod.mk.injEq] at held
        rw [← held.2]
        exact toDdsDuration_inRange (Duration.fromNanos 0)
  cleanupDelay := by
    intro service held
    cases durable : policy.durability with
    | volatile => simp [builtQos, durable] at held
    | transientLocal depth =>
        simp only [builtQos, durable, Option.some.injEq] at held
        rw [← held]
        exact toDdsDuration_inRange Duration.zero

/-- `to_qos` refuses exactly the depths below one, and builds a consistent QoS of the others. -/
theorem toQos_consistent (policy : Policy) :
    (policy.toQos true = .error .badParameter ↔
      ∃ depth, policy.history = .keepLast depth ∧ depth.toInt ≤ 0) ∧
    ((¬ ∃ depth, policy.history = .keepLast depth ∧ depth.toInt ≤ 0) →
      ∃ qos, policy.toQos true = .ok qos ∧ Consistent policy qos) := by
  have valid_iff : (¬ ∃ depth, policy.history = .keepLast depth ∧ depth.toInt ≤ 0) ↔
      policy.ValidHistory := by
    simp [ValidHistory, Int32.le_iff_toInt_le]
  constructor
  · constructor
    · intro refused
      by_contra accepted
      rw [toQos_valid policy (valid_iff.mp accepted)] at refused
      cases refused
    · rintro ⟨depth, kept, invalid⟩
      exact toQos_invalid policy depth kept (by simpa [Int32.le_iff_toInt_le] using invalid)
  · intro accepted
    have valid := valid_iff.mp accepted
    exact ⟨policy.builtQos, toQos_valid policy valid, builtQos_consistent policy valid⟩

/-- At the largest depth the limits saturate. -/
theorem toQos_consistent_at_the_largest_depth :
    ∃ qos, toQos ⟨.keepLast 2147483647, .bestEffort, .transientLocal .maximum⟩ true = .ok qos ∧
      Consistent ⟨.keepLast 2147483647, .bestEffort, .transientLocal .maximum⟩ qos := by
  apply (toQos_consistent _).2
  rintro ⟨depth, kept, invalid⟩
  cases kept
  revert invalid
  decide

end Policy

end CycloneddsRs.QosPolicy
