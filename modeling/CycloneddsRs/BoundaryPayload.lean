import CycloneddsRs.BigEndianCdr
import CycloneddsRs.BoundarySearch

/-!
The payload of the benchmark cases on either side of a wire size. `usizeMax` is the
largest `usize`.
-/

namespace CycloneddsRs.BoundaryPayload
open BigEndianCdr BoundarySearch

structure BenchmarkMessage where
  sequence : UInt64
  sentMonotonicNs : UInt64
  payload : List UInt8
  deriving DecidableEq

def makeMessage (sequence : UInt64) (payloadBytes : Nat) (sentMonotonicNs : UInt64) :
    BenchmarkMessage :=
  { sequence := sequence
    sentMonotonicNs := sentMonotonicNs
    payload := (List.range payloadBytes).map fun index =>
      ((UInt64.ofNat index + sequence) % 251).toUInt8 }

/-- The fields in CDR, the payload behind its length. -/
def BenchmarkMessage.items (message : BenchmarkMessage) : List Item :=
  [.scalar 8 message.sequence.toNat, .scalar 8 message.sentMonotonicNs.toNat,
    .scalar 4 message.payload.length] ++ message.payload.map fun byte => .scalar 1 byte.toNat

inductive BoundaryRelation where
  | below
  | above
  deriving DecidableEq

section Search

variable (accepts : Nat → Bool) (usizeMax wireBytes : Nat)

/-- `accepts` has the payload lengths that the cdr crate can write. -/
def serializeMessage (message : BenchmarkMessage) : Except String (List UInt8) :=
  if accepts message.payload.length then .ok ([0, 0, 0, 0] ++ encodeFrom 0 message.items)
  else .error "cdr cannot serialize the message"

def sizeAt (payloadBytes : Nat) : Except String Nat :=
  (serializeMessage accepts (makeMessage 0 payloadBytes 0)).map List.length

/-- The first loop of `find_boundary_payload`: it doubles until the size is above. -/
def raiseHigh (high : Nat) (positive : 0 < high) : Except String Nat :=
  match sizeAt accepts high with
  | .error error => .error error
  | .ok size =>
      if size ≤ wireBytes then
        if _fits : high * 2 ≤ usizeMax then raiseHigh (high * 2) (by omega)
        else .error "wire boundary overflow"
      else .ok high
  termination_by usizeMax - high
  decreasing_by omega

/-- The loop steps by one until an aligned size on the wanted side is met. -/
def alignedBoundaryPayload (above : Bool) (payloadBytes : Nat) : Except String Nat :=
  match sizeAt accepts payloadBytes with
  | .error error => .error error
  | .ok size =>
      if size % 4 = 0 ∧ above = decide (size > wireBytes) then .ok payloadBytes
      else if _up : above = true then
        if _fits : payloadBytes + 1 ≤ usizeMax then alignedBoundaryPayload above (payloadBytes + 1)
        else .error "aligned wire boundary payload overflow"
      else
        if _left : payloadBytes ≠ 0 then alignedBoundaryPayload above (payloadBytes - 1)
        else .error "aligned wire boundary payload overflow"
  termination_by if above then usizeMax - payloadBytes else payloadBytes
  decreasing_by
  · simp_all
    omega
  · simp_all
    omega

def isBelow (payloadBytes : Nat) : Except String Bool :=
  (sizeAt accepts payloadBytes).map fun size => decide (size ≤ wireBytes)

def findBoundaryPayload (relation : BoundaryRelation) : Except String Nat := do
  let high ← raiseHigh accepts usizeMax wireBytes (max wireBytes 1) (by omega)
  let firstAbove ← bisect (isBelow accepts wireBytes) 0 high
  match relation with
  | .above => alignedBoundaryPayload accepts usizeMax wireBytes true firstAbove
  | .below =>
      if firstAbove = 0 then .error "wire boundary has no below value"
      else alignedBoundaryPayload accepts usizeMax wireBytes false (firstAbove - 1)

/-! Sizes -/

theorem padding_one (pos : Nat) : padding 1 pos = 0 := Nat.mod_one _

theorem encodeFrom_bytes (pos : Nat) (bytes : List UInt8) :
    (encodeFrom pos (bytes.map fun byte => .scalar 1 byte.toNat)).length = bytes.length := by
  induction bytes generalizing pos with
  | nil => rfl
  | cons byte bytes ih =>
      rw [List.map_cons, encodeFrom, List.length_append, ih]
      simp only [Item.encode, aligned_length, padding_one, List.length_cons]
      omega

/-- Each of the first three fields is aligned where it stands. -/
theorem items_length (message : BenchmarkMessage) :
    (encodeFrom 0 message.items).length = 20 + message.payload.length := by
  simp only [BenchmarkMessage.items, List.cons_append, List.nil_append, encodeFrom, Item.encode,
    List.length_append, aligned_length, encodeFrom_bytes]
  simp [padding]
  omega

def size (payloadBytes : Nat) : Nat := 24 + payloadBytes

theorem sizeAt_ok (payloadBytes : Nat) (accepted : accepts payloadBytes = true) :
    sizeAt accepts payloadBytes = .ok (size payloadBytes) := by
  have length : (makeMessage 0 payloadBytes 0).payload.length = payloadBytes := by
    simp [makeMessage]
  rw [sizeAt, serializeMessage, length, if_pos accepted]
  have total : ([0, 0, 0, 0] ++ encodeFrom 0 (makeMessage 0 payloadBytes 0).items).length =
      size payloadBytes := by
    rw [List.length_append, items_length, length]
    simp only [List.length_cons, List.length_nil, size]
    omega
  exact congrArg Except.ok total

/-! The loops -/

/-- The doubling ends at once: the size of a message exceeds its payload. -/
theorem raiseHigh_ok (high : Nat) (positive : 0 < high) (accepted : accepts high = true)
    (enough : wireBytes ≤ high) :
    raiseHigh accepts usizeMax wireBytes high positive = .ok high := by
  rw [raiseHigh, sizeAt_ok accepts high accepted]
  exact if_neg (by rw [size]; omega)

/-- The payloads whose messages fit the wire size. -/
theorem isBelow_divides (high : Nat)
    (accepted : ∀ payload, payload < high → accepts payload = true) :
    Divides (isBelow accepts wireBytes) (wireBytes + 1 - 24) high := by
  intro payload inside
  rw [isBelow, sizeAt_ok accepts payload (accepted payload inside)]
  have same : size payload ≤ wireBytes ↔ payload < wireBytes + 1 - 24 := by
    rw [size]
    omega
  exact congrArg Except.ok (decide_eq_decide.mpr same)

theorem alignedBoundaryPayload_above (start target : Nat) (before : start ≤ target)
    (accepted : ∀ payload, payload ≤ target → accepts payload = true)
    (beyond : wireBytes < size start) (aligned : size target % 4 = 0)
    (first : ∀ other, start ≤ other → other < target → size other % 4 ≠ 0)
    (fits : target ≤ usizeMax) :
    alignedBoundaryPayload accepts usizeMax wireBytes true start = .ok target := by
  induction distance : target - start generalizing start with
  | zero =>
      have same : start = target := by omega
      subst same
      rw [alignedBoundaryPayload, sizeAt_ok accepts start (accepted start before)]
      exact if_pos ⟨aligned, (decide_eq_true beyond).symm⟩
  | succ distance ih =>
      have unaligned := first start (Nat.le_refl start) (by omega)
      have more : wireBytes < size (start + 1) := Nat.lt_succ_of_lt beyond
      have next := ih (start + 1) (by omega) more (fun other after => first other (by omega))
        (by omega)
      rw [alignedBoundaryPayload, sizeAt_ok accepts start (accepted start before)]
      simp only [unaligned, false_and, if_false, dite_true]
      rw [dif_pos (by omega), next]

theorem alignedBoundaryPayload_below (start target : Nat) (before : target ≤ start)
    (accepted : ∀ payload, payload ≤ start → accepts payload = true)
    (under : size start ≤ wireBytes) (aligned : size target % 4 = 0)
    (first : ∀ other, target < other → other ≤ start → size other % 4 ≠ 0) :
    alignedBoundaryPayload accepts usizeMax wireBytes false start = .ok target := by
  induction distance : start - target generalizing start with
  | zero =>
      have same : start = target := by omega
      subst same
      have side : false = decide (size start > wireBytes) :=
        (decide_eq_false (Nat.not_lt.mpr under)).symm
      rw [alignedBoundaryPayload, sizeAt_ok accepts start (accepted start before)]
      exact if_pos ⟨aligned, side⟩
  | succ distance ih =>
      have unaligned := first start (by omega) (Nat.le_refl start)
      have less : size (start - 1) ≤ wireBytes := by
        rw [size] at under ⊢
        omega
      have next := ih (start - 1) (by omega)
        (fun payload inside => accepted payload (by omega)) less
        (fun other after inside => first other after (by omega)) (by omega)
      rw [alignedBoundaryPayload, sizeAt_ok accepts start (accepted start (Nat.le_refl start))]
      simp only [unaligned, false_and, if_false, Bool.false_eq_true, dite_false]
      rw [dif_pos (by omega), next]

/-! The extremal payloads -/

/-- What the search comes to: it reaches the first payload that is above. -/
theorem findBoundaryPayload_search (relation : BoundaryRelation)
    (accepted : ∀ payload, payload ≤ max wireBytes 1 → accepts payload = true) :
    findBoundaryPayload accepts usizeMax wireBytes relation =
      match relation with
      | .above => alignedBoundaryPayload accepts usizeMax wireBytes true (wireBytes + 1 - 24)
      | .below =>
          if wireBytes + 1 - 24 = 0 then .error "wire boundary has no below value"
          else alignedBoundaryPayload accepts usizeMax wireBytes false (wireBytes + 1 - 24 - 1) := by
  have raised := raiseHigh_ok accepts usizeMax wireBytes (max wireBytes 1) (by omega)
    (accepted _ (Nat.le_refl _)) (Nat.le_max_left _ _)
  have found := bisect_boundary _ (wireBytes + 1 - 24) 0 (max wireBytes 1)
    (isBelow_divides accepts wireBytes _ fun payload inside =>
      accepted payload (Nat.le_of_lt inside))
    (Nat.zero_le _) (by omega)
  rw [findBoundaryPayload, raised]
  simp only [bind, Except.bind, found]

theorem findBoundaryPayload_above (representable : wireBytes ≤ usizeMax)
    (accepted : ∀ payload, payload ≤ max wireBytes 1 → accepts payload = true) :
    ∃ payload, findBoundaryPayload accepts usizeMax wireBytes .above = .ok payload ∧
      IsLeast {other | size other % 4 = 0 ∧ wireBytes < size other} payload := by
  have start : wireBytes < size (wireBytes + 1 - 24) := by
    rw [size]
    omega
  -- The next multiple of four: the header and the fixed fields are one already.
  have aligned : size ((wireBytes + 1 - 24 + 3) / 4 * 4) % 4 = 0 := by
    rw [size]
    omega
  refine ⟨(wireBytes + 1 - 24 + 3) / 4 * 4, ?_, ⟨aligned, ?_⟩, ?_⟩
  · rw [findBoundaryPayload_search accepts usizeMax wireBytes .above accepted]
    refine alignedBoundaryPayload_above accepts usizeMax wireBytes _ _ (by omega) ?_ start aligned
      ?_ (by omega)
    · intro payload inside
      exact accepted payload (by omega)
    · intro other after before
      rw [size]
      omega
  · rw [size] at start ⊢
    omega
  · rintro other ⟨otherAligned, beyond⟩
    rw [size] at otherAligned beyond
    omega

theorem findBoundaryPayload_below (atLeast : 24 ≤ wireBytes)
    (accepted : ∀ payload, payload ≤ max wireBytes 1 → accepts payload = true) :
    ∃ payload, findBoundaryPayload accepts usizeMax wireBytes .below = .ok payload ∧
      IsGreatest {other | size other % 4 = 0 ∧ size other ≤ wireBytes} payload := by
  have start : size (wireBytes + 1 - 24 - 1) ≤ wireBytes := by
    rw [size]
    omega
  have aligned : size ((wireBytes + 1 - 24 - 1) / 4 * 4) % 4 = 0 := by
    rw [size]
    omega
  refine ⟨(wireBytes + 1 - 24 - 1) / 4 * 4, ?_, ⟨aligned, ?_⟩, ?_⟩
  · have some : ¬ wireBytes + 1 - 24 = 0 := by omega
    rw [findBoundaryPayload_search accepts usizeMax wireBytes .below accepted]
    simp only [some, if_false]
    refine alignedBoundaryPayload_below accepts usizeMax wireBytes _ _ (by omega) ?_ start
      aligned ?_
    · intro payload inside
      exact accepted payload (by omega)
    · intro other after before
      rw [size]
      omega
  · rw [size] at start ⊢
    omega
  · rintro other ⟨otherAligned, under⟩
    rw [size] at otherAligned under
    omega

/-- Both sides of the boundary are met at their nearest aligned size. Only below the size of
an empty payload there is nothing. -/
theorem findBoundaryPayload_extremal (representable : wireBytes ≤ usizeMax)
    (accepted : ∀ payload, payload ≤ max wireBytes 1 → accepts payload = true) :
    (∃ payload, findBoundaryPayload accepts usizeMax wireBytes .above = .ok payload ∧
      IsLeast {other | size other % 4 = 0 ∧ wireBytes < size other} payload) ∧
    (24 ≤ wireBytes →
      ∃ payload, findBoundaryPayload accepts usizeMax wireBytes .below = .ok payload ∧
        IsGreatest {other | size other % 4 = 0 ∧ size other ≤ wireBytes} payload) ∧
    (wireBytes < 24 → findBoundaryPayload accepts usizeMax wireBytes .below =
      .error "wire boundary has no below value") := by
  refine ⟨findBoundaryPayload_above accepts usizeMax wireBytes representable accepted,
    fun atLeast => findBoundaryPayload_below accepts usizeMax wireBytes atLeast accepted, ?_⟩
  intro small
  have nothing : wireBytes + 1 - 24 = 0 := by omega
  rw [findBoundaryPayload_search accepts usizeMax wireBytes .below accepted]
  simp only [nothing, if_true]

end Search

theorem findBoundaryPayload_extremal_udp :
    (∃ payload, findBoundaryPayload (fun _ => true) (2 ^ 64 - 1) 65535 .above = .ok payload ∧
      IsLeast {other | size other % 4 = 0 ∧ 65535 < size other} payload) ∧
    ∃ payload, findBoundaryPayload (fun _ => true) (2 ^ 64 - 1) 65535 .below = .ok payload ∧
      IsGreatest {other | size other % 4 = 0 ∧ size other ≤ 65535} payload := by
  have extremal := findBoundaryPayload_extremal (fun _ => true) (2 ^ 64 - 1) 65535 (by omega)
    (fun _ _ => rfl)
  exact ⟨extremal.1, extremal.2.1 (by omega)⟩

end CycloneddsRs.BoundaryPayload
