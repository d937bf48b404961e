import Mathlib.Data.List.TakeWhile

/-!
util.rs: the reader over a list of received slices and the std `read_exact`
loop that drives it. `unread` abstracts the two cursors to the bytes still to
come, slice by slice; `intoVec` then returns a prefix of their concatenation,
where the vector for it can be made at all.
-/

namespace CycloneddsRs.ScatterGather

abbrev Bytes := List UInt8

inductive ErrorKind where
  | unexpectedEof
  deriving DecidableEq, Repr

structure SGReader where
  scList : Option (List Bytes)
  sliceCursor : Nat
  sliceOffset : Nat
  deriving DecidableEq, Repr

def SGReader.new (scList : List Bytes) : SGReader :=
  { scList := some scList, sliceCursor := 0, sliceOffset := 0 }

/-- `read` into a buffer of `readBufLen` bytes. The bytes are the ones copied to
the front of the buffer, their number is the `Ok` value. -/
def SGReader.read (reader : SGReader) (readBufLen : Nat) : SGReader × Bytes :=
  match reader.scList with
  | none => (reader, [])
  | some scList =>
      match scList[reader.sliceCursor]? with
      | none => ({ reader with scList := none }, [])
      | some sourceSlice =>
          let sourceSliceRem := sourceSlice.length - reader.sliceOffset
          let copyLength := min sourceSliceRem readBufLen
          let copied := (sourceSlice.drop reader.sliceOffset).take copyLength
          if copyLength = sourceSliceRem then
            let cursor := reader.sliceCursor + 1
            ({ scList := if scList.length ≤ cursor then none else some scList
               sliceCursor := cursor
               sliceOffset := 0 }, copied)
          else
            ({ reader with sliceOffset := reader.sliceOffset + copyLength }, copied)

/-- std `read_exact`: `Ok(0)` with bytes still missing ends the loop. Every other
round shortens what is missing, so `missing` rounds are enough fuel. -/
def readExact : Nat → SGReader → Nat → Except ErrorKind Bytes
  | 0, _, missing => if missing = 0 then .ok [] else .error .unexpectedEof
  | fuel + 1, reader, missing =>
      if missing = 0 then .ok [] else
        match reader.read missing with
        | (_, []) => .error .unexpectedEof
        | (next, byte :: copied) =>
            (readExact fuel next (missing - (copied.length + 1))).map ((byte :: copied) ++ ·)

/-- The longest `Vec<u8>`. -/
def isizeMax : Nat := 0x7FFFFFFFFFFFFFFF

/-- The outer error is the panic of `vec![0u8; size]`. -/
def SGReader.intoVec (reader : SGReader) (size : Nat) : Except String (Except ErrorKind Bytes) :=
  if isizeMax < size then .error "capacity overflow" else .ok (readExact size reader size)

/-- The slices the reader has still to deliver, the current one from its offset on. -/
def SGReader.unread (reader : SGReader) : List Bytes :=
  match reader.scList with
  | none => []
  | some scList =>
      match scList.drop reader.sliceCursor with
      | [] => []
      | slice :: rest => slice.drop reader.sliceOffset :: rest

/-- The bytes a sequence of reads gets before the first empty slice stops it. -/
def available (slices : List Bytes) : Bytes :=
  (slices.takeWhile (· ≠ [])).flatten

/-- What `read_exact` into `size` bytes makes of a stream. -/
def delivered (stream : Bytes) (size : Nat) : Except ErrorKind Bytes :=
  if size ≤ stream.length then .ok (stream.take size) else .error .unexpectedEof

@[simp] theorem new_unread (scList : List Bytes) : (SGReader.new scList).unread = scList := by
  cases scList <;> rfl

theorem available_nonempty (slices : List Bytes) (filled : ∀ slice ∈ slices, slice ≠ []) :
    available slices = slices.flatten := by
  have whole : slices.takeWhile (· ≠ []) = slices := by
    apply List.takeWhile_eq_self_iff.mpr
    intro slice member
    simpa using filled slice member
  rw [available, whole]

theorem read_none (reader : SGReader) (size : Nat) (done : reader.unread = []) :
    (reader.read size).2 = [] := by
  unfold SGReader.unread at done
  unfold SGReader.read
  cases held : reader.scList with
  | none => rfl
  | some scList =>
      simp only [held] at done
      have past : scList[reader.sliceCursor]? = none := by
        cases rest : scList.drop reader.sliceCursor with
        | nil => simpa using rest
        | cons slice tail => simp [rest] at done
      simp [past]

/-- One `read` delivers the front of the current slice and leaves the rest of it,
or moves to the next slice when the current one is used up. -/
theorem read_unread (reader : SGReader) (size : Nat) (slice : Bytes) (rest : List Bytes)
    (current : reader.unread = slice :: rest) :
    (reader.read size).2 = slice.take size ∧
      (reader.read size).1.unread =
        if slice.length ≤ size then rest else slice.drop size :: rest := by
  unfold SGReader.unread at current
  cases held : reader.scList with
  | none => simp [held] at current
  | some scList =>
      simp only [held] at current
      cases remaining : scList.drop reader.sliceCursor with
      | nil => simp [remaining] at current
      | cons source tail =>
          simp only [remaining, List.cons.injEq] at current
          obtain ⟨sliceEq, tailEq⟩ := current
          subst slice tail
          have atCursor : scList[reader.sliceCursor]? = some source := by
            rw [← List.head?_drop, remaining]
            rfl
          have afterCursor : scList.drop (reader.sliceCursor + 1) = rest := by
            rw [← List.drop_drop, remaining]
            rfl
          have lengthEq : (source.drop reader.sliceOffset).length =
              source.length - reader.sliceOffset := List.length_drop
          by_cases used : source.length - reader.sliceOffset ≤ size
          · constructor
            · simp [SGReader.read, held, atCursor, List.take_of_length_le, used]
            · by_cases last : scList.length ≤ reader.sliceCursor + 1
              · have none : rest = [] := by
                  rw [← afterCursor]
                  exact List.drop_eq_nil_of_le last
                simp [SGReader.read, SGReader.unread, held, atCursor, used, last, none]
              · cases rest <;>
                  simp [SGReader.read, SGReader.unread, held, atCursor, used, last,
                    afterCursor]
          · have copy : min (source.length - reader.sliceOffset) size = size :=
              Nat.min_eq_right (by omega)
            have short : ¬ size = source.length - reader.sliceOffset := by omega
            constructor
            · simp [SGReader.read, held, atCursor, copy, short]
            · simp [SGReader.read, SGReader.unread, held, atCursor, copy, short, remaining, used,
                List.drop_drop]

theorem available_cons (byte : UInt8) (slice : Bytes) (rest : List Bytes) :
    available ((byte :: slice) :: rest) = (byte :: slice) ++ available rest := by
  simp [available]

theorem delivered_append (front stream : Bytes) (size : Nat) (fits : front.length ≤ size) :
    (delivered stream (size - front.length)).map (front ++ ·) =
      delivered (front ++ stream) size := by
  have take : (front ++ stream).take size = front ++ stream.take (size - front.length) := by
    rw [List.take_append, List.take_of_length_le fits]
  by_cases covered : size - front.length ≤ stream.length
  · have whole : size ≤ (front ++ stream).length := by
      rw [List.length_append]
      omega
    rw [delivered, delivered, if_pos covered, if_pos whole, take]
    rfl
  · have missing : ¬ size ≤ (front ++ stream).length := by
      rw [List.length_append]
      omega
    rw [delivered, delivered, if_neg covered, if_neg missing]
    rfl

/-- An answer of `Ok(0)` to a non-empty buffer means that nothing more is available. -/
theorem read_stops (reader next : SGReader) (missing : Nat) (wanted : missing ≠ 0)
    (answer : reader.read missing = (next, [])) : available reader.unread = [] := by
  cases unread : reader.unread with
  | nil => rfl
  | cons slice rest =>
      have copied := (read_unread reader missing slice rest unread).1
      rw [answer] at copied
      have empty : slice = [] := by
        cases slice with
        | nil => rfl
        | cons byte tail =>
            obtain ⟨short, rfl⟩ := Nat.exists_eq_succ_of_ne_zero wanted
            simp at copied
      simp [empty, available]

theorem read_advances (reader next : SGReader) (missing : Nat) (byte : UInt8) (copied : Bytes)
    (answer : reader.read missing = (next, byte :: copied)) :
    (byte :: copied).length ≤ missing ∧
      available reader.unread = (byte :: copied) ++ available next.unread := by
  cases unread : reader.unread with
  | nil =>
      have empty := read_none reader missing unread
      simp [answer] at empty
  | cons slice rest =>
      obtain ⟨front, left⟩ := read_unread reader missing slice rest unread
      simp only [answer] at front left
      have bounded : (byte :: copied).length ≤ missing := by
        rw [front, List.length_take]
        exact Nat.min_le_left _ _
      refine ⟨bounded, ?_⟩
      cases slice with
      | nil => simp at front
      | cons first tail =>
          by_cases used : (first :: tail).length ≤ missing
          · rw [front, left, if_pos used, List.take_of_length_le used, available_cons]
          · rw [front, left, if_neg used]
            cases kept : (first :: tail).drop missing with
            | nil =>
                have := List.drop_eq_nil_iff.mp kept
                omega
            | cons last others =>
                rw [available_cons, available_cons, ← kept, ← List.append_assoc,
                  List.take_append_drop]

theorem readExact_delivered (fuel : Nat) (reader : SGReader) (missing : Nat)
    (enough : missing ≤ fuel) :
    readExact fuel reader missing = delivered (available reader.unread) missing := by
  induction fuel generalizing reader missing with
  | zero =>
      have none : missing = 0 := by omega
      simp [readExact, delivered, none]
  | succ fuel ih =>
      by_cases filled : missing = 0
      · simp [readExact, delivered, filled]
      · cases answer : reader.read missing with
        | mk next bytes =>
            cases bytes with
            | nil =>
                have empty := read_stops reader next missing filled answer
                simp [readExact, delivered, answer, filled, empty]
            | cons byte copied =>
                obtain ⟨bounded, front⟩ := read_advances reader next missing byte copied answer
                have shorter : missing - (byte :: copied).length ≤ fuel := by
                  rw [List.length_cons]
                  omega
                rw [front, ← delivered_append (byte :: copied) _ missing bounded,
                  ← ih next _ shorter]
                simp [readExact, answer, filled]

/-- Bytes behind the first empty slice are never delivered: `read` answers `Ok(0)`
there, which `read_exact` takes for the end of the data. -/
theorem intoVec_delivered (slices : List Bytes) (size : Nat) :
    (SGReader.new slices).intoVec size =
      if isizeMax < size then .error "capacity overflow"
      else .ok (delivered (available slices) size) := by
  rw [SGReader.intoVec, readExact_delivered size (SGReader.new slices) size le_rfl, new_unread]

theorem intoVec_filled (slices : List Bytes) (size : Nat)
    (filled : ∀ slice ∈ slices, slice ≠ []) (whole : slices.flatten.length = size)
    (fits : size ≤ isizeMax) :
    (SGReader.new slices).intoVec size = .ok (.ok slices.flatten) := by
  rw [intoVec_delivered, if_neg (Nat.not_lt.mpr fits), available_nonempty slices filled, delivered,
    if_pos whole.ge, List.take_of_length_le whole.le]

end CycloneddsRs.ScatterGather
