import Mathlib.Algebra.Order.Ring.Nat
import Mathlib.Data.List.Basic

/-!
Big-endian CDR: scalars aligned to their size and strings behind a length that counts
their final zero. Positions count from the end of the encapsulation header. A reader that
knows the shapes of the items gets back the items.
-/

namespace CycloneddsRs.BigEndianCdr

inductive Item where
  | scalar (size value : Nat)
  | text (bytes : List UInt8)
  deriving DecidableEq

inductive Shape where
  | scalar (size : Nat)
  | text
  deriving DecidableEq

def Item.shape : Item → Shape
  | .scalar size _ => .scalar size
  | .text _ => .text

/-- The value fits its size, the length of a text its `u32`. -/
def Item.Fits : Item → Prop
  | .scalar size value => value < 256 ^ size
  | .text bytes => bytes.length + 1 < 256 ^ 4

def bigEndian : Nat → Nat → List UInt8
  | 0, _ => []
  | size + 1, value => bigEndian size (value / 256) ++ [UInt8.ofNat value]

def padding (size pos : Nat) : Nat := (size - pos % size) % size

def aligned (size pos value : Nat) : List UInt8 :=
  List.replicate (padding size pos) 0 ++ bigEndian size value

def Item.encode (pos : Nat) : Item → List UInt8
  | .scalar size value => aligned size pos value
  | .text bytes => aligned 4 pos (bytes.length + 1) ++ (bytes ++ [0])

def encodeFrom : Nat → List Item → List UInt8
  | _, [] => []
  | pos, item :: rest => item.encode pos ++ encodeFrom (pos + (item.encode pos).length) rest

/-- A writer holds what it has written behind the header, and refuses some items. -/
def write (accepts : Item → Bool) (out : List UInt8) (item : Item) : Option (List UInt8) :=
  if accepts item then some (out ++ item.encode out.length) else none

theorem foldlM_write (accepts : Item → Bool) (items : List Item) (out : List UInt8) :
    items.foldlM (write accepts) out =
      if items.all accepts then some (out ++ encodeFrom out.length items) else none := by
  induction items generalizing out with
  | nil => simp [encodeFrom]
  | cons item rest ih =>
      rw [List.foldlM_cons, write]
      cases accepted : accepts item with
      | false => simp [accepted]
      | true =>
          simp only [if_true, Option.bind_eq_bind, Option.bind_some, ih, encodeFrom,
            List.all_cons, accepted, Bool.true_and, List.length_append, List.append_assoc]

@[simp] theorem bigEndian_length (size value : Nat) : (bigEndian size value).length = size := by
  induction size generalizing value with
  | zero => rfl
  | succ size ih => simp [bigEndian, ih]

@[simp] theorem aligned_length (size pos value : Nat) :
    (aligned size pos value).length = padding size pos + size := by
  simp [aligned]

theorem bigEndian_injective (size first second : Nat) (firstFits : first < 256 ^ size)
    (secondFits : second < 256 ^ size) (same : bigEndian size first = bigEndian size second) :
    first = second := by
  induction size generalizing first second with
  | zero =>
      simp only [Nat.pow_zero, Nat.lt_one_iff] at firstFits secondFits
      rw [firstFits, secondFits]
  | succ size ih =>
      obtain ⟨high, low⟩ := List.append_inj' same rfl
      have firstHigh : first / 256 < 256 ^ size :=
        Nat.div_lt_of_lt_mul (by rwa [Nat.pow_succ, Nat.mul_comm] at firstFits)
      have secondHigh : second / 256 < 256 ^ size :=
        Nat.div_lt_of_lt_mul (by rwa [Nat.pow_succ, Nat.mul_comm] at secondFits)
      have quotient := ih (first / 256) (second / 256) firstHigh secondHigh high
      have remainder : first % 256 = second % 256 := by
        have byte := congrArg UInt8.toNat (List.singleton_inj.mp low)
        simpa using byte
      omega

/-- An aligned number of known size ends at a known place. -/
theorem aligned_unique (size pos first second : Nat) (firstRest secondRest : List UInt8)
    (firstFits : first < 256 ^ size) (secondFits : second < 256 ^ size)
    (same : aligned size pos first ++ firstRest = aligned size pos second ++ secondRest) :
    first = second ∧ firstRest = secondRest := by
  obtain ⟨numbers, rests⟩ := List.append_inj same (by simp)
  have bytes := List.append_cancel_left numbers
  exact ⟨bigEndian_injective size first second firstFits secondFits bytes, rests⟩

theorem encode_unique (pos : Nat) (first second : Item) (firstRest secondRest : List UInt8)
    (shape : first.shape = second.shape) (firstFits : first.Fits) (secondFits : second.Fits)
    (same : first.encode pos ++ firstRest = second.encode pos ++ secondRest) :
    first = second ∧ firstRest = secondRest := by
  cases first with
  | scalar size value =>
      cases second with
      | text bytes => cases shape
      | scalar otherSize other =>
          cases shape
          obtain ⟨rfl, rests⟩ :=
            aligned_unique size pos value other firstRest secondRest firstFits secondFits same
          exact ⟨rfl, rests⟩
  | text bytes =>
      cases second with
      | scalar size value => cases shape
      | text others =>
          simp only [Item.encode, List.append_assoc] at same
          obtain ⟨lengths, contents⟩ := aligned_unique 4 pos _ _ _ _ firstFits secondFits same
          obtain ⟨rfl, rests⟩ := List.append_inj contents (Nat.succ.inj lengths)
          exact ⟨rfl, List.append_cancel_left rests⟩

/-- Items of the same shapes are read back from their bytes. -/
theorem encodeFrom_unique (pos : Nat) (left right : List Item)
    (shapes : left.map Item.shape = right.map Item.shape) (leftFits : ∀ item ∈ left, item.Fits)
    (rightFits : ∀ item ∈ right, item.Fits) (same : encodeFrom pos left = encodeFrom pos right) :
    left = right := by
  induction left generalizing pos right with
  | nil =>
      cases right with
      | nil => rfl
      | cons item right => cases shapes
  | cons item left ih =>
      cases right with
      | nil => cases shapes
      | cons other right =>
          obtain ⟨shape, tailShapes⟩ := List.cons.inj shapes
          obtain ⟨itemFits, leftTail⟩ := List.forall_mem_cons.mp leftFits
          obtain ⟨otherFits, rightTail⟩ := List.forall_mem_cons.mp rightFits
          obtain ⟨rfl, rests⟩ := encode_unique pos item other _ _ shape itemFits otherFits same
          rw [ih _ right tailShapes leftTail rightTail rests]

/-- Without texts the shapes fix the length. -/
theorem encodeFrom_length (pos : Nat) (left right : List Item)
    (shapes : left.map Item.shape = right.map Item.shape)
    (scalars : ∀ item ∈ left, item.shape ≠ .text) :
    (encodeFrom pos left).length = (encodeFrom pos right).length := by
  induction left generalizing pos right with
  | nil =>
      cases right with
      | nil => rfl
      | cons item right => cases shapes
  | cons item left ih =>
      cases right with
      | nil => cases shapes
      | cons other right =>
          obtain ⟨shape, tailShapes⟩ := List.cons.inj shapes
          obtain ⟨scalar, scalars⟩ := List.forall_mem_cons.mp scalars
          have length : (item.encode pos).length = (other.encode pos).length := by
            cases item with
            | text bytes => exact absurd rfl scalar
            | scalar size value =>
                cases other with
                | text bytes => cases shape
                | scalar otherSize otherValue =>
                    cases shape
                    simp [Item.encode]
          rw [encodeFrom, encodeFrom, List.length_append, List.length_append, length,
            ih _ right tailShapes scalars]

end CycloneddsRs.BigEndianCdr
