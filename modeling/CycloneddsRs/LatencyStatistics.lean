import CycloneddsRs.Serdes
import Mathlib.Algebra.Group.Action.Defs
import Mathlib.Algebra.Order.BigOperators.Group.List
import Mathlib.Algebra.Order.Ring.Nat
import Mathlib.Data.List.Sort

/-!
The latency statistics of the benchmark. The arithmetic is that of a build with overflow
checks: an overflow is a panic. `usizeMax` is the largest `usize` of the target.
-/

namespace CycloneddsRs.LatencyStatistics
open Serdes

/-! Order statistics of a sorted list -/

section Sorted

variable {Value : Type} [LE Value]

theorem sorted_le (values : List Value) (reflexive : ∀ value : Value, value ≤ value)
    (sorted : values.Pairwise (· ≤ ·)) (first second : Nat) (ordered : first ≤ second)
    (bound : second < values.length) : values[first] ≤ values[second] := by
  rcases Nat.eq_or_lt_of_le ordered with rfl | before
  · exact reflexive _
  · exact List.pairwise_iff_getElem.mp sorted first second (by omega) bound before

theorem sorted_countP [DecidableLE Value] (values : List Value)
    (reflexive : ∀ value : Value, value ≤ value)
    (sorted : values.Pairwise (· ≤ ·)) (index : Nat) (bound : index < values.length) :
    index + 1 ≤ values.countP fun other => decide (other ≤ values[index]) := by
  have front : ∀ other ∈ values.take (index + 1), other ≤ values[index] := by
    intro other member
    obtain ⟨place, inside, rfl⟩ := List.mem_take_iff_getElem.mp member
    exact sorted_le values reflexive sorted place index (by omega) bound
  have all : (values.take (index + 1)).countP (fun other => decide (other ≤ values[index])) =
      (values.take (index + 1)).length :=
    List.countP_eq_length.mpr fun other member => decide_eq_true (front other member)
  calc index + 1 = (values.take (index + 1)).length := by
        rw [List.length_take]
        omega
    _ = (values.take (index + 1)).countP (fun other => decide (other ≤ values[index])) := all.symm
    _ ≤ values.countP fun other => decide (other ≤ values[index]) :=
        (List.take_sublist (index + 1) values).countP_le

end Sorted

section Summary

variable (usizeMax : Nat)

def divCeil (number divisor : Nat) : Nat :=
  number / divisor + if number % divisor > 0 then 1 else 0

def element (values : List UInt64) (index : Nat) : Panics UInt64 :=
  match values[index]? with
  | some value => .ok value
  | none => .error "index out of bounds"

def percentile (sorted : List UInt64) (percentile : Nat) : Panics UInt64 :=
  if sorted.length = 0 then .error "attempt to subtract with overflow"
  else if usizeMax < (sorted.length - 1) * percentile then
    .error "attempt to multiply with overflow"
  else element sorted (divCeil ((sorted.length - 1) * percentile) 100)

structure LatencySummary where
  count : Nat
  minNs : UInt64
  meanNs : UInt64
  p50Ns : UInt64
  p95Ns : UInt64
  p99Ns : UInt64
  maxNs : UInt64
  deriving DecidableEq

def sortUnstable (values : List UInt64) : List UInt64 := values.insertionSort (· ≤ ·)

/-- The sum is a `u128`, which holds the sum of every `Vec<u64>`. -/
def latencySummary (values : List UInt64) : Panics (Option LatencySummary) :=
  if values.isEmpty then .ok none
  else do
    let values := sortUnstable values
    let sum := (values.map UInt64.toNat).sum
    let minNs ← element values 0
    let p50Ns ← percentile usizeMax values 50
    let p95Ns ← percentile usizeMax values 95
    let p99Ns ← percentile usizeMax values 99
    let maxNs ← element values (values.length - 1)
    return some {
      count := values.length
      minNs := minNs
      meanNs := UInt64.ofNat (sum / values.length)
      p50Ns := p50Ns
      p95Ns := p95Ns
      p99Ns := p99Ns
      maxNs := maxNs }

example : latencySummary (2 ^ 64 - 1) [40, 10, 30, 20] =
    .ok (some ⟨4, 10, 25, 30, 40, 40, 40⟩) := by decide +kernel

/-- `value` is in the list, and at least `percent` hundredths of it are not above it. -/
def Covers (values : List UInt64) (percent : Nat) (value : UInt64) : Prop :=
  value ∈ values ∧ percent * values.length ≤ 100 * values.countP fun other => decide (other ≤ value)

structure WellOrdered (values : List UInt64) (summary : LatencySummary) : Prop where
  min_p50 : summary.minNs ≤ summary.p50Ns
  p50_p95 : summary.p50Ns ≤ summary.p95Ns
  p95_p99 : summary.p95Ns ≤ summary.p99Ns
  p99_max : summary.p99Ns ≤ summary.maxNs
  min_mean : summary.minNs ≤ summary.meanNs
  mean_max : summary.meanNs ≤ summary.maxNs
  p50_covers : Covers values 50 summary.p50Ns
  p95_covers : Covers values 95 summary.p95Ns
  p99_covers : Covers values 99 summary.p99Ns

/-- The statistics of the values are there, well ordered, and the same for every order of
the values. -/
def Summarised (values : List UInt64) : Prop :=
  (∃ summary, latencySummary usizeMax values = .ok (some summary) ∧
    WellOrdered values summary) ∧
  ∀ other, values.Perm other → latencySummary usizeMax other = latencySummary usizeMax values

/-! Sorting -/

theorem sortUnstable_sorted (values : List UInt64) : (sortUnstable values).Pairwise (· ≤ ·) :=
  List.pairwise_insertionSort _ values

theorem sortUnstable_perm (values : List UInt64) : (sortUnstable values).Perm values :=
  List.perm_insertionSort _ values

theorem sortUnstable_congr (values other : List UInt64) (same : values.Perm other) :
    sortUnstable other = sortUnstable values :=
  List.Perm.eq_of_pairwise' (sortUnstable_sorted other) (sortUnstable_sorted values)
    ((sortUnstable_perm other).trans (same.symm.trans (sortUnstable_perm values).symm))

theorem latencySummary_congr (values other : List UInt64) (same : values.Perm other) :
    latencySummary usizeMax other = latencySummary usizeMax values := by
  have empty : other.isEmpty = values.isEmpty := by
    rw [Bool.eq_iff_iff, List.isEmpty_iff, List.isEmpty_iff, ← List.length_eq_zero_iff,
      ← List.length_eq_zero_iff, same.length_eq]
  rw [latencySummary, latencySummary, empty, sortUnstable_congr values other same]

/-! Percentiles -/

def rank (length percent : Nat) : Nat := divCeil ((length - 1) * percent) 100

theorem divCeil_hundred (number : Nat) : divCeil number 100 = (number + 99) / 100 := by
  unfold divCeil
  split <;> omega

theorem rank_lt (length percent : Nat) (nonempty : 0 < length) (fraction : percent ≤ 100) :
    rank length percent < length := by
  have part : (length - 1) * percent ≤ (length - 1) * 100 := Nat.mul_le_mul_left _ fraction
  rw [rank, divCeil_hundred]
  omega

theorem rank_covers (length percent : Nat) (nonempty : 0 < length) (fraction : percent ≤ 100) :
    percent * length ≤ 100 * (rank length percent + 1) := by
  have whole : percent * length = (length - 1) * percent + percent := by
    rw [Nat.mul_comm, ← Nat.succ_mul, Nat.succ_eq_add_one, Nat.sub_add_cancel nonempty]
  rw [rank, divCeil_hundred, whole]
  omega

theorem rank_mono (length first second : Nat) (ordered : first ≤ second) :
    rank length first ≤ rank length second := by
  have products : (length - 1) * first ≤ (length - 1) * second := Nat.mul_le_mul_left _ ordered
  rw [rank, rank, divCeil_hundred, divCeil_hundred]
  omega

theorem element_ok (values : List UInt64) (index : Nat) (bound : index < values.length) :
    element values index = .ok values[index] := by
  rw [element, List.getElem?_eq_getElem bound]

theorem percentile_ok (sorted : List UInt64) (percent : Nat) (nonempty : 0 < sorted.length)
    (fits : (sorted.length - 1) * percent ≤ usizeMax)
    (bound : rank sorted.length percent < sorted.length) :
    percentile usizeMax sorted percent = .ok sorted[rank sorted.length percent] := by
  rw [percentile, if_neg (by omega), if_neg (by omega)]
  exact element_ok sorted _ bound

theorem percentile_overflow (sorted : List UInt64) (percent : Nat) (nonempty : 0 < sorted.length)
    (overflow : usizeMax < (sorted.length - 1) * percent) :
    percentile usizeMax sorted percent = .error "attempt to multiply with overflow" := by
  rw [percentile, if_neg (by omega), if_pos overflow]

/-- The element at a rank covers its percentage, also of the values before they are sorted. -/
theorem rank_element_covers (values : List UInt64) (percent : Nat) (fraction : percent ≤ 100)
    (bound : rank (sortUnstable values).length percent < (sortUnstable values).length) :
    Covers values percent (sortUnstable values)[rank (sortUnstable values).length percent] := by
  have perm := sortUnstable_perm values
  have counted := sorted_countP (sortUnstable values) UInt64.le_refl (sortUnstable_sorted values)
    (rank (sortUnstable values).length percent) bound
  have enough := rank_covers (sortUnstable values).length percent (by omega) fraction
  constructor
  · exact perm.mem_iff.mp (List.getElem_mem bound)
  · rw [← perm.countP_eq, ← perm.length_eq]
    omega

/-! The mean -/

theorem mean_bounds (values : List UInt64) (least greatest : UInt64) (nonempty : 0 < values.length)
    (above : ∀ value ∈ values, least ≤ value) (below : ∀ value ∈ values, value ≤ greatest) :
    least ≤ UInt64.ofNat ((values.map UInt64.toNat).sum / values.length) ∧
      UInt64.ofNat ((values.map UInt64.toNat).sum / values.length) ≤ greatest := by
  have low := List.card_nsmul_le_sum (values.map UInt64.toNat) least.toNat (by
    intro number member
    obtain ⟨value, held, rfl⟩ := List.mem_map.mp member
    exact UInt64.le_iff_toNat_le.mp (above value held))
  have high := List.sum_le_card_nsmul (values.map UInt64.toNat) greatest.toNat (by
    intro number member
    obtain ⟨value, held, rfl⟩ := List.mem_map.mp member
    exact UInt64.le_iff_toNat_le.mp (below value held))
  rw [List.length_map, smul_eq_mul] at low high
  have quotientLow : least.toNat ≤ (values.map UInt64.toNat).sum / values.length :=
    (Nat.le_div_iff_mul_le nonempty).mpr (by rwa [Nat.mul_comm])
  have quotientHigh : (values.map UInt64.toNat).sum / values.length ≤ greatest.toNat :=
    Nat.div_le_of_le_mul high
  have exact : (UInt64.ofNat ((values.map UInt64.toNat).sum / values.length)).toNat =
      (values.map UInt64.toNat).sum / values.length :=
    UInt64.toNat_ofNat_of_lt' (Nat.lt_of_le_of_lt quotientHigh greatest.toNat_lt)
  rw [UInt64.le_iff_toNat_le, UInt64.le_iff_toNat_le, exact]
  exact ⟨quotientLow, quotientHigh⟩

/-- Without overflow the statistics are there and well ordered. -/
theorem latencySummary_ok (values : List UInt64) (nonempty : values ≠ [])
    (fits : (values.length - 1) * 99 ≤ usizeMax) :
    ∃ summary, latencySummary usizeMax values = .ok (some summary) ∧
      WellOrdered values summary := by
  have length : (sortUnstable values).length = values.length := (sortUnstable_perm values).length_eq
  have positive : 0 < (sortUnstable values).length := by
    rw [length]
    exact List.length_pos_iff.mpr nonempty
  have bound (percent : Nat) (fraction : percent ≤ 100) :=
    rank_lt (sortUnstable values).length percent positive fraction
  have boundLast : (sortUnstable values).length - 1 < (sortUnstable values).length := by omega
  have bound50 := bound 50 (by omega)
  have bound95 := bound 95 (by omega)
  have bound99 := bound 99 (by omega)
  have ordered := sorted_le (sortUnstable values) UInt64.le_refl (sortUnstable_sorted values)
  have least : ∀ value ∈ sortUnstable values, (sortUnstable values)[0] ≤ value := by
    intro value member
    obtain ⟨place, inside, rfl⟩ := List.mem_iff_getElem.mp member
    exact ordered 0 place (Nat.zero_le _) inside
  have greatest : ∀ value ∈ sortUnstable values,
      value ≤ (sortUnstable values)[(sortUnstable values).length - 1] := by
    intro value member
    obtain ⟨place, inside, rfl⟩ := List.mem_iff_getElem.mp member
    exact ordered place _ (by omega) _
  have mean := mean_bounds (sortUnstable values) _ _ positive least greatest
  rw [← length] at fits
  rw [latencySummary, if_neg (by simpa using nonempty)]
  simp only [element_ok _ 0 positive, element_ok _ _ boundLast,
    percentile_ok usizeMax _ 50 positive (by omega) bound50,
    percentile_ok usizeMax _ 95 positive (by omega) bound95,
    percentile_ok usizeMax _ 99 positive fits bound99]
  refine ⟨_, rfl, ?_⟩
  exact {
    min_p50 := least _ (List.getElem_mem bound50)
    p50_p95 := ordered _ _ (rank_mono _ 50 95 (by omega)) bound95
    p95_p99 := ordered _ _ (rank_mono _ 95 99 (by omega)) bound99
    p99_max := greatest _ (List.getElem_mem bound99)
    min_mean := mean.1
    mean_max := mean.2
    p50_covers := rank_element_covers values 50 (by omega) bound50
    p95_covers := rank_element_covers values 95 (by omega) bound95
    p99_covers := rank_element_covers values 99 (by omega) bound99 }

theorem latencySummary_overflow (values : List UInt64) (nonempty : values ≠ [])
    (overflow : usizeMax < (values.length - 1) * 99) (summary : Option LatencySummary) :
    latencySummary usizeMax values ≠ .ok summary := by
  have length : (sortUnstable values).length = values.length := (sortUnstable_perm values).length_eq
  have positive : 0 < (sortUnstable values).length := by
    rw [length]
    exact List.length_pos_iff.mpr nonempty
  rw [← length] at overflow
  rw [latencySummary, if_neg (by simpa using nonempty)]
  simp only [element_ok _ 0 positive, percentile_overflow usizeMax _ 99 positive overflow]
  cases percentile usizeMax (sortUnstable values) 50 with
  | error message => intro impossible; cases impossible
  | ok p50 =>
      cases percentile usizeMax (sortUnstable values) 95 with
      | error message => intro impossible; cases impossible
      | ok p95 => intro impossible; cases impossible

/-- The statistics hold what they promise exactly when the largest rank is computed without
overflow. -/
theorem summarised_iff (values : List UInt64) (nonempty : values ≠ []) :
    Summarised usizeMax values ↔ (values.length - 1) * 99 ≤ usizeMax := by
  constructor
  · rintro ⟨⟨summary, returned, -⟩, -⟩
    by_contra overflow
    exact latencySummary_overflow usizeMax values nonempty (Nat.lt_of_not_le overflow) _ returned
  · intro fits
    exact ⟨latencySummary_ok usizeMax values nonempty fits,
      fun other same => latencySummary_congr usizeMax values other same⟩

theorem summarised_four : Summarised (2 ^ 64 - 1) [10, 20, 30, 40] ↔
    (([10, 20, 30, 40] : List UInt64).length - 1) * 99 ≤ 2 ^ 64 - 1 :=
  summarised_iff (2 ^ 64 - 1) [10, 20, 30, 40] (by simp)

theorem replicate_overflow (count : Nat) (positive : 0 < count)
    (overflow : usizeMax < (count - 1) * 99) :
    ¬ Summarised usizeMax (List.replicate count (0 : UInt64)) := by
  rintro ⟨⟨summary, returned, -⟩, -⟩
  refine latencySummary_overflow usizeMax _ ?_ ?_ _ returned
  · simpa [List.replicate_eq_nil_iff] using Nat.ne_of_gt positive
  · rwa [List.length_replicate]

/-- The largest rank overflows below the limit of a `Vec<u64>`, which is 2^28 values on a
target with 32 bits and 2^60 on one with 64 bits. -/
theorem many_values_not_summarised :
    ¬ Summarised (2 ^ 32 - 1) (List.replicate 43383510 (0 : UInt64)) ∧
      ¬ Summarised (2 ^ 64 - 1) (List.replicate 186330748219288402 (0 : UInt64)) :=
  ⟨replicate_overflow _ _ (by omega) (by omega), replicate_overflow _ _ (by omega) (by omega)⟩

end Summary

end CycloneddsRs.LatencyStatistics
