import Mathlib.Order.Bounds.Basic

/-!
Bisection over natural numbers. `below` can fail; where it does not, it holds of the numbers
under some boundary and of no other.
-/

namespace CycloneddsRs.BoundarySearch

universe u
variable {Error : Type u}

def bisect (below : Nat → Except Error Bool) (low high : Nat) : Except Error Nat :=
  if low < high then
    let middle := low + (high - low) / 2
    match below middle with
    | .error error => .error error
    | .ok true => bisect below (middle + 1) high
    | .ok false => bisect below low middle
  else .ok low
  termination_by high - low

/-- Among the numbers under `high`, those under the boundary are below. -/
def Divides (below : Nat → Except Error Bool) (boundary high : Nat) : Prop :=
  ∀ number, number < high → below number = .ok (decide (number < boundary))

theorem Divides.restrict (below : Nat → Except Error Bool) (boundary high lower : Nat)
    (divides : Divides below boundary high) (less : lower ≤ high) :
    Divides below boundary lower :=
  fun number inside => divides number (Nat.lt_of_lt_of_le inside less)

/-- The boundary stays between the two ends. -/
theorem bisect_boundary (below : Nat → Except Error Bool) (boundary low high : Nat)
    (divides : Divides below boundary high) (atLeast : low ≤ boundary) (atMost : boundary ≤ high) :
    bisect below low high = .ok boundary := by
  induction low, high using bisect.induct below with
  | case1 low high apart middle error failed =>
      have answered := divides middle (by omega)
      rw [failed] at answered
      cases answered
  | case2 low high apart middle isBelow ih =>
      have answered := divides middle (by omega)
      have here : middle < boundary := by
        rw [isBelow] at answered
        exact of_decide_eq_true (Except.ok.inj answered).symm
      rw [bisect, if_pos apart]
      simp only [show below (low + (high - low) / 2) = .ok true from isBelow]
      exact ih divides here atMost
  | case3 low high apart middle notBelow ih =>
      have answered := divides middle (by omega)
      have here : boundary ≤ middle := by
        rw [notBelow] at answered
        exact Nat.le_of_not_lt (of_decide_eq_false (Except.ok.inj answered).symm)
      rw [bisect, if_pos apart]
      simp only [show below (low + (high - low) / 2) = .ok false from notBelow]
      exact ih (divides.restrict below boundary high middle (by omega)) atLeast here
  | case4 low high closed =>
      have same : low = boundary := by omega
      rw [bisect, if_neg closed, same]

end CycloneddsRs.BoundarySearch
