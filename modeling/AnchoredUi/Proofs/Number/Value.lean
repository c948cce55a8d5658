import Mathlib.Data.Rat.Lemmas
import Mathlib.Tactic.FieldSimp
import Mathlib.Tactic.Positivity
import AnchoredUi.Number.Measure

/-!
# The values of floating-point numbers

A finite number is the exact value of its count of units. Operations whose exact result the format
holds do not round: so it is with sums with zero and with products of a finite number with zero.

* `value_injective`: finite numbers of the same value are equal.
* `zero_add`, `mul_zero`: what is computed with zero.
* `value_larger_zero`: the larger one of a number and zero.
-/

namespace AnchoredUi.Number

variable {F : Format}

theorem Format.nearest_zero (d : ℕ) : F.nearest 0 d = 0 := by
  simp [nearest, divNearest]

theorem Format.nearest_of_holds {n : ℕ} (h : F.Holds n) : F.nearest n 1 = n := by
  have hDvd : 2 ^ F.slack n 1 ∣ n := by
    rw [slack, Nat.div_one]
    exact h.2
  rw [nearest, divNearest, one_mul, Nat.pow_eq, Nat.mod_eq_zero_of_dvd hDvd]
  simp [Nat.div_mul_cancel hDvd]

namespace Binary

theorem ofQuotient_of_holds {u : ℤ} (h : F.Holds u.natAbs) :
    (ofQuotient u 1 : Binary F) = .finite u h := by
  have hNearest := Format.nearest_of_holds h
  unfold ofQuotient
  rw [dif_pos (by rw [hNearest]; exact h.1)]
  split <;> congr 1 <;> omega

theorem zero_eq : (0 : Binary F) = .finite 0 F.holds_zero := by
  show ofQuotient (0 * Nat.pow 2 F.scale) 1 = _
  rw [Int.zero_mul]
  exact ofQuotient_of_holds F.holds_zero

theorem zero_add (a : Binary F) : 0 + a = a := by
  rw [zero_eq]
  cases a with
  | finite u h =>
    show ofQuotient (0 + u) 1 = _
    rw [Int.zero_add, ofQuotient_of_holds h]
  | infinite s => rfl
  | nan => rfl

theorem mul_zero {a : Binary F} (h : a.isFinite = true) : a * 0 = 0 := by
  rw [zero_eq]
  cases a with
  | finite u hu =>
    show ofQuotient (u * 0) _ = _
    rw [Int.mul_zero]
    unfold ofQuotient
    simp [Format.nearest_zero]
  | infinite s => cases h
  | nan => cases h

/-! ## Values -/

/-- The exact value of a finite number. -/
def value : Binary F → ℚ
  | .finite u _ => u / 2 ^ F.scale
  | _ => 0

theorem value_injective {a b : Binary F} (ha : a.isFinite = true) (hb : b.isFinite = true)
    (h : a.value = b.value) : a = b := by
  cases a with
  | finite u hu =>
    cases b with
    | finite v hv =>
      have hScale : (2 : ℚ) ^ F.scale ≠ 0 := by positivity
      have hSame : u = v := by exact_mod_cast (div_left_inj' hScale).mp h
      subst hSame
      rfl
    | infinite s => cases hb
    | nan => cases hb
  | infinite s => cases ha
  | nan => cases ha

theorem less_zero_iff {a : Binary F} (h : a.isFinite = true) : a < 0 ↔ a.value < 0 := by
  cases a with
  | finite u hu =>
    rw [zero_eq]
    show decide (u < 0) = true ↔ (u : ℚ) / 2 ^ F.scale < 0
    rw [decide_eq_true_iff, div_lt_iff₀ (by positivity), MulZeroClass.zero_mul, Int.cast_lt_zero]
  | infinite s => cases h
  | nan => cases h

theorem zero_ne_nan : (0 : Binary F) ≠ .nan := by
  rw [zero_eq]
  exact fun h => by cases h

theorem value_zero : (0 : Binary F).value = 0 := by
  rw [zero_eq]
  simp [value]

/-- What is not finite has the value zero, and so has the larger one of it and zero. -/
theorem value_larger_zero (a : Binary F) : (a.larger 0).value = max a.value 0 := by
  cases a with
  | finite u hu =>
    rw [larger, if_neg (fun h => by cases h), if_neg zero_ne_nan]
    split
    · rename_i hNegative
      rw [less_zero_iff rfl] at hNegative
      rw [value_zero, max_eq_right hNegative.le]
    · rename_i hNot
      rw [less_zero_iff rfl, not_lt] at hNot
      rw [max_eq_left hNot]
  | infinite s =>
    rw [larger, if_neg (fun h => by cases h), if_neg zero_ne_nan]
    split
    · rw [value_zero]
      exact (max_self 0).symm
    · exact (max_self 0).symm
  | nan =>
    rw [larger, if_pos rfl, value_zero]
    exact (max_self 0).symm

end Binary

end AnchoredUi.Number
