import AnchoredUi.Proofs.Number.Within

/-!
# Numbers that are not negative

Rounding keeps the sign of a number, and it does not lead below a number of the format. So sums of
numbers that are not negative are not negative, and neither is what is left of a difference when the
number that was taken away is added again. An infinite product of zero is missing, so products need
a factor that is finite and positive.

* `zero_le_iff`: missing numbers are not compared.
* `zero_le_add`, `zero_le_mul`: sums and products.
* `zero_le_add_sub`: a difference, and what was taken away added again.
-/

namespace AnchoredUi.Number.Binary

variable {F : Format} {a b : Binary F} {x y : Single}

theorem zero_le_finite_iff {u : ℤ} {hu : F.Holds u.natAbs} :
    0 ≤ (Binary.finite u hu) ↔ 0 ≤ u := by
  rw [zero_eq]
  show (decide (0 < u) || (0 == u)) = true ↔ 0 ≤ u
  rw [Bool.or_eq_true, decide_eq_true_iff, beq_iff_eq]
  omega

theorem zero_le_infinite_iff {s : Bool} : 0 ≤ (Binary.infinite s : Binary F) ↔ s = false := by
  rw [zero_eq]
  show ((!s) || false) = true ↔ s = false
  cases s <;> decide

theorem not_zero_le_nan : ¬ 0 ≤ (Binary.nan : Binary F) := by
  rw [zero_eq]
  exact nofun

theorem zero_le_iff : 0 ≤ a ↔ a ≠ .nan ∧ ¬ a < 0 := by
  rw [zero_eq]
  cases a with
  | finite u hu =>
    rw [← zero_eq, zero_le_finite_iff, zero_eq]
    show 0 ≤ u ↔ _ ≠ _ ∧ ¬ decide (u < 0) = true
    simp
  | infinite s =>
    rw [← zero_eq, zero_le_infinite_iff, zero_eq]
    show s = false ↔ _ ≠ _ ∧ ¬ s = true
    simp
  | nan => exact iff_of_false (zero_eq (F := F) ▸ not_zero_le_nan) fun h => h.1 rfl

theorem zero_le_iff_value (h : a.isFinite = true) : 0 ≤ a ↔ 0 ≤ a.value := by
  obtain ⟨u, hu, rfl⟩ := exists_units h
  rw [zero_le_finite_iff, value, le_div_iff₀ (by positivity), MulZeroClass.zero_mul,
    Int.cast_nonneg_iff]

/-! ## Operations -/

theorem zero_le_ofQuotient {n : ℤ} (h : 0 ≤ n) (d : ℕ) : 0 ≤ (ofQuotient n d : Binary F) := by
  unfold ofQuotient
  split
  · rw [if_neg (not_lt.mpr h)]
    exact zero_le_finite_iff.mpr (Int.natCast_nonneg _)
  · exact zero_le_infinite_iff.mpr (decide_eq_false (not_lt.mpr h))

theorem zero_le_ofInt {n : ℤ} (h : 0 ≤ n) : 0 ≤ (ofInt n : Binary F) :=
  zero_le_ofQuotient (by positivity) 1

theorem zero_le_add (ha : 0 ≤ a) (hb : 0 ≤ b) : 0 ≤ a + b := by
  cases a with
  | finite u hu =>
    cases b with
    | finite v hv =>
      exact zero_le_ofQuotient
        (Int.add_nonneg (zero_le_finite_iff.mp ha) (zero_le_finite_iff.mp hb)) 1
    | infinite s => exact hb
    | nan => exact absurd hb not_zero_le_nan
  | infinite s =>
    cases b with
    | finite v hv => exact ha
    | infinite t =>
      rw [zero_le_infinite_iff] at ha hb
      subst ha hb
      exact zero_le_infinite_iff.mpr rfl
    | nan => exact absurd hb not_zero_le_nan
  | nan => exact absurd ha not_zero_le_nan

theorem zero_le_mul (ha : 0 ≤ a) (hb : b.isFinite = true) (hPos : 0 < b) : 0 ≤ a * b := by
  obtain ⟨v, hv, rfl⟩ := exists_units hb
  have hv0 : 0 < v := by
    rw [zero_eq] at hPos
    exact of_decide_eq_true hPos
  cases a with
  | finite u hu => exact zero_le_ofQuotient (mul_nonneg (zero_le_finite_iff.mp ha) hv0.le) _
  | infinite s =>
    rw [zero_le_infinite_iff] at ha
    subst ha
    show 0 ≤ if v = 0 then _ else Binary.infinite (false != decide (v < 0))
    rw [if_neg hv0.ne', zero_le_infinite_iff, decide_eq_false (not_lt.mpr hv0.le)]
    rfl
  | nan => exact absurd ha not_zero_le_nan

theorem sub_same (h : a.isFinite = true) : a - a = 0 := by
  obtain ⟨u, hu, rfl⟩ := exists_units h
  show ofQuotient (u + -u) 1 = _
  rw [Int.add_right_neg, zero_eq]
  exact ofQuotient_of_holds F.holds_zero

theorem times_one (hx : x.isFinite = true) (hPos : 0 ≤ x) : x * 1 = x := by
  have hRounds := rounds_mul hx value_one.1
  rw [value_one.2, mul_one] at hRounds
  obtain ⟨hFinite, hValue⟩ := hRounds.value_eq hx rfl ((zero_le_iff_value hx).mp hPos)
  exact value_injective hFinite hx hValue

/-- Rounding does not lead below the opposite of what was taken away. -/
theorem zero_le_add_sub (ha : a.isFinite = true) (hb : 0 ≤ b) : 0 ≤ a + (b - a) := by
  obtain ⟨u, hu, rfl⟩ := exists_units ha
  cases b with
  | finite v hv =>
    have hv0 := zero_le_finite_iff.mp hb
    show 0 ≤ Binary.finite u hu + ofQuotient (v + -u) 1
    by_cases hNegative : v + -u < 0
    · have hNear : F.nearest (v + -u).natAbs 1 ≤ u.natAbs :=
        Format.nearest_le_of_holds hu Nat.one_pos (by omega)
      unfold ofQuotient
      rw [dif_pos (hNear.trans_lt hu.1), if_pos hNegative]
      exact zero_le_ofQuotient (by omega) 1
    · have hFar : u < 0 → u.natAbs ≤ F.nearest (v + -u).natAbs 1 := fun hu0 =>
        Format.le_nearest_of_holds hu Nat.one_pos (by omega)
      unfold ofQuotient
      split
      · exact zero_le_ofQuotient (by omega) 1
      · exact zero_le_infinite_iff.mpr (decide_eq_false hNegative)
  | infinite s => exact hb
  | nan => exact absurd hb not_zero_le_nan

end AnchoredUi.Number.Binary
