import Mathlib.Algebra.Order.Field.Basic
import Mathlib.Tactic.Linarith
import Mathlib.Tactic.Ring
import AnchoredUi.Proofs.Number.Value

/-!
# Rounding keeps to bounds

Every operation computes an exact number and rounds it once. Rounding never crosses a number that
the format holds: what is at most such a number before is at most that number afterwards. So a bound
that the format holds is no worse after rounding, and a number between two finite ones is finite.
How far rounding moves a number is at most half of the distance of the numbers of its size.

* `Rounds`: a number is an exact one, rounded. The operations on finite numbers are such.
* `Rounds.le`, `Rounds.isFinite`: bounds.
* `Rounds.error`: how far the number is from the exact one.
-/

namespace AnchoredUi.Number

/-! ## Counts -/

namespace Format

variable {F : Format} {n d m e : ℕ}

theorem divNearest_le_of_le (hd : 0 < d) (h : n ≤ m * d) : divNearest n d ≤ m := by
  have hQuotient : n / d ≤ m := Nat.div_le_of_le_mul (by rwa [Nat.mul_comm])
  rcases Nat.lt_or_eq_of_le hQuotient with hLt | hEq
  · exact (divNearest_le n d).trans hLt
  · -- nothing is left over
    have hSplit := Nat.div_add_mod n d
    have hRest : n % d = 0 := by
      rw [hEq, Nat.mul_comm] at hSplit
      omega
    simp [divNearest, hRest, hEq, hd]

theorem le_divNearest_of_le (hd : 0 < d) (h : m * d ≤ n) : m ≤ divNearest n d := by
  have hQuotient : m ≤ n / d := (Nat.le_div_iff_mul_le hd).mpr h
  unfold divNearest
  dsimp only
  split
  · exact hQuotient
  · split <;> omega

theorem divNearest_error (hd : 0 < d) :
    2 * n ≤ 2 * (divNearest n d * d) + d ∧ 2 * (divNearest n d * d) ≤ 2 * n + d := by
  have hSplit := Nat.div_add_mod n d
  have hRest := Nat.mod_lt n hd
  rw [Nat.mul_comm] at hSplit
  unfold divNearest
  dsimp only
  split
  · omega
  · split
    · rw [Nat.add_mul]
      omega
    · -- a half, which goes to either side
      rcases Nat.mod_two_eq_zero_or_one (n / d) with hEven | hOdd
      · rw [hEven, Nat.add_zero]
        omega
      · rw [hOdd, Nat.add_mul]
        omega

theorem slack_le (hn : n < 2 ^ (F.precision + e) * d) : F.slack n d ≤ e := by
  have hQuotient : n / d < 2 ^ (F.precision + e) := Nat.div_lt_of_lt_mul (by rwa [Nat.mul_comm])
  have hp := F.precision_pos
  unfold slack
  by_cases hZero : n / d = 0
  · rw [hZero, Nat.log2_zero]
    omega
  · have := (Nat.log2_lt hZero).mpr hQuotient
    omega

/-- A count of the size of `n / d` that is held leaves as many digits empty as `n / d` has to. -/
theorem nearest_le_of_dvd (hd : 0 < d) (hDvd : 2 ^ F.slack n d ∣ m) (h : n ≤ m * d) :
    F.nearest n d ≤ m := by
  obtain ⟨k, rfl⟩ := hDvd
  rw [nearest, Nat.pow_eq, Nat.mul_comm (2 ^ F.slack n d) k]
  refine Nat.mul_le_mul_right _ (divNearest_le_of_le (by positivity) (h.trans_eq ?_))
  ring

theorem le_nearest_of_dvd (hd : 0 < d) (hDvd : 2 ^ F.slack n d ∣ m) (h : m * d ≤ n) :
    m ≤ F.nearest n d := by
  obtain ⟨k, rfl⟩ := hDvd
  rw [nearest, Nat.pow_eq, Nat.mul_comm (2 ^ F.slack n d) k]
  refine Nat.mul_le_mul_right _ (le_divNearest_of_le (by positivity) (h.trans_eq' ?_))
  ring

theorem nearest_le_of_holds (hm : F.Holds m) (hd : 0 < d) (h : n ≤ m * d) :
    F.nearest n d ≤ m := by
  refine nearest_le_of_dvd hd (Nat.dvd_trans (Nat.pow_dvd_pow 2 ?_) hm.2) h
  have hQuotient : n / d ≤ m := Nat.div_le_of_le_mul (by rwa [Nat.mul_comm])
  have hLog : (n / d).log2 ≤ m.log2 := by
    by_cases hZero : n / d = 0
    · simp [hZero]
    · have hm0 : m ≠ 0 := ((Nat.pos_of_ne_zero hZero).trans_le hQuotient).ne'
      exact (Nat.le_log2 hm0).mpr ((Nat.log2_self_le hZero).trans hQuotient)
  unfold slack
  omega

theorem le_nearest_of_holds (hm : F.Holds m) (hd : 0 < d) (h : m * d ≤ n) :
    m ≤ F.nearest n d := by
  have hp := F.precision_pos
  have hQuotient : m ≤ n / d := (Nat.le_div_iff_mul_le hd).mpr h
  by_cases hSlack : F.slack n d ≤ m.log2 + 1 - F.precision
  · exact le_nearest_of_dvd hd (Nat.dvd_trans (Nat.pow_dvd_pow 2 hSlack) hm.2) h
  · -- then `n / d` is at least a power of two that is larger than the count
    have hLog : m.log2 + 1 ≤ (n / d).log2 ∧ F.slack n d ≤ (n / d).log2 := by
      unfold slack at hSlack ⊢
      omega
    have hNe : n / d ≠ 0 := by
      rintro hZero
      simp [hZero] at hLog
    have hPower : 2 ^ (n / d).log2 * d ≤ n :=
      (Nat.mul_le_mul_right d (Nat.log2_self_le hNe)).trans (Nat.div_mul_le_self n d)
    refine le_trans ?_ (le_nearest_of_dvd hd (Nat.pow_dvd_pow 2 hLog.2) hPower)
    exact (Nat.lt_log2_self.trans_le (Nat.pow_le_pow_right (by decide) hLog.1)).le

theorem nearest_error (hd : 0 < d) (h : n < 2 ^ (F.precision + e) * d) :
    2 * n ≤ 2 * (F.nearest n d * d) + 2 ^ e * d ∧
      2 * (F.nearest n d * d) ≤ 2 * n + 2 ^ e * d := by
  have hStep : d * 2 ^ F.slack n d ≤ 2 ^ e * d := by
    rw [Nat.mul_comm]
    exact Nat.mul_le_mul_right d (Nat.pow_le_pow_right (by decide) (slack_le h))
  have hCount : F.nearest n d * d =
      divNearest n (d * 2 ^ F.slack n d) * (d * 2 ^ F.slack n d) := by
    rw [nearest, Nat.pow_eq]
    ring
  have hError := divNearest_error (n := n) (d := d * 2 ^ F.slack n d) (by positivity)
  omega

end Format

/-! ## Numbers -/

namespace Binary

variable {F : Format} {a b c z : Binary F} {x y : ℚ}

/-- The number is the exact one, rounded. -/
def Rounds (y : ℚ) (z : Binary F) : Prop :=
  ∃ (n : ℤ) (d : ℕ), 0 < d ∧ y * 2 ^ F.scale = n / d ∧ z = ofQuotient n d

theorem exists_units (h : a.isFinite = true) : ∃ u hu, a = .finite u hu := by
  cases a with
  | finite u hu => exact ⟨u, hu, rfl⟩
  | infinite s => cases h
  | nan => cases h

theorem value_mul_scale {u : ℤ} (hu : F.Holds u.natAbs) :
    (Binary.finite u hu).value * 2 ^ F.scale = u :=
  div_mul_cancel₀ _ (by positivity)

/-! ### Operations -/

theorem rounds_add (ha : a.isFinite = true) (hb : b.isFinite = true) :
    Rounds (a.value + b.value) (a + b) := by
  obtain ⟨u, hu, rfl⟩ := exists_units ha
  obtain ⟨v, hv, rfl⟩ := exists_units hb
  refine ⟨u + v, 1, Nat.one_pos, ?_, rfl⟩
  rw [add_mul, value_mul_scale, value_mul_scale]
  push_cast
  ring

theorem rounds_mul (ha : a.isFinite = true) (hb : b.isFinite = true) :
    Rounds (a.value * b.value) (a * b) := by
  obtain ⟨u, hu, rfl⟩ := exists_units ha
  obtain ⟨v, hv, rfl⟩ := exists_units hb
  refine ⟨u * v, 2 ^ F.scale, by positivity, ?_, rfl⟩
  rw [mul_assoc, value_mul_scale, value]
  push_cast
  ring

theorem rounds_ofRatio (n : ℤ) {d : ℕ} (hd : 0 < d) :
    Rounds (n / d) (ofRatio n d : Binary F) := by
  refine ⟨n * (Nat.pow 2 F.scale : ℕ), d, hd, ?_, rfl⟩
  rw [Nat.pow_eq]
  push_cast
  ring

theorem rounds_ofInt (n : ℤ) : Rounds n (ofInt n : Binary F) := by
  have hRatio : Rounds (n / (1 : ℕ)) (ofInt n : Binary F) := rounds_ofRatio n Nat.one_pos
  rwa [Nat.cast_one, div_one] at hRatio

theorem rounds_div (ha : a.isFinite = true) (hb : b.isFinite = true) (hNe : b.value ≠ 0) :
    Rounds (a.value / b.value) (a / b) := by
  obtain ⟨u, hu, rfl⟩ := exists_units ha
  obtain ⟨v, hv, rfl⟩ := exists_units hb
  have hv0 : v ≠ 0 := by
    rintro rfl
    exact hNe (by simp [value])
  have hQuotient : (Binary.finite u hu) / (Binary.finite v hv) =
      (ofRatio (u * v.sign) v.natAbs : Binary F) := if_neg hv0
  have hv' : (v : ℚ) ≠ 0 := Int.cast_ne_zero.mpr hv0
  have hAbs : (v.natAbs : ℚ) ≠ 0 := by simpa using hv0
  have hSign : (v.sign : ℚ) * v = v.natAbs := by
    rw [Nat.cast_natAbs]
    exact_mod_cast Int.sign_mul_self_eq_abs v
  have hSame : (Binary.finite u hu).value / (Binary.finite v hv).value =
      (u * v.sign : ℤ) / v.natAbs := by
    unfold value
    rw [div_div_div_cancel_right₀ (by positivity), div_eq_div_iff hv' hAbs, Int.cast_mul,
      mul_assoc, hSign]
  rw [hQuotient, hSame]
  exact rounds_ofRatio _ (Int.natAbs_pos.mpr hv0)

theorem value_neg (a : Binary F) : (-a).value = -a.value := by
  cases a with
  | finite u hu =>
    show ((-u : ℤ) : ℚ) / 2 ^ F.scale = -(u / 2 ^ F.scale)
    push_cast
    ring
  | infinite s => exact neg_zero.symm
  | nan => exact neg_zero.symm

theorem isFinite_neg (a : Binary F) : (-a).isFinite = a.isFinite := by
  cases a <;> rfl

theorem rounds_sub (ha : a.isFinite = true) (hb : b.isFinite = true) :
    Rounds (a.value - b.value) (a - b) := by
  have hSum := rounds_add ha ((isFinite_neg b).trans hb)
  rwa [value_neg, ← sub_eq_add_neg] at hSum

/-! ### Bounds -/

theorem ofQuotient_neg (n : ℤ) (d : ℕ) :
    (ofQuotient (-n) d : Binary F) = -(ofQuotient n d : Binary F) := by
  rcases eq_or_ne n 0 with rfl | hn
  · have hNone : (ofQuotient 0 d : Binary F) = .finite 0 F.holds_zero := by
      simp [ofQuotient, Format.nearest_zero]
    rw [neg_zero, hNone]
    rfl
  · have hSign : -n < 0 ↔ ¬ n < 0 := by omega
    unfold ofQuotient
    simp only [Int.natAbs_neg, hSign]
    by_cases hReach : F.nearest n.natAbs d < Nat.pow 2 F.reach
    · rw [dif_pos hReach, dif_pos hReach]
      by_cases hNeg : n < 0
      · rw [if_neg (not_not.mpr hNeg), if_pos hNeg]
        show _ = Binary.finite _ _
        congr 1
        omega
      · rw [if_pos hNeg, if_neg hNeg]
        rfl
    · rw [dif_neg hReach, dif_neg hReach]
      show _ = Binary.infinite _
      congr 1
      by_cases hNeg : n < 0 <;> simp [hNeg]

theorem Rounds.neg (h : Rounds y z) : Rounds (-y) (-z) := by
  obtain ⟨n, d, hd, hy, rfl⟩ := h
  refine ⟨-n, d, hd, ?_, (ofQuotient_neg n d).symm⟩
  rw [neg_mul, hy]
  push_cast
  ring

theorem Rounds.isFinite (h : Rounds y z) (hc : c.isFinite = true) (hy : |y| ≤ c.value) :
    z.isFinite = true := by
  obtain ⟨n, d, hd, hUnits, rfl⟩ := h
  obtain ⟨v, hv, rfl⟩ := exists_units hc
  have hd' : (0 : ℚ) < d := Nat.cast_pos.mpr hd
  have hScale : (0 : ℚ) < 2 ^ F.scale := by positivity
  have hLe : |(n : ℚ)| ≤ v * d := by
    have hBound := mul_le_mul_of_nonneg_right hy hScale.le
    rw [value_mul_scale, ← abs_of_pos hScale, ← abs_mul, hUnits, abs_div, Nat.abs_cast,
      div_le_iff₀ hd'] at hBound
    exact hBound
  have hCount : |n| ≤ v * d := by exact_mod_cast hLe
  have hAbs : n.natAbs ≤ v.natAbs * d := by
    zify
    exact hCount.trans (mul_le_mul_of_nonneg_right (le_abs_self v) (Int.natCast_nonneg d))
  rw [units_ofQuotient]
  exact (Format.nearest_le_of_holds hv hd hAbs).trans_lt hv.1

/-- Rounding does not lead above a number of the format. -/
theorem Rounds.le (h : Rounds y z) (hc : c.isFinite = true) (hy : y ≤ c.value)
    (hz : z.isFinite = true) : z.value ≤ c.value := by
  obtain ⟨n, d, hd, hUnits, rfl⟩ := h
  obtain ⟨v, hv, rfl⟩ := exists_units hc
  have hd' : (0 : ℚ) < d := Nat.cast_pos.mpr hd
  have hScale : (0 : ℚ) < 2 ^ F.scale := by positivity
  have hLe : n ≤ v * d := by
    have hBound := mul_le_mul_of_nonneg_right hy hScale.le
    rw [value_mul_scale, hUnits, div_le_iff₀ hd'] at hBound
    exact_mod_cast hBound
  have hReach := (units_ofQuotient n d).mp hz
  unfold ofQuotient
  rw [dif_pos hReach]
  split
  · rename_i hNeg
    refine div_le_div_of_nonneg_right (Int.cast_le.mpr ?_) hScale.le
    rcases le_or_gt 0 v with hPos | hNegative
    · omega
    · -- both are negative, and the number is as far from zero as `n / d` at least
      have hFar : v.natAbs * d ≤ n.natAbs := by
        zify
        rw [abs_of_neg hNegative, abs_of_neg hNeg]
        linarith
      have := Format.le_nearest_of_holds hv hd hFar
      omega
  · rename_i hPos
    refine div_le_div_of_nonneg_right (Int.cast_le.mpr ?_) hScale.le
    have hv0 : 0 ≤ v := by
      by_contra hNeg
      have : v * d < 0 := mul_neg_of_neg_of_pos (by omega) (by exact_mod_cast hd)
      omega
    have hNear : n.natAbs ≤ v.natAbs * d := by
      zify
      rw [abs_of_nonneg (by omega), abs_of_nonneg hv0]
      exact hLe
    have := Format.nearest_le_of_holds hv hd hNear
    omega

theorem Rounds.ge (h : Rounds y z) (hc : c.isFinite = true) (hy : c.value ≤ y)
    (hz : z.isFinite = true) : c.value ≤ z.value := by
  have hLe := h.neg.le (c := -c) ((isFinite_neg c).trans hc) (by rw [value_neg]; linarith)
    ((isFinite_neg z).trans hz)
  rw [value_neg, value_neg] at hLe
  linarith

/-- Half a unit of the last digit. -/
theorem Rounds.error {e : ℕ} (h : Rounds y z) (hz : z.isFinite = true)
    (hy : |y| * 2 ^ F.scale < 2 ^ (F.precision + e)) :
    |z.value - y| * 2 ^ F.scale ≤ 2 ^ e / 2 := by
  obtain ⟨n, d, hd, hUnits, rfl⟩ := h
  have hd' : (0 : ℚ) < d := Nat.cast_pos.mpr hd
  have hScale : (0 : ℚ) < 2 ^ F.scale := by positivity
  have hCount : n.natAbs < 2 ^ (F.precision + e) * d := by
    rw [← abs_of_pos hScale, ← abs_mul, hUnits, abs_div, Nat.abs_cast, div_lt_iff₀ hd'] at hy
    zify
    exact_mod_cast hy
  obtain ⟨hLow, hHigh⟩ := Format.nearest_error (F := F) hd hCount
  have hReach := (units_ofQuotient n d).mp hz
  -- the difference in counts of `1 / d` units
  suffices hAll : ∀ u : ℤ, ∀ hu : F.Holds u.natAbs, 2 * |u * d - n| ≤ 2 ^ e * d →
      |(Binary.finite u hu).value - y| * 2 ^ F.scale ≤ 2 ^ e / 2 by
    unfold ofQuotient
    rw [dif_pos hReach]
    zify at hLow hHigh
    split
    · rename_i hNeg
      refine hAll _ _ ?_
      rw [abs_of_neg hNeg] at hLow hHigh
      rw [← abs_neg, ← abs_two, ← abs_mul, abs_le, abs_two]
      constructor <;> linarith
    · rename_i hPos
      refine hAll _ _ ?_
      rw [abs_of_nonneg (not_lt.mp hPos)] at hLow hHigh
      rw [← abs_two, ← abs_mul, abs_le, abs_two]
      constructor <;> linarith
  intro u hu hClose
  have hClose' : 2 * |(u : ℚ) * d - n| ≤ 2 ^ e * d := by exact_mod_cast hClose
  have hDiff : ((Binary.finite u hu).value - y) * 2 ^ F.scale = (u * d - n) / d := by
    rw [sub_mul, value_mul_scale, hUnits]
    field_simp
  rw [← abs_of_pos hScale, ← abs_mul, hDiff, abs_div, Nat.abs_cast, div_le_iff₀ hd']
  linarith

end Binary

end AnchoredUi.Number
