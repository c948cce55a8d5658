/-!
# Binary number formats

A format counts its numbers in whole units of `2 ^ -scale`. It holds a count when the count has
at most `precision` significant binary digits and stays below `2 ^ reach`.

* `holds_mul_pow`: a significand of full precision, shifted to any place in reach, is held.
* `holds_nearest`: the count nearest to a quotient is held as soon as it is in reach.
-/

namespace AnchoredUi.Number

/-- A binary format: significands of `precision` digits, counts of `2 ^ -scale` below
`2 ^ reach`. -/
structure Format where
  precision : Nat
  scale : Nat
  reach : Nat
  precision_pos : 0 < precision := by decide

namespace Format

/-- The format of 32-bit numbers. -/
def single : Format where
  precision := 24
  scale := 149
  reach := 277

/-- The format of 64-bit numbers. -/
def double : Format where
  precision := 53
  scale := 1074
  reach := 2098

/-- A count has few enough significant digits and is not too large. -/
def Holds (F : Format) (n : Nat) : Prop :=
  n < Nat.pow 2 F.reach ∧ Nat.pow 2 (n.log2 + 1 - F.precision) ∣ n

instance (F : Format) (n : Nat) : Decidable (F.Holds n) :=
  inferInstanceAs (Decidable (_ ∧ _))

theorem holds_zero (F : Format) : F.Holds 0 :=
  ⟨Nat.two_pow_pos _, Nat.dvd_zero _⟩

theorem holds_mul_pow (F : Format) {k s : Nat} (hk : k ≤ Nat.pow 2 F.precision)
    (hr : k * Nat.pow 2 s < Nat.pow 2 F.reach) : F.Holds (k * Nat.pow 2 s) := by
  refine ⟨hr, ?_⟩
  simp only [Nat.pow_eq] at hk hr ⊢
  have hp := F.precision_pos
  rcases Nat.eq_zero_or_pos k with rfl | hpos
  · simp
  have hne : k * 2 ^ s ≠ 0 := Nat.mul_ne_zero (by omega) (by simp)
  rcases Nat.lt_or_ge k (2 ^ F.precision) with hlt | hge
  · have hlog : (k * 2 ^ s).log2 < F.precision + s := by
      rw [Nat.log2_lt hne, Nat.pow_add]
      exact Nat.mul_lt_mul_of_pos_right hlt (Nat.two_pow_pos s)
    have hle : (k * 2 ^ s).log2 + 1 - F.precision ≤ s := by omega
    exact Nat.dvd_trans (Nat.pow_dvd_pow 2 hle) (Nat.dvd_mul_left _ _)
  · have hk' : k = 2 ^ F.precision := Nat.le_antisymm hk hge
    subst hk'
    rw [← Nat.pow_add, Nat.log2_two_pow]
    exact Nat.pow_dvd_pow 2 (by omega)

/-! ## Rounding -/

/-- The whole number nearest to `n / d`; a half goes to the even neighbour. -/
def divNearest (n d : Nat) : Nat :=
  let q := n / d
  let r := n % d
  if 2 * r < d then q else if d < 2 * r then q + 1 else q + q % 2

theorem divNearest_le (n d : Nat) : divNearest n d ≤ n / d + 1 := by
  unfold divNearest
  have := Nat.mod_lt (n / d) (by decide : 0 < 2)
  dsimp only
  split
  · omega
  · split <;> omega

/-- The number of low binary digits that a count of the size of `n / d` must leave empty. -/
def slack (F : Format) (n d : Nat) : Nat := (n / d).log2 + 1 - F.precision

/-- The count nearest to `n / d` among those of the format's precision, halves to even. -/
def nearest (F : Format) (n d : Nat) : Nat :=
  divNearest n (d * Nat.pow 2 (F.slack n d)) * Nat.pow 2 (F.slack n d)

theorem divNearest_le_pow (F : Format) (n d : Nat) :
    divNearest n (d * Nat.pow 2 (F.slack n d)) ≤ Nat.pow 2 F.precision := by
  simp only [Nat.pow_eq]
  refine Nat.le_trans (divNearest_le _ _) (Nat.succ_le_of_lt ?_)
  rw [← Nat.div_div_eq_div_mul]
  refine Nat.div_lt_of_lt_mul ?_
  rw [← Nat.pow_add]
  refine Nat.lt_of_lt_of_le Nat.lt_log2_self (Nat.pow_le_pow_right (by decide) ?_)
  unfold slack
  omega

theorem holds_nearest (F : Format) {n d : Nat} (h : F.nearest n d < Nat.pow 2 F.reach) :
    F.Holds (F.nearest n d) :=
  F.holds_mul_pow (F.divNearest_le_pow n d) h

end Format

end AnchoredUi.Number
