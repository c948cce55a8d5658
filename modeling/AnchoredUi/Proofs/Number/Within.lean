import Mathlib.Data.Rat.Floor
import AnchoredUi.Proofs.Number.Rounding

/-!
# Numbers within bounds

Bounds are counted in units of a power of two. Single precision holds every count of up to `2 ^ 24`
units, so a sum within such a bound before it is rounded is within the same bound afterwards: counts
of units are added up as if nothing was rounded. And while counts stay below that, rounding moves a
number by half a unit at most.

* `Within`: a finite number of at most so many units. `UpTo`: one that is not negative, either.
* `Within.add`, `Within.mul`, `Within.div`, `Within.larger`, `Within.round`: what is computed from
  such numbers.
* `Within.add_near`, `Within.mul_near`, `Within.round_near`: how far it is from the exact result.
-/

namespace AnchoredUi.Number.Binary

/-- A finite number of at most `n` units of `2 ^ s`, with either sign. -/
def Within (x : Single) (s n : ℕ) : Prop := x.isFinite = true ∧ |x.value| ≤ n * 2 ^ s

/-- A finite number from zero to `n` units of `2 ^ s`. -/
structure UpTo (x : Single) (s n : ℕ) : Prop where
  within : x.Within s n
  nonneg : 0 ≤ x.value

/-- A finite number from zero to one. -/
structure Fraction (x : Single) : Prop where
  isFinite : x.isFinite = true
  nonneg : 0 ≤ x.value
  le_one : x.value ≤ 1

instance (x : Single) (s n : ℕ) : Decidable (x.Within s n) := inferInstanceAs (Decidable (_ ∧ _))

instance (x : Single) : Decidable x.Fraction :=
  decidable_of_iff (x.isFinite = true ∧ 0 ≤ x.value ∧ x.value ≤ 1)
    ⟨fun ⟨hFinite, hPos, hOne⟩ => ⟨hFinite, hPos, hOne⟩,
      fun h => ⟨h.isFinite, h.nonneg, h.le_one⟩⟩

/-- The largest scale at which `2 ^ 24` units are a finite number. -/
def topScale : ℕ := 103

/-- The largest count of units up to which all counts are held. -/
def topCount : ℕ := 2 ^ 24

variable {x y q : Single} {z : Single} {e : ℚ} {s t a b n k : ℕ}

/-! ## Bounds that are held -/

theorem mul_pow_lt_pow {p r : ℕ} (hn : n ≤ 2 ^ p) (h : p + k < r) :
    n * Nat.pow 2 k < Nat.pow 2 r := by
  rw [Nat.pow_eq, Nat.pow_eq]
  refine (Nat.mul_le_mul_right (2 ^ k) hn).trans_lt ?_
  rw [← pow_add]
  exact Nat.pow_lt_pow_right (by decide) h

theorem exists_value_eq (hs : s ≤ topScale) (hn : n ≤ topCount) :
    ∃ c : Single, c.isFinite = true ∧ c.value = n * 2 ^ s := by
  have hPlace : 24 + (s + 149) < Format.single.reach := by
    simp only [topScale, Format.single] at hs ⊢
    omega
  have hReach := mul_pow_lt_pow hn hPlace
  have hHolds := Format.single.holds_mul_pow (k := n) hn hReach
  refine ⟨.finite (n * Nat.pow 2 (s + 149) : ℕ) (by simpa only [Int.natAbs_natCast] using hHolds),
    rfl, ?_⟩
  show (((n * Nat.pow 2 (s + 149) : ℕ) : ℤ) : ℚ) / 2 ^ 149 = n * 2 ^ s
  rw [Nat.pow_eq, pow_add]
  push_cast
  rw [← mul_assoc]
  exact mul_div_cancel_right₀ _ (by positivity)

theorem exists_value_eq_int {m : ℤ} (hs : s ≤ topScale) (hm : |m| ≤ topCount) :
    ∃ c : Single, c.isFinite = true ∧ c.value = m * 2 ^ s := by
  have hCount : m.natAbs ≤ topCount := by
    zify
    exact hm
  obtain ⟨c, hc, hValue⟩ := exists_value_eq hs hCount
  rcases le_or_gt 0 m with hPos | hNeg
  · refine ⟨c, hc, ?_⟩
    rw [hValue, Nat.cast_natAbs, abs_of_nonneg hPos]
  · refine ⟨-c, (isFinite_neg c).trans hc, ?_⟩
    rw [value_neg, hValue, Nat.cast_natAbs, abs_of_neg hNeg, Int.cast_neg, neg_mul, neg_neg]

/-- What is within a bound before it is rounded stays within it. -/
theorem Rounds.within (h : Rounds e z) (hs : s ≤ topScale) (hn : n ≤ topCount)
    (he : |e| ≤ n * 2 ^ s) : z.Within s n := by
  obtain ⟨c, hc, hValue⟩ := exists_value_eq hs hn
  rw [← hValue] at he
  have hFinite := h.isFinite hc he
  obtain ⟨hLow, hHigh⟩ := abs_le.mp he
  refine ⟨hFinite, ?_⟩
  rw [← hValue, abs_le, ← value_neg]
  refine ⟨h.ge ((isFinite_neg c).trans hc) ?_ hFinite, h.le hc hHigh hFinite⟩
  rwa [value_neg]

/-- Rounding moves a number by half a unit. -/
theorem Rounds.near (h : Rounds e z) (hs : s ≤ topScale) (hn : n < topCount)
    (he : |e| ≤ n * 2 ^ s) : |z.value - e| ≤ 2 ^ s / 2 := by
  have hFinite := (h.within hs hn.le he).1
  have hUnits : |e| * 2 ^ 149 < 2 ^ (24 + (s + 149)) := by
    have hn' : (n : ℚ) < 2 ^ 24 := by exact_mod_cast hn
    calc |e| * 2 ^ 149 ≤ n * 2 ^ s * 2 ^ 149 := by gcongr
      _ < 2 ^ 24 * 2 ^ s * 2 ^ 149 := by gcongr
      _ = 2 ^ (24 + (s + 149)) := by rw [pow_add, pow_add, mul_assoc]
  have hError := Rounds.error (F := Format.single) h hFinite hUnits
  have hScale : (2 : ℚ) ^ (s + 149) / 2 = 2 ^ s / 2 * 2 ^ 149 := by
    rw [pow_add]
    ring
  rw [hScale] at hError
  exact le_of_mul_le_mul_right hError (by positivity)

/-- Rounding does not lead above the next whole number of units. -/
theorem Rounds.le_add_unit {w : ℚ} (h : Rounds e z) (hz : z.isFinite = true) (hs : s ≤ topScale)
    (hn : n ≤ topCount) (hw : |w| ≤ n * 2 ^ s) (he : e ≤ w) : z.value ≤ w + 2 ^ s := by
  have hUnit : (0 : ℚ) < 2 ^ s := by positivity
  -- the whole number of units that `w` is rounded up to
  have hCeil : w ≤ ⌈w / 2 ^ s⌉ * 2 ^ s := (div_le_iff₀ hUnit).mp (Int.le_ceil _)
  have hNext : ⌈w / 2 ^ s⌉ * 2 ^ s ≤ w + 2 ^ s := by
    have hLt : (⌈w / 2 ^ s⌉ : ℚ) - 1 < w / 2 ^ s := by linarith [Int.ceil_lt_add_one (w / 2 ^ s)]
    rw [lt_div_iff₀ hUnit, sub_mul, one_mul] at hLt
    linarith
  have hCount : |⌈w / 2 ^ s⌉| ≤ n := by
    obtain ⟨hLow, hHigh⟩ := abs_le.mp hw
    rw [abs_le]
    constructor
    · rw [Int.le_ceil_iff, lt_div_iff₀ hUnit]
      push_cast
      linarith
    · rw [Int.ceil_le, div_le_iff₀ hUnit]
      exact_mod_cast hHigh
  obtain ⟨c, hc, hValue⟩ := exists_value_eq_int hs (hCount.trans (Int.ofNat_le.mpr hn))
  rw [← hValue] at hCeil hNext
  exact (h.le hc (he.trans hCeil) hz).trans hNext

/-- An exact number that is held is not changed. -/
theorem Rounds.value_eq (h : Rounds e z) {c : Single} (hc : c.isFinite = true)
    (he : c.value = e) (hPos : 0 ≤ e) : z.isFinite = true ∧ z.value = e := by
  have hFinite := h.isFinite hc (by rw [he, abs_of_nonneg hPos])
  refine ⟨hFinite, le_antisymm ?_ ?_⟩
  · rw [← he]
    exact h.le hc he.ge hFinite
  · rw [← he]
    exact h.ge hc he.le hFinite

theorem value_ofNat (hn : n ≤ topCount) :
    (ofInt n : Single).isFinite = true ∧ (ofInt n : Single).value = n := by
  obtain ⟨c, hc, hValue⟩ := exists_value_eq (Nat.zero_le topScale) hn
  rw [pow_zero, mul_one] at hValue
  exact (rounds_ofInt (F := Format.single) (n : ℤ)).value_eq hc (by simpa using hValue)
    (Nat.cast_nonneg n)

theorem value_one : (1 : Single).isFinite = true ∧ (1 : Single).value = 1 := by
  obtain ⟨hFinite, hValue⟩ := value_ofNat (n := 1) (by decide)
  exact ⟨hFinite, hValue.trans Nat.cast_one⟩

theorem value_two : (1 + 1 : Single).isFinite = true ∧ (1 + 1 : Single).value = 2 := by
  obtain ⟨hc, hValue⟩ := value_ofNat (n := 2) (by decide)
  refine (rounds_add value_one.1 value_one.1).value_eq hc ?_ ?_ |>.imp_right fun h => h.trans ?_
  all_goals
    rw [value_one.2]
    norm_num at hValue ⊢
  exact hValue

/-! ## Comparison -/

theorem isFinite_zero : (0 : Single).isFinite = true := by
  rw [zero_eq]
  rfl

theorem ne_nan_of_isFinite (hx : x.isFinite = true) : x ≠ .nan := by
  rintro rfl
  cases hx

theorem less_iff_value (hx : x.isFinite = true) (hy : y.isFinite = true) :
    x.less y = true ↔ x.value < y.value := by
  obtain ⟨u, hu, rfl⟩ := exists_units hx
  obtain ⟨v, hv, rfl⟩ := exists_units hy
  show decide (u < v) = true ↔ (u : ℚ) / 2 ^ 149 < v / 2 ^ 149
  rw [decide_eq_true_iff, div_lt_div_iff_of_pos_right (by positivity), Int.cast_lt]

theorem atMost_iff_value (hx : x.isFinite = true) (hy : y.isFinite = true) :
    x ≤ y ↔ x.value ≤ y.value := by
  obtain ⟨u, hu, rfl⟩ := exists_units hx
  obtain ⟨v, hv, rfl⟩ := exists_units hy
  show (decide (u < v) || (u == v)) = true ↔ (u : ℚ) / 2 ^ 149 ≤ v / 2 ^ 149
  rw [Bool.or_eq_true, decide_eq_true_iff, beq_iff_eq, ← le_iff_lt_or_eq,
    div_le_div_iff_of_pos_right (by positivity), Int.cast_le]

theorem larger_cases (hx : x.isFinite = true) (hy : y.isFinite = true) :
    x.larger y = y ∧ x.value < y.value ∨ x.larger y = x ∧ y.value ≤ x.value := by
  rw [larger, if_neg (ne_nan_of_isFinite hx), if_neg (ne_nan_of_isFinite hy)]
  by_cases hLess : x < y
  · rw [if_pos hLess]
    exact .inl ⟨rfl, (less_iff_value hx hy).mp hLess⟩
  · rw [if_neg hLess]
    exact .inr ⟨rfl, not_lt.mp fun hLt => hLess ((less_iff_value hx hy).mpr hLt)⟩

theorem value_larger (hx : x.isFinite = true) (hy : y.isFinite = true) :
    (x.larger y).isFinite = true ∧ (x.larger y).value = max x.value y.value := by
  rcases larger_cases hx hy with ⟨hSame, hLt⟩ | ⟨hSame, hLe⟩
  · rw [hSame, max_eq_right hLt.le]
    exact ⟨hy, rfl⟩
  · rw [hSame, max_eq_left hLe]
    exact ⟨hx, rfl⟩

theorem value_smaller (hx : x.isFinite = true) (hy : y.isFinite = true) :
    (x.smaller y).isFinite = true ∧ (x.smaller y).value = min x.value y.value := by
  rw [smaller, if_neg (ne_nan_of_isFinite hx), if_neg (ne_nan_of_isFinite hy)]
  by_cases hLess : y < x
  · rw [if_pos hLess, min_eq_right ((less_iff_value hy hx).mp hLess).le]
    exact ⟨hy, rfl⟩
  · rw [if_neg hLess, min_eq_left (not_lt.mp fun hLt => hLess ((less_iff_value hy hx).mpr hLt))]
    exact ⟨hx, rfl⟩

/-! ## Fractions -/

theorem fraction_zero : (0 : Single).Fraction := by
  refine ⟨isFinite_zero, ?_, ?_⟩ <;> rw [value_zero]
  exact zero_le_one

theorem fraction_one : (1 : Single).Fraction := by
  refine ⟨value_one.1, ?_, ?_⟩ <;> rw [value_one.2]
  exact zero_le_one

theorem fraction_half : (Measure.half : Single).Fraction := by
  refine ⟨?_, ?_, ?_⟩ <;> decide +kernel

theorem Rounds.fraction (h : Rounds e z) (hPos : 0 ≤ e) (hOne : e ≤ 1) : z.Fraction := by
  have hFinite := h.isFinite value_one.1 (by rw [abs_of_nonneg hPos, value_one.2]; exact hOne)
  refine ⟨hFinite, ?_, ?_⟩
  · rw [← value_zero (F := Format.single)]
    exact h.ge isFinite_zero (by rwa [value_zero]) hFinite
  · rw [← value_one.2]
    exact h.le value_one.1 (by rwa [value_one.2]) hFinite

theorem Fraction.one_sub (h : x.Fraction) : (1 - x).Fraction := by
  refine (rounds_sub value_one.1 h.isFinite).fraction ?_ ?_ <;> rw [value_one.2]
  · exact sub_nonneg.mpr h.le_one
  · exact sub_le_self 1 h.nonneg

theorem Fraction.sub (hx : x.Fraction) (hy : y.Fraction) : (x - y).Within 0 1 := by
  refine (rounds_sub hx.isFinite hy.isFinite).within (Nat.zero_le topScale) (by decide) ?_
  rw [pow_zero, Nat.cast_one, mul_one, abs_le]
  have hx' := hx.nonneg
  have hx'' := hx.le_one
  have hy' := hy.nonneg
  have hy'' := hy.le_one
  constructor <;> linarith

/-! ## Changing bounds -/

theorem Within.mono (h : x.Within s a) (hab : a ≤ b) : x.Within s b := by
  refine ⟨h.1, h.2.trans ?_⟩
  gcongr

/-- Several small units are a large one. -/
theorem Within.rescale (h : x.Within s n) (hn : n ≤ 2 ^ k) : x.Within (s + k) 1 := by
  have hn' : (n : ℚ) ≤ 2 ^ k := by exact_mod_cast hn
  refine ⟨h.1, h.2.trans ?_⟩
  rw [pow_add, Nat.cast_one, one_mul, mul_comm]
  gcongr

theorem Within.scale_mono (h : x.Within s n) (hst : s ≤ t) : x.Within t n := by
  refine ⟨h.1, h.2.trans ?_⟩
  gcongr
  exact one_le_two

theorem within_zero : (0 : Single).Within s 0 := by
  refine ⟨isFinite_zero, ?_⟩
  rw [value_zero]
  simp

theorem within_ofNat (hn : n ≤ topCount) : (ofInt n : Single).Within 0 n := by
  obtain ⟨hFinite, hValue⟩ := value_ofNat hn
  refine ⟨hFinite, ?_⟩
  rw [hValue, Nat.abs_cast, pow_zero, mul_one]

theorem Within.neg (h : x.Within s n) : (-x).Within s n := by
  refine ⟨(isFinite_neg x).trans h.1, ?_⟩
  rw [value_neg, abs_neg]
  exact h.2

theorem Within.larger (hx : x.Within s a) (hy : y.Within s b) :
    (x.larger y).Within s (max a b) := by
  rcases larger_cases hx.1 hy.1 with ⟨hSame, -⟩ | ⟨hSame, -⟩
  · rw [hSame]
    exact hy.mono (le_max_right a b)
  · rw [hSame]
    exact hx.mono (le_max_left a b)

/-! ## Arithmetic -/

theorem abs_mul_fraction_le (hx : x.Within s n) (hq : q.Fraction) :
    |x.value * q.value| ≤ n * 2 ^ s := by
  rw [abs_mul, abs_of_nonneg hq.nonneg]
  exact (mul_le_of_le_one_right (abs_nonneg _) hq.le_one).trans hx.2

section Arithmetic

variable (hs : s ≤ topScale)
include hs

theorem Within.add (hx : x.Within s a) (hy : y.Within s b) (h : a + b ≤ topCount) :
    (x + y).Within s (a + b) := by
  refine (rounds_add hx.1 hy.1).within hs h ((abs_add_le _ _).trans ?_)
  rw [Nat.cast_add, add_mul]
  exact add_le_add hx.2 hy.2

theorem Within.add_near (hx : x.Within s a) (hy : y.Within s b) (h : a + b < topCount) :
    |(x + y).value - (x.value + y.value)| ≤ 2 ^ s / 2 := by
  refine (rounds_add hx.1 hy.1).near hs h ((abs_add_le _ _).trans ?_)
  rw [Nat.cast_add, add_mul]
  exact add_le_add hx.2 hy.2

theorem Within.sub (hx : x.Within s a) (hy : y.Within s b) (h : a + b ≤ topCount) :
    (x - y).Within s (a + b) := hx.add hs hy.neg h

theorem Within.sub_near (hx : x.Within s a) (hy : y.Within s b) (h : a + b < topCount) :
    |(x - y).value - (x.value - y.value)| ≤ 2 ^ s / 2 := by
  have hNear := hx.add_near hs hy.neg h
  rwa [value_neg, ← sub_eq_add_neg] at hNear

/-- A sum that is known to be small is small after rounding, even if the numbers are large. -/
theorem Within.sub_of_le (hx : x.isFinite = true) (hy : y.isFinite = true) (hn : n ≤ topCount)
    (h : |x.value - y.value| ≤ n * 2 ^ s) : (x - y).Within s n :=
  (rounds_sub hx hy).within hs hn h

/-- A number divided by a whole number. -/
theorem Within.div (hx : x.Within s (n * k)) (hy : y.isFinite = true) (hk : y.value = k)
    (hPos : 0 < k) (hn : n ≤ topCount) : (x / y).Within s n := by
  have hk' : (0 : ℚ) < k := Nat.cast_pos.mpr hPos
  refine (rounds_div hx.1 hy (by rw [hk]; exact hk'.ne')).within hs hn ?_
  rw [hk, abs_div, Nat.abs_cast, div_le_iff₀ hk']
  refine hx.2.trans_eq ?_
  push_cast
  ring

theorem Within.half (hx : x.Within s n) (hn : n ≤ topCount) : (x / (1 + 1)).Within s n :=
  Within.div hs (hx.mono (by omega : n ≤ n * 2)) value_two.1 (by simpa using value_two.2)
    Nat.two_pos hn

theorem Within.mul_fraction (hx : x.Within s n) (hq : q.Fraction) (hn : n ≤ topCount) :
    (x * q).Within s n :=
  (rounds_mul hx.1 hq.isFinite).within hs hn (abs_mul_fraction_le hx hq)

theorem Within.mul_near (hx : x.Within s n) (hq : q.Fraction) (hn : n < topCount) :
    |(x * q).value - x.value * q.value| ≤ 2 ^ s / 2 :=
  (rounds_mul hx.1 hq.isFinite).near hs hn (abs_mul_fraction_le hx hq)

/-- A part of a number is at most the number, or not positive. -/
theorem value_mul_fraction_le (hx : x.Within s n) (hq : q.Fraction) (hn : n ≤ topCount) :
    (x * q).value ≤ max x.value 0 := by
  have hRounds := rounds_mul hx.1 hq.isFinite
  have hFinite := (hx.mul_fraction hs hq hn).1
  rcases le_total 0 x.value with hPos | hNeg
  · exact (hRounds.le hx.1 (mul_le_of_le_one_right hPos hq.le_one) hFinite).trans
      (le_max_left _ _)
  · have hLe := hRounds.le isFinite_zero
      (by rw [value_zero]; exact mul_nonpos_of_nonpos_of_nonneg hNeg hq.nonneg) hFinite
    rw [value_zero] at hLe
    exact hLe.trans (le_max_right _ _)

end Arithmetic

theorem Within.mul (hx : x.Within s a) (hy : y.Within t b) (hst : s + t ≤ topScale)
    (h : a * b ≤ topCount) : (x * y).Within (s + t) (a * b) := by
  refine (rounds_mul hx.1 hy.1).within hst h ?_
  rw [abs_mul]
  refine (mul_le_mul hx.2 hy.2 (abs_nonneg _) (by positivity)).trans_eq ?_
  rw [pow_add]
  push_cast
  ring

/-! ## Numbers that are not negative -/

theorem UpTo.isFinite (h : x.UpTo s n) : x.isFinite = true := h.within.1

theorem UpTo.le (h : x.UpTo s n) : x.value ≤ n * 2 ^ s := (le_abs_self _).trans h.within.2

theorem UpTo.mono (h : x.UpTo s a) (hab : a ≤ b) : x.UpTo s b := ⟨h.within.mono hab, h.nonneg⟩

theorem upTo_of_le (hFinite : x.isFinite = true) (hPos : 0 ≤ x.value)
    (hLe : x.value ≤ n * 2 ^ s) : x.UpTo s n :=
  ⟨⟨hFinite, (abs_of_nonneg hPos).trans_le hLe⟩, hPos⟩

theorem upTo_zero : (0 : Single).UpTo s 0 := ⟨within_zero, value_zero.ge⟩

theorem upTo_one : (1 : Single).UpTo s 1 := by
  refine upTo_of_le value_one.1 ?_ ?_ <;> rw [value_one.2]
  · exact zero_le_one
  · rw [Nat.cast_one, one_mul]
    exact one_le_pow₀ one_le_two

/-- The larger of two numbers is not negative if one of them is not. -/
theorem Within.larger_upTo (hx : x.Within s a) (hy : y.UpTo s b) :
    (x.larger y).UpTo s (max a b) := by
  refine ⟨hx.larger hy.within, ?_⟩
  rw [(value_larger hx.1 hy.isFinite).2]
  exact hy.nonneg.trans (le_max_right _ _)

theorem Within.notNegative (hx : x.Within s n) : (x.larger 0).UpTo s n :=
  (hx.larger_upTo upTo_zero).mono (by omega)

theorem UpTo.add (hs : s ≤ topScale) (hx : x.UpTo s a) (hy : y.UpTo s b)
    (h : a + b ≤ topCount) :
    (x + y).UpTo s (a + b) ∧ x.value ≤ (x + y).value ∧ y.value ≤ (x + y).value := by
  have hSum := hx.within.add hs hy.within h
  have hRounds := rounds_add hx.isFinite hy.isFinite
  have hLeft := hRounds.ge hx.isFinite (le_add_of_nonneg_right hy.nonneg) hSum.1
  have hRight := hRounds.ge hy.isFinite (le_add_of_nonneg_left hx.nonneg) hSum.1
  exact ⟨⟨hSum, hx.nonneg.trans hLeft⟩, hLeft, hRight⟩

/-- A part of a sum, divided by the sum. -/
theorem UpTo.fraction (hx : x.UpTo s a) (hy : y.UpTo s b) (hPos : 0 < y.value)
    (hxy : x.value ≤ y.value) : (x / y).Fraction :=
  (rounds_div hx.isFinite hy.isFinite hPos.ne').fraction (div_nonneg hx.nonneg hPos.le)
    ((div_le_one hPos).mpr hxy)

theorem zero_times (hx : x.isFinite = true) : 0 * x = 0 := by
  have hZero : (0 : Single).value = (0 : Single).value * x.value := by
    rw [value_zero, MulZeroClass.zero_mul]
  obtain ⟨hFinite, hValue⟩ := (rounds_mul isFinite_zero hx).value_eq isFinite_zero hZero
    (by rw [← hZero, value_zero])
  exact value_injective hFinite isFinite_zero (hValue.trans hZero.symm)

/-! ## Numbers that are not missing -/

theorem Rounds.ne_nan (h : Rounds e z) : z ≠ .nan := by
  obtain ⟨n, d, -, -, hz⟩ := h
  rw [hz]
  unfold ofQuotient
  split
  · split <;> (intro hNan; cases hNan)
  · intro hNan
    cases hNan

theorem add_ne_nan (hx : x.isFinite = true) (hy : y ≠ .nan) : x + y ≠ .nan := by
  cases y with
  | finite v hv => exact (rounds_add hx rfl).ne_nan
  | infinite s =>
    obtain ⟨u, hu, rfl⟩ := exists_units hx
    exact nofun
  | nan => exact absurd rfl hy

theorem div_ne_nan (hx : x ≠ .nan) (hy : y.isFinite = true) (hPos : y.value ≠ 0) :
    x / y ≠ .nan := by
  cases x with
  | finite u hu => exact (rounds_div rfl hy hPos).ne_nan
  | infinite s =>
    obtain ⟨v, hv, rfl⟩ := exists_units hy
    exact nofun
  | nan => exact absurd rfl hx

/-- A number that is not missing is finite once it is moved between finite ones. -/
theorem clamp_cases (hx : x ≠ .nan) (hLow : y.isFinite = true) (hHigh : q.isFinite = true) :
    x.clamp y q = y ∨ x.clamp y q = q ∨
      x.clamp y q = x ∧ x.isFinite = true ∧ y.value ≤ x.value ∧ x.value ≤ q.value := by
  obtain ⟨v, hv, rfl⟩ := exists_units hLow
  obtain ⟨w, hw, rfl⟩ := exists_units hHigh
  unfold clamp
  split
  · exact .inl rfl
  · rename_i hAbove
    split
    · exact .inr (.inl rfl)
    · rename_i hBelow
      refine .inr (.inr ⟨rfl, ?_⟩)
      cases x with
      | finite u hu =>
        refine ⟨rfl, ?_, ?_⟩
        · exact not_lt.mp fun h => hAbove ((less_iff_value rfl rfl).mpr h)
        · exact not_lt.mp fun h => hBelow ((less_iff_value rfl rfl).mpr h)
      | infinite s =>
        cases s
        · exact absurd rfl hBelow
        · exact absurd rfl hAbove
      | nan => exact absurd rfl hx

theorem isFinite_clamp (hx : x ≠ .nan) (hLow : y.isFinite = true) (hHigh : q.isFinite = true) :
    (x.clamp y q).isFinite = true := by
  rcases clamp_cases hx hLow hHigh with hSame | hSame | ⟨hSame, hFinite, -⟩ <;> rwa [hSame]

theorem clamp_fraction (hx : x ≠ .nan) : (x.clamp 0 1).Fraction := by
  rcases clamp_cases hx isFinite_zero value_one.1 with hSame | hSame | ⟨hSame, hFinite, hLow, hHigh⟩
  · rw [hSame]
    exact fraction_zero
  · rw [hSame]
    exact fraction_one
  · rw [value_zero] at hLow
    rw [value_one.2] at hHigh
    rw [hSame]
    exact ⟨hFinite, hLow, hHigh⟩

/-! ## Whole numbers -/

/-- The whole number that `u` counts of `1 / one` are rounded to. -/
def nearestWhole (u : ℤ) (one : ℕ) : ℤ := u.sign * ((u.natAbs * 2 + one) / (2 * one) : ℕ)

theorem nearestWhole_error (u : ℤ) {one : ℕ} (h : 0 < one) :
    -one ≤ 2 * (nearestWhole u one * one - u) ∧ 2 * (nearestWhole u one * one - u) ≤ one := by
  unfold nearestWhole
  have hSplit := Nat.div_add_mod (u.natAbs * 2 + one) (2 * one)
  have hRest := Nat.mod_lt (u.natAbs * 2 + one) (by omega : 0 < 2 * one)
  generalize (u.natAbs * 2 + one) / (2 * one) = q at *
  generalize (u.natAbs * 2 + one) % (2 * one) = r at *
  have hCount : 2 * one * q = 2 * (q * one) := by ring
  rcases lt_trichotomy u 0 with hNeg | rfl | hPos
  · rw [Int.sign_eq_neg_one_of_neg hNeg, neg_one_mul, neg_mul, ← Int.natCast_mul]
    omega
  · rw [Int.sign_zero, zero_mul, zero_mul]
    omega
  · rw [Int.sign_eq_one_of_pos hPos, one_mul, ← Int.natCast_mul]
    omega

theorem abs_nearestWhole_sub_le (u : ℤ) (one : ℕ) (h : 0 < one) :
    |(nearestWhole u one : ℚ) - u / one| ≤ 1 / 2 := by
  obtain ⟨hLow, hHigh⟩ := nearestWhole_error u h
  have hOne : (0 : ℚ) < one := Nat.cast_pos.mpr h
  have hLow' : -(one : ℚ) ≤ 2 * (nearestWhole u one * one - u) := by exact_mod_cast hLow
  have hHigh' : 2 * (nearestWhole u one * one - u) ≤ (one : ℚ) := by exact_mod_cast hHigh
  rw [sub_div' hOne.ne', abs_div, abs_of_pos hOne, div_le_iff₀ hOne, abs_le]
  constructor <;> linarith

theorem abs_nearestWhole_le {u : ℤ} {one m : ℕ} (h : 0 < one) (hu : |u| ≤ m * one) :
    |nearestWhole u one| ≤ m := by
  obtain ⟨hLow, hHigh⟩ := nearestWhole_error u h
  have hOne : (0 : ℤ) < one := by exact_mod_cast h
  obtain ⟨hLeast, hMost⟩ := abs_le.mp hu
  -- otherwise it is further away than a half
  rw [abs_le]
  constructor
  · by_contra hFar
    have : nearestWhole u one + 1 ≤ -m := by omega
    nlinarith
  · by_contra hFar
    have : (m : ℤ) + 1 ≤ nearestWhole u one := by omega
    nlinarith

theorem rounds_round {u : ℤ} (hu : Format.single.Holds u.natAbs) :
    Rounds (nearestWhole u (2 ^ 149)) (Binary.finite u hu : Single).round :=
  rounds_ofInt (F := Format.single) (nearestWhole u (2 ^ 149))

theorem value_units {u : ℤ} (hu : Format.single.Holds u.natAbs) :
    (Binary.finite u hu : Single).value = u / 2 ^ 149 := rfl

theorem Within.abs_nearestWhole_le {u : ℤ} {hu : Format.single.Holds u.natAbs}
    (h : (Binary.finite u hu : Single).Within s n) :
    |(nearestWhole u (2 ^ 149) : ℚ)| ≤ n * 2 ^ s := by
  have hUnits : |u| ≤ (n * 2 ^ s : ℕ) * (2 ^ 149 : ℕ) := by
    have hBound := h.2
    rw [value_units, abs_div, abs_of_pos (by positivity : (0 : ℚ) < 2 ^ 149),
      div_le_iff₀ (by positivity)] at hBound
    exact_mod_cast hBound
  have hWhole := Binary.abs_nearestWhole_le (by positivity) hUnits
  exact_mod_cast hWhole

theorem Within.round (h : x.Within s n) (hs : s ≤ topScale) (hn : n ≤ topCount) :
    x.round.Within s n := by
  obtain ⟨u, hu, rfl⟩ := exists_units h.1
  exact (rounds_round hu).within hs hn h.abs_nearestWhole_le

/-- A unit is at least a whole, so rounding to a whole number moves a number by one unit. -/
theorem Within.round_near (h : x.Within s n) (hs : s ≤ topScale) (hn : n < topCount) :
    |x.round.value - x.value| ≤ 2 ^ s := by
  obtain ⟨u, hu, rfl⟩ := exists_units h.1
  have hNear := (rounds_round hu).near hs hn h.abs_nearestWhole_le
  have hHalf : |(nearestWhole u (2 ^ 149) : ℚ) - (Binary.finite u hu : Single).value| ≤ 1 / 2 := by
    have hError := abs_nearestWhole_sub_le u (2 ^ 149) (by positivity)
    rwa [Nat.cast_pow, Nat.cast_ofNat] at hError
  have hUnit : (1 : ℚ) ≤ 2 ^ s := one_le_pow₀ one_le_two
  calc _ ≤ _ := abs_sub_le _ (nearestWhole u (2 ^ 149) : ℚ) _
    _ ≤ 2 ^ s / 2 + 1 / 2 := add_le_add hNear hHalf
    _ ≤ 2 ^ s := by linarith

end AnchoredUi.Number.Binary
