import AnchoredUi.Number.Numeral
import AnchoredUi.Proofs.Number.Rounding
import AnchoredUi.Proofs.Text.Cut

/-!
# What numerals stand for

A numeral of digits stands for the number nearest to its value. Powers of ten that are out of reach
are not computed, but that changes nothing: such a numeral is beyond the largest number, or closer
to zero than to any other. So reading digits with a sign and a point is reading a whole number and
rounding its quotient by a power of ten.

* `Numeral.toBinary_decimal_eq`: the number nearest to the value, for numerals of all sizes.
* `Numeral.Unsigned`: digits with or without a fraction.
* `Numeral.read?_signed`, `Numeral.toBinary_read?`: what such digits are read as.
-/

namespace AnchoredUi.Number

/-! ## Numbers out of reach -/

namespace Format

variable {F : Format} {n d k : ℕ}

theorem pow_le_nearest (hd : 0 < d) (h : 2 ^ k * d ≤ n) : 2 ^ k ≤ F.nearest n d := by
  have hQuotient : 2 ^ k ≤ n / d := (Nat.le_div_iff_mul_le hd).mpr h
  have hNe : n / d ≠ 0 := (hQuotient.trans_lt' (by positivity)).ne'
  have hSlack : F.slack n d ≤ (n / d).log2 := by
    have := F.precision_pos
    unfold slack
    omega
  have hPower : 2 ^ (n / d).log2 * d ≤ n :=
    (Nat.mul_le_mul_right d (Nat.log2_self_le hNe)).trans (Nat.div_mul_le_self n d)
  have hLog : k ≤ (n / d).log2 := (Nat.le_log2 hNe).mpr hQuotient
  exact (Nat.pow_le_pow_right (by decide) hLog).trans
    (le_nearest_of_dvd hd (Nat.pow_dvd_pow 2 hSlack) hPower)

theorem nearest_eq_zero (h : 2 * n < d) : F.nearest n d = 0 := by
  have hQuotient : n / d = 0 := Nat.div_eq_of_lt (by omega)
  have hSlack : F.slack n d = 0 := by
    have := F.precision_pos
    rw [slack, hQuotient, Nat.log2_zero]
    omega
  have hRest : n % d = n := Nat.mod_eq_of_lt (by omega)
  simp [nearest, divNearest, hSlack, hQuotient, hRest, h]

end Format

theorem mul_natCast_neg_iff {n : ℤ} {m : ℕ} (hm : 0 < m) : n * m < 0 ↔ n < 0 :=
  Int.mul_neg_iff.trans (by omega)

namespace Binary

variable {F : Format} {n : ℤ} {d : ℕ}

theorem ofQuotient_of_nearest_eq_zero (h : F.nearest n.natAbs d = 0) :
    (ofQuotient n d : Binary F) = .finite 0 F.holds_zero := by
  have hReach : F.nearest n.natAbs d < Nat.pow 2 F.reach := h ▸ Nat.two_pow_pos _
  rw [ofQuotient, dif_pos hReach]
  split <;> simp [h]

theorem zero_eq_finite : (0 : Binary F) = .finite 0 F.holds_zero :=
  ofQuotient_of_nearest_eq_zero (Format.nearest_eq_zero (by simp))

theorem natAbs_units (n : ℤ) :
    (n * (Nat.pow 2 F.scale : ℕ)).natAbs = n.natAbs * 2 ^ F.scale := by
  rw [Int.natAbs_mul, Int.natAbs_natCast, Nat.pow_eq]

theorem ofRatio_eq_zero (h : 2 * (n.natAbs * 2 ^ F.scale) < d) : (ofRatio n d : Binary F) = 0 := by
  rw [zero_eq_finite]
  exact ofQuotient_of_nearest_eq_zero (Format.nearest_eq_zero (by rwa [natAbs_units]))

theorem ofRatio_eq_infinite (hd : 0 < d) (h : 2 ^ F.reach * d ≤ n.natAbs) :
    (ofRatio n d : Binary F) = .infinite (n < 0) := by
  have hFar : Nat.pow 2 F.reach ≤ F.nearest (n * (Nat.pow 2 F.scale : ℕ)).natAbs d := by
    refine Format.pow_le_nearest hd (h.trans ?_)
    rw [natAbs_units]
    exact Nat.le_mul_of_pos_right _ (by positivity)
  rw [ofRatio, ofQuotient, dif_neg (Nat.not_lt.mpr hFar)]
  have hSign := mul_natCast_neg_iff (n := n) (m := Nat.pow 2 F.scale) (Nat.two_pow_pos _)
  exact congrArg Binary.infinite (decide_eq_decide.mpr hSign)

end Binary

/-! ## Numerals of all sizes -/

namespace Numeral

variable {F : Format} {digits : ℕ}

theorem lt_pow_width (digits : ℕ) : digits < 10 ^ (Nat.toDigits 10 digits).length :=
  (Nat.length_toDigits_le_iff (by decide) Nat.length_toDigits_pos).mp le_rfl

theorem pow_width_le (h : digits ≠ 0) : 10 ^ ((Nat.toDigits 10 digits).length - 1) ≤ digits := by
  by_contra hLess
  rcases Nat.eq_zero_or_pos ((Nat.toDigits 10 digits).length - 1) with hOne | hMore
  · rw [hOne] at hLess
    omega
  · have := (Nat.length_toDigits_le_iff (by decide) hMore).mpr (Nat.lt_of_not_le hLess)
    omega

/-- A numeral of digits stands for the number nearest to its value. -/
theorem toBinary_decimal_eq (negative : Bool) (digits : ℕ) (e : ℤ) :
    (decimal negative digits e).toBinary = (.ofRatio
      ((if negative then -(digits : ℤ) else digits) * Nat.pow 10 e.toNat)
      (Nat.pow 10 (-e).toNat) : Binary F) := by
  have hAbs : ((if negative then -(digits : ℤ) else digits) * (Nat.pow 10 e.toNat : ℕ)).natAbs =
      digits * 10 ^ e.toNat := by
    rw [Int.natAbs_mul, Int.natAbs_natCast, Nat.pow_eq]
    split <;> simp
  have hPos : 0 < Nat.pow 10 (-e).toNat := by rw [Nat.pow_eq]; positivity
  unfold toBinary
  by_cases hZero : digits = 0
  · subst hZero
    simp only [if_true]
    refine (Binary.ofRatio_eq_zero ?_).symm
    rwa [hAbs, Nat.zero_mul, Nat.zero_mul]
  simp only [if_neg hZero]
  by_cases hHigh : e + (Nat.toDigits 10 digits).length > F.reach
  · have hFar : 2 ^ F.reach * Nat.pow 10 (-e).toNat ≤ digits * 10 ^ e.toNat := by
      calc 2 ^ F.reach * 10 ^ (-e).toNat
          ≤ 10 ^ F.reach * 10 ^ (-e).toNat :=
            Nat.mul_le_mul_right _ (Nat.pow_le_pow_left (by decide) _)
        _ = 10 ^ (F.reach + (-e).toNat) := (Nat.pow_add ..).symm
        _ ≤ 10 ^ ((Nat.toDigits 10 digits).length - 1 + e.toNat) :=
            Nat.pow_le_pow_right (by decide) (by omega)
        _ = 10 ^ ((Nat.toDigits 10 digits).length - 1) * 10 ^ e.toNat := Nat.pow_add ..
        _ ≤ digits * 10 ^ e.toNat := Nat.mul_le_mul_right _ (pow_width_le hZero)
    rw [if_pos hHigh, Binary.ofRatio_eq_infinite hPos (hAbs ▸ hFar)]
    have hSign : decide ((if negative then -(digits : ℤ) else digits) *
        (Nat.pow 10 e.toNat : ℕ) < 0) = negative := by
      rw [Bool.eq_iff_iff, decide_eq_true_iff,
        mul_natCast_neg_iff (m := Nat.pow 10 e.toNat) (Nat.pow_pos (by decide))]
      cases negative <;> simp [Nat.pos_of_ne_zero hZero]
    rw [hSign]
  rw [if_neg hHigh]
  by_cases hLow : e + (Nat.toDigits 10 digits).length < -(F.scale : ℤ)
  · have hNear : 2 * (digits * 10 ^ e.toNat * 2 ^ F.scale) < Nat.pow 10 (-e).toNat := by
      calc 2 * (digits * 10 ^ e.toNat * 2 ^ F.scale)
          ≤ 2 * (10 ^ (Nat.toDigits 10 digits).length * 10 ^ e.toNat * 10 ^ F.scale) := by
            have hWidth := (lt_pow_width digits).le
            have hScale : 2 ^ F.scale ≤ 10 ^ F.scale := Nat.pow_le_pow_left (by decide) _
            gcongr
        _ < 10 * (10 ^ (Nat.toDigits 10 digits).length * 10 ^ e.toNat * 10 ^ F.scale) :=
            Nat.mul_lt_mul_of_pos_right (by decide) (by positivity)
        _ = 10 ^ (1 + (Nat.toDigits 10 digits).length + e.toNat + F.scale) := by ring
        _ ≤ 10 ^ (-e).toNat := Nat.pow_le_pow_right (by decide) (by omega)
    rw [if_pos hLow]
    exact (Binary.ofRatio_eq_zero (hAbs ▸ hNear)).symm
  · rw [if_neg hLow]

/-! ## Digits with a sign and a point -/

/-- At least one digit, and nothing else. -/
structure Digits (cs : List Char) : Prop where
  ne_nil : cs ≠ []
  isDigit : ∀ c ∈ cs, c.isDigit = true

/-- Digits with or without a fraction, or a fraction alone. Before the text stand the digits before
the point and those behind it. -/
inductive Unsigned : (whole behind text : List Char) → Prop
  | whole {ds : List Char} (hWhole : Digits ds) : Unsigned ds [] ds
  | point {ds es : List Char} (hWhole : Digits ds) (hBehind : Digits es) :
      Unsigned ds es (ds ++ '.' :: es)
  | behind {es : List Char} (hBehind : Digits es) : Unsigned [] es ('.' :: es)

/-- The text with a minus sign in front, if there is one. -/
def signed (negative : Bool) (text : List Char) : List Char :=
  if negative then '-' :: text else text

variable {whole behind text : List Char}

theorem Unsigned.ne_nil (h : Unsigned whole behind text) : text ≠ [] := by
  cases h with
  | whole hWhole => exact hWhole.ne_nil
  | point _ _ => exact List.append_ne_nil_of_right_ne_nil _ (List.cons_ne_nil _ _)
  | behind _ => exact List.cons_ne_nil _ _

/-- The text has no characters but digits and the point. -/
theorem Unsigned.bounds (h : Unsigned whole behind text) :
    ∀ c ∈ text, 46 ≤ c.toNat ∧ c.toNat ≤ 57 := by
  have hDigits {ds : List Char} (hds : Digits ds) : ∀ c ∈ ds, 46 ≤ c.toNat ∧ c.toNat ≤ 57 := by
    intro c hc
    obtain ⟨hLow, hHigh⟩ := Char.isDigit_iff_toNat.mp (hds.isDigit c hc)
    exact ⟨hLow.trans' (by decide), hHigh⟩
  have hPoint : 46 ≤ '.'.toNat ∧ '.'.toNat ≤ 57 := by decide
  cases h with
  | whole hWhole => exact hDigits hWhole
  | point hWhole hBehind =>
    exact List.forall_mem_append.mpr
      ⟨hDigits hWhole, List.forall_mem_cons.mpr ⟨hPoint, hDigits hBehind⟩⟩
  | behind hBehind => exact List.forall_mem_cons.mpr ⟨hPoint, hDigits hBehind⟩

theorem unsigned?_point (hWhole : ∀ c ∈ whole, c.isDigit = true) (hBehind : Digits behind)
    (negative : Bool) : unsigned? negative (whole ++ '.' :: behind) =
      some (.decimal negative (digitsFrom 0 (whole ++ behind)) (-(behind.length : ℤ))) := by
  obtain ⟨hTake, hDrop⟩ := Text.takeWhile_run hWhole (b := '.' :: behind) (by simp)
  obtain ⟨hTake', hDrop'⟩ := Text.takeWhile_run hBehind.isDigit (b := []) (by simp)
  rw [List.append_nil] at hTake' hDrop'
  simp [unsigned?, hTake, hDrop, hTake', hDrop', hBehind.ne_nil, suffix?]

theorem unsigned?_eq (h : Unsigned whole behind text) (negative : Bool) :
    unsigned? negative text =
      some (.decimal negative (digitsFrom 0 (whole ++ behind)) (-(behind.length : ℤ))) := by
  cases h with
  | whole hWhole =>
    obtain ⟨hTake, hDrop⟩ := Text.takeWhile_run hWhole.isDigit (b := []) (by simp)
    rw [List.append_nil] at hTake hDrop
    simp [unsigned?, hTake, hDrop, hWhole.ne_nil, suffix?]
  | point hWhole hBehind => exact unsigned?_point hWhole.isDigit hBehind negative
  | behind hBehind => exact unsigned?_point (List.forall_mem_nil _) hBehind negative

/-- Digits are no word for an infinity or for a missing number. -/
theorem magnitude?_eq (h : Unsigned whole behind text) (negative : Bool) :
    magnitude? negative text = unsigned? negative text := by
  have hWord : ∀ word : List Char, word.head?.any (57 < ·.toNat) = true →
      text.map Char.toLower ≠ word := by
    rintro word hWord rfl
    obtain ⟨c, cs, rfl⟩ := List.exists_cons_of_ne_nil h.ne_nil
    obtain ⟨-, hHigh⟩ := h.bounds c List.mem_cons_self
    have hHead : 57 < c.toLower.toNat := by simpa using hWord
    rcases Text.toLower_cases c with hSame | hLetter
    · rw [hSame] at hHead
      omega
    · omega
  rw [magnitude?, if_neg (not_or.mpr ⟨hWord _ (by decide), hWord _ (by decide)⟩),
    if_neg (hWord _ (by decide))]

/-- Digits with a sign and a point are read as a whole number and a power of ten. -/
theorem read?_signed (h : Unsigned whole behind text) (negative : Bool) :
    read? (signed negative text) =
      some (.decimal negative (digitsFrom 0 (whole ++ behind)) (-(behind.length : ℤ))) := by
  rw [← unsigned?_eq h, ← magnitude?_eq h]
  cases negative with
  | true => rfl
  | false =>
    rw [signed, if_neg Bool.false_ne_true]
    unfold read?
    split
    · exact absurd (h.bounds '-' List.mem_cons_self) (by decide)
    · exact absurd (h.bounds '+' List.mem_cons_self) (by decide)
    · rfl

end Numeral

/-- The number nearest to the value of digits with a sign and a point. -/
def Binary.ofDecimal {F : Format} (negative : Bool) (whole behind : List Char) : Binary F :=
  let digits := Numeral.digitsFrom 0 (whole ++ behind)
  .ofRatio (if negative then -(digits : ℤ) else digits) (10 ^ behind.length)

theorem Numeral.toBinary_read? {F : Format} {whole behind text : List Char}
    (h : Unsigned whole behind text) (negative : Bool) :
    (read? (signed negative text)).map toBinary =
      some (.ofDecimal negative whole behind : Binary F) := by
  rw [read?_signed h, Option.map_some, toBinary_decimal_eq, Binary.ofDecimal]
  simp

end AnchoredUi.Number
