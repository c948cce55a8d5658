import AnchoredUi.Number.Shortest
import AnchoredUi.Proofs.Number.Numeral
import AnchoredUi.Proofs.Number.Value

/-!
# Notations that are read back

A number is written as a whole number, or with the fewest digits that read back. Either way the text
is digits with a sign and perhaps a point, and so a numeral. What it stands for is found by counting
the digits: zeros in front change nothing, and each zero behind is a factor of ten.

* `exists_unsigned_positional`: positional notation is digits with or without a fraction.
* `Binary.exists_toChars`: the shortest notation of a number stands for that number.
* `Binary.exists_toString`: a whole number stands for the number nearest to it.
-/

namespace AnchoredUi.Number

/-! ## Runs of digits -/

namespace Numeral

theorem digitsFrom_append (start : ℕ) (a b : List Char) :
    digitsFrom start (a ++ b) = digitsFrom (digitsFrom start a) b := List.foldl_append

theorem digitsFrom_toDigits (n : ℕ) : digitsFrom 0 (Nat.toDigits 10 n) = n := by
  have hFold : digitsFrom 0 (Nat.toDigits 10 n) = Nat.ofDigitChars 10 (Nat.toDigits 10 n) 0 :=
    Nat.ofDigitChars_eq_foldl.symm
  rw [hFold, Nat.ofDigitChars_toDigits (by decide) (by decide)]

theorem digitsFrom_zeros (start n : ℕ) :
    digitsFrom start (List.replicate n '0') = start * 10 ^ n := by
  induction n generalizing start with
  | zero => simp [digitsFrom]
  | succ n ih =>
    have hZero : digitsFrom start (List.replicate (n + 1) '0') =
        digitsFrom (10 * start + digitValue '0') (List.replicate n '0') := rfl
    have hValue : digitValue '0' = 0 := rfl
    rw [hZero, ih, hValue]
    ring

theorem digits_toDigits (n : ℕ) : Digits (Nat.toDigits 10 n) where
  ne_nil := List.ne_nil_of_length_pos Nat.length_toDigits_pos
  isDigit _ := Nat.isDigit_of_mem_toDigits (by decide) (by decide)

theorem digits_of_forall {ds : List Char} (hNe : 0 < ds.length)
    (h : ∀ c ∈ ds, c = '0' ∨ c.isDigit = true) : Digits ds where
  ne_nil := List.ne_nil_of_length_pos hNe
  isDigit c hc := by
    rcases h c hc with rfl | hDigit
    · rfl
    · exact hDigit

end Numeral

open Numeral

/-! ## Positional notation -/

namespace Decimal

theorem digitsFrom_padded (width : ℕ) (cs : List Char) :
    digitsFrom 0 (padded width cs) = digitsFrom 0 cs := by
  rw [padded, digitsFrom_append, digitsFrom_zeros, Nat.zero_mul]

theorem lt_length_padded (width : ℕ) (cs : List Char) : width < (padded (width + 1) cs).length := by
  rw [padded, List.length_append, List.length_replicate]
  omega

theorem mem_padded (width n : ℕ) :
    ∀ c ∈ padded width (Nat.toDigits 10 n), c = '0' ∨ c.isDigit = true := by
  intro c hc
  rcases List.mem_append.mp hc with hZero | hDigit
  · exact Or.inl (List.eq_of_mem_replicate hZero)
  · exact Or.inr ((digits_toDigits n).isDigit c hDigit)

/-- Positional notation is digits with or without a fraction, and has the value of the decimal. -/
theorem exists_unsigned_positional (d : Decimal) :
    ∃ whole behind, Unsigned whole behind d.positional ∧
      digitsFrom 0 (whole ++ behind) = d.digits * 10 ^ d.place.toNat ∧
      behind.length = (-d.place).toNat := by
  by_cases hPlace : 0 ≤ d.place
  · have hEnd : (-d.place).toNat = 0 := by omega
    have hText : d.positional =
        Nat.toDigits 10 d.digits ++ List.replicate d.place.toNat '0' := if_pos hPlace
    have hAll : Digits (Nat.toDigits 10 d.digits ++ List.replicate d.place.toNat '0') := by
      refine digits_of_forall ?_ fun c hc => ?_
      · rw [List.length_append]
        exact Nat.add_pos_left Nat.length_toDigits_pos _
      · rcases List.mem_append.mp hc with hDigit | hZero
        · exact Or.inr ((digits_toDigits _).isDigit c hDigit)
        · exact Or.inl (List.eq_of_mem_replicate hZero)
    refine ⟨_, [], hText ▸ Unsigned.whole hAll, ?_, hEnd.symm⟩
    rw [List.append_nil, hText, digitsFrom_append, digitsFrom_toDigits, digitsFrom_zeros]
  · -- the point stands before the last digits, and at least one digit is left in front of it
    have hStart : d.place.toNat = 0 := by omega
    have hLess := lt_length_padded (-d.place).toNat (Nat.toDigits 10 d.digits)
    have hMem := mem_padded ((-d.place).toNat + 1) d.digits
    have hValue := digitsFrom_padded ((-d.place).toNat + 1) (Nat.toDigits 10 d.digits)
    have hText : d.positional = _ := if_neg hPlace
    generalize padded ((-d.place).toNat + 1) (Nat.toDigits 10 d.digits) = all at *
    have hWhole : Digits (all.take (all.length - (-d.place).toNat)) := by
      refine digits_of_forall ?_ fun c hc => hMem c (List.mem_of_mem_take hc)
      rw [List.length_take]
      omega
    have hBehind : Digits (all.drop (all.length - (-d.place).toNat)) := by
      refine digits_of_forall ?_ fun c hc => hMem c (List.mem_of_mem_drop hc)
      rw [List.length_drop]
      omega
    refine ⟨_, _, hText ▸ Unsigned.point hWhole hBehind, ?_, ?_⟩
    · rw [List.take_append_drop, hValue, digitsFrom_toDigits, hStart, Nat.pow_zero, Nat.mul_one]
    · rw [List.length_drop]
      omega

end Decimal

/-! ## Numbers -/

namespace Binary

variable {F : Format}

/-- A quotient whose nearest count is that of a number, with the sign of the number, is rounded to
the number. -/
theorem ofQuotient_of_nearest {u : ℤ} (hu : F.Holds u.natAbs) {n d : ℕ}
    (h : F.nearest n d = u.natAbs) :
    (ofQuotient (if u < 0 then -(n : ℤ) else n) d : Binary F) = .finite u hu := by
  have hAbs : (if u < 0 then -(n : ℤ) else n).natAbs = n := by
    split <;> omega
  have hSign : (if u < 0 then -(n : ℤ) else n) < 0 ↔ u < 0 := by
    by_cases hNegative : u < 0
    · have hPos : n ≠ 0 := by
        rintro rfl
        rw [Format.nearest_zero] at h
        omega
      rw [if_pos hNegative]
      omega
    · rw [if_neg hNegative]
      omega
  unfold ofQuotient
  rw [dif_pos (by rw [hAbs, h]; exact hu.1)]
  simp only [hAbs, h, hSign]
  split <;> congr 1 <;> omega

/-- The shortest notation of a finite number stands for the number. -/
theorem exists_toChars {x : Binary F} (h : x.isFinite = true) :
    ∃ negative whole behind text, x.toChars = signed negative text ∧
      Unsigned whole behind text ∧ ofDecimal negative whole behind = x := by
  cases x with
  | infinite s => cases h
  | nan => cases h
  | finite u hu =>
    by_cases hZero : u = 0
    · subst hZero
      have hDigits : Digits ['0'] := ⟨List.cons_ne_nil _ _, List.forall_mem_singleton.mpr rfl⟩
      refine ⟨false, ['0'], [], ['0'], rfl, .whole hDigits, ?_⟩
      exact zero_eq
    · obtain ⟨whole, behind, hText, hValue, hLength⟩ :=
        (Decimal.shortest F u.natAbs).exists_unsigned_positional
      refine ⟨decide (u < 0), whole, behind, _, ?_, hText, ?_⟩
      · rw [toChars, if_neg hZero, signed]
        simp only [decide_eq_true_eq]
      · have hReads := Decimal.readsBack_shortest hu
        rw [Decimal.ReadsBack, Nat.pow_eq, Nat.pow_eq, Nat.pow_eq] at hReads
        rw [ofDecimal, hValue, hLength, ofRatio, ← ofQuotient_of_nearest hu hReads]
        simp only [decide_eq_true_eq, Nat.pow_eq]
        split <;> push_cast <;> ring_nf

theorem toList_toString (k : ℤ) :
    (toString k).toList = signed (k < 0) (Nat.toDigits 10 k.natAbs) := by
  rw [Int.toString_eq_repr, Int.repr_eq_if]
  by_cases hNegative : k < 0
  · have hAbs : (-k).toNat = k.natAbs := by omega
    rw [if_neg (by omega), hAbs]
    simp [signed, hNegative]
  · have hAbs : k.toNat = k.natAbs := by omega
    rw [if_pos (by omega), hAbs]
    simp [signed, hNegative]

/-- A whole number stands for the number nearest to it. -/
theorem exists_toString (k : ℤ) :
    ∃ negative whole behind text, (toString k).toList = signed negative text ∧
      Unsigned whole behind text ∧ (ofDecimal negative whole behind : Binary F) = ofInt k := by
  refine ⟨_, _, [], _, toList_toString k, .whole (digits_toDigits _), ?_⟩
  have hSign : (if k < 0 then -(k.natAbs : ℤ) else k.natAbs) = k := by
    split <;> omega
  rw [ofDecimal, List.append_nil, digitsFrom_toDigits, ofInt]
  simp only [decide_eq_true_eq, hSign, List.length_nil, Nat.pow_zero]

end Binary

end AnchoredUi.Number
