import AnchoredUi.Proofs.Number.Notation
import AnchoredUi.Proofs.Style.Length

/-!
# Lengths that are written and read again

A number with digits behind the point is written with the fewest digits that read back, and so it is
read back. A whole number is written through the whole numbers of 64 bits, and these end: a larger
number is written as the last one of them. Single precision has no number between that one and
`2 ^ 63`, so that a length of up to this size is read back and no other is.

* `Scalar.ofInt_truncate`: what a whole number is written as stands for the number, kept in range.
* `readScalar_toText`: the text of a length is read as the length with its number kept in range.
* `lengthOf_toText`: exactly the lengths of up to `2 ^ 63` are read back.
-/

namespace AnchoredUi.Style

open Number Numeral

namespace Scalar

/-- A finite number of some unit, or the word that is no number. -/
def Plain (s : Scalar) : Prop := s = .auto ∨ s.unit ≠ .auto ∧ s.value.isFinite = true

/-- The number, moved into the range of the whole numbers that are written in full. -/
def kept (x : Single) : Single := x.clamp (.ofInt wholeRange.1) (.ofInt wholeRange.2)

/-! ## Numbers in range -/

theorem finite_lt_iff {F : Format} {u v : ℤ} (hu : F.Holds u.natAbs) (hv : F.Holds v.natAbs) :
    (.finite u hu : Binary F) < .finite v hv ↔ u < v := decide_eq_true_iff

theorem ofInt_lowest : (.ofInt wholeRange.1 : Single) = .finite (-2 ^ 212) (by decide +kernel) := by
  decide +kernel

/-- The largest whole number is not held by single precision, and `2 ^ 63` is the nearest one. -/
theorem ofInt_highest : (.ofInt wholeRange.2 : Single) = .finite (2 ^ 212) (by decide +kernel) := by
  decide +kernel

theorem kept_finite {u : ℤ} (hu : Format.single.Holds u.natAbs) :
    kept (.finite u hu) = if u < -2 ^ 212 then .ofInt wholeRange.1
      else if 2 ^ 212 < u then .ofInt wholeRange.2 else .finite u hu := by
  rw [kept, Binary.clamp]
  simp only [ofInt_lowest, ofInt_highest, finite_lt_iff]

theorem kept_eq_self_iff {x : Single} (h : x.isFinite = true) :
    kept x = x ↔ |x.value| ≤ 2 ^ 63 := by
  obtain ⟨u, hu, rfl⟩ := Binary.exists_units h
  have hAbs : |(Binary.finite u hu : Single).value| ≤ 2 ^ 63 ↔ |u| ≤ 2 ^ 212 := by
    have hScale : Format.single.scale = 149 := rfl
    rw [Binary.value, hScale, abs_div, abs_of_pos (show (0 : ℚ) < 2 ^ 149 by positivity),
      div_le_iff₀ (by positivity), ← pow_add]
    exact_mod_cast Iff.rfl
  rw [hAbs, abs_le, kept_finite, ofInt_lowest, ofInt_highest]
  split
  · simp only [Binary.finite.injEq]
    omega
  · split
    · simp only [Binary.finite.injEq]
      omega
    · simp only [true_iff]
      omega

theorem kept_of_not_whole {x : Single} (h : x.isFinite = true) (hWhole : x.isWhole = false) :
    kept x = x := by
  obtain ⟨u, hu, rfl⟩ := Binary.exists_units h
  -- a count from here on has no room for digits behind the point
  have hLess : u.natAbs < 2 ^ 172 := by
    by_contra hLarge
    have hLog : 172 ≤ u.natAbs.log2 := (Nat.le_log2 (by omega)).mpr (Nat.not_lt.mp hLarge)
    have hDvd : 2 ^ 149 ∣ u.natAbs := by
      refine Nat.dvd_trans (Nat.pow_dvd_pow 2 ?_) hu.2
      have hPrecision : Format.single.precision = 24 := rfl
      omega
    have hNot : u.natAbs % 2 ^ 149 ≠ 0 := beq_eq_false_iff_ne.mp hWhole
    exact hNot (Nat.mod_eq_zero_of_dvd hDvd)
  rw [kept_finite, if_neg (by omega), if_neg (by omega)]

/-- What a whole number is written as stands for the number, kept in range. -/
theorem ofInt_truncate {x : Single} (hWhole : x.isWhole = true) :
    .ofInt (x.truncate wholeRange.1 wholeRange.2) = kept x := by
  cases x with
  | infinite s => cases hWhole
  | nan => cases hWhole
  | finite u hu =>
    have hMod : u.natAbs % 2 ^ 149 = 0 := beq_iff_eq.mp hWhole
    obtain ⟨t, rfl⟩ : ((2 ^ 149 : ℕ) : ℤ) ∣ u :=
      Int.natCast_dvd.mpr (Nat.dvd_of_mod_eq_zero hMod)
    have hQuotient : Int.tdiv ((2 ^ 149 : ℕ) * t) (2 ^ 149 : ℕ) = t :=
      Int.mul_tdiv_cancel_left _ (by decide)
    have hTruncate : (Binary.finite _ hu : Single).truncate wholeRange.1 wholeRange.2 =
        max wholeRange.1 (min wholeRange.2 t) := by
      rw [Binary.truncate]
      exact congrArg (fun q => max wholeRange.1 (min wholeRange.2 q)) hQuotient
    have hRange : wholeRange = (-2 ^ 63, 2 ^ 63 - 1) := rfl
    have hSame : (.ofInt t : Single) = .finite _ hu := by
      rw [← Binary.ofQuotient_of_holds hu, Int.mul_comm]
      rfl
    rw [hTruncate, kept_finite]
    split
    · have hLow : max wholeRange.1 (min wholeRange.2 t) = wholeRange.1 := by
        simp only [hRange]
        omega
      rw [hLow]
    · split
      · have hHigh : max wholeRange.1 (min wholeRange.2 t) = wholeRange.2 := by
          simp only [hRange]
          omega
        rw [hHigh]
      · rw [← hSame]
        by_cases hLast : t = 2 ^ 63
        · subst hLast
          decide +kernel
        · have hIn : max wholeRange.1 (min wholeRange.2 t) = t := by
            simp only [hRange]
            omega
          rw [hIn]

end Scalar

/-! ## Texts of lengths -/

open Scalar

theorem lengthText_of_writes {cs : List Char} {x : Scalar} (h : Writes cs x) : LengthText cs x :=
  ⟨[], cs, [], by simp, .nil, h, .nil⟩

/-- The text of a length is read as the length with its number kept in range. -/
theorem readScalar_toText {s : Scalar} (h : s.Plain) :
    readScalar s.toText = .ok ⟨kept s.value, s.unit⟩ := by
  refine (readScalar_eq_ok_iff _).mpr (lengthText_of_writes ?_)
  rcases h with rfl | ⟨hUnit, hFinite⟩
  · have hKept : (⟨kept Scalar.auto.value, Scalar.auto.unit⟩ : Scalar) = .auto := by decide +kernel
    rw [hKept]
    exact .auto (by decide)
  · have hMeasured : s.unit ∈ LengthUnit.measured := by
      revert hUnit
      cases s.unit <;> decide
    have hNumber : ∃ negative whole behind text,
        s.toText.toList = signed negative text ++ s.unit.suffix.toList ∧
          Unsigned whole behind text ∧ Binary.ofDecimal negative whole behind = kept s.value := by
      rw [toText, if_neg hUnit]
      split
      · rename_i hWhole
        obtain ⟨negative, whole, behind, text, hText, hUnsigned, hValue⟩ :=
          Binary.exists_toString (F := .single) (s.value.truncate wholeRange.1 wholeRange.2)
        exact ⟨negative, whole, behind, text, by rw [String.toList_append, hText], hUnsigned,
          hValue.trans (ofInt_truncate hWhole)⟩
      · rename_i hWhole
        obtain ⟨negative, whole, behind, text, hText, hUnsigned, hValue⟩ :=
          Binary.exists_toChars hFinite
        refine ⟨negative, whole, behind, text, ?_, hUnsigned, hValue.trans
          (kept_of_not_whole hFinite (Bool.eq_false_iff.mpr hWhole)).symm⟩
        rw [String.toList_append, Binary.toText, String.toList_ofList, hText]
    obtain ⟨negative, whole, behind, text, hText, hUnsigned, hValue⟩ := hNumber
    rw [hText, ← hValue]
    refine .measured hUnsigned (.named hMeasured) ?_
    rw [hValue]
    obtain ⟨u, hu, hSame⟩ := Binary.exists_units hFinite
    rw [hSame, kept_finite, ofInt_lowest, ofInt_highest]
    split
    · rfl
    · split <;> rfl

/-- The text of a length is read as the length with its number kept in the range of the whole
numbers of 64 bits. So exactly the lengths of up to `2 ^ 63` are read back. -/
theorem lengthOf_toText (property : String) {s : Scalar} (h : s.Plain) :
    lengthOf property s.toText = .ok ⟨kept s.value, s.unit⟩ ∧
      (lengthOf property s.toText = .ok s ↔ |s.value.value| ≤ 2 ^ 63) := by
  have hRead : lengthOf property s.toText = .ok ⟨kept s.value, s.unit⟩ := by
    rw [lengthOf, readScalar_toText h]
    rfl
  have hFinite : s.value.isFinite = true := by
    rcases h with rfl | ⟨-, hFinite⟩
    · decide +kernel
    · exact hFinite
  refine ⟨hRead, ?_⟩
  rw [hRead, ← kept_eq_self_iff hFinite]
  obtain ⟨value, unit⟩ := s
  simp

theorem lengthOf_toText_em : let s : Scalar := ⟨.ofRatio 5 2, .em⟩
    s.Plain ∧ lengthOf "width" s.toText = .ok ⟨kept s.value, s.unit⟩ ∧
      (lengthOf "width" s.toText = .ok s ↔ |s.value.value| ≤ 2 ^ 63) :=
  have hPlain : Plain ⟨.ofRatio 5 2, .em⟩ := .inr (by decide +kernel)
  ⟨hPlain, lengthOf_toText "width" hPlain⟩

/-- Not every length is read back: `1e30` is written as the last whole number of 64 bits. -/
theorem not_lengthOf_toText :
    ¬ ∀ (property : String) (s : Scalar), s.Plain → lengthOf property s.toText = .ok s := by
  intro h
  have hPlain : Plain ⟨.ofInt (10 ^ 30), .px⟩ := .inr (by decide +kernel)
  have hSame := h "width" _ hPlain
  rw [lengthOf, readScalar_toText hPlain] at hSame
  have hKept : kept (.ofInt (10 ^ 30)) = .ofInt (10 ^ 30) :=
    congrArg Scalar.value (Except.ok.inj hSame)
  revert hKept
  decide +kernel

end AnchoredUi.Style
