import Mathlib.Tactic.LinearCombination
import AnchoredUi.Proofs.Flow.Pixels

/-!
# Lines that are laid out again, in exact numbers

A line is laid out, its spans are rounded, and the items take the rounded extents for their bases.
Then the line is laid out again. If nothing grows now, the line is put off by what rounding has left
over, which is a mean of what it has left at both ends; if something grows, the line fills its room,
and the items share less than a pixel. In both cases the spans are rounded to where they were.

This needs whole gaps and whole least extents, and items that fill the room whenever they grow. An
item may also keep its basis. Then it has to be as large as a whole number, and must not grow, for
it would take a share of what the others have lost. Only if it grows alone in a whole room, it takes
just what it had before.

* `Frame.Whole.again_of_kept`, `Frame.Whole.again_of_grown`: the two ways to lay out a line again.
* `Frame.Whole.extents_eq_of_alone`: one item that grows alone.
* `Frame.Whole.rounded_eq`: a line of items that are measured anew.
-/

namespace AnchoredUi.Flow

open Number Plane

/-- The line has whole gaps, and what grows fills it. No span ends in the middle of a pixel below
zero; and if the line stands at the end of a room that ends in the middle of a pixel, it starts
above the first half of a pixel. -/
structure Frame.Whole (f : Frame ℚ) (items : List (LineItem ℚ)) : Prop where
  gap : 2 ≤ items.length → ∃ n : ℕ, f.gap = n
  fills : Fills (f.gaps items.length) items
  halfUp : ∀ s ∈ f.spansAlong (f.extents items), s.HalfUp
  atEnd : f.AtEnd → Int.fract (f.start + f.room) = 1 / 2 → 1 / 2 ≤ f.edge (f.extents items)

/-- The items are as large as the given extents before they grow. -/
structure Remeasured (items items' : List (LineItem ℚ)) (extents : List ℚ) : Prop where
  nonneg : ∀ i ∈ items', i.Nonneg
  hypothetical : items'.map LineItem.hypothetical = extents
  grow : items'.map LineItem.grow = items.map LineItem.grow
  basis : ∀ i ∈ items', 0 < i.grow → i.least ≤ i.basis

theorem Remeasured.alwaysOne {items items' : List (LineItem ℚ)} {extents : List ℚ}
    (h : Remeasured items items' extents) (hSum : 1 ≤ (items.map LineItem.grow).sum) :
    AlwaysOne items' := by
  right
  have hAll : (items'.map fun i => if i.least ≤ i.basis then i.grow else 0) =
      items'.map LineItem.grow := by
    refine List.map_congr_left fun i' hi' => ?_
    split
    · rfl
    · rename_i hLow
      by_contra hNot
      exact hLow (h.basis i' hi' (lt_of_le_of_ne (h.nonneg i' hi').grow hNot))
  rwa [hAll, h.grow]

theorem AlwaysOne.of_map_grow {items items' : List (LineItem ℚ)}
    (h : items'.map LineItem.grow = items.map LineItem.grow)
    (hEach : ∀ i ∈ items, 0 < i.grow → 1 ≤ i.grow) : AlwaysOne items' := by
  refine .inl fun i' hi' hGrow => ?_
  have hMem := List.mem_map_of_mem (f := LineItem.grow) hi'
  rw [h] at hMem
  obtain ⟨i, hi, hSame⟩ := List.mem_map.mp hMem
  rw [← hSame] at hGrow ⊢
  exact hEach i hi hGrow

theorem exists_grow {items items' : List (LineItem ℚ)}
    (h : items'.map LineItem.grow = items.map LineItem.grow) (hGrows : ∃ i ∈ items', 0 < i.grow) :
    ∃ i ∈ items, 0 < i.grow := by
  obtain ⟨i', hi', hGrow⟩ := hGrows
  have hMem := List.mem_map_of_mem (f := LineItem.grow) hi'
  rw [h] at hMem
  obtain ⟨i, hi, hSame⟩ := List.mem_map.mp hMem
  exact ⟨i, hi, hSame ▸ hGrow⟩

theorem Fills.cases {gaps : ℚ} {items : List (LineItem ℚ)} (h : Fills gaps items)
    (hNonneg : ∀ i ∈ items, i.Nonneg) :
    (∀ i ∈ items, 0 < i.grow → 1 ≤ i.grow) ∨ 1 ≤ (items.map LineItem.grow).sum := by
  rcases h with (hEach | hSome) | ⟨-, hOne⟩
  · exact .inl hEach
  · refine .inr (hSome.trans (List.sum_le_sum fun i hi => ?_))
    split
    · exact le_refl _
    · exact (hNonneg i hi).grow
  · exact .inr hOne

theorem Remeasured.fills {items items' : List (LineItem ℚ)} {extents : List ℚ}
    (h : Remeasured items items' extents) (hNonneg : ∀ i ∈ items, i.Nonneg) {gaps : ℚ}
    (hFills : Fills gaps items) : Fills gaps items' := by
  rcases hFills.cases hNonneg with hEach | hOne
  · exact .inl (.of_map_grow h.grow hEach)
  · exact .inl (h.alwaysOne hOne)

theorem round_pos {x : ℚ} (h : 1 / 2 ≤ x) : 0 < round x := by
  rw [round_eq, Int.floor_pos]
  linarith

theorem HalfUp.round_pos {x : ℚ} (h : HalfUp x) (hHalf : x - round x = -(1 / 2)) :
    0 < round x := by
  have hNonneg : 0 ≤ x := not_lt.mp fun hNegative => h hNegative (Int.fract_eq_iff.mpr
    ⟨by norm_num, by norm_num, round x - 1, by push_cast; linarith⟩)
  have hPos : (0 : ℚ) < round x := by linarith
  exact_mod_cast hPos

/-- A number between two others that are closer to zero than one half. -/
theorem between_halves {c x y : ℚ} (hc₀ : 0 ≤ c) (hc₁ : c ≤ 1) (hxLow : -(1 / 2) ≤ x)
    (hxHigh : x < 1 / 2) (hyLow : -(1 / 2) ≤ y) (hyHigh : y < 1 / 2) :
    -(1 / 2) ≤ (1 - c) * x + c * y ∧ (1 - c) * x + c * y < 1 / 2 ∧
      ((1 - c) * x + c * y = -(1 / 2) → x = -(1 / 2) ∨ c = 1 ∧ y = -(1 / 2)) := by
  rcases eq_or_lt_of_le hc₁ with rfl | hc
  · refine ⟨by linarith, by linarith, fun h => Or.inr ⟨rfl, by linarith⟩⟩
  · have hPart : 0 < 1 - c := by linarith
    refine ⟨by nlinarith, by nlinarith, fun h => Or.inl ?_⟩
    refine le_antisymm (not_lt.mp fun hAbove => ?_) hxLow
    nlinarith

/-- What rounding takes from a number is at most one half, and less in the other direction. -/
theorem sub_round_mem (x : ℚ) : -(1 / 2) ≤ x - round x ∧ x - round x < 1 / 2 := by
  have hLow := round_le_add_half x
  have hHigh := sub_half_lt_round x
  constructor <;> linarith

namespace Frame.Whole

variable {f : Frame ℚ} {items items' : List (LineItem ℚ)} (h : f.Whole items)
  (hNonneg : ∀ i ∈ items, i.Nonneg)
include h hNonneg

theorem fits : f.Fits (f.extents items) where
  gap := by
    rw [Frame.length_extents]
    exact h.gap
  halfUp := h.halfUp
  nonneg := Frame.extents_nonneg hNonneg h.fills

/-- If nothing grows anew, the line is put off by what the rounding has left over. -/
theorem again_of_kept : (f.spansAlong (pixels (f.spansAlong (f.extents items)))).map Span.rounded =
    (f.spansAlong (f.extents items)).map Span.rounded := by
  have hFits := h.fits hNonneg
  have hAtEnd := h.atEnd
  generalize f.extents items = es at *
  by_cases hSome : es = []
  · rw [hSome, f.spansAlong_nil]
    exact congrArg _ f.spansAlong_nil
  have hNeeded := hFits.needed_pixels hSome
  obtain ⟨c, hc₀, hc₁, hOffset, hEnd⟩ := f.exists_firstOffset
  obtain ⟨hLow, hHigh⟩ := sub_round_mem (f.edge es)
  obtain ⟨hLow', hHigh'⟩ := sub_round_mem (f.edge es + f.needed es)
  have hStart : f.edge es = f.start + c * (f.room - f.needed es) := by rw [Frame.edge, hOffset]
  have hAgain : f.edge (pixels (f.spansAlong es)) = round (f.edge es) +
      ((1 - c) * (f.edge es - round (f.edge es)) +
        c * (f.edge es + f.needed es - round (f.edge es + f.needed es))) := by
    rw [Frame.edge, hOffset, hNeeded]
    linear_combination (-1 : ℚ) * hStart
  obtain ⟨hMeanLow, hMeanHigh, hHalf⟩ := between_halves hc₀ hc₁ hLow hHigh hLow' hHigh'
  refine hFits.rounded_again hAgain hMeanLow (fun hEq => ?_) (List.forall₂_refl _)
    (by rwa [sub_self, add_zero])
  rcases hHalf hEq with hFirst | ⟨rfl, hLast⟩
  · exact (hFits.halfUp_edge hSome).round_pos hFirst
  · refine round_pos (hAtEnd (hEnd rfl) (Int.fract_eq_iff.mpr ⟨by norm_num, by norm_num,
      round (f.edge es + f.needed es) - 1, ?_⟩))
    push_cast
    linarith

/-- If something grows anew, the line fills its room, and its items share less than a pixel. -/
theorem again_of_grown (hGrows : ∃ i ∈ items, 0 < i.grow) {xs : List ℚ}
    (hFull : f.needed xs = f.room)
    (hxs : List.Forall₂ (· ≤ ·) (pixels (f.spansAlong (f.extents items))) xs) :
    (f.spansAlong xs).map Span.rounded = (f.spansAlong (f.extents items)).map Span.rounded := by
  have hFits := h.fits hNonneg
  have hRoom := Frame.room_le_needed (f := f) hNonneg h.fills hGrows
  have hSome : f.extents items ≠ [] := by
    obtain ⟨i, hi, -⟩ := hGrows
    rw [Ne, Frame.extents_eq_nil]
    exact List.ne_nil_of_mem hi
  generalize f.extents items = es at *
  have hNeeded := hFits.needed_pixels hSome
  obtain ⟨c, hc₀, hc₁, hOffset, -⟩ := f.exists_firstOffset
  obtain ⟨hLow, hHigh⟩ := sub_round_mem (f.edge es)
  obtain ⟨hLow', hHigh'⟩ := sub_round_mem (f.edge es + f.needed es)
  have hStart : f.edge es = f.start + c * (f.room - f.needed es) := by rw [Frame.edge, hOffset]
  have hAgain : f.edge xs = round (f.edge es) + (f.start - round (f.edge es)) := by
    rw [Frame.edge, hOffset, hFull]
    ring
  have hBefore : f.edge es ≤ f.start := by
    rw [hStart]
    nlinarith
  have hAfter : f.start + f.room ≤ f.edge es + f.needed es := by
    rw [hStart]
    nlinarith
  refine hFits.rounded_again hAgain (by linarith) (fun hEq => ?_) hxs ?_
  · exact (hFits.halfUp_edge hSome).round_pos (by linarith)
  · rw [hFull, hNeeded]
    linarith

/-- With the extents that it has given, a line covers the same pixels again. -/
theorem again (hAgain : Remeasured items items' (pixels (f.spansAlong (f.extents items)))) :
    (f.spansAlong (f.extents items')).map Span.rounded =
      (f.spansAlong (f.extents items)).map Span.rounded := by
  have hLength : items'.length = items.length := by
    simpa using congrArg List.length hAgain.grow
  rcases Frame.extents_cases (f := f) hAgain.nonneg (hAgain.fills hNonneg (hLength ▸ h.fills)) with
    ⟨-, hSame⟩ | ⟨hGrows, -, hFull, hGrown⟩
  · rw [hSame, hAgain.hypothetical]
    exact h.again_of_kept hNonneg
  · refine h.again_of_grown hNonneg (exists_grow hAgain.grow hGrows) hFull ?_
    rw [← hAgain.hypothetical, List.forall₂_map_left_iff]
    exact hGrown.imp fun i e hBoth => hBoth.1

/-- An item that is at least as large as a whole number stays so, and one that does not grow keeps
a whole extent. -/
theorem forall₂_pixels :
    List.Forall₂ (fun (i : LineItem ℚ) (x : ℚ) => ∀ n : ℕ, (n ≤ i.hypothetical → n ≤ x) ∧
        (i.grow = 0 → i.hypothetical = n → x = n)) items
      (pixels (f.spansAlong (f.extents items))) := by
  refine (forall₂_trans (Frame.forall₂_extents hNonneg h.fills)
    (h.fits hNonneg).forall₂_pixels).imp ?_
  rintro i x ⟨e, ⟨hLe, hStill⟩, -, hWhole⟩ n
  refine ⟨fun hn => (hWhole n).1 (hn.trans hLe), fun hZero hn => (hWhole n).2 ?_⟩
  rw [hStill hZero, hn]

end Frame.Whole

/-! ## One item that grows alone -/

/-- At most one item of the line grows, and the room is whole. -/
def Frame.GrowsAlone (f : Frame ℚ) (items : List (LineItem ℚ)) : Prop :=
  (∃ n : ℕ, f.room = n) ∧ (items.countP fun i => 0 < i.grow) ≤ 1

theorem eq_of_sum_eq {xs ys : List ℚ} (h : List.Forall₂ (· ≤ ·) xs ys) (hSum : ys.sum ≤ xs.sum) :
    xs = ys := by
  induction h with
  | nil => rfl
  | @cons x y xs ys hxy hRest ih =>
    rw [List.sum_cons, List.sum_cons] at hSum
    have hTail := hRest.sum_le_sum
    rw [ih (by linarith), le_antisymm hxy (by linarith)]

section Alone

variable {items items' : List (LineItem ℚ)}

theorem grow_eq_zero_of_countP (hNonneg : ∀ i ∈ items, i.Nonneg)
    (h : (items.countP fun i => 0 < i.grow) = 0) : ∀ i ∈ items, i.grow = 0 := by
  intro i hi
  have hNot := List.countP_eq_zero.mp h i hi
  rw [decide_eq_true_iff, not_lt] at hNot
  exact le_antisymm hNot (hNonneg i hi).grow

/-- The factors of all items are that of the only one that grows. -/
theorem sum_grow_of_alone (hNonneg : ∀ i ∈ items, i.Nonneg)
    (h : (items.countP fun i => 0 < i.grow) ≤ 1) {i : LineItem ℚ} (hi : i ∈ items)
    (hGrow : 0 < i.grow) : (items.map LineItem.grow).sum = i.grow := by
  obtain ⟨before, after, rfl⟩ := List.append_of_mem hi
  rw [List.countP_append, List.countP_cons_of_pos (by simpa using hGrow)] at h
  have hBefore := grow_eq_zero_of_countP (fun j hj => hNonneg j (by simp [hj]))
    (by omega : (before.countP fun i => 0 < i.grow) = 0)
  have hAfter := grow_eq_zero_of_countP (fun j hj => hNonneg j (by simp [hj]))
    (by omega : (after.countP fun i => 0 < i.grow) = 0)
  have hZero (is : List (LineItem ℚ)) (his : ∀ i ∈ is, i.grow = 0) :
      (is.map LineItem.grow).sum = 0 := List.sum_eq_zero (by simpa using his)
  rw [List.map_append, List.map_cons, List.sum_append, List.sum_cons, hZero before hBefore,
    hZero after hAfter, zero_add, add_zero]

/-- Extents of the same sum are the same if those of all items but one are. -/
theorem eq_of_alone (hNonneg : ∀ i ∈ items, i.Nonneg)
    (h : (items.countP fun i => 0 < i.grow) ≤ 1) {xs ys : List ℚ}
    (hxs : List.Forall₂ (fun (i : LineItem ℚ) x => i.grow = 0 → x = i.hypothetical) items xs)
    (hys : List.Forall₂ (fun (i : LineItem ℚ) y => i.grow = 0 → y = i.hypothetical) items ys)
    (hSum : xs.sum = ys.sum) : xs = ys := by
  induction hxs generalizing ys with
  | nil =>
    cases hys
    rfl
  | @cons i x items xs hx hRest ih =>
    obtain ⟨y, ys, hy, hRest', rfl⟩ := List.forall₂_cons_left_iff.mp hys
    rw [List.sum_cons, List.sum_cons] at hSum
    obtain ⟨hi, hNonneg⟩ := List.forall_mem_cons.mp hNonneg
    by_cases hGrow : 0 < i.grow
    · rw [List.countP_cons_of_pos (by simpa using hGrow)] at h
      have hZero := grow_eq_zero_of_countP hNonneg (by omega)
      have hMap {zs : List ℚ} (hzs : List.Forall₂
          (fun (i : LineItem ℚ) z => i.grow = 0 → z = i.hypothetical) items zs) :
          items.map LineItem.hypothetical = zs := by
        rw [← List.forall₂_eq_eq_eq, List.forall₂_map_left_iff]
        exact ((List.forall₂_and_left _ _).mpr ⟨hZero, hzs⟩).imp fun i z hBoth =>
          (hBoth.2 hBoth.1).symm
      rw [← hMap hRest, ← hMap hRest'] at hSum ⊢
      rw [add_right_cancel hSum]
    · have hZero := le_antisymm (not_lt.mp hGrow) hi.grow
      have hSame : x = y := by rw [hx hZero, hy hZero]
      rw [List.countP_cons_of_neg (by simpa using hGrow)] at h
      rw [hSame, ih hNonneg h hRest' (by linarith)]

/-- If one item grows alone in a whole room, and all others are as large as they have been rounded
to, all extents are as they have been rounded to. -/
theorem Frame.Whole.extents_eq_of_alone {f : Frame ℚ} (h : f.Whole items)
    (hAlone : f.GrowsAlone items) (hNonneg : ∀ i ∈ items, i.Nonneg)
    (hNonneg' : ∀ i ∈ items', i.Nonneg)
    (hGrow : items'.map LineItem.grow = items.map LineItem.grow)
    (hOthers : List.Forall₂ (fun (i : LineItem ℚ) x => i.grow = 0 → x = i.hypothetical) items'
      (pixels (f.spansAlong (f.extents items))))
    (hLe : List.Forall₂ (· ≤ ·) (items'.map LineItem.hypothetical)
      (pixels (f.spansAlong (f.extents items))))
    (hStill : f.extents items = items.map LineItem.hypothetical →
      items'.map LineItem.hypothetical = pixels (f.spansAlong (f.extents items))) :
    f.extents items' = pixels (f.spansAlong (f.extents items)) := by
  obtain ⟨⟨n, hn⟩, hSole⟩ := hAlone
  have hLength : items'.length = items.length := by simpa using congrArg List.length hGrow
  have hPixels := (h.fits hNonneg).forall₂_pixels.length_eq
  rw [Frame.length_extents] at hPixels
  by_cases hSome : f.extents items = []
  · have hNone := Frame.extents_eq_nil.mp hSome
    rw [hNone, List.length_nil] at hLength
    rw [hSome, f.spansAlong_nil, List.length_eq_zero_iff.mp hLength]
    exact Frame.extents_eq_nil.mpr rfl
  have hSole' : (items'.countP fun i => 0 < i.grow) ≤ 1 := by
    have hCount (is : List (LineItem ℚ)) : (is.countP fun i => 0 < i.grow) =
        (is.map LineItem.grow).countP fun g => 0 < g := by
      rw [List.countP_map]
      rfl
    rwa [hCount, hGrow, ← hCount]
  have hFills : Fills (f.gaps items'.length) items' := by
    rcases h.fills.cases hNonneg with hEach | hOne
    · exact .inl (.of_map_grow hGrow hEach)
    · refine .inl (.inl fun i' hi' hPos => ?_)
      rwa [← sum_grow_of_alone hNonneg' hSole' hi' hPos, hGrow]
  have hNeeded := (h.fits hNonneg).needed_pixels hSome
  generalize pixels (f.spansAlong (f.extents items)) = xs at *
  rcases Frame.extents_cases (f := f) hNonneg h.fills with ⟨hNone, hSame⟩ | ⟨hGrows, -, hFull, -⟩
  · -- nothing has grown, and nothing grows now
    have hStart := hStill hSame
    refine (Frame.extents_of_no_growth ?_).trans hStart
    by_cases hAny : ∃ i ∈ items', 0 < i.grow
    · right
      have hRoom := Frame.room_le_needed hNonneg h.fills (exists_grow hGrow hAny)
      have hRound : round (f.edge (f.extents items)) + (n : ℤ) ≤
          round (f.edge (f.extents items) + f.needed (f.extents items)) := by
        rw [← round_add_natCast]
        exact round_le_round (by linarith)
      have hCast : (round (f.edge (f.extents items)) + n : ℚ) ≤
          round (f.edge (f.extents items) + f.needed (f.extents items)) := by exact_mod_cast hRound
      rw [hStart, hLength, hPixels, ← Frame.needed, hNeeded, hn]
      linarith
    · left
      intro i hi
      exact le_antisymm (not_lt.mp fun hPos => hAny ⟨i, hi, hPos⟩) (hNonneg' i hi).grow
  · -- the room was filled, and is filled again
    have hRoom : f.needed xs = f.room := by
      rw [hNeeded, hFull, hn, round_add_natCast]
      push_cast
      ring
    rcases Frame.extents_cases (f := f) hNonneg' hFills with
      ⟨hNone | hEnough, hSame⟩ | ⟨-, -, hFull', hGrown⟩
    · obtain ⟨i', hi', hPos⟩ := exists_grow hGrow.symm hGrows
      exact absurd (hNone i' hi') hPos.ne'
    · rw [hSame]
      refine eq_of_sum_eq hLe ?_
      rw [← hRoom, Frame.needed, Frame.needed, hLe.length_eq] at hEnough
      linarith
    · refine eq_of_alone hNonneg' hSole' (hGrown.imp fun i x hBoth => hBoth.2) hOthers ?_
      rw [← hRoom, Frame.needed, Frame.needed, Frame.length_extents, hLength, hPixels] at hFull'
      linarith

end Alone

/-! ## Items that are measured anew -/

/-- After its line has given it an extent, an item either takes that for its basis, and its least
extent is whole; or it is as large as before, which is whole too, and does not grow, unless it grows
alone. -/
inductive Refitted (alone : Prop) (i i' : LineItem ℚ) (extent : ℚ) : Prop
  | measured (hWhole : ∃ n : ℕ, i.least = n) (hLeast : i'.least = i.least)
      (hGrow : i'.grow = i.grow) (hBasis : i'.basis = max extent 0)
  | kept (hWhole : ∃ n : ℕ, i.hypothetical = n) (hStill : i.grow = 0 ∨ alone)
      (hSame : i'.hypothetical = i.hypothetical) (hGrow : i'.grow = i.grow)

namespace Refitted

variable {alone : Prop} {i i' : LineItem ℚ} {x : ℚ}

theorem grow_eq (h : Refitted alone i i' x) : i'.grow = i.grow := by
  cases h <;> assumption

/-- Before it grows, an item is as large as its extent, or as large as before. -/
theorem fitted_or_kept (h : Refitted alone i i' x) (hLow : ∀ n : ℕ, n ≤ i.hypothetical → n ≤ x) :
    i'.least ≤ i'.basis ∧ i'.hypothetical = x ∨
      (i.grow = 0 ∨ alone) ∧ ∃ n : ℕ, i.hypothetical = n ∧ i'.hypothetical = n ∧ n ≤ x := by
  cases h with
  | measured hWhole hLeast hGrow hBasis =>
    left
    obtain ⟨n, hn⟩ := hWhole
    have hLe : (n : ℚ) ≤ x := by
      refine hLow n ?_
      rw [LineItem.hypothetical_eq, hn]
      exact le_max_right _ _
    rw [LineItem.hypothetical_eq, hLeast, hBasis, hn, max_eq_left (n.cast_nonneg.trans hLe)]
    exact ⟨hLe, max_eq_left hLe⟩
  | kept hWhole hStill hSame hGrow =>
    obtain ⟨n, hn⟩ := hWhole
    exact .inr ⟨hStill, n, hn, hSame.trans hn, hLow n hn.ge⟩

theorem hypothetical_le (h : Refitted alone i i' x) (hLow : ∀ n : ℕ, n ≤ i.hypothetical → n ≤ x) :
    i'.hypothetical ≤ x := by
  rcases h.fitted_or_kept hLow with ⟨-, hSame⟩ | ⟨-, n, -, hSame, hLe⟩
  · exact hSame.le
  · exact hSame.trans_le hLe

theorem hypothetical_eq (h : Refitted alone i i' x) (hLow : ∀ n : ℕ, n ≤ i.hypothetical → n ≤ x)
    (hWhole : i.grow = 0 ∨ alone → ∀ n : ℕ, i.hypothetical = n → x = n) :
    i'.hypothetical = x := by
  rcases h.fitted_or_kept hLow with ⟨-, hSame⟩ | ⟨hStill, n, hn, hSame, -⟩
  · exact hSame
  · rw [hSame, hWhole hStill n hn]

theorem least_le_basis (h : Refitted alone i i' x) (hLow : ∀ n : ℕ, n ≤ i.hypothetical → n ≤ x)
    (hNot : ¬ alone) (hGrow : 0 < i'.grow) : i'.least ≤ i'.basis := by
  rcases h.fitted_or_kept hLow with ⟨hLe, -⟩ | ⟨hZero | hAlone, -⟩
  · exact hLe
  · rw [h.grow_eq, hZero] at hGrow
    exact absurd hGrow (lt_irrefl 0)
  · exact absurd hAlone hNot

end Refitted

section Children

variable {f : Frame ℚ} {ι : Type} {children : List ι} {item item' : ι → LineItem ℚ} {alone : Prop}

theorem map_grow_of_refitted {xs : List ℚ}
    (h : List.Forall₂ (fun c x => Refitted alone (item c) (item' c) x) children xs) :
    (children.map item').map LineItem.grow = (children.map item).map LineItem.grow := by
  rw [List.map_map, List.map_map]
  exact List.map_congr_left
    ((List.forall₂_and_left _ _).mp (h.imp fun c x hItem => ⟨hItem.grow_eq, trivial⟩)).1

variable (h : f.Whole (children.map item)) (hNonneg : ∀ c ∈ children, (item c).Nonneg)
  (hNonneg' : ∀ c ∈ children, (item' c).Nonneg)
include h hNonneg hNonneg'

theorem Frame.Whole.remeasured (hNot : ¬ alone)
    (hRefit : List.Forall₂ (fun c x => Refitted alone (item c) (item' c) x) children
      (pixels (f.spansAlong (f.extents (children.map item))))) :
    Remeasured (children.map item) (children.map item')
      (pixels (f.spansAlong (f.extents (children.map item)))) := by
  have hPixels := h.forall₂_pixels (by simpa using hNonneg)
  rw [List.forall₂_map_left_iff] at hPixels
  have hGrow := map_grow_of_refitted hRefit
  generalize pixels (f.spansAlong (f.extents (children.map item))) = xs at hPixels hRefit
  have hBoth : List.Forall₂ (fun c x => (0 < (item' c).grow → (item' c).least ≤ (item' c).basis) ∧
      (item' c).hypothetical = x) children xs := by
    refine List.Forall₂.mp (fun c x hExtent hItem => ⟨?_, ?_⟩) hPixels hRefit
    · exact hItem.least_le_basis (fun n => (hExtent n).1) hNot
    · refine hItem.hypothetical_eq (fun n => (hExtent n).1) fun hStill n => ?_
      exact (hExtent n).2 (hStill.resolve_right hNot)
  obtain ⟨hBasis, hSame⟩ := (List.forall₂_and_left _ _).mp hBoth
  refine ⟨by simpa using hNonneg', ?_, hGrow, by simpa using hBasis⟩
  rw [List.map_map, ← List.forall₂_eq_eq_eq, List.forall₂_map_left_iff]
  exact hSame

/-- If at most one item grows, in a whole room, the extents are what they have been rounded to. -/
theorem Frame.Whole.extents_eq (hAlone : f.GrowsAlone (children.map item))
    (hRefit : List.Forall₂ (fun c x => Refitted alone (item c) (item' c) x) children
      (pixels (f.spansAlong (f.extents (children.map item))))) :
    f.extents (children.map item') = pixels (f.spansAlong (f.extents (children.map item))) := by
  have hNonneg : ∀ i ∈ children.map item, i.Nonneg := by simpa using hNonneg
  have hPixels := h.forall₂_pixels hNonneg
  rw [List.forall₂_map_left_iff] at hPixels
  refine h.extents_eq_of_alone hAlone hNonneg (by simpa using hNonneg')
    (map_grow_of_refitted hRefit) ?_ ?_ fun hSame => ?_
  · rw [List.forall₂_map_left_iff]
    refine List.Forall₂.mp (fun c x hExtent hItem hZero => ?_) hPixels hRefit
    rw [hItem.grow_eq] at hZero
    exact (hItem.hypothetical_eq (fun n => (hExtent n).1) fun _ n => (hExtent n).2 hZero).symm
  · rw [List.map_map, List.forall₂_map_left_iff]
    refine List.Forall₂.mp (fun c x hExtent hItem => ?_) hPixels hRefit
    exact Refitted.hypothetical_le hItem fun n => (hExtent n).1
  · have hFirst := (h.fits hNonneg).forall₂_pixels
    rw [List.map_map, ← List.forall₂_eq_eq_eq, List.forall₂_map_left_iff]
    generalize pixels (f.spansAlong (f.extents (children.map item))) = xs at hFirst hRefit
    rw [hSame, List.map_map, List.forall₂_map_left_iff] at hFirst
    exact List.Forall₂.mp (fun c x hExtent hItem => hItem.hypothetical_eq
      (fun n => (hExtent.2 n).1) fun _ n => (hExtent.2 n).2) hFirst hRefit

/-- When all items are measured anew after their line has given them extents, the line covers the
same pixels again. -/
theorem Frame.Whole.rounded_eq
    (hRefit : List.Forall₂
      (fun c x => Refitted (f.GrowsAlone (children.map item)) (item c) (item' c) x) children
      (pixels (f.spansAlong (f.extents (children.map item))))) :
    (f.spansAlong (f.extents (children.map item'))).map Span.rounded =
      (f.spansAlong (f.extents (children.map item))).map Span.rounded := by
  by_cases hAlone : f.GrowsAlone (children.map item)
  · rw [h.extents_eq hNonneg hNonneg' hAlone hRefit]
    exact h.again_of_kept (by simpa using hNonneg)
  · exact h.again (by simpa using hNonneg) (h.remeasured hNonneg hNonneg' hAlone hRefit)

end Children

end AnchoredUi.Flow
