import Mathlib.Algebra.Order.Round
import AnchoredUi.Proofs.Flow.Sharing

/-!
# Rounded extents one behind the other

Extents that are put one behind the other are rounded at their ends, so a whole chain of them loses
less than a pixel, and the rounded extents, put one behind the other with whole gaps from a rounded
start, end where the rounded ends were. If that start is `t` aside of a whole number, all later ends
are `t` aside too; and if the extents are taken a bit larger, the ends move on a bit. As long as
none of them is moved by half a pixel, all of them are rounded to where they were.

Halves go away from zero, so below zero the chain must not have ends in the middle of a pixel.

* `round_eq_round`: rounding with halves upward is the same elsewhere.
* `round_mono`: rounding keeps the order.
* `sum_steps`, `forall₂_steps`: the rounded extents of a chain.
* `rounded_chain`: a chain of the rounded extents.
-/

namespace AnchoredUi.Flow

open Number

/-! ## The nearest whole number -/

/-- The number is not in the middle between two whole numbers below zero. -/
def HalfUp (x : ℚ) : Prop := x < 0 → Int.fract x ≠ 1 / 2

instance : DecidablePred HalfUp := fun x =>
  inferInstanceAs (Decidable (x < 0 → Int.fract x ≠ 1 / 2))

theorem round_le_round {x y : ℚ} (h : x ≤ y) : round x ≤ round y := by
  rw [round_eq, round_eq]
  exact Int.floor_le_floor (by linarith)

theorem round_eq_round {x : ℚ} (h : HalfUp x) : Measure.round x = (round x : ℚ) := by
  show Measure.roundRat x = _
  rw [Measure.roundRat, round_eq]
  split
  · rename_i hNegative
    have hFloor : ⌊-x + 1 / 2⌋ = -⌊x + 1 / 2⌋ := by
      have hLow := Int.floor_le (x + 1 / 2)
      have hHigh := Int.lt_floor_add_one (x + 1 / 2)
      have hNot : (⌊x + 1 / 2⌋ : ℚ) ≠ x + 1 / 2 := fun hEq =>
        h hNegative (Int.fract_eq_iff.mpr
          ⟨by norm_num, by norm_num, ⌊x + 1 / 2⌋ - 1, by push_cast; linarith⟩)
      have hStrict := lt_of_le_of_ne hLow hNot
      rw [Int.floor_eq_iff]
      constructor <;> push_cast <;> linarith
    show -((⌊-x + 1 / 2⌋ : ℤ) : ℚ) = _
    rw [hFloor]
    push_cast
    ring
  · rfl

/-- Rounding to whole numbers, halves away from zero, keeps the order. -/
theorem round_mono {x y : ℚ} (h : x ≤ y) : (Measure.round x : ℚ) ≤ Measure.round y := by
  have hNear {u : ℚ} (hu : 0 ≤ u) : (0 : ℚ) ≤ ⌊u + 1 / 2⌋ := by
    have hFloor : 0 ≤ ⌊u + 1 / 2⌋ := Int.floor_nonneg.mpr (by linarith)
    exact_mod_cast hFloor
  have hFloor {u v : ℚ} (huv : u ≤ v) : (⌊u + 1 / 2⌋ : ℚ) ≤ ⌊v + 1 / 2⌋ := by
    have hLe : ⌊u + 1 / 2⌋ ≤ ⌊v + 1 / 2⌋ := Int.floor_le_floor (by linarith)
    exact_mod_cast hLe
  show Measure.roundRat x ≤ Measure.roundRat y
  unfold Measure.roundRat
  by_cases hx : x < 0
  · rw [if_pos hx]
    have hBelow : -(⌊-x + 1 / 2⌋ : ℚ) ≤ 0 := neg_nonpos.mpr (hNear (by linarith))
    by_cases hy : y < 0
    · rw [if_pos hy]
      exact neg_le_neg (hFloor (by linarith))
    · rw [if_neg hy]
      exact hBelow.trans (hNear (not_lt.mp hy))
  · have hy : ¬ y < 0 := by linarith
    rw [if_neg hx, if_neg hy]
    exact hFloor h

/-- A number that is close to a whole one is rounded to it. Below zero, it must not be half a unit
away. -/
theorem round_add_eq {n : ℤ} {t : ℚ} (hLow : -(1 / 2) ≤ t) (hHigh : t < 1 / 2)
    (hHalf : t = -(1 / 2) → 0 < n) : Measure.round (n + t) = (n : ℚ) := by
  have hRound : round ((n : ℚ) + t) = n := by
    rw [round_eq_iff, Set.mem_Ico]
    constructor <;> linarith
  rw [round_eq_round, hRound]
  intro hNegative hFract
  obtain ⟨-, -, m, hm⟩ := Int.fract_eq_iff.mp hFract
  -- then it is half a unit below a whole number, which can only be this one
  have hLess : m < n := by
    have : (m : ℚ) < n := by linarith
    exact_mod_cast this
  have hMore : n ≤ m + 1 := by
    have : (n : ℚ) ≤ m + 1 := by linarith
    exact_mod_cast this
  have hSame : (n : ℚ) = m + 1 := by exact_mod_cast le_antisymm hMore hLess
  have hPos : (1 : ℚ) ≤ n := by exact_mod_cast hHalf (by linarith)
  linarith

/-! ## Extents one behind the other -/

/-- Spans of the given extents from a point on, with a gap between neighbors. -/
def chain (gap : ℚ) : (start : ℚ) → List ℚ → List (Span ℚ)
  | _, [] => []
  | start, e :: es => ⟨start, e⟩ :: chain gap (start + e + gap) es

theorem place_eq_chain (gap start offset : ℚ) {es : List ℚ} (h : ∀ e ∈ es, 0 ≤ e) :
    place start ((offset :: List.replicate (es.length - 1) gap).zip es) =
      chain gap (start + offset) es := by
  induction es generalizing start offset with
  | nil => rfl
  | cons e es ih =>
    obtain ⟨he, hes⟩ := List.forall_mem_cons.mp h
    have hExtent : Measure.larger e 0 = e := by rw [larger_eq_max, max_eq_left he]
    rw [List.zip_cons_cons, place, chain, hExtent]
    congr 1
    cases es with
    | nil => rfl
    | cons e' es' =>
      have hNext := ih (start + (offset + e)) gap hes
      rw [← add_assoc start offset e] at hNext
      rw [← add_assoc start offset e]
      exact hNext

/-- The span between the nearest whole numbers, halves upward. -/
def Span.snapped (s : Span ℚ) : Span ℚ where
  start := round s.start
  extent := round s.finish - round s.start

/-- Neither end of the span is in the middle of a pixel below zero. -/
def Span.HalfUp (s : Span ℚ) : Prop := Flow.HalfUp s.start ∧ Flow.HalfUp s.finish

instance : DecidablePred Span.HalfUp := fun s =>
  inferInstanceAs (Decidable (Flow.HalfUp s.start ∧ Flow.HalfUp s.finish))

theorem Span.rounded_eq_snapped {s : Span ℚ} (h : s.HalfUp) : s.rounded = s.snapped := by
  rw [Span.rounded, Span.snapped, round_eq_round h.1, round_eq_round h.2]

/-- The rounded extents of a chain. -/
def steps (gap start : ℚ) (es : List ℚ) : List ℚ :=
  (chain gap start es).map fun s => s.snapped.extent

theorem steps_cons (gap start e : ℚ) (es : List ℚ) : steps gap start (e :: es) =
    (round (start + e) - round start : ℚ) :: steps gap (start + e + gap) es := rfl

section Whole

variable (gap : ℕ) {p : ℚ} {es : List ℚ}

/-- Together, the rounded extents reach from the rounded start to the rounded end. -/
theorem sum_steps (hSome : es ≠ []) :
    gap * (es.length - 1 : ℕ) + (steps gap p es).sum =
      (round (p + (gap * (es.length - 1 : ℕ) + es.sum)) - round p : ℚ) := by
  induction es generalizing p with
  | nil => exact absurd rfl hSome
  | cons e es ih =>
    rw [steps_cons, List.sum_cons]
    cases es with
    | nil => simp [chain, steps]
    | cons e' es' =>
      have hRest := ih (p := p + e + gap) (List.cons_ne_nil _ _)
      have hEnd : p + (gap * ((e :: e' :: es').length - 1 : ℕ) + (e :: e' :: es').sum) =
          p + e + gap + (gap * ((e' :: es').length - 1 : ℕ) + (e' :: es').sum) := by
        simp only [List.length_cons, List.sum_cons, Nat.add_sub_cancel]
        push_cast
        ring
      rw [hEnd]
      rw [round_add_natCast] at hRest
      simp only [List.length_cons, Nat.add_sub_cancel] at hRest ⊢
      push_cast at hRest ⊢
      linarith

/-- What is at least a whole number stays so, and whole numbers stay as they are. -/
theorem forall₂_steps (hes : ∀ e ∈ es, 0 ≤ e) :
    List.Forall₂ (fun e x : ℚ => 0 ≤ x ∧ ∀ n : ℕ, (n ≤ e → n ≤ x) ∧ (e = n → x = n)) es
      (steps gap p es) := by
  induction es generalizing p with
  | nil => exact List.Forall₂.nil
  | cons e es ih =>
    obtain ⟨he, hes⟩ := List.forall_mem_cons.mp hes
    have hMono (n : ℕ) (h : n ≤ e) : (n : ℚ) ≤ round (p + e) - round p := by
      have hRound : round (p + n) ≤ round (p + e) := round_le_round (by linarith)
      rw [round_add_natCast] at hRound
      have : ((round p + n : ℤ) : ℚ) ≤ round (p + e) := by exact_mod_cast hRound
      push_cast at this
      linarith
    refine List.Forall₂.cons ⟨?_, fun n => ⟨hMono n, ?_⟩⟩ (ih hes)
    · have hZero := hMono 0 (by rwa [Nat.cast_zero])
      rwa [Nat.cast_zero] at hZero
    · rintro rfl
      show (round (p + n) - round p : ℚ) = n
      rw [round_add_natCast]
      push_cast
      ring

/-- A chain of the rounded extents covers the same pixels, also if it starts up to half a pixel
aside and its extents are somewhat larger, as long as its end is less than half a pixel further. -/
theorem rounded_chain {xs : List ℚ} {t : ℚ} (hLow : -(1 / 2) ≤ t)
    (hHalf : t = -(1 / 2) → 0 < round p) (hes : ∀ e ∈ es, 0 ≤ e)
    (hxs : List.Forall₂ (· ≤ ·) (steps gap p es) xs)
    (hHigh : t + (xs.sum - (steps gap p es).sum) < 1 / 2) :
    (chain gap (round p + t) xs).map Span.rounded = (chain gap p es).map Span.snapped := by
  induction es generalizing p xs t with
  | nil =>
    cases hxs
    rfl
  | cons e es ih =>
    obtain ⟨he, hes⟩ := List.forall_mem_cons.mp hes
    rw [steps_cons] at hxs hHigh
    obtain ⟨x, xs, hx, hTail, rfl⟩ := List.forall₂_cons_left_iff.mp hxs
    rw [List.sum_cons, List.sum_cons] at hHigh
    have hRest := hTail.sum_le_sum
    have hLe : round p ≤ round (p + e) := round_le_round (by linarith)
    -- all later ends are moved by this
    generalize hLater : t + (x - (round (p + e) - round p)) = u at *
    have hFrom : Measure.round (round p + t) = (round p : ℚ) :=
      round_add_eq hLow (by linarith) hHalf
    have hHalf' : u = -(1 / 2) → 0 < round (p + e) := fun hEq =>
      (hHalf (by linarith)).trans_le hLe
    have hTo : Measure.round (round p + t + x) = (round (p + e) : ℚ) := by
      have hSame : round p + t + x = round (p + e) + u := by linarith
      rw [hSame]
      exact round_add_eq (by linarith) (by linarith) hHalf'
    have hNext := ih (p := p + e + gap) (t := u) (by linarith) ?_ hes hTail (by linarith)
    · rw [round_add_natCast] at hNext
      have hSame : round p + t + x + gap = ((round (p + e) + gap : ℤ) : ℚ) + u := by
        push_cast
        linarith
      rw [chain, chain, List.map_cons, List.map_cons, hSame, hNext]
      congr 1
      show Span.mk (Measure.round (round p + t))
          (Measure.round (round p + t + x) - Measure.round (round p + t)) = _
      rw [hFrom, hTo]
      rfl
    · intro hEq
      rw [round_add_natCast]
      have := hHalf' hEq
      omega

end Whole

end AnchoredUi.Flow
