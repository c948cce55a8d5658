import AnchoredUi.Proofs.Flow.Rounding

/-!
# Lines in pixels, in exact numbers

The spans of a line are a chain, from the edge where the line puts its first item. So their rounded
extents reach from the rounded edge to the rounded end of the line, and a line of these extents, or
of somewhat larger ones, covers the same pixels again if its edge is close enough to the rounded
one.

* `Frame.exists_firstOffset`: how far the line is put off.
* `Fits.needed_pixels`, `Fits.forall₂_pixels`: the rounded extents of a line.
* `Fits.rounded_again`: when a line covers the same pixels again.
* `Frame.extents_cases`: the extents that the line gives its items.
-/

namespace AnchoredUi.Flow

open Number Plane

theorem exists_of_forall₂ {β γ : Type} {R : β → γ → Prop} {xs : List β} {ys : List γ} {y : γ}
    (h : List.Forall₂ R xs ys) (hy : y ∈ ys) : ∃ x ∈ xs, R x y := by
  induction h with
  | nil => cases hy
  | @cons x y' xs ys hxy _ ih =>
    rcases List.mem_cons.mp hy with rfl | hy
    · exact ⟨x, List.mem_cons_self, hxy⟩
    · obtain ⟨x', hx', hR⟩ := ih hy
      exact ⟨x', List.mem_cons_of_mem x hx', hR⟩

theorem forall₂_trans {β γ δ : Type} {R : β → γ → Prop} {S : γ → δ → Prop} {xs : List β}
    {ys : List γ} {zs : List δ} (hR : List.Forall₂ R xs ys) (hS : List.Forall₂ S ys zs) :
    List.Forall₂ (fun x z => ∃ y, R x y ∧ S y z) xs zs := by
  induction hR generalizing zs with
  | nil =>
    cases hS
    exact .nil
  | cons h _ ih =>
    cases hS with
    | cons h' hS => exact .cons ⟨_, h, h'⟩ (ih hS)

/-- The rounded extents of spans. -/
def pixels (spans : List (Span ℚ)) : List ℚ := spans.map fun s => s.rounded.extent

namespace Frame

/-! ## The line and its chain -/

variable {f : Frame ℚ} {es : List ℚ}

/-- The line stands at the end of its room. -/
def AtEnd (f : Frame ℚ) : Prop :=
  f.justify = .finish ∧ f.reverse = false ∨ f.justify = .start ∧ f.reverse = true

instance : DecidablePred AtEnd := fun f =>
  inferInstanceAs (Decidable (f.justify = .finish ∧ f.reverse = false ∨
    f.justify = .start ∧ f.reverse = true))

/-- How much the extents need, together with the gaps. -/
def needed (f : Frame ℚ) (es : List ℚ) : ℚ := f.gaps es.length + es.sum

/-- Where the first item of the line stands. -/
def edge (f : Frame ℚ) (es : List ℚ) : ℚ := f.start + f.firstOffset (f.room - f.needed es)

/-- A list in the order of the line. -/
def ordered {β : Type} (f : Frame ℚ) (xs : List β) : List β :=
  if f.reverse then xs.reverse else xs

theorem gaps_eq (f : Frame ℚ) (n : ℕ) : f.gaps n = f.gap * (n - 1 : ℕ) := by
  unfold Frame.gaps
  split
  · have h : n - 1 = 0 := by omega
    rw [h, Nat.cast_zero, mul_zero]
  · rfl

/-- The line is put off by nothing, by one half or by all of what is left over. -/
theorem exists_firstOffset (f : Frame ℚ) :
    ∃ c : ℚ, 0 ≤ c ∧ c ≤ 1 ∧ (∀ x, f.firstOffset x = c * x) ∧ (c = 1 → f.AtEnd) := by
  cases hJustify : f.justify <;> cases hReverse : f.reverse
  case start.false =>
    refine ⟨0, le_refl 0, zero_le_one, fun x => ?_, by norm_num⟩
    rw [firstOffset, hJustify, hReverse, zero_mul]
  case start.true =>
    refine ⟨1, zero_le_one, le_refl 1, fun x => ?_, fun _ => Or.inr ⟨hJustify, hReverse⟩⟩
    rw [firstOffset, hJustify, hReverse, one_mul]
  case finish.false =>
    refine ⟨1, zero_le_one, le_refl 1, fun x => ?_, fun _ => Or.inl ⟨hJustify, hReverse⟩⟩
    rw [firstOffset, hJustify, hReverse, one_mul]
  case finish.true =>
    refine ⟨0, le_refl 0, zero_le_one, fun x => ?_, by norm_num⟩
    rw [firstOffset, hJustify, hReverse, zero_mul]
  all_goals
    refine ⟨1 / 2, by norm_num, by norm_num, fun x => ?_, by norm_num⟩
    rw [firstOffset, hJustify]
    show x / (1 + 1) = _
    ring

@[simp] theorem length_ordered {β : Type} (f : Frame ℚ) (xs : List β) :
    (f.ordered xs).length = xs.length := by
  rw [ordered]
  split <;> simp

@[simp] theorem mem_ordered {β : Type} (f : Frame ℚ) (xs : List β) (x : β) :
    x ∈ f.ordered xs ↔ x ∈ xs := by
  rw [ordered]
  split <;> simp

@[simp] theorem sum_ordered (f : Frame ℚ) (xs : List ℚ) : (f.ordered xs).sum = xs.sum := by
  rw [ordered]
  split <;> simp

@[simp] theorem ordered_ordered {β : Type} (f : Frame ℚ) (xs : List β) :
    f.ordered (f.ordered xs) = xs := by
  rw [ordered, ordered]
  split <;> simp

theorem map_ordered {β γ : Type} (f : Frame ℚ) (g : β → γ) (xs : List β) :
    (f.ordered xs).map g = f.ordered (xs.map g) := by
  rw [ordered, ordered]
  split <;> simp

theorem forall₂_ordered {β γ : Type} {R : β → γ → Prop} {xs : List β} {ys : List γ}
    (h : List.Forall₂ R xs ys) : List.Forall₂ R (f.ordered xs) (f.ordered ys) := by
  rw [ordered, ordered]
  split
  · exact List.rel_reverse h
  · exact h

theorem extents_eq_nil {items : List (LineItem ℚ)} : f.extents items = [] ↔ items = [] := by
  rw [← List.length_eq_zero_iff, length_extents, List.length_eq_zero_iff]

@[simp] theorem spansAlong_nil (f : Frame ℚ) : f.spansAlong [] = [] :=
  List.length_eq_zero_iff.mp (f.length_spansAlong [])

theorem spansAlong_eq (f : Frame ℚ) (hes : ∀ e ∈ es, 0 ≤ e) :
    f.spansAlong es = f.ordered (chain f.gap (f.edge es) (f.ordered es)) := by
  have hOrdered : ∀ e ∈ f.ordered es, 0 ≤ e := by simpa using hes
  rw [edge, ← place_eq_chain _ _ _ hOrdered, length_ordered]
  unfold spansAlong needed
  rw [total_eq_sum]
  rfl

/-! ## The spans in pixels -/

/-- The gaps between several items are whole, none of the spans ends in the middle of a pixel below
zero, and no extent is negative. -/
structure Fits (f : Frame ℚ) (es : List ℚ) : Prop where
  gap : 2 ≤ es.length → ∃ n : ℕ, f.gap = n
  halfUp : ∀ s ∈ f.spansAlong es, s.HalfUp
  nonneg : ∀ e ∈ es, 0 ≤ e

namespace Fits

variable (h : f.Fits es)
include h

theorem ordered_nonneg : ∀ e ∈ f.ordered es, 0 ≤ e := by simpa using h.nonneg

/-- The line is a chain with whole gaps, for a single item has none. -/
theorem exists_chain : ∃ n : ℕ, f.gaps es.length = n * (es.length - 1 : ℕ) ∧
    ∀ xs : List ℚ, xs.length = es.length → (∀ x ∈ xs, 0 ≤ x) →
      f.spansAlong xs = f.ordered (chain n (f.edge xs) (f.ordered xs)) := by
  by_cases hSome : 2 ≤ es.length
  · obtain ⟨n, hn⟩ := h.gap hSome
    exact ⟨n, by rw [gaps_eq, hn], fun xs _ hxs => by rw [f.spansAlong_eq hxs, hn]⟩
  · have hZero : es.length - 1 = 0 := by omega
    refine ⟨0, by rw [gaps_eq, hZero, Nat.cast_zero, mul_zero, mul_zero], fun xs hLength hxs => ?_⟩
    have hOrdered : (f.ordered xs).length < 2 := by rw [length_ordered]; omega
    rw [f.spansAlong_eq hxs]
    match f.ordered xs, hOrdered with
    | [], _ => rfl
    | [x], _ => rfl

theorem rounded_eq {n : ℕ}
    (hChain : f.spansAlong es = f.ordered (chain n (f.edge es) (f.ordered es))) :
    (f.spansAlong es).map Span.rounded =
      f.ordered ((chain n (f.edge es) (f.ordered es)).map Span.snapped) := by
  rw [← map_ordered, ← hChain]
  exact List.map_congr_left fun s hs => Span.rounded_eq_snapped (h.halfUp s hs)

theorem pixels_eq {n : ℕ}
    (hChain : f.spansAlong es = f.ordered (chain n (f.edge es) (f.ordered es))) :
    pixels (f.spansAlong es) = f.ordered (steps n (f.edge es) (f.ordered es)) := by
  have hExtents := congrArg (List.map Span.extent) (h.rounded_eq hChain)
  rw [map_ordered, List.map_map, List.map_map] at hExtents
  exact hExtents

theorem halfUp_edge (hSome : es ≠ []) : HalfUp (f.edge es) := by
  have hOrdered : f.ordered es ≠ [] := by
    rwa [Ne, ← List.length_eq_zero_iff, length_ordered, List.length_eq_zero_iff]
  obtain ⟨e, rest, hCons⟩ := List.exists_cons_of_ne_nil hOrdered
  refine (h.halfUp ⟨f.edge es, e⟩ ?_).1
  rw [f.spansAlong_eq h.nonneg, mem_ordered, hCons, chain]
  exact List.mem_cons_self

theorem forall₂_pixels :
    List.Forall₂ (fun e x : ℚ => 0 ≤ x ∧ ∀ n : ℕ, (n ≤ e → n ≤ x) ∧ (e = n → x = n)) es
      (pixels (f.spansAlong es)) := by
  obtain ⟨n, -, hChain⟩ := h.exists_chain
  have hSteps := f.forall₂_ordered (forall₂_steps n (p := f.edge es) h.ordered_nonneg)
  rwa [ordered_ordered, ← h.pixels_eq (hChain es rfl h.nonneg)] at hSteps

theorem pixels_nonneg : ∀ x ∈ pixels (f.spansAlong es), 0 ≤ x := by
  intro x hx
  obtain ⟨e, -, hPixel, -⟩ := exists_of_forall₂ h.forall₂_pixels hx
  exact hPixel

/-- The rounded extents and the gaps reach from the rounded start of the line to its rounded
end. -/
theorem needed_pixels (hSome : es ≠ []) : f.needed (pixels (f.spansAlong es)) =
    (round (f.edge es + f.needed es) - round (f.edge es) : ℚ) := by
  obtain ⟨n, hGaps, hChain⟩ := h.exists_chain
  have hOrdered : f.ordered es ≠ [] := by
    rwa [Ne, ← List.length_eq_zero_iff, length_ordered, List.length_eq_zero_iff]
  have hSum := sum_steps n (p := f.edge es) hOrdered
  rw [length_ordered, sum_ordered, ← hGaps] at hSum
  rw [needed, ← h.forall₂_pixels.length_eq, h.pixels_eq (hChain es rfl h.nonneg), sum_ordered,
    hSum, needed]

/-- A line of the rounded extents covers the same pixels, also if it starts up to half a pixel
aside and its extents are somewhat larger, as long as its end is less than half a pixel further. -/
theorem rounded_again {xs : List ℚ} {t : ℚ} (hEdge : f.edge xs = round (f.edge es) + t)
    (hLow : -(1 / 2) ≤ t) (hHalf : t = -(1 / 2) → 0 < round (f.edge es))
    (hxs : List.Forall₂ (· ≤ ·) (pixels (f.spansAlong es)) xs)
    (hHigh : t + (f.needed xs - f.needed (pixels (f.spansAlong es))) < 1 / 2) :
    (f.spansAlong xs).map Span.rounded = (f.spansAlong es).map Span.rounded := by
  have hNonneg : ∀ x ∈ xs, 0 ≤ x := by
    intro x hx
    obtain ⟨y, hy, hLe⟩ := exists_of_forall₂ hxs hx
    exact (h.pixels_nonneg y hy).trans hLe
  have hLength : xs.length = es.length := by rw [← hxs.length_eq, h.forall₂_pixels.length_eq]
  obtain ⟨n, -, hChain⟩ := h.exists_chain
  have hSame := hChain es rfl h.nonneg
  rw [needed, needed, hxs.length_eq, add_sub_add_left_eq_sub] at hHigh
  rw [h.rounded_eq hSame, hChain xs hLength hNonneg, map_ordered, hEdge]
  rw [h.pixels_eq hSame] at hxs hHigh
  congr 1
  have hOrdered := f.forall₂_ordered hxs
  rw [ordered_ordered] at hOrdered
  refine rounded_chain n hLow hHalf h.ordered_nonneg hOrdered ?_
  rwa [sum_ordered] at hHigh ⊢

end Fits

/-! ## The extents -/

section Extents

variable {items : List (LineItem ℚ)} (hNonneg : ∀ i ∈ items, i.Nonneg)
  (hFills : Fills (f.gaps items.length) items)
include hNonneg hFills

/-- Either nothing grows, or the room is full in the end. -/
theorem extents_cases :
    ((∀ i ∈ items, i.grow = 0) ∨ f.room ≤ f.needed (items.map LineItem.hypothetical)) ∧
        f.extents items = items.map LineItem.hypothetical ∨
      (∃ i ∈ items, 0 < i.grow) ∧ f.needed (items.map LineItem.hypothetical) < f.room ∧
        f.needed (f.extents items) = f.room ∧
        List.Forall₂ (fun i e => i.hypothetical ≤ e ∧ (i.grow = 0 → e = i.hypothetical)) items
          (f.extents items) := by
  simp only [needed, List.length_map, length_extents]
  by_cases hNone : (∀ i ∈ items, i.grow = 0) ∨
      f.room ≤ f.gaps items.length + (items.map LineItem.hypothetical).sum
  · exact Or.inl ⟨hNone, extents_of_no_growth hNone⟩
  · right
    rw [not_or, not_le] at hNone
    obtain ⟨hSome, hRoomy⟩ := hNone
    have hGrows : ∃ i ∈ items, 0 < i.grow := by
      by_contra hNot
      refine hSome fun i hi => le_antisymm (not_lt.mp fun hGrow => hNot ⟨i, hi, hGrow⟩) ?_
      exact (hNonneg i hi).grow
    exact ⟨hGrows, hRoomy, extents_of_growth hNonneg hFills hRoomy hGrows⟩

theorem forall₂_extents :
    List.Forall₂ (fun i e => i.hypothetical ≤ e ∧ (i.grow = 0 → e = i.hypothetical)) items
      (f.extents items) := by
  rcases extents_cases (f := f) hNonneg hFills with ⟨-, hSame⟩ | ⟨-, -, -, hGrown⟩
  · rw [hSame, List.forall₂_map_right_iff, List.forall₂_same]
    exact fun i _ => ⟨le_refl _, fun _ => rfl⟩
  · exact hGrown

theorem extents_nonneg : ∀ e ∈ f.extents items, 0 ≤ e := by
  intro e he
  obtain ⟨i, hi, hLe, -⟩ := exists_of_forall₂ (forall₂_extents hNonneg hFills) he
  rw [LineItem.hypothetical_eq] at hLe
  exact ((hNonneg i hi).basis.trans (le_max_left _ _)).trans hLe

/-- If something grows, the room is full in the end. -/
theorem room_le_needed (hGrows : ∃ i ∈ items, 0 < i.grow) :
    f.room ≤ f.needed (f.extents items) := by
  rcases extents_cases (f := f) hNonneg hFills with ⟨hNone | hFull, hSame⟩ | ⟨-, -, hFull, -⟩
  · obtain ⟨i, hi, hGrow⟩ := hGrows
    exact absurd (hNone i hi) hGrow.ne'
  · rwa [hSame]
  · exact hFull.ge

end Extents

end Frame

end AnchoredUi.Flow
