import AnchoredUi.Proofs.Flow.Relaid
import AnchoredUi.Proofs.Number.Value

/-!
# Lines in single precision and in exact numbers

A finite number in single precision stands for its value, and a line of such numbers for a line of
values. Where single precision rounds the spans to the pixels to which exact arithmetic rounds them,
what holds in exact numbers of a line that is laid out again holds in single precision, too.

* `SamePixels.rounded_eq`: spans that are the same in exact numbers are the same.
* `Frame.Faithful.rounded_eq`: a line that is laid out again.
* `Frame.FaithfulAcross.rounded_eq`: an item that is placed again across a line.
-/

namespace AnchoredUi.Flow

open Number Plane

/-! ## The same line in exact numbers -/

/-- The values of a span. -/
def Span.exact (s : Span Single) : Span ℚ := ⟨s.start.value, s.extent.value⟩

/-- Both numbers of a span are finite. -/
def Span.IsFinite (s : Span Single) : Prop :=
  s.start.isFinite = true ∧ s.extent.isFinite = true

instance : DecidablePred Span.IsFinite := fun s =>
  inferInstanceAs (Decidable (s.start.isFinite = true ∧ s.extent.isFinite = true))

/-- What an item takes across the line, in exact numbers. -/
def Across.exact : Across Single → Across ℚ
  | .fixed e => .fixed e.value
  | .least => .least
  | .whole => .whole

/-- An item in exact numbers. -/
def LineItem.exact (i : LineItem Single) : LineItem ℚ where
  basis := i.basis.value
  least := i.least.value
  grow := i.grow.value
  across := i.across.exact
  leastAcross := i.leastAcross.value
  place := i.place

/-- A line in exact numbers. -/
def Frame.exact (f : Frame Single) : Frame ℚ where
  start := f.start.value
  room := f.room.value
  startAcross := f.startAcross.value
  roomAcross := f.roomAcross.value
  gap := f.gap.value
  reverse := f.reverse
  justify := f.justify

/-- Spans in single precision are rounded to the same pixels as exact ones. -/
structure SamePixels (spans : List (Span Single)) (exact : List (Span ℚ)) : Prop where
  finite : ∀ s ∈ spans, s.rounded.IsFinite
  eq : spans.map (fun s => s.rounded.exact) = exact.map Span.rounded

theorem Span.exact_injective {s s' : Span Single} (h : s.IsFinite) (h' : s'.IsFinite)
    (hSame : s.exact = s'.exact) : s = s' := by
  have hStart := Binary.value_injective h.1 h'.1 (congrArg Span.start hSame)
  have hExtent := Binary.value_injective h.2 h'.2 (congrArg Span.extent hSame)
  cases s
  cases s'
  exact congrArg₂ Span.mk hStart hExtent

namespace SamePixels

variable {spans spans' : List (Span Single)} {exact exact' : List (Span ℚ)}

theorem pixels_eq (h : SamePixels spans exact) :
    pixels exact = spans.map fun s => s.rounded.extent.value := by
  have hExtents := congrArg (List.map Span.extent) h.eq
  rw [List.map_map, List.map_map] at hExtents
  exact hExtents.symm

/-- Spans in single precision that are the same in exact numbers are the same. -/
theorem rounded_eq (h : SamePixels spans exact) (h' : SamePixels spans' exact')
    (hSame : exact'.map Span.rounded = exact.map Span.rounded) :
    spans'.map Span.rounded = spans.map Span.rounded := by
  rw [← h.eq, ← h'.eq] at hSame
  have hFinite := h.finite
  have hFinite' := h'.finite
  clear h h'
  induction spans' generalizing spans with
  | nil => rw [List.map_nil, eq_comm, List.map_eq_nil_iff] at hSame; rw [hSame]
  | cons s' spans' ih =>
    obtain ⟨s, rest, rfl, hFirst, hRest⟩ := List.map_eq_cons_iff.mp hSame.symm
    obtain ⟨hs, hFinite⟩ := List.forall_mem_cons.mp hFinite
    obtain ⟨hs', hFinite'⟩ := List.forall_mem_cons.mp hFinite'
    rw [List.map_cons, List.map_cons, ih hRest.symm hFinite hFinite',
      Span.exact_injective hs hs' hFirst]

end SamePixels

/-! ## Along a line -/

section Along

variable {f : Frame Single} {ι : Type} {children : List ι} {item item' : ι → LineItem Single}

/-- Single precision rounds the spans along a line to the same pixels as exact arithmetic. -/
def Frame.Faithful (f : Frame Single) (items : List (LineItem Single)) : Prop :=
  SamePixels (f.spansAlong (f.extents items))
    (f.exact.spansAlong (f.exact.extents (items.map LineItem.exact)))

theorem Frame.Faithful.rounded_eq (h : f.Faithful (children.map item))
    (h' : f.Faithful (children.map item'))
    (hWhole : f.exact.Whole ((children.map item).map LineItem.exact))
    (hNonneg : ∀ c ∈ children, (item c).exact.Nonneg)
    (hNonneg' : ∀ c ∈ children, (item' c).exact.Nonneg)
    (hRefit : List.Forall₂ (fun c s =>
        Refitted (f.exact.GrowsAlone ((children.map item).map LineItem.exact)) (item c).exact
          (item' c).exact s.rounded.extent.value) children
      (f.spansAlong (f.extents (children.map item)))) :
    (f.spansAlong (f.extents (children.map item'))).map Span.rounded =
      (f.spansAlong (f.extents (children.map item))).map Span.rounded := by
  rw [List.map_map] at hWhole hRefit
  refine SamePixels.rounded_eq h h' ?_
  rw [List.map_map, List.map_map]
  refine hWhole.rounded_eq hNonneg hNonneg' ?_
  have hPixels := SamePixels.pixels_eq h
  rw [List.map_map] at hPixels
  rw [hPixels, List.forall₂_map_right_iff]
  exact hRefit

end Along

/-! ## Across a line -/

/-- The line across a line, on which an item stands alone. -/
def Frame.cross (f : Frame ℚ) (i : LineItem ℚ) : Frame ℚ where
  start := f.startAcross
  room := f.roomAcross
  startAcross := f.start
  roomAcross := f.room
  gap := 0
  reverse := false
  justify := i.place

/-- An item that stands alone and does not grow. -/
def LineItem.alone (i : LineItem ℚ) (extent : ℚ) : LineItem ℚ where
  basis := extent
  least := i.leastAcross
  grow := 0
  across := .least
  leastAcross := 0
  place := .start

section Across

variable {f : Frame ℚ} {i : LineItem ℚ} {e : ℚ}

theorem Frame.spansAlong_cross (h : i.across = .fixed e) :
    (f.cross i).spansAlong ((f.cross i).extents [i.alone e]) = [f.spanAcross i] := by
  have hExtents : (f.cross i).extents [i.alone e] = [max e i.leastAcross] := by
    rw [Frame.extents_of_no_growth (.inl (by simp [LineItem.alone]))]
    simp [LineItem.hypothetical_eq, LineItem.alone]
  rw [hExtents]
  unfold Frame.spansAlong Frame.spanAcross
  rw [total_eq_sum, h]
  show [Span.mk (f.startAcross + (f.cross i).firstOffset
      (f.roomAcross - (0 + [max e i.leastAcross].sum))) _] = _
  rw [zero_add, List.sum_singleton, ← larger_eq_max, firstOffset, cross]
  cases i.place <;> rfl

end Across

section Across

variable {f : Frame Single} {i i' : LineItem Single} {e e' : Single}

/-- Single precision rounds the span of an item across a line to the same pixels as exact
arithmetic. -/
def Frame.FaithfulAcross (f : Frame Single) (i : LineItem Single) : Prop :=
  SamePixels [f.spanAcross i] [f.exact.spanAcross i.exact]

/-- An item that takes the extent that it has got across the line covers the same pixels again. -/
theorem Frame.FaithfulAcross.rounded_eq (h : f.FaithfulAcross i) (h' : f.FaithfulAcross i')
    (hWhole : (f.exact.cross i.exact).Whole [i.exact.alone e.value])
    (hExtent : i.across = .fixed e) (hExtent' : i'.across = .fixed e')
    (hLeast : i'.leastAcross = i.leastAcross) (hPlace : i'.place = i.place)
    (hNonneg : 0 ≤ e.value) (hWholeLeast : ∃ n : ℕ, i.leastAcross.value = n)
    (hRefit : e'.value = max (f.spanAcross i).rounded.extent.value 0) :
    (f.spanAcross i').rounded = (f.spanAcross i).rounded := by
  have hLine : (f.exact.cross i.exact).spansAlong
      ((f.exact.cross i.exact).extents [i.exact.alone e.value]) = [f.exact.spanAcross i.exact] :=
    Frame.spansAlong_cross (by rw [LineItem.exact, hExtent]; rfl)
  have hLine' : (f.exact.cross i.exact).spansAlong
      ((f.exact.cross i.exact).extents [i.exact.alone e'.value]) =
        [f.exact.spanAcross i'.exact] := by
    have hCross : f.exact.cross i.exact = f.exact.cross i'.exact := by
      rw [Frame.cross, LineItem.exact, ← hPlace]
      rfl
    have hAlone : i.exact.alone e'.value = i'.exact.alone e'.value := by
      rw [LineItem.alone, LineItem.exact, ← hLeast]
      rfl
    rw [hCross, hAlone]
    exact Frame.spansAlong_cross (by rw [LineItem.exact, hExtent']; rfl)
  have hPixels := SamePixels.pixels_eq h
  have hLeastNonneg : 0 ≤ i.leastAcross.value := by
    obtain ⟨n, hn⟩ := hWholeLeast
    rw [hn]
    exact n.cast_nonneg
  have hNonneg' : 0 ≤ e'.value := by
    rw [hRefit]
    exact le_max_right _ _
  have hAgain := @Frame.Whole.rounded_eq (f.exact.cross i.exact) Unit [()]
    (fun _ => i.exact.alone e.value) (fun _ => i.exact.alone e'.value) hWhole
    (fun _ _ => ⟨hNonneg, hLeastNonneg, le_refl 0⟩)
    (fun _ _ => ⟨hNonneg', hLeastNonneg, le_refl 0⟩) ?_
  · rw [List.map_singleton, List.map_singleton, hLine, hLine'] at hAgain
    simpa using SamePixels.rounded_eq h h' hAgain
  · rw [List.map_singleton, hLine, hPixels]
    exact .cons (.measured hWholeLeast rfl rfl hRefit) .nil

end Across

end AnchoredUi.Flow
