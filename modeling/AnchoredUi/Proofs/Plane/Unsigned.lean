import AnchoredUi.Proofs.Number.Sign
import AnchoredUi.Proofs.Plane.Within

/-!
# Rectangles that are not turned around

The extent of a rectangle along an axis is what its anchors span of the parent, and the size beyond
that. It is not negative if the rectangle is not turned around. Giving the rectangle an extent that
is not negative, pinning it and stretching it over a parent that is not turned around keep it so.
Moving its edges inward may turn it around.

* `Rect.Unsigned`: the extent along an axis is not negative.
* `Rect.unsigned_of_fixed`: rectangles whose anchors agree.
* `Rect.Unsigned.setSize`, `Rect.Unsigned.pin`, `Rect.Unsigned.stretch`: changes.
-/

namespace AnchoredUi.Plane.Rect

open Number Binary

/-- Inside a parent of the given extent, the extent along an axis is not negative, and what the
anchors span is finite. -/
structure Unsigned (r : Rect Single) (axis : Axis) (parent : Single) : Prop where
  span : (parent * (r.anchorMax.get axis - r.anchorMin.get axis)).isFinite = true
  extent : 0 ≤ parent * (r.anchorMax.get axis - r.anchorMin.get axis) + r.sizeDelta.get axis

variable {r r' : Rect Single} {axis other : Axis} {parent : Single} {p : Size Single} {v : Single}

/-- The position and the pivot do not count, and neither does what is there along the other axis. -/
theorem Unsigned.of_eq (h : r.Unsigned axis parent)
    (hMin : r'.anchorMin.get axis = r.anchorMin.get axis)
    (hMax : r'.anchorMax.get axis = r.anchorMax.get axis)
    (hDelta : r'.sizeDelta.get axis = r.sizeDelta.get axis) : r'.Unsigned axis parent := by
  obtain ⟨hSpan, hExtent⟩ := h
  rw [← hMin, ← hMax] at hSpan hExtent
  rw [← hDelta] at hExtent
  exact ⟨hSpan, hExtent⟩

theorem Unsigned.size (h : r.Unsigned axis (p.get axis)) : 0 ≤ (r.size p).get axis := by
  rw [get_size]
  exact h.extent

/-- Anchors that agree span nothing. -/
theorem unsigned_of_fixed (hParent : parent.isFinite = true)
    (hAnchors : r.anchorMin.get axis = r.anchorMax.get axis)
    (hFinite : (r.anchorMin.get axis).isFinite = true) (hDelta : 0 ≤ r.sizeDelta.get axis) :
    r.Unsigned axis parent := by
  have hSpan : parent * (r.anchorMax.get axis - r.anchorMin.get axis) = 0 := by
    rw [← hAnchors, Binary.sub_same hFinite, Binary.mul_zero hParent]
  constructor
  · rw [hSpan]
    exact isFinite_zero
  · rw [hSpan, Binary.zero_add]
    exact hDelta

/-- Anchors at both edges span the parent. -/
theorem unsigned_of_spanned (hParent : parent.isFinite = true) (hPos : 0 ≤ parent)
    (hMin : r.anchorMin.get axis = 0) (hMax : r.anchorMax.get axis = 1)
    (hDelta : r.sizeDelta.get axis = 0) : r.Unsigned axis parent := by
  have hOne : (1 - 0 : Single) = 1 := by decide +kernel
  have hSpan : parent * (r.anchorMax.get axis - r.anchorMin.get axis) = parent := by
    rw [hMin, hMax, hOne, times_one hParent hPos]
  constructor
  · rw [hSpan]
    exact hParent
  · rw [hSpan, hDelta, Binary.add_comm, Binary.zero_add]
    exact hPos

/-! ## Changes -/

theorem Unsigned.setSize (h : r.Unsigned axis (p.get axis)) {other : Axis}
    (hv : axis = other → 0 ≤ v) : (r.setSize other v p).Unsigned axis (p.get axis) := by
  by_cases hAxis : axis = other
  · subst hAxis
    refine ⟨h.span, ?_⟩
    simp only [Rect.setSize, Vec2.get_set_self]
    exact zero_le_add_sub h.span (hv rfl)
  · exact h.of_eq rfl rfl ((Vec2.get_set ..).trans (if_neg hAxis))

theorem Unsigned.pin (h : r.Unsigned axis (p.get axis)) (hParent : (p.get axis).isFinite = true)
    (other : Axis) (hv : v.isFinite = true) : (r.pin other v p).Unsigned axis (p.get axis) := by
  by_cases hAxis : axis = other
  · subst hAxis
    have hMin : (r.pin axis v p).anchorMin.get axis = v := Vec2.get_set_self ..
    have hDelta : (r.pin axis v p).sizeDelta.get axis = (r.size p).get axis :=
      Vec2.get_set_self ..
    refine unsigned_of_fixed hParent (hMin.trans (Vec2.get_set_self ..).symm) ?_ ?_
    · rw [hMin]
      exact hv
    · rw [hDelta]
      exact h.size
  · exact h.of_eq ((Vec2.get_set ..).trans (if_neg hAxis)) ((Vec2.get_set ..).trans (if_neg hAxis))
      ((Vec2.get_set ..).trans (if_neg hAxis))

theorem Unsigned.moveTo (h : r.Unsigned axis parent) (other : Axis) (v : Single) :
    (r.moveTo other v).Unsigned axis parent := h.of_eq rfl rfl rfl

theorem Unsigned.inset (h : r.Unsigned axis (p.get axis)) (hParent : (p.get axis).isFinite = true)
    (side : Side) (v : Single) : (r.inset side v p).Unsigned axis (p.get axis) := by
  cases side with
  | left | bottom => exact (h.pin hParent _ isFinite_zero).moveTo _ _
  | right | top => exact (h.pin hParent _ value_one.1).moveTo _ _

theorem Unsigned.shift (h : r.Unsigned axis parent) (top right bottom left : Single) :
    (r.shift top right bottom left).Unsigned axis parent := h.of_eq rfl rfl rfl

theorem Unsigned.stretch (h : r.Unsigned axis parent) (hParent : parent.isFinite = true)
    (hPos : 0 ≤ parent) (other : Axis) : (r.stretch other).Unsigned axis parent := by
  by_cases hAxis : axis = other
  · subst hAxis
    exact unsigned_of_spanned hParent hPos (Vec2.get_set_self ..) (Vec2.get_set_self ..)
      (Vec2.get_set_self ..)
  · exact h.of_eq ((Vec2.get_set ..).trans (if_neg hAxis)) ((Vec2.get_set ..).trans (if_neg hAxis))
      ((Vec2.get_set ..).trans (if_neg hAxis))

theorem stretched_unsigned (hParent : parent.isFinite = true) (hPos : 0 ≤ parent) :
    (stretched : Rect Single).Unsigned axis parent := by
  cases axis <;> exact unsigned_of_spanned hParent hPos rfl rfl rfl

/-- Moving the edges inward keeps the anchors. -/
theorem Unsigned.shrink (h : r.Unsigned axis (p.get axis)) {top right bottom left : Single}
    (hLeft : 0 ≤ ((r.shrink top right bottom left).size p).get axis) :
    (r.shrink top right bottom left).Unsigned axis (p.get axis) := by
  rw [get_size] at hLeft
  exact ⟨h.span, hLeft⟩

end AnchoredUi.Plane.Rect
