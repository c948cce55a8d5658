import AnchoredUi.Plane.Rect
import AnchoredUi.Plane.Spacing
import AnchoredUi.Proofs.Number.Within

/-!
# Rectangles within bounds

The anchors and the pivot of a rectangle are fractions, and its place and its size are counted in
units. Every change of a rectangle keeps the fractions and adds a few units, provided that what it
is given is within one unit. To make a rectangle smaller the corners are computed and subtracted
again; in exact numbers that leaves the given distances, and rounding adds a few units to them.

* `Rect.Within`: the bounds.
* `Rect.Within.size`: the size inside of a parent.
* `Rect.Within.setSize`, `Rect.Within.inset`, `Rect.Within.shift`, `Rect.Within.shrink`: changes.
* `Rect.Within.isFinite`: all numbers are finite.
-/

namespace AnchoredUi.Plane

open Number Binary

variable {s n k : ℕ}

/-! ## Vectors and sizes -/

/-- Both components are at most so many units. -/
def Vec2.Within (v : Vec2 Single) (s n : ℕ) : Prop := ∀ axis, (v.get axis).Within s n

/-- Both components are fractions. -/
def Vec2.Fraction (v : Vec2 Single) : Prop := ∀ axis, (v.get axis).Fraction

/-- Both extents are at most so many units. -/
def Size.Within (p : Size Single) (s n : ℕ) : Prop := ∀ axis, (p.get axis).Within s n

instance (v : Vec2 Single) (s n : ℕ) : Decidable (v.Within s n) :=
  decidable_of_iff (v.x.Within s n ∧ v.y.Within s n)
    ⟨fun h axis => by cases axis; exacts [h.1, h.2], fun h => ⟨h .horizontal, h .vertical⟩⟩

instance (p : Size Single) (s n : ℕ) : Decidable (p.Within s n) :=
  decidable_of_iff (p.width.Within s n ∧ p.height.Within s n)
    ⟨fun h axis => by cases axis; exacts [h.1, h.2], fun h => ⟨h .horizontal, h .vertical⟩⟩

instance (v : Vec2 Single) : Decidable v.Fraction :=
  decidable_of_iff (v.x.Fraction ∧ v.y.Fraction)
    ⟨fun h axis => by cases axis; exacts [h.1, h.2], fun h => ⟨h .horizontal, h .vertical⟩⟩

theorem Size.Within.mono {p : Size Single} (h : p.Within s n) (hn : n ≤ k) : p.Within s k :=
  fun axis => (h axis).mono hn

theorem Size.Within.scale_mono {p : Size Single} {s' : ℕ} (h : p.Within s n) (hs : s ≤ s') :
    p.Within s' n := fun axis => (h axis).scale_mono hs

namespace Vec2

variable {v w : Vec2 Single} {x y : Single}

theorem get_set (v : Vec2 Single) (axis other : Axis) (x : Single) :
    (v.set axis x).get other = if other = axis then x else v.get other := by
  cases axis <;> cases other <;> rfl

theorem Within.mono (h : v.Within s n) (hn : n ≤ k) : v.Within s k := fun axis => (h axis).mono hn

theorem Within.scale_mono {s' : ℕ} (h : v.Within s n) (hs : s ≤ s') : v.Within s' n :=
  fun axis => (h axis).scale_mono hs

theorem Within.set (h : v.Within s n) (axis : Axis) (hx : x.Within s n) :
    (v.set axis x).Within s n := by
  intro other
  rw [get_set]
  split
  · exact hx
  · exact h other

theorem Fraction.set (h : v.Fraction) (axis : Axis) (hx : x.Fraction) :
    (v.set axis x).Fraction := by
  intro other
  rw [get_set]
  split
  · exact hx
  · exact h other

theorem within_mk (hx : x.Within s n) (hy : y.Within s n) : (Vec2.mk x y).Within s n := by
  intro axis
  cases axis
  · exact hx
  · exact hy

theorem get_add (v w : Vec2 Single) (axis : Axis) : (v + w).get axis = v.get axis + w.get axis := by
  cases axis <;> rfl

theorem Within.add (hs : s ≤ topScale) (hv : v.Within s n) (hw : w.Within s k)
    (h : n + k ≤ topCount) : (v + w).Within s (n + k) := by
  intro axis
  rw [get_add]
  exact (hv axis).add hs (hw axis) h

theorem fraction_middle : (middle : Vec2 Single).Fraction := by
  intro axis
  cases axis <;> exact Binary.fraction_half

theorem fraction_zero : (zero : Vec2 Single).Fraction := by
  intro axis
  cases axis <;> exact Binary.fraction_zero

theorem fraction_one : (one : Vec2 Single).Fraction := by
  intro axis
  cases axis <;> exact Binary.fraction_one

theorem within_zero : (zero : Vec2 Single).Within s n :=
  within_mk (Binary.within_zero.mono (Nat.zero_le n)) (Binary.within_zero.mono (Nat.zero_le n))

end Vec2

/-! ## Rectangles -/

/-- The anchors and the pivot are fractions, and the position and the size beyond the anchors are
at most so many units. -/
structure Rect.Within (r : Rect Single) (s n : ℕ) : Prop where
  anchorMin : r.anchorMin.Fraction
  anchorMax : r.anchorMax.Fraction
  pivot : r.pivot.Fraction
  position : r.position.Within s n
  sizeDelta : r.sizeDelta.Within s n

/-- All numbers of the rectangle are finite. -/
def Rect.IsFinite (r : Rect Single) : Prop := ∀ axis, ∀ x ∈ r.onAxis axis, x.isFinite = true

namespace Rect

instance (r : Rect Single) : Decidable r.IsFinite :=
  decidable_of_iff ((∀ x ∈ r.onAxis .horizontal, x.isFinite = true) ∧
      ∀ x ∈ r.onAxis .vertical, x.isFinite = true)
    ⟨fun h axis => by cases axis; exacts [h.1, h.2], fun h => ⟨h .horizontal, h .vertical⟩⟩

instance (r : Rect Single) (s n : ℕ) : Decidable (r.Within s n) :=
  decidable_of_iff (r.anchorMin.Fraction ∧ r.anchorMax.Fraction ∧ r.pivot.Fraction ∧
      r.position.Within s n ∧ r.sizeDelta.Within s n)
    ⟨fun ⟨hMin, hMax, hPivot, hPosition, hDelta⟩ => ⟨hMin, hMax, hPivot, hPosition, hDelta⟩,
      fun h => ⟨h.anchorMin, h.anchorMax, h.pivot, h.position, h.sizeDelta⟩⟩

variable {r : Rect Single} {p : Size Single} {x : Single}

theorem Within.mono (h : r.Within s n) (hn : n ≤ k) : r.Within s k :=
  ⟨h.anchorMin, h.anchorMax, h.pivot, h.position.mono hn, h.sizeDelta.mono hn⟩

theorem Within.scale_mono {s' : ℕ} (h : r.Within s n) (hs : s ≤ s') : r.Within s' n :=
  ⟨h.anchorMin, h.anchorMax, h.pivot, h.position.scale_mono hs, h.sizeDelta.scale_mono hs⟩

theorem Within.rescale (h : r.Within s n) (hn : n ≤ 2 ^ k) : r.Within (s + k) 1 :=
  ⟨h.anchorMin, h.anchorMax, h.pivot, fun axis => (h.position axis).rescale hn,
    fun axis => (h.sizeDelta axis).rescale hn⟩

theorem Within.isFinite (h : r.Within s n) : r.IsFinite := by
  intro axis x hx
  simp only [onAxis, List.mem_cons, List.not_mem_nil, or_false] at hx
  rcases hx with rfl | rfl | rfl | rfl | rfl
  · exact (h.anchorMin axis).isFinite
  · exact (h.anchorMax axis).isFinite
  · exact (h.pivot axis).isFinite
  · exact (h.position axis).1
  · exact (h.sizeDelta axis).1

theorem stretched_within : (stretched : Rect Single).Within s n :=
  ⟨Vec2.fraction_zero, Vec2.fraction_one, Vec2.fraction_middle, Vec2.within_zero, Vec2.within_zero⟩

theorem centered_within (hp : p.Within s n) : (centered p.width p.height).Within s n :=
  ⟨Vec2.fraction_middle, Vec2.fraction_middle, Vec2.fraction_middle, Vec2.within_zero,
    Vec2.within_mk (hp .horizontal) (hp .vertical)⟩

/-- What the anchors leave of the parent. -/
theorem Within.span (h : r.Within s n) (axis : Axis) :
    (r.anchorMax.get axis - r.anchorMin.get axis).Within 0 1 :=
  (h.anchorMax axis).sub (h.anchorMin axis)

/-- The size of a rectangle whose anchors agree does not depend on the parent. -/
theorem size_within_of_fixed {m : ℕ} (hs : s ≤ topScale) (hp : p.Within s m)
    (hFixed : r.anchorMin = r.anchorMax) (hAnchors : r.anchorMax.Fraction)
    (hDelta : r.sizeDelta.Within s n) (hn : n ≤ topCount) : (r.size p).Within s n := by
  intro axis
  have hFinite := (hAnchors axis).isFinite
  have hSpan : (r.anchorMax.get axis - r.anchorMin.get axis).Within 0 0 := by
    rw [hFixed]
    refine Within.sub_of_le (Nat.zero_le _) hFinite hFinite (Nat.zero_le _) ?_
    rw [sub_self, abs_zero]
    positivity
  have hNone := (hp axis).mul hSpan hs (Nat.zero_le _)
  rw [get_size]
  exact (hNone.add hs (hDelta axis) (by omega)).mono (by omega)

section Changes

variable (hs : s ≤ topScale) (h : r.Within s n)
include hs h

section Parent

variable {m : ℕ} (hp : p.Within s m)
include hp

theorem Within.spanned (axis : Axis) (hm : m ≤ topCount) :
    (p.get axis * (r.anchorMax.get axis - r.anchorMin.get axis)).Within s m := by
  have hPart := (hp axis).mul (h.span axis) hs (by omega)
  rwa [Nat.mul_one] at hPart

theorem Within.size (hn : m + n ≤ topCount) : (r.size p).Within s (m + n) := by
  intro axis
  rw [get_size]
  exact (h.spanned hs hp axis (by omega)).add hs (h.sizeDelta axis) hn

end Parent

section Styled

variable (hp : p.Within s 1)
include hp

theorem Within.setSize (axis : Axis) (hx : x.Within s k) (hk : k + 1 ≤ topCount) (hn : n ≤ k + 1) :
    (r.setSize axis x p).Within s (k + 1) := by
  refine ⟨h.anchorMin, h.anchorMax, h.pivot, h.position.mono hn, ?_⟩
  exact (h.sizeDelta.mono hn).set axis (hx.sub hs (h.spanned hs hp axis (by decide)) hk)

theorem Within.pin (axis : Axis) (hx : x.Fraction) (hn : 1 + n ≤ topCount) :
    (r.pin axis x p).Within s (1 + n) :=
  ⟨h.anchorMin.set axis hx, h.anchorMax.set axis hx, h.pivot.set axis hx,
    h.position.mono (by omega),
    (h.sizeDelta.mono (by omega)).set axis (h.size hs hp hn axis)⟩

end Styled

omit hs in
theorem Within.moveTo (axis : Axis) (hx : x.Within s n) : (r.moveTo axis x).Within s n :=
  ⟨h.anchorMin, h.anchorMax, h.pivot, h.position.set axis hx, h.sizeDelta⟩

theorem Within.inset (hp : p.Within s 1) (side : Side) (hx : x.Within s 1)
    (hn : 1 + n ≤ topCount) : (r.inset side x p).Within s (1 + n) := by
  have hx' : x.Within s (1 + n) := hx.mono (by omega)
  cases side with
  | left => exact (h.pin hs hp _ fraction_zero hn).moveTo _ hx'
  | right => exact (h.pin hs hp _ fraction_one hn).moveTo _ hx'.neg
  | top => exact (h.pin hs hp _ fraction_one hn).moveTo _ hx'.neg
  | bottom => exact (h.pin hs hp _ fraction_zero hn).moveTo _ hx'

omit hs in
theorem Within.stretch (axis : Axis) : (r.stretch axis).Within s n :=
  ⟨h.anchorMin.set axis fraction_zero, h.anchorMax.set axis fraction_one, h.pivot,
    h.position.set axis (within_zero.mono (Nat.zero_le n)),
    h.sizeDelta.set axis (within_zero.mono (Nat.zero_le n))⟩

theorem Within.shift {top right bottom left : Single} (hTop : top.Within s 1)
    (hRight : right.Within s 1) (hBottom : bottom.Within s 1) (hLeft : left.Within s 1)
    (hn : n + 2 ≤ topCount) : (r.shift top right bottom left).Within s (n + 2) := by
  have hMove := Vec2.within_mk (hLeft.sub hs hRight (by decide)) (hBottom.sub hs hTop (by decide))
  exact ⟨h.anchorMin, h.anchorMax, h.pivot, h.position.add hs hMove hn,
    h.sizeDelta.mono (by omega)⟩

end Changes

/-! ## Corners -/

section Corners

variable {pos delta extent q x d : Single} (hs : s ≤ topScale)
include hs

/-- A distance that is added and taken away again. -/
theorem regained (hx : x.Within s n) (hd : d.Within s k) (hn : n + k < topCount) :
    (x + d - x).Within s (k + 1) := by
  have hFar := (hx.add hs hd (by omega)).1
  refine Within.sub_of_le hs hFar hx.1 (by omega) ?_
  have hNear := hx.add_near hs hd hn
  have hSmall := hd.2
  push_cast
  rw [abs_le] at *
  constructor <;> linarith

/-- Moving one corner leaves the other one where it is, up to rounding. -/
theorem corner_near (hPos : pos.Within s n) (hExtent : extent.Within s n)
    (hDelta : delta.Within s k) (hq : q.Fraction) (hn : 2 * n + 2 * k < topCount) :
    |(pos + delta * q + (extent - delta) * q).value - (pos + extent * q).value| ≤ 4 * 2 ^ s := by
  have hDeltaPart := hDelta.mul_fraction hs hq (by omega)
  have hExtentPart := hExtent.mul_fraction hs hq (by omega)
  have hPos' := hPos.add hs hDeltaPart (by omega)
  have hExtent' := hExtent.sub hs hDelta (by omega)
  have hExtentPart' := hExtent'.mul_fraction hs hq (by omega)
  -- each of the operations is off by half a unit
  have e₁ := hExtent.mul_near hs hq (by omega)
  have e₂ := hPos.add_near hs hExtentPart (by omega)
  have e₃ := hDelta.mul_near hs hq (by omega)
  have e₄ := hPos.add_near hs hDeltaPart (by omega)
  have e₅ := hExtent.sub_near hs hDelta (by omega)
  have e₆ := hExtent'.mul_near hs hq (by omega)
  have e₇ := hPos'.add_near hs hExtentPart' (by omega)
  have e₈ : |((extent - delta).value - (extent.value - delta.value)) * q.value| ≤ 2 ^ s / 2 := by
    rw [abs_mul, abs_of_nonneg hq.nonneg]
    exact (mul_le_of_le_one_right (abs_nonneg _) hq.le_one).trans e₅
  rw [abs_le] at *
  constructor <;> linarith

end Corners

/-- What the lower left corner is moved by when it is to be moved by `low`. -/
def lowMove (r : Rect Single) (low : Vec2 Single) (axis : Axis) : Single :=
  r.offsetMin.get axis + low.get axis - r.offsetMin.get axis

/-- What the upper right corner is moved by, after the lower left one, to be moved by `high`. -/
def highMove (r : Rect Single) (low high : Vec2 Single) (axis : Axis) : Single :=
  let q := 1 - r.pivot.get axis
  let moved := r.lowMove low axis
  r.position.get axis + r.sizeDelta.get axis * q - high.get axis -
    (r.position.get axis + moved * q + (r.sizeDelta.get axis - moved) * q)

theorem sizeDelta_shrink (r : Rect Single) (top right bottom left : Single) (axis : Axis) :
    (r.shrink top right bottom left).sizeDelta.get axis =
      r.sizeDelta.get axis - r.lowMove ⟨left, bottom⟩ axis +
        r.highMove ⟨left, bottom⟩ ⟨right, top⟩ axis := by
  cases axis <;> rfl

theorem position_shrink (r : Rect Single) (top right bottom left : Single) (axis : Axis) :
    (r.shrink top right bottom left).position.get axis =
      r.position.get axis + r.lowMove ⟨left, bottom⟩ axis * (1 - r.pivot.get axis) +
        r.highMove ⟨left, bottom⟩ ⟨right, top⟩ axis * r.pivot.get axis := by
  cases axis <;> rfl

section Shrink

variable (hs : s ≤ topScale) (h : r.Within s n) (hn : 2 * n + 16 ≤ topCount)
  {low high : Vec2 Single} (hLow : low.Within s 1)
include hs h hn hLow

theorem Within.lowMove (axis : Axis) : (r.lowMove low axis).Within s 2 := by
  have hPart := (h.sizeDelta axis).mul_fraction hs (h.pivot axis) (by omega)
  have hCorner := (h.position axis).sub hs hPart (by omega)
  have hMove := regained hs hCorner (hLow axis) (by omega)
  cases axis <;> exact hMove

theorem Within.highMove (hHigh : high.Within s 1) (axis : Axis) :
    (r.highMove low high axis).Within s 6 := by
  have hq := (h.pivot axis).one_sub
  have hMoved := h.lowMove hs hn hLow axis
  have hCorner := (h.position axis).add hs ((h.sizeDelta axis).mul_fraction hs hq (by omega))
    (by omega)
  have hWanted := hCorner.sub hs (hHigh axis) (by omega)
  have hMoved' := ((h.position axis).add hs (hMoved.mul_fraction hs hq (by decide))
    (by omega)).add hs (((h.sizeDelta axis).sub hs hMoved (by omega)).mul_fraction hs hq (by omega))
    (by omega)
  refine Within.sub_of_le hs hWanted.1 hMoved'.1 (by decide) ?_
  have hSame := corner_near hs (h.position axis) (h.sizeDelta axis) hMoved hq (by omega)
  have hNear := hCorner.sub_near hs (hHigh axis) (by omega)
  have hSmall := (hHigh axis).2
  push_cast at hSmall ⊢
  rw [abs_le] at *
  constructor <;> linarith

end Shrink

theorem Within.shrink (hs : s ≤ topScale) (h : r.Within s n) {top right bottom left : Single}
    (hTop : top.Within s 1) (hRight : right.Within s 1) (hBottom : bottom.Within s 1)
    (hLeft : left.Within s 1) (hn : 2 * n + 16 ≤ topCount) :
    (r.shrink top right bottom left).Within s (n + 8) := by
  have hLow := Vec2.within_mk hLeft hBottom
  have hLowMove := h.lowMove hs hn hLow
  have hHighMove := h.highMove hs hn hLow (Vec2.within_mk hRight hTop)
  refine ⟨h.anchorMin, h.anchorMax, h.pivot, fun axis => ?_, fun axis => ?_⟩
  · have hMoved := (h.position axis).add hs ((hLowMove axis).mul_fraction hs
      (h.pivot axis).one_sub (by decide)) (by omega)
    rw [position_shrink]
    have hEnd := hMoved.add hs ((hHighMove axis).mul_fraction hs (h.pivot axis) (by decide))
      (by omega)
    exact hEnd.mono (by omega)
  · have hMoved := (h.sizeDelta axis).sub hs (hLowMove axis) (by omega)
    rw [sizeDelta_shrink]
    exact (hMoved.add hs (hHighMove axis) (by omega)).mono (by omega)

end Rect

end AnchoredUi.Plane
