import AnchoredUi.Plane.Basic

/-!
# Anchored rectangles

A rectangle is given relative to its parent: two anchors as fractions of the parent's size, a
pivot as a fraction of the own size, the offset of the pivot, and the size beyond the span of
the anchors. The edges are read and written as offsets from the anchors.

* `get_size`: the extent along an axis follows from what the rectangle has along that axis.
* `setSize_other`, `inset_other`: a write along one axis leaves the other axis alone.
-/

namespace AnchoredUi.Plane

open Number

/-- A rectangle relative to its parent. -/
structure Rect (α : Type) where
  anchorMin : Vec2 α
  anchorMax : Vec2 α
  pivot : Vec2 α
  position : Vec2 α
  sizeDelta : Vec2 α
  deriving DecidableEq

namespace Rect

variable {α : Type} [Measure α]

/-! ## Ways to place a rectangle -/

/-- A size in the middle of the parent. -/
def centered (width height : α) : Rect α where
  anchorMin := Vec2.middle
  anchorMax := Vec2.middle
  pivot := Vec2.middle
  position := Vec2.zero
  sizeDelta := ⟨width, height⟩

/-- A size in the top left corner of the parent. -/
def topLeft (width height : α) : Rect α where
  anchorMin := Vec2.topLeft
  anchorMax := Vec2.topLeft
  pivot := Vec2.topLeft
  position := Vec2.zero
  sizeDelta := ⟨width, height⟩

/-- The whole of the parent. -/
def stretched : Rect α where
  anchorMin := Vec2.zero
  anchorMax := Vec2.one
  pivot := Vec2.middle
  position := Vec2.zero
  sizeDelta := Vec2.zero

/-- The rectangle of a new node: 100 by 100 pixels in the middle of the parent. -/
def fresh : Rect Single := centered 100 100

instance : Inhabited (Rect Single) := ⟨fresh⟩

/-- The rectangle with other anchors. -/
def withAnchors {α : Type} (r : Rect α) (low high : Vec2 α) : Rect α :=
  { r with anchorMin := low, anchorMax := high }

/-- The rectangle with another pivot. -/
def withPivot {α : Type} (r : Rect α) (pivot : Vec2 α) : Rect α := { r with pivot := pivot }

/-- The rectangle with another position. -/
def withPosition {α : Type} (r : Rect α) (position : Vec2 α) : Rect α :=
  { r with position := position }

/-- The rectangle with another size beyond its anchors. -/
def withSizeDelta {α : Type} (r : Rect α) (delta : Vec2 α) : Rect α :=
  { r with sizeDelta := delta }

/-! ## Size -/

/-- The size inside a parent. -/
def size (r : Rect α) (parent : Size α) : Size α :=
  let span := r.anchorMax - r.anchorMin
  ⟨parent.width * span.x + r.sizeDelta.x, parent.height * span.y + r.sizeDelta.y⟩

/-- The extent of a rectangle along an axis follows from its parts along that axis. -/
theorem get_size (r : Rect α) (parent : Size α) (axis : Axis) :
    (r.size parent).get axis =
      parent.get axis * (r.anchorMax.get axis - r.anchorMin.get axis) + r.sizeDelta.get axis := by
  cases axis <;> rfl

/-- The rectangle with a given extent along an axis and the same anchors. -/
def setSize (r : Rect α) (axis : Axis) (extent : α) (parent : Size α) : Rect α :=
  let span := r.anchorMax.get axis - r.anchorMin.get axis
  { r with sizeDelta := r.sizeDelta.set axis (extent - parent.get axis * span) }

/-- Both anchors agree on an axis. -/
def isFixed (r : Rect Single) (axis : Axis) : Bool :=
  (r.anchorMin.get axis).agrees (r.anchorMax.get axis)

/-! ## Edges -/

/-- The lower left corner, from the lower left anchor. -/
def offsetMin (r : Rect α) : Vec2 α := r.position - r.sizeDelta.scale r.pivot

/-- The upper right corner, from the upper right anchor. -/
def offsetMax (r : Rect α) : Vec2 α := r.position + r.sizeDelta.scale (Vec2.one - r.pivot)

/-- Moves the lower left corner; the upper right one stays. -/
def setOffsetMin (r : Rect α) (value : Vec2 α) : Rect α :=
  let delta := value - r.offsetMin
  { r with
    sizeDelta := r.sizeDelta - delta
    position := r.position + delta.scale (Vec2.one - r.pivot) }

/-- Moves the upper right corner; the lower left one stays. -/
def setOffsetMax (r : Rect α) (value : Vec2 α) : Rect α :=
  let delta := value - r.offsetMax
  { r with
    sizeDelta := r.sizeDelta + delta
    position := r.position + delta.scale r.pivot }

/-- Moves both corners, the lower left one first. -/
def withOffsets (r : Rect α) (low high : Vec2 α) : Rect α :=
  (r.setOffsetMin low).setOffsetMax high

/-- Joins anchors and pivot of an axis at one fraction of the parent, keeping the extent. -/
def pin (r : Rect α) (axis : Axis) (fraction : α) (parent : Size α) : Rect α where
  anchorMin := r.anchorMin.set axis fraction
  anchorMax := r.anchorMax.set axis fraction
  pivot := r.pivot.set axis fraction
  position := r.position
  sizeDelta := r.sizeDelta.set axis ((r.size parent).get axis)

/-- Spans the whole parent along an axis. -/
def stretch (r : Rect α) (axis : Axis) : Rect α where
  anchorMin := r.anchorMin.set axis 0
  anchorMax := r.anchorMax.set axis 1
  pivot := r.pivot
  position := r.position.set axis 0
  sizeDelta := r.sizeDelta.set axis 0

/-- The rectangle moved to a coordinate along an axis. -/
def moveTo {α : Type} (r : Rect α) (axis : Axis) (value : α) : Rect α :=
  { r with position := r.position.set axis value }

/-! ## Moves that a style asks for -/

/-- An edge of a rectangle. -/
inductive Side where
  | top
  | right
  | bottom
  | left
  deriving DecidableEq, Repr

/-- The axis along which the distance to an edge is measured. -/
def Side.axis : Side → Axis
  | .left | .right => .horizontal
  | .top | .bottom => .vertical

/-- Puts an edge at a distance inside the parent's edge of the same name. -/
def inset (r : Rect α) (side : Side) (distance : α) (parent : Size α) : Rect α :=
  match side with
  | .left => (r.pin .horizontal 0 parent).moveTo .horizontal distance
  | .right => (r.pin .horizontal 1 parent).moveTo .horizontal (-distance)
  | .top => (r.pin .vertical 1 parent).moveTo .vertical (-distance)
  | .bottom => (r.pin .vertical 0 parent).moveTo .vertical distance

/-- Moves all edges by the difference of opposite margins. -/
def shift (r : Rect α) (top right bottom left : α) : Rect α :=
  { r with position := r.position + ⟨left - right, bottom - top⟩ }

/-- Moves each edge inward by its own distance. -/
def shrink (r : Rect α) (top right bottom left : α) : Rect α :=
  (r.setOffsetMin (r.offsetMin + ⟨left, bottom⟩)).setOffsetMax (r.offsetMax - ⟨right, top⟩)

/-- A coordinate of every part of the rectangle along one axis. -/
def onAxis {α : Type} (r : Rect α) (axis : Axis) : List α :=
  [r.anchorMin.get axis, r.anchorMax.get axis, r.pivot.get axis, r.position.get axis,
    r.sizeDelta.get axis]

theorem setSize_other (r : Rect α) (axis : Axis) (extent : α) (parent : Size α) :
    (r.setSize axis extent parent).onAxis axis.cross = r.onAxis axis.cross := by
  simp [setSize, onAxis]

theorem inset_other (r : Rect α) (side : Side) (distance : α) (parent : Size α) :
    (r.inset side distance parent).onAxis side.axis.cross = r.onAxis side.axis.cross := by
  cases side <;> rfl

/-! ## Comparison -/

/-- All fields differ by no more than a tolerance. -/
def near (r s : Rect Single) (tolerance : Single) : Bool :=
  r.anchorMin.near s.anchorMin tolerance && r.anchorMax.near s.anchorMax tolerance &&
    r.pivot.near s.pivot tolerance && r.position.near s.position tolerance &&
    r.sizeDelta.near s.sizeDelta tolerance

end Rect

end AnchoredUi.Plane
