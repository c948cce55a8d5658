import Mathlib.Data.Rat.Defs
import Mathlib.Tactic.Ring
import AnchoredUi.Plane.Rect
import AnchoredUi.Plane.Spacing

/-!
# Edges

The edges of a rectangle are not among the numbers that it is given by. Each of them follows from an
anchor, the pivot, the position and the size beyond the anchors, so a move of one edge changes
several of these numbers, and moves of two opposite edges change some of them twice. Over the
rationals the edges come out where they are asked for, whatever the anchors and the pivot are, and
also if the anchors are in the wrong order or the pivot lies outside.

* `high_sub_low`: opposite edges are apart by the size.
* `offsetMax_setOffsetMin`, `offsetMin_setOffsetMax`: a move of one corner leaves the other one.
* `low_place`, `high_place`, `size_place`: where a pinned rectangle is, and that it keeps its size.
* `moves_on`: the edges after a move that a style asks for.
-/

namespace AnchoredUi.Plane

open Number

theorem Vec2.eq_of_get {α : Type} {v w : Vec2 α} (h : ∀ axis, v.get axis = w.get axis) : v = w :=
  congrArg₂ Vec2.mk (h .horizontal) (h .vertical)

theorem Size.eq_of_get {α : Type} {p q : Size α} (h : ∀ axis, p.get axis = q.get axis) : p = q :=
  congrArg₂ Size.mk (h .horizontal) (h .vertical)

namespace Rect

/-! ## Places in the parent -/

section Places

variable {α : Type} [Measure α]

/-- The lower edge along an axis, from the lower edge of the parent on. -/
def low (r : Rect α) (parent : Size α) (axis : Axis) : α :=
  parent.get axis * r.anchorMin.get axis + r.offsetMin.get axis

/-- The upper edge along an axis, from the lower edge of the parent on. -/
def high (r : Rect α) (parent : Size α) (axis : Axis) : α :=
  parent.get axis * r.anchorMax.get axis + r.offsetMax.get axis

/-- Where an edge lies, to the right of the left edge of the parent or above its bottom edge. -/
def edge (r : Rect α) (parent : Size α) : Side → α
  | .left => r.low parent .horizontal
  | .bottom => r.low parent .vertical
  | .right => r.high parent .horizontal
  | .top => r.high parent .vertical

/-- Where an edge lies that is at a distance inside the edge of the parent of the same name. -/
def Side.inside (side : Side) (distance : α) (parent : Size α) : α :=
  match side with
  | .left | .bottom => distance
  | .right => parent.width - distance
  | .top => parent.height - distance

end Places

/-! ## Moves -/

/-- A move that a style asks for. -/
inductive Move (α : Type) where
  | inset (side : Side) (distance : α)
  | shift (margin : Spacing α)
  | shrink (padding : Spacing α)

/-- The rectangle after a move. -/
def Move.on {α : Type} [Measure α] (m : Move α) (r : Rect α) (parent : Size α) : Rect α :=
  match m with
  | inset side distance => r.inset side distance parent
  | shift m => r.shift m.top m.right m.bottom m.left
  | shrink p => r.shrink p.top p.right p.bottom p.left

/-- The anchors and the pivot are the same. -/
def SameAnchors (r r' : Rect ℚ) : Prop :=
  r'.anchorMin = r.anchorMin ∧ r'.anchorMax = r.anchorMax ∧ r'.pivot = r.pivot

/-- What a move does to a rectangle. It puts one edge at a distance inside that of the parent, and
neither the size nor anything along the other axis changes; or it moves all edges together; or it
moves each of them inward by its own distance. -/
def Move.Moves (m : Move ℚ) (parent : Size ℚ) (r r' : Rect ℚ) : Prop :=
  match m with
  | inset side distance =>
    r'.edge parent side = side.inside distance parent ∧ r'.size parent = r.size parent ∧
      r'.onAxis side.axis.cross = r.onAxis side.axis.cross
  | shift m =>
    SameAnchors r r' ∧
      r'.edge parent .left = r.edge parent .left + (m.left - m.right) ∧
      r'.edge parent .right = r.edge parent .right + (m.left - m.right) ∧
      r'.edge parent .bottom = r.edge parent .bottom + (m.bottom - m.top) ∧
      r'.edge parent .top = r.edge parent .top + (m.bottom - m.top)
  | shrink p =>
    SameAnchors r r' ∧
      r'.edge parent .left = r.edge parent .left + p.left ∧
      r'.edge parent .right = r.edge parent .right - p.right ∧
      r'.edge parent .bottom = r.edge parent .bottom + p.bottom ∧
      r'.edge parent .top = r.edge parent .top - p.top

variable (r : Rect ℚ) (parent : Size ℚ) (axis : Axis) (v : Vec2 ℚ)

/-! ## Corners -/

theorem get_offsetMin : r.offsetMin.get axis =
    r.position.get axis - r.sizeDelta.get axis * r.pivot.get axis := by
  cases axis <;> rfl

theorem get_offsetMax : r.offsetMax.get axis =
    r.position.get axis + r.sizeDelta.get axis * (1 - r.pivot.get axis) := by
  cases axis <;> rfl

theorem low_eq :
    r.low parent axis = parent.get axis * r.anchorMin.get axis + r.offsetMin.get axis := rfl

theorem high_eq :
    r.high parent axis = parent.get axis * r.anchorMax.get axis + r.offsetMax.get axis := rfl

theorem get_size_exact : (r.size parent).get axis =
    parent.get axis * (r.anchorMax.get axis - r.anchorMin.get axis) + r.sizeDelta.get axis :=
  get_size r parent axis

/-- Opposite edges are apart by the size. -/
theorem high_sub_low : r.high parent axis - r.low parent axis = (r.size parent).get axis := by
  rw [high_eq, low_eq, get_offsetMax, get_offsetMin, get_size_exact]
  ring

theorem get_setOffsetMin :
    (r.setOffsetMin v).sizeDelta.get axis =
        r.sizeDelta.get axis - (v.get axis - r.offsetMin.get axis) ∧
      (r.setOffsetMin v).position.get axis =
        r.position.get axis + (v.get axis - r.offsetMin.get axis) * (1 - r.pivot.get axis) ∧
      (r.setOffsetMin v).pivot = r.pivot := by
  cases axis <;> exact ⟨rfl, rfl, rfl⟩

theorem get_setOffsetMax :
    (r.setOffsetMax v).sizeDelta.get axis =
        r.sizeDelta.get axis + (v.get axis - r.offsetMax.get axis) ∧
      (r.setOffsetMax v).position.get axis =
        r.position.get axis + (v.get axis - r.offsetMax.get axis) * r.pivot.get axis ∧
      (r.setOffsetMax v).pivot = r.pivot := by
  cases axis <;> exact ⟨rfl, rfl, rfl⟩

theorem offsetMin_setOffsetMin : (r.setOffsetMin v).offsetMin = v := by
  refine Vec2.eq_of_get fun axis => ?_
  obtain ⟨hDelta, hPosition, hPivot⟩ := r.get_setOffsetMin axis v
  rw [get_offsetMin, hDelta, hPosition, hPivot, get_offsetMin]
  ring

/-- A move of the lower left corner leaves the upper right one. -/
theorem offsetMax_setOffsetMin : (r.setOffsetMin v).offsetMax = r.offsetMax := by
  refine Vec2.eq_of_get fun axis => ?_
  obtain ⟨hDelta, hPosition, hPivot⟩ := r.get_setOffsetMin axis v
  rw [get_offsetMax, hDelta, hPosition, hPivot, get_offsetMax]
  ring

theorem offsetMax_setOffsetMax : (r.setOffsetMax v).offsetMax = v := by
  refine Vec2.eq_of_get fun axis => ?_
  obtain ⟨hDelta, hPosition, hPivot⟩ := r.get_setOffsetMax axis v
  rw [get_offsetMax, hDelta, hPosition, hPivot, get_offsetMax]
  ring

/-- A move of the upper right corner leaves the lower left one. -/
theorem offsetMin_setOffsetMax : (r.setOffsetMax v).offsetMin = r.offsetMin := by
  refine Vec2.eq_of_get fun axis => ?_
  obtain ⟨hDelta, hPosition, hPivot⟩ := r.get_setOffsetMax axis v
  rw [get_offsetMin, hDelta, hPosition, hPivot, get_offsetMin]
  ring

/-- Both corners after a padding. The upper right one is moved second, from where it was. -/
theorem offsets_shrink (p : Spacing ℚ) :
    (r.shrink p.top p.right p.bottom p.left).offsetMin = r.offsetMin + ⟨p.left, p.bottom⟩ ∧
      (r.shrink p.top p.right p.bottom p.left).offsetMax = r.offsetMax - ⟨p.right, p.top⟩ := by
  rw [shrink, offsetMin_setOffsetMax, offsetMin_setOffsetMin, offsetMax_setOffsetMax]
  exact ⟨rfl, rfl⟩

/-- Both corners after a margin. -/
theorem offsets_shift (m : Spacing ℚ) :
    (r.shift m.top m.right m.bottom m.left).offsetMin =
        r.offsetMin + ⟨m.left - m.right, m.bottom - m.top⟩ ∧
      (r.shift m.top m.right m.bottom m.left).offsetMax =
        r.offsetMax + ⟨m.left - m.right, m.bottom - m.top⟩ := by
  have hMove (axis : Axis) : (r.shift m.top m.right m.bottom m.left).position.get axis =
      r.position.get axis + (Vec2.mk (m.left - m.right) (m.bottom - m.top)).get axis := by
    cases axis <;> rfl
  have hAdd (v w : Vec2 ℚ) (axis : Axis) : (v + w).get axis = v.get axis + w.get axis := by
    cases axis <;> rfl
  constructor
  · refine Vec2.eq_of_get fun axis => ?_
    rw [get_offsetMin, hMove, hAdd, get_offsetMin]
    exact add_sub_right_comm _ _ _
  · refine Vec2.eq_of_get fun axis => ?_
    rw [get_offsetMax, hMove, hAdd, get_offsetMax]
    exact add_right_comm _ _ _

/-! ## Pins -/

section Pin

variable (fraction x : ℚ)

theorem get_place :
    ((r.pin axis fraction parent).moveTo axis x).anchorMin.get axis = fraction ∧
      ((r.pin axis fraction parent).moveTo axis x).anchorMax.get axis = fraction ∧
      ((r.pin axis fraction parent).moveTo axis x).pivot.get axis = fraction ∧
      ((r.pin axis fraction parent).moveTo axis x).position.get axis = x ∧
      ((r.pin axis fraction parent).moveTo axis x).sizeDelta.get axis =
        (r.size parent).get axis := by
  cases axis <;> exact ⟨rfl, rfl, rfl, rfl, rfl⟩

theorem low_place : ((r.pin axis 0 parent).moveTo axis x).low parent axis = x := by
  obtain ⟨hMin, -, hPivot, hPosition, hDelta⟩ := r.get_place parent axis 0 x
  rw [low_eq, get_offsetMin, hMin, hPivot, hPosition, hDelta]
  ring

theorem high_place :
    ((r.pin axis 1 parent).moveTo axis x).high parent axis = parent.get axis + x := by
  obtain ⟨-, hMax, hPivot, hPosition, hDelta⟩ := r.get_place parent axis 1 x
  rw [high_eq, get_offsetMax, hMax, hPivot, hPosition, hDelta]
  ring

/-- A pinned rectangle keeps its size. -/
theorem size_place : ((r.pin axis fraction parent).moveTo axis x).size parent = r.size parent := by
  have hAlong : (((r.pin axis fraction parent).moveTo axis x).size parent).get axis =
      (r.size parent).get axis := by
    obtain ⟨hMin, hMax, -, -, hDelta⟩ := r.get_place parent axis fraction x
    rw [get_size_exact, hMin, hMax, hDelta]
    ring
  refine Size.eq_of_get fun other => ?_
  cases axis <;> cases other
  · exact hAlong
  · rfl
  · rfl
  · exact hAlong

end Pin

theorem size_inset (side : Side) (d : ℚ) : (r.inset side d parent).size parent = r.size parent := by
  cases side <;> exact size_place ..

/-- The edge that is put somewhere is where it should be, to the right or to the left of the edge of
the parent and above or below it. -/
theorem edge_inset (side : Side) (d : ℚ) :
    (r.inset side d parent).edge parent side = side.inside d parent := by
  cases side with
  | left => exact low_place r parent .horizontal d
  | bottom => exact low_place r parent .vertical d
  | right => exact (high_place r parent .horizontal (-d)).trans (sub_eq_add_neg ..).symm
  | top => exact (high_place r parent .vertical (-d)).trans (sub_eq_add_neg ..).symm

/-! ## All moves -/

/-- The edges after a move that a style asks for. -/
theorem moves_on (m : Move ℚ) : m.Moves parent r (m.on r parent) := by
  cases m with
  | inset side d => exact ⟨r.edge_inset parent side d, r.size_inset parent side d, r.inset_other ..⟩
  | shift m =>
    obtain ⟨hMin, hMax⟩ := r.offsets_shift m
    refine ⟨⟨rfl, rfl, rfl⟩, ?_, ?_, ?_, ?_⟩
    all_goals simp only [Move.on, edge, low_eq, high_eq, hMin, hMax]
    all_goals exact (add_assoc ..).symm
  | shrink p =>
    obtain ⟨hMin, hMax⟩ := r.offsets_shrink p
    refine ⟨⟨rfl, rfl, rfl⟩, ?_, ?_, ?_, ?_⟩
    all_goals simp only [Move.on, edge, low_eq, high_eq, hMin, hMax]
    · exact (add_assoc ..).symm
    · exact (add_sub_assoc ..).symm
    · exact (add_assoc ..).symm
    · exact (add_sub_assoc ..).symm

end Rect

end AnchoredUi.Plane
