import AnchoredUi.Plane.Basic

/-!
# Text anchors

The nine places of a text inside its rectangle.

* `column_ofPlaces`, `row_ofPlaces`: a place has the column and the row it is made of.
-/

namespace AnchoredUi.Plane

open Number

/-- A place in the three by three grid of a rectangle. -/
inductive TextAnchor where
  | upperLeft
  | upperCenter
  | upperRight
  | middleLeft
  | middleCenter
  | middleRight
  | lowerLeft
  | lowerCenter
  | lowerRight
  deriving DecidableEq, Repr

/-- Where something stands along an axis, from its start. -/
inductive Placement where
  | start
  | center
  | finish
  deriving DecidableEq, Repr

namespace Placement

/-- The distance from the start as a fraction. -/
def fraction : Placement → Single
  | .start => 0
  | .center => Measure.half
  | .finish => 1

end Placement

namespace TextAnchor

/-- The place in a column counted from the left and a row counted from the top. -/
def ofPlaces : (column row : Placement) → TextAnchor
  | .start, .start => .upperLeft
  | .center, .start => .upperCenter
  | .finish, .start => .upperRight
  | .start, .center => .middleLeft
  | .center, .center => .middleCenter
  | .finish, .center => .middleRight
  | .start, .finish => .lowerLeft
  | .center, .finish => .lowerCenter
  | .finish, .finish => .lowerRight

/-- The column, from the left. -/
def column : TextAnchor → Placement
  | .upperLeft | .middleLeft | .lowerLeft => .start
  | .upperCenter | .middleCenter | .lowerCenter => .center
  | .upperRight | .middleRight | .lowerRight => .finish

/-- The row, from the top. -/
def row : TextAnchor → Placement
  | .upperLeft | .upperCenter | .upperRight => .start
  | .middleLeft | .middleCenter | .middleRight => .center
  | .lowerLeft | .lowerCenter | .lowerRight => .finish

@[simp] theorem column_ofPlaces (c r : Placement) : (TextAnchor.ofPlaces c r).column = c := by
  cases c <;> cases r <;> rfl

@[simp] theorem row_ofPlaces (c r : Placement) : (TextAnchor.ofPlaces c r).row = r := by
  cases c <;> cases r <;> rfl

/-- The distance from the left edge as a fraction of the width. -/
def horizontal (a : TextAnchor) : Single := a.column.fraction

/-- The distance from the bottom edge as a fraction of the height. -/
def vertical (a : TextAnchor) : Single := 1 - a.row.fraction

/-- The placement along an axis, from the left or from the top. -/
def along (a : TextAnchor) : Axis → Placement
  | .horizontal => a.column
  | .vertical => a.row

end TextAnchor

end AnchoredUi.Plane
