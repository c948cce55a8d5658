import AnchoredUi.Plane.Basic

/-!
# Spacing

Distances on the four sides of a rectangle, for margins and paddings.
-/

namespace AnchoredUi.Plane

open Number

/-- A distance for each side. -/
structure Spacing (α : Type) where
  top : α
  right : α
  bottom : α
  left : α
  deriving DecidableEq

namespace Spacing

variable {α : Type}

/-- The same distance on all sides. -/
def all (value : α) : Spacing α := ⟨value, value, value, value⟩

/-- One distance for top and bottom, another for left and right. -/
def symmetric (vertical horizontal : α) : Spacing α :=
  ⟨vertical, horizontal, vertical, horizontal⟩

/-- No spacing. -/
def zero [Measure α] : Spacing α := all 0

/-- What left and right take together. -/
def width [Measure α] (s : Spacing α) : α := s.left + s.right

/-- What top and bottom take together. -/
def height [Measure α] (s : Spacing α) : α := s.top + s.bottom

instance [Measure α] : Add (Spacing α) :=
  ⟨fun a b => ⟨a.top + b.top, a.right + b.right, a.bottom + b.bottom, a.left + b.left⟩⟩

end Spacing

end AnchoredUi.Plane
