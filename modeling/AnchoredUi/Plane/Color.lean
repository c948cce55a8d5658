import AnchoredUi.Number.Binary

/-!
# Colors

Red, green, blue and opacity, each from 0 to 1.
-/

namespace AnchoredUi.Plane

open Number

/-- A color with its opacity. -/
structure Color where
  red : Single
  green : Single
  blue : Single
  alpha : Single
  deriving DecidableEq

namespace Color

/-- An opaque color. -/
def rgb (red green blue : Single) : Color := ⟨red, green, blue, 1⟩

/-- Opaque white. -/
def white : Color := rgb 1 1 1

instance : Inhabited Color := ⟨white⟩

/-- The color with another opacity. -/
def withAlpha (c : Color) (alpha : Single) : Color := { c with alpha := alpha }

/-- Nothing shines through. -/
def isOpaque (c : Color) : Bool := (1 : Single) ≤ c.alpha

end Color

end AnchoredUi.Plane
