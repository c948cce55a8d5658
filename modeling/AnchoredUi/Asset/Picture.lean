import AnchoredUi.Number.Binary

/-!
# Pictures

A picture is a grid of pixels, row by row, each with four bytes for red, green, blue and opacity.
The test pattern stands in for pictures that cannot be drawn: a checkerboard under a gradient,
with both middle lines and both diagonals in red.

* `length_pattern`: the test pattern has four bytes for each of its pixels.
-/

namespace AnchoredUi.Asset

open Number

/-- A grid of pixels of four bytes each. -/
structure Picture where
  width : Nat
  height : Nat
  bytes : List UInt8
  deriving DecidableEq

namespace Picture

/-- A picture of one color. -/
def filled (width height : Nat) (red green blue alpha : UInt8) : Picture where
  width := width
  height := height
  bytes := (List.replicate (width * height) [red, green, blue, alpha]).flatten

/-! ## The test pattern -/

/-- The pixels along each edge of the test pattern. -/
def patternSize : Nat := 64

/-- The pixels along each edge of a field of the checkerboard. -/
def fieldSize : Nat := 8

/-- The brightness of a field. -/
def brightness (light : Bool) : Single := if light then 200 else 120

/-- A share of the brightness of a field, as a byte. -/
def shade (light : Bool) (share : Single) : UInt8 :=
  UInt8.ofNat ((brightness light * share).truncate 0 255).toNat

/-- How far a column or row lies from the first one, from 0 to 1. -/
def distance (n : Nat) : Single := Binary.ofInt n / Binary.ofInt (patternSize - 1)

/-- The red of a column. -/
def columnRed (light : Bool) (x : Nat) : UInt8 := shade light (1 - 0.5 * distance x)

/-- The blue of a row. -/
def rowBlue (light : Bool) (y : Nat) : UInt8 := shade light (0.5 + 0.5 * distance y)

/-- The pixel lies on a middle line or a diagonal. -/
def isCrossed (x y : Nat) : Bool :=
  x == patternSize / 2 || y == patternSize / 2 || x == y || x + y == patternSize - 1

/-- The pixel lies in a light field. -/
def isLight (x y : Nat) : Bool := (x / fieldSize + y / fieldSize) % 2 == 0

/-- The pixel of the test pattern in column `x` and row `y`, with the reds of the light and the
dark fields of its column and the blues of those of its row. -/
def patternPixel (x y : Nat) (reds blues : UInt8 × UInt8) : List UInt8 :=
  if isCrossed x y then [255, 0, 0, 255]
  else if isLight x y then [reds.1, shade true 0.8, blues.1, 255]
  else [reds.2, shade false 0.8, blues.2, 255]

/-- The columns of the test pattern with their reds. -/
def patternColumns : List (Nat × UInt8 × UInt8) :=
  (List.range patternSize).map fun x => (x, columnRed true x, columnRed false x)

/-- A row of the test pattern. -/
def patternRow (y : Nat) : List UInt8 :=
  let blues := (rowBlue true y, rowBlue false y)
  patternColumns.flatMap fun c => patternPixel c.1 y c.2 blues

/-- The test pattern. -/
def pattern : Picture where
  width := patternSize
  height := patternSize
  bytes := (List.range patternSize).flatMap patternRow

theorem length_patternPixel (x y : Nat) (reds blues : UInt8 × UInt8) :
    (patternPixel x y reds blues).length = 4 := by
  unfold patternPixel
  split
  · rfl
  · split <;> rfl

theorem length_patternRow (y : Nat) : (patternRow y).length = 4 * patternSize := by
  simp [patternRow, patternColumns, List.length_flatMap, length_patternPixel, Function.comp_def,
    List.map_const', Nat.mul_comm]

theorem length_pattern : pattern.bytes.length = 4 * pattern.width * pattern.height := by
  simp [pattern, List.length_flatMap, length_patternRow, List.map_const', Nat.mul_comm]

end Picture

end AnchoredUi.Asset
