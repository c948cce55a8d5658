import AnchoredUi.Number.Binary

/-!
# Measures

Rectangles and lines of items are computed over any kind of number with the operations below.
Single precision is what scenes hold; over the rationals the same definitions say what the
computation would give without rounding.
-/

namespace AnchoredUi.Number

/-- The arithmetic that rectangles and lines of items are computed with. -/
class Measure (α : Type) extends Zero α, One α, Add α, Sub α, Neg α, Mul α, Div α where
  /-- A count as a number. -/
  ofNat : Nat → α
  /-- Strictly smaller. -/
  less : α → α → Bool
  /-- The larger of two numbers. -/
  larger : α → α → α
  /-- The nearest whole number; a half goes away from zero. -/
  round : α → α
  /-- Neither zero nor too small or too large to be shared out with full precision. -/
  divisible : α → Bool

namespace Measure

variable {α : Type} [Measure α]

/-- One half. -/
def half : α := 1 / (1 + 1)

instance : Measure Single where
  ofNat n := Binary.ofInt n
  less := Binary.less
  larger := Binary.larger
  round := Binary.round
  divisible := Binary.isNormal

/-- The nearest whole number; a half goes away from zero. -/
def roundRat (x : Rat) : Rat :=
  if x < 0 then -((-x + 1 / 2).floor : Int) else ((x + 1 / 2).floor : Int)

instance : Measure Rat where
  zero := Rat.ofInt 0
  one := Rat.ofInt 1
  add := Rat.add
  sub := Rat.sub
  neg := Rat.neg
  mul := Rat.mul
  div := Rat.div
  ofNat n := Rat.ofInt n
  less := Rat.blt
  larger a b := if Rat.blt a b then b else a
  round := roundRat
  divisible x := x.num != 0

end Measure

end AnchoredUi.Number
