import AnchoredUi.Number.Shortest

/-!
# Lengths with units

A length as a style sheet writes it: a number and its unit, or `auto`.
-/

namespace AnchoredUi.Style

open Number

/-- What a length is measured in. -/
inductive LengthUnit where
  | px
  | percent
  | em
  | rem
  | vw
  | vh
  | auto
  deriving DecidableEq, Repr

namespace LengthUnit

/-- How a unit is written behind a number. -/
def suffix : LengthUnit → String
  | px => "px"
  | percent => "%"
  | em => "em"
  | rem => "rem"
  | vw => "vw"
  | vh => "vh"
  | auto => ""

/-- The units that can be written behind a number. -/
def measured : List LengthUnit := [px, percent, em, rem, vw, vh]

/-- The unit with a given spelling. -/
def named? (name : List Char) : Option LengthUnit :=
  measured.find? fun u => u.suffix.toList == name

theorem named?_suffix {u : LengthUnit} (h : u ≠ auto) : named? u.suffix.toList = some u := by
  cases u
  case auto => exact absurd rfl h
  all_goals decide

end LengthUnit

/-- A number with its unit; with the unit `auto` the number says nothing. -/
structure Scalar where
  value : Single
  unit : LengthUnit
  deriving DecidableEq

namespace Scalar

/-- A length in pixels. -/
def px (value : Single) : Scalar := ⟨value, .px⟩

/-- The length that follows from the content. -/
def auto : Scalar := ⟨0, .auto⟩

/-- The length follows from the content. -/
def isAuto (s : Scalar) : Bool := s.unit == .auto

/-- The least and the largest whole number that is written in full. -/
def wholeRange : Int × Int := (-0x8000000000000000, 0x7fffffffffffffff)

/-- Whole numbers are written without a fraction and kept in range, others with the fewest
digits. -/
def toText (s : Scalar) : String :=
  if s.unit = .auto then "auto"
  else if s.value.isWhole then
    toString (s.value.truncate wholeRange.1 wholeRange.2) ++ s.unit.suffix
  else s.value.toText ++ s.unit.suffix

end Scalar

end AnchoredUi.Style
