import AnchoredUi.Number.Binary

/-!
# Numerals

A numeral is a sign, a run of digits with at most one point, and an optional power of ten, or
one of the words for an infinity and for a missing number, in letters of any case.

* `toBinary_decimal`: a numeral of moderate size stands for the number nearest to its value.
-/

namespace AnchoredUi.Number

/-- What a numeral stands for: `± digits · 10 ^ exponent`, an infinity, or no number. -/
inductive Numeral where
  | decimal (negative : Bool) (digits : Nat) (exponent : Int)
  | infinite (negative : Bool)
  | nan
  deriving DecidableEq, Repr

namespace Numeral

/-- The value of a decimal digit. -/
def digitValue (c : Char) : Nat := c.toNat - '0'.toNat

/-- The number that a run of digits writes, read behind the number `start`. -/
def digitsFrom (start : Nat) (cs : List Char) : Nat :=
  cs.foldl (fun n c => 10 * n + digitValue c) start

/-- A power of ten: an optional sign and at least one digit. -/
def exponent? : List Char → Option Int
  | '-' :: cs => if cs ≠ [] ∧ cs.all Char.isDigit then some (-(digitsFrom 0 cs : Int)) else none
  | '+' :: cs => if cs ≠ [] ∧ cs.all Char.isDigit then some (digitsFrom 0 cs) else none
  | cs => if cs ≠ [] ∧ cs.all Char.isDigit then some (digitsFrom 0 cs) else none

/-- What follows the digits: nothing, or the letter `e` and a power of ten. -/
def suffix? : List Char → Option Int
  | [] => some 0
  | c :: cs => if c = 'e' ∨ c = 'E' then exponent? cs else none

/-- Digits with at most one point and at least one digit, then an optional power of ten. -/
def unsigned? (negative : Bool) (cs : List Char) : Option Numeral :=
  let whole := cs.takeWhile Char.isDigit
  let rest := cs.dropWhile Char.isDigit
  let pointed := rest.head? = some '.'
  let behind := if pointed then rest.tail.takeWhile Char.isDigit else []
  let tail := if pointed then rest.tail.dropWhile Char.isDigit else rest
  if whole = [] ∧ behind = [] then none
  else (suffix? tail).map fun e =>
    .decimal negative (digitsFrom 0 (whole ++ behind)) (e - behind.length)

/-- A word for an infinity or a missing number, else an unsigned numeral. -/
def magnitude? (negative : Bool) (cs : List Char) : Option Numeral :=
  let word := cs.map Char.toLower
  if word = "inf".toList ∨ word = "infinity".toList then some (.infinite negative)
  else if word = "nan".toList then some .nan
  else unsigned? negative cs

/-- Reads a whole text as a numeral. -/
def read? : List Char → Option Numeral
  | '-' :: cs => magnitude? true cs
  | '+' :: cs => magnitude? false cs
  | cs => magnitude? false cs

/-- The nearest number; powers of ten beyond every format's reach are not computed. -/
def toBinary {F : Format} : Numeral → Binary F
  | .decimal negative digits e =>
    let n : Int := if negative then -(digits : Int) else digits
    let width : Int := (Nat.toDigits 10 digits).length
    if digits = 0 then 0
    else if e + width > F.reach then .infinite negative
    else if e + width < -(F.scale : Int) then 0
    else .ofRatio (n * Nat.pow 10 e.toNat) (Nat.pow 10 (-e).toNat)
  | .infinite negative => .infinite negative
  | .nan => .nan

theorem toBinary_decimal {F : Format} {n : Nat} {e : Int} (hn : n ≠ 0)
    (low : -(F.scale : Int) ≤ e + (Nat.toDigits 10 n).length)
    (high : e + (Nat.toDigits 10 n).length ≤ F.reach) :
    (decimal false n e).toBinary =
      (.ofRatio (n * Nat.pow 10 e.toNat) (Nat.pow 10 (-e).toNat) : Binary F) := by
  simp [toBinary, hn, Int.not_lt.mpr high, Int.not_lt.mpr low]

end Numeral

/-- The number nearest to what a text writes. -/
def Binary.read? {F : Format} (text : String) : Option (Binary F) :=
  (Numeral.read? text.toList).map Numeral.toBinary

end AnchoredUi.Number
