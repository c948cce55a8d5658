import AnchoredUi.Number.Format

/-!
# Floating-point numbers

A number of a format is a held count of the format's units, an infinity, or no number at all.
Every operation computes exactly on counts and rounds once. Zero carries no sign: none of the
quantities computed with these numbers is ever divided by a zero, so two zeros could not be
told apart.

* `units_ofQuotient`: a rounded quotient is finite exactly if its nearest count is in reach.
* `add_comm`: addition does not depend on the order of its operands.
-/

namespace AnchoredUi.Number

/-- A number of the format `F`. -/
inductive Binary (F : Format) where
  | finite (units : Int) (held : F.Holds units.natAbs)
  | infinite (negative : Bool)
  | nan
  deriving DecidableEq

/-- Numbers of 32 bits. -/
abbrev Single := Binary Format.single

/-- Numbers of 64 bits. -/
abbrev Double := Binary Format.double

namespace Binary

variable {F G : Format}

/-! ## Rounding into a format -/

/-- The number nearest to `n / d` units; beyond the reach of the format it is infinite. -/
def ofQuotient (n : Int) (d : Nat) : Binary F :=
  if h : F.nearest n.natAbs d < Nat.pow 2 F.reach then
    if n < 0 then .finite (-(F.nearest n.natAbs d : Int)) (by simpa using F.holds_nearest h)
    else .finite (F.nearest n.natAbs d : Int) (by simpa using F.holds_nearest h)
  else .infinite (n < 0)

/-- The number nearest to the quotient `n / d`. -/
def ofRatio (n : Int) (d : Nat) : Binary F := ofQuotient (n * Nat.pow 2 F.scale) d

/-- The number nearest to a whole number. -/
def ofInt (n : Int) : Binary F := ofRatio n 1

instance (n : Nat) : OfNat (Binary F) n := ⟨ofInt n⟩

instance : Inhabited (Binary F) := ⟨0⟩

instance : OfScientific (Binary F) where
  ofScientific m down e := if down then ofRatio m (Nat.pow 10 e) else ofInt (m * Nat.pow 10 e)

instance : Zero (Binary F) := ⟨ofInt 0⟩

instance : One (Binary F) := ⟨ofInt 1⟩

/-- A number in the nearest one of another format. -/
def convert : Binary F → Binary G
  | .finite u _ => ofQuotient (u * Nat.pow 2 G.scale) (Nat.pow 2 F.scale)
  | .infinite s => .infinite s
  | .nan => .nan

/-! ## Classes and comparison -/

/-- Neither infinite nor missing. -/
def isFinite : Binary F → Bool
  | .finite _ _ => true
  | _ => false

/-- Finite and large enough to have a significand of full precision. -/
def isNormal : Binary F → Bool
  | .finite u _ => Nat.pow 2 (F.precision - 1) ≤ u.natAbs
  | _ => false

/-- Strictly smaller; nothing is smaller or larger than a missing number. -/
def less : Binary F → Binary F → Bool
  | .finite a _, .finite b _ => a < b
  | .infinite s, .finite _ _ => s
  | .finite _ _, .infinite s => !s
  | .infinite s, .infinite t => s && !t
  | _, _ => false

/-- Equal in value; a missing number agrees with nothing. -/
def agrees : Binary F → Binary F → Bool
  | .finite a _, .finite b _ => a == b
  | .infinite s, .infinite t => s == t
  | _, _ => false

/-- Smaller or equal in value. -/
def atMost (a b : Binary F) : Bool := a.less b || a.agrees b

instance : LT (Binary F) := ⟨fun a b => a.less b⟩

instance : LE (Binary F) := ⟨fun a b => a.atMost b⟩

instance (a b : Binary F) : Decidable (a < b) := inferInstanceAs (Decidable (a.less b = true))

instance (a b : Binary F) : Decidable (a ≤ b) := inferInstanceAs (Decidable (a.atMost b = true))

/-- The larger number; a missing one gives way to the other. -/
def larger (a b : Binary F) : Binary F :=
  if a = .nan then b else if b = .nan then a else if a < b then b else a

/-- The smaller number; a missing one gives way to the other. -/
def smaller (a b : Binary F) : Binary F :=
  if a = .nan then b else if b = .nan then a else if b < a then b else a

/-- The number moved into the interval from `low` to `high`. -/
def clamp (a low high : Binary F) : Binary F :=
  if a < low then low else if high < a then high else a

/-! ## Arithmetic -/

/-- The opposite number. -/
protected def neg : Binary F → Binary F
  | .finite u h => .finite (-u) (by simpa using h)
  | .infinite s => .infinite (!s)
  | .nan => .nan

/-- The distance from zero. -/
def abs : Binary F → Binary F
  | .finite u h => .finite u.natAbs ((Int.natAbs_natCast u.natAbs).symm ▸ h)
  | .infinite _ => .infinite false
  | .nan => .nan

/-- The rounded sum. -/
protected def add : Binary F → Binary F → Binary F
  | .finite a _, .finite b _ => ofQuotient (a + b) 1
  | .infinite s, .finite _ _ => .infinite s
  | .finite _ _, .infinite s => .infinite s
  | .infinite s, .infinite t => if s = t then .infinite s else .nan
  | _, _ => .nan

/-- The rounded product. -/
protected def mul : Binary F → Binary F → Binary F
  | .finite a _, .finite b _ => ofQuotient (a * b) (Nat.pow 2 F.scale)
  | .infinite s, .finite b _ => if b = 0 then .nan else .infinite (s != decide (b < 0))
  | .finite a _, .infinite t => if a = 0 then .nan else .infinite (t != decide (a < 0))
  | .infinite s, .infinite t => .infinite (s != t)
  | _, _ => .nan

/-- The rounded quotient. -/
protected def div : Binary F → Binary F → Binary F
  | .finite a _, .finite b _ =>
    if b = 0 then if a = 0 then .nan else .infinite (a < 0)
    else ofRatio (a * b.sign) b.natAbs
  | .infinite s, .finite b _ => .infinite (s != decide (b < 0))
  | .finite _ _, .infinite _ => 0
  | _, _ => .nan

instance : Neg (Binary F) := ⟨Binary.neg⟩

instance : Add (Binary F) := ⟨Binary.add⟩

instance : Sub (Binary F) := ⟨fun a b => a + -b⟩

instance : Mul (Binary F) := ⟨Binary.mul⟩

instance : Div (Binary F) := ⟨Binary.div⟩

theorem add_comm (a b : Binary F) : a + b = b + a := by
  show Binary.add a b = Binary.add b a
  cases a <;> cases b <;> simp [Binary.add, Int.add_comm]
  rename_i s t
  by_cases h : s = t <;> simp [h, eq_comm]

/-! ## Whole numbers -/

/-- No digits behind the point. -/
def isWhole : Binary F → Bool
  | .finite u _ => u.natAbs % Nat.pow 2 F.scale == 0
  | _ => false

/-- The nearest whole number; a half goes away from zero. -/
def round : Binary F → Binary F
  | .finite u _ =>
    let one := Nat.pow 2 F.scale
    ofInt (u.sign * ((u.natAbs * 2 + one) / (2 * one) : Nat))
  | x => x

/-- The digits behind the point, with the sign of the number. -/
def fract : Binary F → Binary F
  | .finite u _ => ofQuotient (Int.tmod u (Nat.pow 2 F.scale)) 1
  | _ => .nan

/-- The whole part, kept inside `low` and `high`; a missing number gives zero. -/
def truncate (low high : Int) : Binary F → Int
  | .finite u _ => max low (min high (Int.tdiv u (Nat.pow 2 F.scale)))
  | .infinite s => if s then low else high
  | .nan => 0

theorem units_ofQuotient (n : Int) (d : Nat) :
    (ofQuotient n d : Binary F).isFinite = true ↔ F.nearest n.natAbs d < Nat.pow 2 F.reach := by
  unfold ofQuotient
  split
  · rename_i h
    split <;> exact iff_of_true rfl h
  · rename_i h
    exact iff_of_false (by simp [isFinite]) h

end Binary

end AnchoredUi.Number
