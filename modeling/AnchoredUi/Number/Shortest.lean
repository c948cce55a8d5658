import AnchoredUi.Number.Numeral

/-!
# The shortest decimal

A finite number is written with the fewest decimal digits that read back as the same number,
and among those with the nearest to its value, always in positional notation.

* `readsBack_shortest`: the decimal chosen for a positive number reads back as that number.
-/

namespace AnchoredUi.Number

/-- The decimal `digits · 10 ^ place`. -/
structure Decimal where
  digits : Nat
  place : Int
  deriving DecidableEq, Repr

namespace Decimal

/-- The number nearest to a decimal. -/
def toBinary {F : Format} (d : Decimal) : Binary F :=
  .ofRatio (d.digits * Nat.pow 10 d.place.toNat : Nat) (Nat.pow 10 (-d.place).toNat)

/-- A decimal reads back as the number of `units` units. -/
def ReadsBack (F : Format) (units : Nat) (d : Decimal) : Prop :=
  F.nearest (d.digits * Nat.pow 10 d.place.toNat * Nat.pow 2 F.scale)
    (Nat.pow 10 (-d.place).toNat) = units

instance (F : Format) (units : Nat) (d : Decimal) : Decidable (ReadsBack F units d) :=
  inferInstanceAs (Decidable (_ = _))

/-- The largest decimal of the place that does not exceed `units` units, and the part of the
place by which it falls short, as a fraction. -/
def below (F : Format) (units : Nat) (place : Int) : Nat × Nat × Nat :=
  let n := units * Nat.pow 10 (-place).toNat
  let d := Nat.pow 2 F.scale * Nat.pow 10 place.toNat
  (n / d, n % d, d)

/-- Of the two decimals of a place around a number, the nearer one that reads back; of two
equally near ones the even one. -/
def atPlace? (F : Format) (units : Nat) (place : Int) : Option Decimal :=
  let (q, r, d) := below F units place
  let low : Decimal := ⟨q, place⟩
  let high : Decimal := ⟨q + 1, place⟩
  let lowFirst := 2 * r < d ∨ (2 * r = d ∧ q % 2 = 0)
  (if lowFirst then [low, high] else [high, low]).find? fun d => ReadsBack F units d

/-- The whole value of a number of `units` units, which has `scale` binary digits behind the
point and hence as many decimal ones. -/
def exact (F : Format) (units : Nat) : Decimal := ⟨units * Nat.pow 5 F.scale, -(F.scale : Int)⟩

/-- Tries `tries` places, from `place` downward. -/
def search (F : Format) (units : Nat) : (tries : Nat) → (place : Int) → Decimal
  | 0, _ => exact F units
  | tries + 1, place =>
    match atPlace? F units place with
    | some d => d
    | none => search F units tries (place - 1)

/-- A place coarser than any at which a number of this size can read back. -/
def topPlace (F : Format) (units : Nat) : Int :=
  ((units.log2 + 1 : Int) - F.scale) * 30103 / 100000 + 1

/-- The shortest decimal that reads back as `units` units. -/
def shortest (F : Format) (units : Nat) : Decimal :=
  search F units F.precision (topPlace F units)

/-! ## Reading back -/

theorem readsBack_atPlace {F : Format} {units : Nat} {place : Int} {d : Decimal}
    (h : atPlace? F units place = some d) : ReadsBack F units d := by
  simpa using List.find?_some h

theorem divNearest_mul {n d : Nat} (hd : 0 < d) : Format.divNearest (n * d) d = n := by
  have hq : n * d / d = n := Nat.mul_div_cancel n hd
  have hr : n * d % d = 0 := Nat.mul_mod_left n d
  simp [Format.divNearest, hq, hr, hd]

/-- A held count is nearest to itself. -/
theorem nearest_self {F : Format} {u d : Nat} (h : F.Holds u) (hd : 0 < d) :
    F.nearest (u * d) d = u := by
  obtain ⟨k, hk⟩ := h.2
  have hq : u * d / d = u := Nat.mul_div_cancel u hd
  have hs : F.slack (u * d) d = u.log2 + 1 - F.precision := by simp [Format.slack, hq]
  unfold Format.nearest
  rw [hs]
  simp only [Nat.pow_eq] at hk ⊢
  have hpos : 0 < d * 2 ^ (u.log2 + 1 - F.precision) := Nat.mul_pos hd (Nat.two_pow_pos _)
  have hu : u * d = k * (d * 2 ^ (u.log2 + 1 - F.precision)) := by
    conv => lhs; rw [hk]
    rw [Nat.mul_comm, Nat.mul_comm (2 ^ _) k, ← Nat.mul_assoc, Nat.mul_comm d k, Nat.mul_assoc]
  rw [hu, divNearest_mul hpos, Nat.mul_comm k]
  exact hk.symm

theorem readsBack_exact {F : Format} {u : Nat} (h : F.Holds u) :
    ReadsBack F u (exact F u) := by
  unfold ReadsBack exact
  have h1 : (-(F.scale : Int)).toNat = 0 := by omega
  have h2 : (- -(F.scale : Int)).toNat = F.scale := by omega
  simp only [h1, h2, Nat.pow_eq, Nat.pow_zero, Nat.mul_one]
  have h3 : u * 5 ^ F.scale * 2 ^ F.scale = u * 10 ^ F.scale := by
    rw [Nat.mul_assoc, ← Nat.mul_pow]
  rw [h3]
  exact nearest_self h (Nat.pow_pos (by decide))

theorem readsBack_search {F : Format} {u : Nat} (h : F.Holds u) (tries : Nat) (place : Int) :
    ReadsBack F u (search F u tries place) := by
  induction tries generalizing place with
  | zero => exact readsBack_exact h
  | succ tries ih =>
    unfold search
    split
    · rename_i d hd
      exact readsBack_atPlace hd
    · exact ih _

theorem readsBack_shortest {F : Format} {u : Nat} (h : F.Holds u) :
    ReadsBack F u (shortest F u) :=
  readsBack_search h _ _

/-! ## Notation -/

/-- Zeros in front, up to a width. -/
def padded (width : Nat) (cs : List Char) : List Char :=
  List.replicate (width - cs.length) '0' ++ cs

/-- Positional notation: no power of ten, and a point only if digits follow it. -/
def positional (d : Decimal) : List Char :=
  let cs := Nat.toDigits 10 d.digits
  if 0 ≤ d.place then cs ++ List.replicate d.place.toNat '0'
  else
    let behind := (-d.place).toNat
    let all := padded (behind + 1) cs
    all.take (all.length - behind) ++ '.' :: all.drop (all.length - behind)

end Decimal

namespace Binary

variable {F : Format}

/-- The shortest positional notation; a zero has no sign. -/
def toChars : Binary F → List Char
  | .finite u _ =>
    if u = 0 then ['0']
    else
      let digits := (Decimal.shortest F u.natAbs).positional
      if u < 0 then '-' :: digits else digits
  | .infinite s => if s then "-inf".toList else "inf".toList
  | .nan => "NaN".toList

/-- The shortest positional notation as text. -/
def toText (x : Binary F) : String := String.ofList x.toChars

instance : ToString (Binary F) := ⟨toText⟩

end Binary

end AnchoredUi.Number
