/-!
# Rows

Each row of a picture names a predictor and holds the differences from what it predicts.

* `length_restoreRow`: restoring a row keeps its length.
-/

namespace AnchoredUi.Asset.Png

/-- How a byte is predicted from its neighbors. -/
inductive Predictor where
  | nothing
  | left
  | above
  | mean
  | nearest
  deriving DecidableEq, Repr

namespace Predictor

/-- The predictor that a row names. -/
def ofByte? (b : UInt8) : Option Predictor :=
  [nothing, left, above, mean, nearest][b.toNat]?

/-- The predicted byte; `nearest` takes the neighbor nearest to `left + above - corner`. -/
def predict (p : Predictor) (left above corner : UInt8) : UInt8 :=
  match p with
  | nothing => 0
  | .left => left
  | .above => above
  | mean => UInt8.ofNat ((left.toNat + above.toNat) / 2)
  | nearest =>
    let target : Int := left.toNat + above.toNat - corner.toNat
    let far (b : UInt8) : Nat := (target - b.toNat).natAbs
    if far left ≤ far above ∧ far left ≤ far corner then left
    else if far above ≤ far corner then above
    else corner

end Predictor

/-- The bytes of a row from the differences, the row above, and the bytes of one pixel to the left
in this row and in the row above. -/
def restoreFrom (p : Predictor) : (lefts corners above row : List UInt8) → List UInt8
  | lefts, corners, above, x :: row =>
    let up := above.headD 0
    let value := x + p.predict (lefts.headD 0) up (corners.headD 0)
    value :: restoreFrom p (lefts.tail ++ [value]) (corners.tail ++ [up]) above.tail row
  | _, _, _, [] => []

/-- A row restored; `stride` is the number of bytes of a pixel. -/
def restoreRow (p : Predictor) (stride : Nat) (above row : List UInt8) : List UInt8 :=
  restoreFrom p (List.replicate stride 0) (List.replicate stride 0) above row

/-- The given number of rows, each behind the byte that names its predictor, and what follows
them. -/
def rows? (stride length : Nat) : (count : Nat) → (above bs : List UInt8) →
    Option (List (List UInt8) × List UInt8)
  | 0, _, bs => some ([], bs)
  | count + 1, above, bs =>
    match bs with
    | [] => none
    | b :: rest =>
      if rest.length < length then none
      else
        match Predictor.ofByte? b with
        | none => none
        | some p =>
          let row := restoreRow p stride above (rest.take length)
          (rows? stride length count row (rest.drop length)).map fun r => (row :: r.1, r.2)

theorem length_restoreFrom (p : Predictor) (lefts corners above row : List UInt8) :
    (restoreFrom p lefts corners above row).length = row.length := by
  induction row generalizing lefts corners above with
  | nil => simp [restoreFrom]
  | cons x row ih => simp [restoreFrom, ih]

theorem length_restoreRow (p : Predictor) (stride : Nat) (above row : List UInt8) :
    (restoreRow p stride above row).length = row.length :=
  length_restoreFrom p _ _ above row

end AnchoredUi.Asset.Png
