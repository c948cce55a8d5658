import AnchoredUi.Asset.Png.Chunk

/-!
# The stream of image data

Image data is a stream: two bytes of header, blocks up to one that is marked as the last, and a
checksum of four bytes, which is not looked at. Read are streams of plain blocks, each with its
length, the same length with all bits turned, and its bytes.

* `length_storedFrom?`: contents and rest are no longer than the stream.
-/

namespace AnchoredUi.Asset.Png

/-- The contents of plain blocks up to the last one, and what follows it. -/
def storedFrom? (bs : List UInt8) : Option (List UInt8 × List UInt8) :=
  match bs with
  | mark :: l0 :: l1 :: n0 :: n1 :: rest =>
    let length := littleEndian [l0, l1]
    if mark &&& 6 ≠ 0 ∨ l0 ^^^ n0 ≠ 255 ∨ l1 ^^^ n1 ≠ 255 ∨ rest.length < length then none
    else if mark &&& 1 = 1 then some (rest.take length, rest.drop length)
    else (storedFrom? (rest.drop length)).map fun r => (rest.take length ++ r.1, r.2)
  | _ => none
termination_by bs.length
decreasing_by simp only [List.length_drop, List.length_cons]; omega

theorem length_storedFrom? {bs : List UInt8} {r : List UInt8 × List UInt8}
    (h : storedFrom? bs = some r) : r.1.length + r.2.length ≤ bs.length := by
  fun_induction storedFrom? bs generalizing r with
  | case1 => cases h
  | case2 =>
    obtain rfl := Option.some.inj h
    simp only [List.length_take, List.length_drop, List.length_cons]
    omega
  | case3 =>
    rename_i ih
    obtain ⟨s, hs, rfl⟩ := Option.map_eq_some_iff.mp h
    have := ih hs
    simp only [List.length_append, List.length_take, List.length_cons, List.length_drop] at this ⊢
    omega
  | case4 => cases h

/-- The header names the only method there is, with a window that readers must provide and no
dictionary, and is a multiple of 31. -/
def isStreamHeader (a b : UInt8) : Bool :=
  a &&& 15 == 8 && a < 128 && (a.toNat * 256 + b.toNat) % 31 == 0 && b &&& 32 == 0

/-- The contents of a stream. -/
def streamContents? (bs : List UInt8) : Option (List UInt8) :=
  match bs with
  | a :: b :: rest =>
    if isStreamHeader a b then
      match storedFrom? rest with
      | some (contents, rest) => if rest.length < 4 then none else some contents
      | none => none
    else none
  | _ => none

end AnchoredUi.Asset.Png
