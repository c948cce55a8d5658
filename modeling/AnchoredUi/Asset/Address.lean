import AnchoredUi.Text.Case
import AnchoredUi.Text.Split
import AnchoredUi.Text.Trim

/-!
# Addresses of assets

Assets are addressed by paths with slashes. A style sheet may wrap an address in `url(..)` and in
quotes, and may escape its bytes.

* `length_unwrap_le`: taking off a wrapper makes no address longer.
-/

namespace AnchoredUi.Asset

open Text

/-! ## Parts of a path -/

/-- What stands behind the last place of a character, or everything. -/
def behindLast (d : Char) (cs : List Char) : List Char :=
  match cutAtLast d cs with
  | some (_, back) => back
  | none => cs

/-- What stands before the last place of a character, or everything. -/
def beforeLast (d : Char) (cs : List Char) : List Char :=
  match cutAtLast d cs with
  | some (front, _) => front
  | none => cs

/-- The ending of a path, in small letters. -/
def ending (path : List Char) : List Char :=
  match cutAtLast '.' path with
  | some (_, back) => lower back
  | none => []

/-- The path with slashes in place of backslashes. -/
def forward (path : List Char) : List Char := path.map fun c => if c = '\\' then '/' else c

/-- The name of a sprite: that of its file without the ending. -/
def spriteName (path : String) : String :=
  let file := behindLast '/' (forward path.toList)
  match cutAtLast '.' file with
  | some (stem, _) => if stem = [] then String.ofList file else String.ofList stem
  | none => String.ofList file

/-! ## Wrappers -/

/-- The text between a beginning and an ending. -/
def between? (front back cs : List Char) : Option (List Char) :=
  (dropFront? front cs).bind (dropBack? back)

/-- The trimmed text inside a wrapper; a text without the wrapper stays. -/
def unwrap (front back cs : List Char) : List Char :=
  match between? front back cs with
  | some inside => trim inside
  | none => cs

/-- The text inside `url(..)`, in small or in capital letters. -/
def unwrapUrl (cs : List Char) : List Char :=
  match dropFront? "url(".toList cs with
  | some _ => unwrap "url(".toList [')'] cs
  | none => unwrap "URL(".toList [')'] cs

/-- The address without outer blanks, `url(..)`, double quotes and single quotes, taken off in
this order and once each. -/
def normalChars (raw : List Char) : List Char :=
  unwrap ['\''] ['\''] (unwrap ['"'] ['"'] (unwrapUrl (trim raw)))

/-- The address that a raw text writes. -/
def normalPath (raw : String) : String := String.ofList (normalChars raw.toList)

theorem length_trim_le (cs : List Char) : (trim cs).length ≤ cs.length := by
  unfold trim trimBy trimEndBy
  rw [List.length_reverse]
  refine Nat.le_trans (List.dropWhile_suffix _).length_le ?_
  rw [List.length_reverse]
  exact (List.dropWhile_suffix _).length_le

theorem length_unwrap_le (front back cs : List Char) :
    (unwrap front back cs).length ≤ cs.length := by
  unfold unwrap
  split
  · rename_i inside h
    refine Nat.le_trans (length_trim_le inside) ?_
    obtain ⟨a, ha, hb⟩ := Option.bind_eq_some_iff.mp h
    simp only [dropFront?, dropBack?, Option.ite_none_right_eq_some, Option.some.injEq] at ha hb
    rw [← hb.2, ← ha.2, List.length_take, List.length_drop]
    omega
  · exact Nat.le_refl _

/-! ## Escaped bytes -/

/-- The value of a digit to the base sixteen. -/
def hexValue? (b : UInt8) : Option UInt8 :=
  if 48 ≤ b && b ≤ 57 then some (b - 48)
  else if 65 ≤ b && b ≤ 70 then some (b - 55)
  else if 97 ≤ b && b ≤ 102 then some (b - 87)
  else none

/-- Bytes with each percent sign and its two digits replaced by the byte that they write; other
percent signs stay. -/
def unescaped : List UInt8 → List UInt8
  | [] => []
  | 37 :: a :: b :: rest =>
    match hexValue? a, hexValue? b with
    | some x, some y => (16 * x + y) :: unescaped rest
    | _, _ => 37 :: unescaped (a :: b :: rest)
  | b :: rest => b :: unescaped rest

/-- The text with its escaped bytes written out; a text that would become ill-formed stays. -/
def percentDecoded (s : String) : String :=
  match String.fromUTF8? ⟨(unescaped s.toUTF8.toList).toArray⟩ with
  | some t => t
  | none => s

end AnchoredUi.Asset
