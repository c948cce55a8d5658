import AnchoredUi.Plane.Spacing
import AnchoredUi.Style.ColorSyntax
import AnchoredUi.Style.Keyword
import AnchoredUi.Style.Scalar
import AnchoredUi.Style.Token

/-!
# Reading style values

Values are texts until a property is applied. The readers below turn them into lengths, numbers,
colors and keywords; the flag `!important` is read and ignored.
-/

namespace AnchoredUi.Style

open Number Plane Text

/-- Why a value is rejected. -/
inductive ValueFault where
  | lexical (fault : LexFault)
  | notFinite (text : String)
  | unsupportedUnit (unit : String)
  | notALength (text : String)
  | empty
  | severalValues (text : String)
  | sideCount (count : Nat)
  | notANumber (text : String)
  | badColor (fault : ColorFault)
  | unknownWeight (word : String)
  | unknownAlignment (word : String)
  | unknownKeyword (word : String)
  | negativeSize
  | negativeFactor
  | badFontSize
  deriving DecidableEq

/-- What is reported about a rejected value. -/
def ValueFault.message : ValueFault → String
  | lexical f => f.message
  | notFinite text => "not a finite number: " ++ quoted text
  | unsupportedUnit unit => "unsupported unit: " ++ unit
  | notALength text => "expected number, length or 'auto', got " ++ quoted text
  | empty => "empty value"
  | severalValues text => "expected one value, got " ++ quoted text
  | sideCount n => "expected 1-4 values, got " ++ toString n
  | notANumber text => "expected a number, got " ++ quoted text
  | badColor f => f.message
  | unknownWeight word => "unknown weight " ++ quoted word
  | unknownAlignment word => "unknown alignment " ++ quoted word
  | unknownKeyword word => "unknown keyword " ++ quoted word
  | negativeSize => "negative size"
  | negativeFactor => "must not be negative"
  | badFontSize => "font size must be a positive length"

/-- The tokens of a value that matter. -/
def valueTokens (text : String) : Except ValueFault (List Token) :=
  match tokens text.toList with
  | .ok ts => .ok (ts.filter fun t => t.kind != .important)
  | .error f => .error (.lexical f)

/-! ## Numbers and lengths -/

/-- A finite number. -/
def readFinite (text : List Char) : Except ValueFault Single :=
  match Numeral.read? text with
  | some n =>
    let x : Single := n.toBinary
    if x.isFinite then .ok x else .error (.notFinite (String.ofList text))
  | none => .error (.notFinite (String.ofList text))

/-- A character with which a unit starts. -/
def isUnitStart (c : Char) : Bool := c.isAlpha || c == '%'

/-- The length that a token writes. -/
def tokenScalar (t : Token) : Except ValueFault Scalar :=
  match t.kind with
  | .number => (readFinite t.text).map Scalar.px
  | .dimension =>
    match readFinite (t.text.takeWhile fun c => !isUnitStart c) with
    | .error f => .error f
    | .ok value =>
      let suffix := t.text.dropWhile fun c => !isUnitStart c
      match LengthUnit.named? suffix with
      | some unit => .ok ⟨value, unit⟩
      | none => .error (.unsupportedUnit (String.ofList suffix))
  | .name =>
    if sameLetters t.text "auto".toList then .ok Scalar.auto
    else .error (.notALength (String.ofList t.text))
  | _ => .error (.notALength (String.ofList t.text))

/-- One length. -/
def readScalar (text : String) : Except ValueFault Scalar :=
  match valueTokens text with
  | .error f => .error f
  | .ok [t] => tokenScalar t
  | .ok [] => .error .empty
  | .ok _ => .error (.severalValues text)

/-- One to four lengths for the sides of a box, in the usual shorthand. -/
def boxOf : List Scalar → Except ValueFault (Spacing Scalar)
  | [a] => .ok (.all a)
  | [v, h] => .ok (.symmetric v h)
  | [t, h, b] => .ok ⟨t, h, b, h⟩
  | [t, r, b, l] => .ok ⟨t, r, b, l⟩
  | ss => .error (.sideCount ss.length)

/-- The lengths for the sides of a box. -/
def readBox (text : String) : Except ValueFault (Spacing Scalar) :=
  match valueTokens text with
  | .error f => .error f
  | .ok ts =>
    match ts.mapM tokenScalar with
    | .error f => .error f
    | .ok ss => boxOf ss

/-- A plain number; a percentage is a number of hundredths. -/
def readNumber (text : String) : Except ValueFault Single :=
  match valueTokens text with
  | .error f => .error f
  | .ok [t] =>
    match t.kind with
    | .number => readFinite t.text
    | .dimension =>
      if t.text.getLast? = some '%' then
        (readFinite (trimEndBy (· == '%') t.text)).map (· / 100)
      else .error (.notANumber text)
    | _ => .error (.notANumber text)
  | .ok _ => .error (.notANumber text)

/-! ## Colors and words -/

/-- The text without the given ending, as often as it occurs. -/
def dropBackAll (back : List Char) (cs : List Char) : List Char :=
  match h : dropBack? back cs with
  | some rest =>
    if hb : back = [] then cs
    else
      have : rest.length < cs.length := by
        simp only [dropBack?, Option.ite_none_right_eq_some, Option.some.injEq] at h
        have h1 := (List.isSuffixOf_iff_suffix.mp h.1).length_le
        have h2 := List.length_pos_iff.mpr hb
        rw [← h.2, List.length_take]
        omega
      dropBackAll back rest
  | none => cs
termination_by cs.length

/-- A color, with or without the flag behind it. -/
def readColor (text : String) : Except ValueFault Color :=
  let bare := trim (dropBackAll "!important".toList (trim text.toList))
  match parseColor bare with
  | .ok c => .ok c
  | .error f => .error (.badColor f)

/-- A whole number without a sign, or with a plus, below a limit. -/
def readNat? (limit : Nat) (cs : List Char) : Option Nat :=
  let ds := if cs.head? = some '+' then cs.tail else cs
  if ds ≠ [] ∧ ds.all Char.isDigit then
    let n := Numeral.digitsFrom 0 ds
    if n < limit then some n else none
  else none

/-- The words for the weight of letters. -/
def weightWords : List (String × Bool) :=
  [("bold", true), ("bolder", true), ("normal", false), ("lighter", false)]

/-- Whether letters are heavy: by a word, or by a number from 600 on. -/
def readWeight (text : String) : Except ValueFault Bool :=
  let word := keywordForm text
  match lookWord weightWords word with
  | some b => .ok b
  | none =>
    match readNat? 0x100000000 word.toList with
    | some n => .ok (600 ≤ n)
    | none => .error (.unknownWeight word)

/-- The place of a text. -/
def readTextAlign (text : String) : Except ValueFault TextAnchor :=
  let word := keywordForm text
  match lookWord textAlignWords word with
  | some a => .ok a
  | none => .error (.unknownAlignment word)

/-- A word of a table. -/
def readKeyword {α : Type} (table : List (String × α)) (text : String) : Except ValueFault α :=
  let word := keywordForm text
  match lookWord table word with
  | some a => .ok a
  | none => .error (.unknownKeyword word)

/-! ## Rejected declarations -/

/-- Why a declaration is rejected. -/
inductive StyleFault where
  | unknownProperty (name : String)
  | invalidValue (property : String) (fault : ValueFault)
  deriving DecidableEq

/-- What is reported about a rejected declaration. -/
def StyleFault.message : StyleFault → String
  | unknownProperty name => "unknown property: " ++ trimmed name
  | invalidValue property fault => "invalid value for " ++ property ++ ": " ++ fault.message

end AnchoredUi.Style
