import AnchoredUi.Plane.Color
import AnchoredUi.Number.Numeral
import AnchoredUi.Style.ColorNames
import AnchoredUi.Text.Case
import AnchoredUi.Text.Split
import AnchoredUi.Text.Trim

/-!
# The text forms of colors

A color is a name, digits to the base sixteen with or without a hash sign, or a function of its
red, green and blue part, or of its hue with saturation and lightness, saturation and value, or
whiteness and blackness. Parts are computed in double precision and rounded at the end.
-/

namespace AnchoredUi.Style

open Number Plane Text

/-- Why a text is no color. -/
inductive ColorFault where
  | hex
  | rgb
  | hsl
  | hwb
  | hsv
  | function
  | unknown
  deriving DecidableEq, Repr

/-- What is reported about a text that is no color. -/
def ColorFault.message : ColorFault → String
  | hex => "invalid hex format"
  | rgb => "invalid rgb format"
  | hsl => "invalid hsl format"
  | hwb => "invalid hwb format"
  | hsv => "invalid hsv format"
  | function => "invalid color function"
  | unknown => "invalid unknown format"

/-- The parts of a color in double precision. -/
structure ColorParts where
  red : Double
  green : Double
  blue : Double
  alpha : Double
  deriving DecidableEq

namespace ColorParts

/-- The color with its parts rounded. -/
def toColor (c : ColorParts) : Color :=
  ⟨c.red.convert, c.green.convert, c.blue.convert, c.alpha.convert⟩

/-- The color with parts out of 255. -/
def ofBytes (r g b a : Nat) : ColorParts :=
  let part (n : Nat) : Double := .ofRatio n 255
  ⟨part r, part g, part b, part a⟩

end ColorParts

/-- Moved into the interval from 0 to 1. -/
def unitClamp (x : Double) : Double := x.clamp 0 1

/-! ## Digits to the base sixteen -/

/-- The value of a digit to the base sixteen. -/
def hexValue? (c : Char) : Option Nat :=
  if c.isDigit then some (c.toNat - '0'.toNat)
  else if 'a' ≤ c ∧ c ≤ 'f' then some (c.toNat - 'a'.toNat + 10)
  else if 'A' ≤ c ∧ c ≤ 'F' then some (c.toNat - 'A'.toNat + 10)
  else none

/-- Two digits, or a plus sign and one digit. -/
def hexPair? (a b : Char) : Option Nat :=
  if a = '+' then hexValue? b
  else
    match hexValue? a, hexValue? b with
    | some x, some y => some (16 * x + y)
    | _, _ => none

/-- One digit that stands for both digits of a part. -/
def hexDouble? (c : Char) : Option Nat := (hexValue? c).map (17 * ·)

/-- Three or four single digits, or as many pairs. -/
def parseHex (cs : List Char) : Option ColorParts :=
  match cs with
  | [r, g, b] => do
    return .ofBytes (← hexDouble? r) (← hexDouble? g) (← hexDouble? b) 255
  | [r, g, b, a] => do
    return .ofBytes (← hexDouble? r) (← hexDouble? g) (← hexDouble? b) (← hexDouble? a)
  | [r, r', g, g', b, b'] => do
    return .ofBytes (← hexPair? r r') (← hexPair? g g') (← hexPair? b b') 255
  | [r, r', g, g', b, b', a, a'] => do
    return .ofBytes (← hexPair? r r') (← hexPair? g g') (← hexPair? b b') (← hexPair? a a')
  | _ => none

/-! ## Parts of functions -/

/-- Whether a part was written as a percentage. -/
structure Part where
  value : Double
  percent : Bool

/-- A number in double precision. -/
def readDouble? (cs : List Char) : Option Double := (Numeral.read? cs).map Numeral.toBinary

/-- A percentage, or a plain number out of `full`. -/
def partOf? (full : Double) (cs : List Char) : Option Part :=
  let plain := (readDouble? cs).map fun x => Part.mk (x / full) false
  match dropBack? ['%'] cs with
  | none => plain
  | some front =>
    match readDouble? front with
    | some x => some ⟨x / 100, true⟩
    | none => plain

/-- The degrees of a radian. -/
def degreesPerRadian : Double := 57.29577951308232

/-- The units of an angle and what they come to in degrees. -/
def angleUnits : List (String × (Double → Double)) :=
  [("deg", fun t => t), ("grad", fun t => t * 360 / 400), ("rad", fun t => t * degreesPerRadian),
    ("turn", fun t => t * 360)]

/-- An angle in degrees; its unit may be written in any case. -/
def angle? (text : List Char) : Option Double :=
  let cs := lower text
  let withUnit := angleUnits.findSome? fun u =>
    (dropBack? u.1.toList cs).bind fun front => (readDouble? front).map u.2
  match withUnit with
  | some t => some t
  | none => readDouble? cs

/-- What is left of a number after taking away multiples of another one. -/
def remainder (a b : Double) : Double :=
  match a, b with
  | .finite x _, .finite y _ => if y = 0 then .nan else .ofQuotient (Int.tmod x y) 1
  | .finite _ _, .infinite _ => a
  | _, _ => .nan

/-- An angle between 0 and 360 degrees. -/
def normalAngle (t : Double) : Double :=
  let t := remainder t 360
  if t < 0 then t + 360 else t

/-! ## Hues -/

/-- The part of a color at a place of the color circle, which is six units long. -/
def hueToPart (low high h : Double) : Double :=
  let h := remainder (remainder h 6 + 6) 6
  if h < 1 then low + (high - low) * h
  else if h < 3 then high
  else if h < 4 then low + (high - low) * (4 - h)
  else low

/-- The parts of a color with a hue in degrees, a saturation and a lightness. -/
def ofHsl (h s l : Double) : Double × Double × Double :=
  if s.agrees 0 then (l, l, l)
  else
    let high := if l < 0.5 then l * (1 + s) else l + s - l * s
    let low := 2 * l - high
    let h := h / 60
    (hueToPart low high (h + 2), hueToPart low high h, hueToPart low high (h - 2))

/-- The parts of a color with a hue, a whiteness and a blackness. -/
def ofHwb (h white black : Double) : Double × Double × Double :=
  if (1 : Double) ≤ white + black then
    let l := white / (white + black)
    (l, l, l)
  else
    let (r, g, b) := ofHsl h 1 0.5
    let mix (x : Double) : Double := x * (1 - white - black) + white
    (mix r, mix g, mix b)

/-- The parts of a color with a hue, a saturation and a value. -/
def ofHsv (h s v : Double) : Double × Double × Double :=
  let l := (2 - s) * v / 2
  let s' :=
    if l.agrees 0 then s
    else if l.agrees 1 then 0
    else if l < 0.5 then s * v / (l * 2)
    else s * v / (2 - l * 2)
  ofHsl h s' l

/-! ## Functions -/

/-- A color whose red, green and blue part are moved into their interval, with its opacity as it
is. -/
def clampedParts (parts : Double × Double × Double) (alpha : Double) : ColorParts :=
  ⟨unitClamp parts.1, unitClamp parts.2.1, unitClamp parts.2.2, alpha⟩

/-- A color from its parts, each moved into its interval. -/
def clamped (parts : Double × Double × Double) (alpha : Double) : ColorParts :=
  clampedParts parts (unitClamp alpha)

/-- The opacity, which may be left out. -/
def alpha? : List (List Char) → Option Double
  | [] => some 1
  | [a] => (partOf? 1 a).map Part.value
  | _ => none

/-- A color from three or four texts for red, green, blue and opacity. -/
def rgbOf? : List (List Char) → Option ColorParts
  | r :: g :: b :: rest => do
    let r ← partOf? 255 r
    let g ← partOf? 255 g
    let b ← partOf? 255 b
    let a ← alpha? rest
    if r.percent = g.percent ∧ g.percent = b.percent then
      some (clamped (r.value, g.value, b.value) a)
    else none
  | _ => none

/-- A color from a hue, two parts and an opacity. -/
def hueOf? (finish : Double × Double × Double → Double → ColorParts)
    (build : Double → Double → Double → Double × Double × Double) :
    List (List Char) → Option ColorParts
  | h :: x :: y :: rest => do
    let h ← angle? h
    let x ← partOf? 1 x
    let y ← partOf? 1 y
    let a ← alpha? rest
    if x.percent = y.percent then
      some (finish (build (normalAngle h) (unitClamp x.value) (unitClamp y.value)) a)
    else none
  | _ => none

/-- A separator of the parts of a function. -/
def isPartSeparator (c : Char) : Bool := c == ',' || c == '/' || isBlank c

/-- A color function with its parts. The opacity beside a whiteness and a blackness may lie outside
its interval. -/
def colorFunction (name : List Char) (body : List Char) : Except ColorFault ColorParts :=
  let parts := runsOutside isPartSeparator body
  let name := String.ofList (lower name)
  let result (fault : ColorFault) : Option ColorParts → Except ColorFault ColorParts
    | some c => .ok c
    | none => .error fault
  if name = "rgb" ∨ name = "rgba" then result .rgb (rgbOf? parts)
  else if name = "hsl" ∨ name = "hsla" then result .hsl (hueOf? clamped ofHsl parts)
  else if name = "hwb" ∨ name = "hwba" then result .hwb (hueOf? clampedParts ofHwb parts)
  else if name = "hsv" ∨ name = "hsva" then result .hsv (hueOf? clamped ofHsv parts)
  else .error .function

/-- The function call that a text is: what stands before the first opening bracket, and what
stands between it and the closing bracket at the end. -/
def call? (cs : List Char) : Option (List Char × List Char) :=
  match dropBack? [')'] cs with
  | some front => cutAt '(' front
  | none => none

/-- A letter in small form; the sign for a unit of temperature counts as the letter it shows. -/
def smallLetter (c : Char) : Char := if c = '\u212A' then 'k' else c.toLower

/-- The parts of a color. -/
def colorParts (cs : List Char) : Except ColorFault ColorParts :=
  if sameLetters cs "transparent".toList then .ok (.ofBytes 0 0 0 0)
  else
    match cs with
    | '#' :: digits =>
      match parseHex digits with
      | some c => .ok c
      | none => .error .hex
    | _ =>
      match call? cs with
      | some (name, body) => colorFunction (trimEndBy isBlank name) body
      | none =>
        match parseHex cs with
        | some c => .ok c
        | none =>
          match namedColor? (String.ofList (cs.map smallLetter)) with
          | some (r, g, b) => .ok (.ofBytes r g b 255)
          | none => .error .unknown

/-- The color that a text without outer blanks writes. -/
def parseColor (cs : List Char) : Except ColorFault Color := (colorParts cs).map ColorParts.toColor

end AnchoredUi.Style
