import AnchoredUi.Plane.Rect
import AnchoredUi.Text.Case
import AnchoredUi.Text.Trim

/-!
# Style properties

The properties that can be applied to a node, and their names. A name may have further spellings;
the first one in the table is what messages show.

* `named?_name`: every property is found under its own name.
-/

namespace AnchoredUi.Style

open Plane

/-- A style property. A box property without a side stands for all four. -/
inductive Property where
  | size (axis : Axis)
  | minSize (axis : Axis)
  | maxSize (axis : Axis)
  | flexBasis
  | flexGrow
  | flexShrink
  | inset (side : Rect.Side)
  | position
  | margin (side : Option Rect.Side)
  | padding (side : Option Rect.Side)
  | flexDirection
  | justifyContent
  | alignItems
  | alignSelf
  | display
  | backgroundColor
  | color
  | fontSize
  | fontWeight
  | fontStyle
  | backgroundImage
  | backgroundSize
  | backgroundRepeat
  | imageTintColor
  | opacity
  | textAlign
  | whiteSpace
  | overflow
  deriving DecidableEq, Repr

namespace Property

/-- The spellings of all properties, the main one first. -/
def spellings : List (String × Property) := [
  ("width", size .horizontal),
  ("height", size .vertical),
  ("min-width", minSize .horizontal),
  ("min-height", minSize .vertical),
  ("max-width", maxSize .horizontal),
  ("max-height", maxSize .vertical),
  ("flex-basis", flexBasis),
  ("flex-grow", flexGrow),
  ("flex-shrink", flexShrink),
  ("left", inset .left),
  ("top", inset .top),
  ("right", inset .right),
  ("bottom", inset .bottom),
  ("position", position),
  ("margin", margin none),
  ("margin-top", margin (some .top)),
  ("margin-right", margin (some .right)),
  ("margin-bottom", margin (some .bottom)),
  ("margin-left", margin (some .left)),
  ("padding", padding none),
  ("padding-top", padding (some .top)),
  ("padding-right", padding (some .right)),
  ("padding-bottom", padding (some .bottom)),
  ("padding-left", padding (some .left)),
  ("flex-direction", flexDirection),
  ("justify-content", justifyContent),
  ("align-items", alignItems),
  ("align-self", alignSelf),
  ("display", display),
  ("background-color", backgroundColor),
  ("color", color),
  ("font-size", fontSize),
  ("font-weight", fontWeight),
  ("font-style", fontStyle),
  ("-unity-font-style", fontStyle),
  ("background-image", backgroundImage),
  ("background-size", backgroundSize),
  ("-unity-background-scale-mode", backgroundSize),
  ("background-repeat", backgroundRepeat),
  ("image-tint-color", imageTintColor),
  ("tint-color", imageTintColor),
  ("-unity-background-image-tint-color", imageTintColor),
  ("opacity", opacity),
  ("text-align", textAlign),
  ("-unity-text-align", textAlign),
  ("white-space", whiteSpace),
  ("overflow", overflow)]

/-- The property with a given spelling, in any case and between blanks. -/
def named? (name : String) : Option Property :=
  let wanted := Text.lowered (Text.trimmed name)
  (spellings.find? fun s => s.1 == wanted).map Prod.snd

/-- The main spelling. -/
def name (p : Property) : String :=
  ((spellings.find? fun s => s.2 == p).map Prod.fst).getD "?"

theorem named?_name (p : Property) : named? p.name = some p := by
  cases p with
  | size a | minSize a | maxSize a => cases a <;> decide +kernel
  | inset s => cases s <;> decide +kernel
  | margin s | padding s =>
    cases s with
    | none => decide +kernel
    | some s => cases s <;> decide +kernel
  | _ => decide +kernel

end Property

end AnchoredUi.Style
