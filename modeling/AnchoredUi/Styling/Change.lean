import AnchoredUi.Asset.Address
import AnchoredUi.Plane.Rect
import AnchoredUi.Style.Property
import AnchoredUi.Style.Value

/-!
# Changes that declarations ask for

A declaration is read in full before anything is changed: its property says how its value is read,
and both together say what is to change.
-/

namespace AnchoredUi.Styling

open Number Plane Style Text

/-- A change of a text. -/
inductive TextChange where
  | color (value : Color)
  | size (value : Scalar)
  | bold (value : Bool)
  | shape (value : FontStyle)
  | anchor (value : TextAnchor)
  | space (value : WhiteSpace)
  deriving DecidableEq

/-- A change of a node. The sides of a box that a declaration does not name are left out. -/
inductive Change where
  | size (axis : Axis) (value : Scalar)
  | leastSize (axis : Axis) (value : Scalar)
  | preferredSize (axis : Axis) (value : Scalar)
  | basis (value : Scalar)
  | grow (factor : Single)
  | shrink (factor : Single)
  | inset (side : Rect.Side) (distance : Scalar)
  | position (value : Position)
  | margin (sides : Spacing (Option Scalar))
  | padding (sides : Spacing (Option Scalar))
  | group
  | alignSelf (value : Align)
  | display (value : Display)
  | graphicColor (value : Color)
  | backgroundImage (address : String)
  | backgroundSize (value : BackgroundSize)
  | backgroundRepeat (value : BackgroundRepeat)
  | opacity (value : Single)
  | overflow (value : Overflow)
  | text (change : TextChange)
  deriving DecidableEq

/-- A length for one side of a box. -/
def onSide (side : Rect.Side) (value : Scalar) : Spacing (Option Scalar) :=
  match side with
  | .top => ⟨some value, none, none, none⟩
  | .right => ⟨none, some value, none, none⟩
  | .bottom => ⟨none, none, some value, none⟩
  | .left => ⟨none, none, none, some value⟩

/-- Lengths for the sides of a box: one for a side, or one to four for all sides. -/
def readSides (side : Option Rect.Side) (value : String) :
    Except ValueFault (Spacing (Option Scalar)) :=
  match side with
  | some s => (readScalar value).map (onSide s)
  | none => (readBox value).map fun b => ⟨some b.top, some b.right, some b.bottom, some b.left⟩

/-- A number that is not negative. -/
def readFactor (value : String) : Except ValueFault Single :=
  match readNumber value with
  | .error f => .error f
  | .ok x => if x < 0 then .error .negativeFactor else .ok x

/-- What a declaration asks for. -/
def Change.read (p : Property) (value : String) : Except ValueFault Change :=
  match p with
  | .size axis => (readScalar value).map (.size axis)
  | .minSize axis => (readScalar value).map (.leastSize axis)
  | .maxSize axis => (readScalar value).map (.preferredSize axis)
  | .flexBasis => (readScalar value).map .basis
  | .flexGrow => (readFactor value).map .grow
  | .flexShrink => (readFactor value).map .shrink
  | .inset side => (readScalar value).map (.inset side)
  | .position => (readKeyword Position.words value).map .position
  | .margin side => (readSides side value).map .margin
  | .padding side => (readSides side value).map .padding
  | .flexDirection => (readKeyword FlexDirection.words value).map fun _ => .group
  | .justifyContent => (readKeyword Justify.words value).map fun _ => .group
  | .alignItems => (readKeyword Align.words value).map fun _ => .group
  | .alignSelf => (readKeyword Align.words value).map .alignSelf
  | .display => (readKeyword Display.words value).map .display
  | .backgroundColor | .imageTintColor => (readColor value).map .graphicColor
  | .backgroundImage => .ok (.backgroundImage (Asset.normalPath value))
  | .backgroundSize => (readKeyword BackgroundSize.words value).map .backgroundSize
  | .backgroundRepeat => (readKeyword BackgroundRepeat.words value).map .backgroundRepeat
  | .opacity => (readNumber value).map fun x => .opacity (x.clamp 0 1)
  | .overflow => (readKeyword Overflow.words value).map .overflow
  | .color => (readColor value).map fun c => .text (.color c)
  | .fontSize => (readScalar value).map fun s => .text (.size s)
  | .fontWeight => (readWeight value).map fun b => .text (.bold b)
  | .fontStyle => (readKeyword FontStyle.words value).map fun s => .text (.shape s)
  | .textAlign => (readTextAlign value).map fun a => .text (.anchor a)
  | .whiteSpace => (readKeyword WhiteSpace.words value).map fun w => .text (.space w)

end AnchoredUi.Styling
