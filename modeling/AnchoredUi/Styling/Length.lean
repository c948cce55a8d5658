import AnchoredUi.SceneGraph.Walk
import AnchoredUi.Style.Scalar

/-!
# Lengths in pixels

A length with a unit becomes pixels by its surroundings: the size of the parent, the size of the
canvas, and the size of the font.

* `length?_auto`: `auto` is no number of pixels.
-/

namespace AnchoredUi.Styling

open Number Plane SceneGraph Style

/-- The font size of a node without a text. -/
def defaultFontSize : Single := 14

/-- The font size that `rem` counts in. -/
def rootFontSize : Single := 16

/-- The width of a letter as a fraction of the font size. -/
def letterWidth : Single := 0.6

/-- The height of a line as a fraction of the font size. -/
def lineHeight : Single := 1.2

/-- What lengths with units refer to. -/
structure Surroundings where
  parent : Size Single
  canvas : Size Single
  fontSize : Single
  deriving DecidableEq

namespace Surroundings

/-- The pixels of a length along an axis, unless it is `auto` or not finite. -/
def length? (s : Surroundings) (l : Scalar) (axis : Axis) : Option Single :=
  let pixels : Option Single := match l.unit with
    | .px => some l.value
    | .percent => some (s.parent.get axis * l.value / 100)
    | .em => some (s.fontSize * l.value)
    | .rem => some (rootFontSize * l.value)
    | .vw => some (s.canvas.width * l.value / 100)
    | .vh => some (s.canvas.height * l.value / 100)
    | .auto => none
  pixels.filter Binary.isFinite

/-- The pixels of a length, where `auto` counts as nothing. -/
def pixels (s : Surroundings) (l : Scalar) (axis : Axis) : Single := (s.length? l axis).getD 0

theorem length?_auto (s : Surroundings) (axis : Axis) : s.length? .auto axis = none := rfl

end Surroundings

/-! ## Nodes with texts -/

/-- The names of children that hold the text of their parent. -/
def textNames : List String := ["Text", "Label"]

/-- The node with the text of a node: itself, or its first child with a text and a name for it. -/
def textNode? (s : Scene) (id : NodeId) : Option NodeId :=
  if (s.component? TextBlock id).isSome then some id
  else
    (s.children id).find? fun c =>
      ((s.name? c).any textNames.contains) && (s.component? TextBlock c).isSome

/-- The text of a node. -/
def textOf? (s : Scene) (id : NodeId) : Option TextBlock :=
  (textNode? s id).bind (s.component? TextBlock)

/-- What the lengths of a node refer to. -/
def surroundingsOf (s : Scene) (id : NodeId) (canvas : Size Single) (fontSize : Single) :
    Surroundings where
  parent := s.parentSize id
  canvas := canvas
  fontSize := match textOf? s id with
    | some t => t.fontSize
    | none => fontSize

/-- The extent of a text along an axis: that of all its letters, or of one line. -/
def textExtent (t : TextBlock) : Axis → Single
  | .horizontal => Binary.ofInt t.text.length * t.fontSize * letterWidth
  | .vertical => t.fontSize * lineHeight

/-- The extent that follows from the content of a node: the preferred one, else that of its text,
else the present one. -/
def contentExtent (s : Scene) (id : NodeId) (axis : Axis) : Single :=
  match (s.component? LayoutHints id).bind fun h => h.preferred.get axis with
  | some extent => extent
  | none =>
    match textOf? s id with
    | some t => textExtent t axis
    | none => (s.sizeOf id).get axis

end AnchoredUi.Styling
