import AnchoredUi.Kind.Basic
import AnchoredUi.Markup.Element
import AnchoredUi.Text.Trim
import AnchoredUi.Widget.Blueprint

/-!
# Panels

Widgets that hold others or a picture: containers, scroll views and images. What is not
recognized is built as a container of a striking color.
-/

namespace AnchoredUi.Widget

open Number Plane SceneGraph Markup Kind Sprite Text

/-- A rectangle of one color. -/
def panel (color : Color) : Blueprint := .ofSteps [.attach .root (.graphic (.colored color))]

/-- A container is faintly darkened. -/
def container : Blueprint := panel ⟨0.2, 0.2, 0.2, 0.1⟩

/-- A field of no known kind is darkened a little more. -/
def genericField : Blueprint := panel ⟨0.3, 0.3, 0.3, 0.25⟩

/-- An element that is not recognized is magenta. -/
def unrecognized (e : Element) : Blueprint :=
  { panel ⟨1, 0, 1, 0.25⟩ with notes := [.unrecognized e.tag] }

/-! ## Scroll views -/

/-- The place of the content of a scroll view: as wide as the view, from its top on. -/
def contentRect : Rect Single :=
  ((Rect.stretched.withAnchors Vec2.topLeft Vec2.one).withPivot Vec2.topLeft).withSizeDelta
    ⟨0, 300⟩

/-- A scroll view shows a part of its content, below which its children come. -/
def scrollView : Blueprint where
  picture := none
  steps _ := [
    .attach .root (.graphic (.colored ⟨1, 1, 1, 0.1⟩)),
    .node .viewport "Viewport" .root .stretched,
    .attach .viewport (.graphic (.colored .white)),
    .attach .viewport (.mask ⟨false⟩),
    .node .content "Content" .viewport contentRect,
    .attach .root (.scrollRect ⟨some .content, some .viewport, true, true⟩)]
  content := .content
  notes := []

/-! ## Images -/

/-- The attributes that may give the address of the picture, in the order in which they count. -/
def pictureAttributes : List String := ["src", "source", "image"]

/-- The address of the picture of an element: the first of the attributes that is there, unless it
is blank. -/
def pictureOf? (e : Element) : Option String :=
  (pictureAttributes.findSome? e.attr?).filter fun a => !isBlankText a

/-- An image shows its picture undistorted. -/
def image (e : Element) : Blueprint where
  picture := pictureOf? e
  steps sprite := [
    .attach .root (.graphic { Graphic.colored .white with sprite := sprite, keepsAspect := true })]
  content := .root
  notes := []

end AnchoredUi.Widget
