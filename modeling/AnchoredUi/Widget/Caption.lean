import AnchoredUi.Markup.Element
import AnchoredUi.Text.Case
import AnchoredUi.Widget.Blueprint

/-!
# Widgets with a text

Labels, buttons, toggles and text fields: the text comes from the element, by its content or by an
attribute.
-/

namespace AnchoredUi.Widget

open Number Plane SceneGraph Markup Text

/-- A label is one text. -/
def label (l : Lettering) (e : Element) : Blueprint :=
  .ofSteps [.attach .root (.text (l.text (e.displayText.getD "")))]

/-! ## Buttons -/

/-- The steps for the text of a button; an empty text is left out. -/
def captionSteps (l : Lettering) (e : Element) : List Step :=
  match e.displayText with
  | none => []
  | some caption =>
    if caption = "" then []
    else [
      .node .text "Text" .root .stretched,
      .attach .text (.text { l.text caption with anchor := .middleCenter })]

/-- A button is a white rectangle that is clicked, perhaps with a text. -/
def button (l : Lettering) (e : Element) : Blueprint :=
  .ofSteps ([
    .attach .root (.graphic (.colored .white)),
    .attach .root (.button ⟨some .root, true⟩)] ++ captionSteps l e)

/-! ## Toggles -/

/-- The color of check marks. -/
def checkColor : Color := .rgb 0.196 0.196 0.196

/-- A toggle is on if its value is the word for it. -/
def isOn (e : Element) : Bool := (e.attr? "value").any fun v => agreeing (trimmed v) "true"

/-- The text of a toggle: its `label` attribute, else the text to show. -/
def toggleText (e : Element) : String :=
  match e.attr? "label" with
  | some t => t
  | none => e.displayText.getD ""

/-- A toggle is a box with a check mark, and a text beside it. -/
def toggle (l : Lettering) (e : Element) : Blueprint :=
  .ofSteps [
    .node .background "Background" .root ((Rect.topLeft 20 20).withPosition ⟨0, -5⟩),
    .attach .background (.graphic (.colored .white)),
    .node .checkmark "Checkmark" .background .stretched,
    .attach .checkmark (.graphic (.colored checkColor)),
    .node .label "Label" .root (framed ⟨23, 1⟩ ⟨-5, -2⟩),
    .attach .label (.text (l.text (toggleText e))),
    .attach .root (.toggle ⟨some .background, some .checkmark, isOn e⟩)]

/-! ## Text fields -/

/-- The color of the text that stands in an empty field. -/
def hintColor : Color := ⟨0.196, 0.196, 0.196, Measure.half⟩

/-- The text that stands in an empty field. -/
def hintText (e : Element) : String :=
  match e.attr? "placeholder-text" with
  | some t => t
  | none => (e.attr? "placeholder").getD ""

/-- The place of both texts of a field. -/
def fieldRect : Rect Single := framed ⟨10, 6⟩ ⟨-10, -7⟩

/-- A text field shows its text, or a hint while there is none. -/
def textField (l : Lettering) (e : Element) : Blueprint :=
  let value := (e.attr? "value").getD ""
  .ofSteps ([
    .attach .root (.graphic (.colored .white)),
    .node .placeholder "Placeholder" .root fieldRect,
    .attach .placeholder
      (.text { l.text (hintText e) with color := hintColor, italic := true })] ++
    (if value = "" then [] else [.hide .placeholder]) ++ [
    .node .text "Text" .root fieldRect,
    .attach .text (.text (l.text value)),
    .attach .root (.inputField ⟨some .text, some .placeholder, some .root, value⟩)])

end AnchoredUi.Widget
