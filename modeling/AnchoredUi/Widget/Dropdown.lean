import AnchoredUi.Markup.Element
import AnchoredUi.Number.Numeral
import AnchoredUi.Text.Split
import AnchoredUi.Text.Trim
import AnchoredUi.Widget.Caption

/-!
# Dropdowns

A dropdown shows one of its options. The options and the chosen one come from attributes; the list
that opens is a hidden template.

* `options_ne_nil`: there is always an option to show.
* `chosen_lt`: the chosen option is one of them.
-/

namespace AnchoredUi.Widget

open Number Plane SceneGraph Markup Text

/-! ## Options -/

/-- The options of a dropdown that names none. -/
def usualOptions : List String := ["Option A", "Option B", "Option C"]

/-- The options between the commas of a text; blanks around an option do not count, and an option
of nothing else is none. -/
def listedOptions (list : String) : List String :=
  (((pieces ',' list.toList).map trim).filter (· ≠ [])).map String.ofList

/-- The options of a dropdown. -/
def options (e : Element) : List String :=
  match listedOptions ((e.attr? "choices").getD "") with
  | [] => usualOptions
  | os => os

theorem options_ne_nil (e : Element) : options e ≠ [] := by
  unfold options
  split
  · decide
  · assumption

/-- A text of digits, perhaps behind a plus sign, as a number. -/
def index? (text : List Char) : Option Nat :=
  let digits := if text.head? = some '+' then text.tail else text
  if digits ≠ [] ∧ digits.all Char.isDigit then some (Numeral.digitsFrom 0 digits) else none

/-- The place of an option, or the first place. -/
def placeOf (options : List String) (option : String) : Nat :=
  (options.findIdx? (· == option)).getD 0

/-- The place of the chosen option: the `index` attribute, which has to be the place of one, else
where the `value` attribute stands among the options. -/
def chosen (e : Element) (options : List String) : Except BuildFault Nat :=
  match e.attr? "index" with
  | some raw =>
    match index? (trim raw.toList) with
    | some i => if i < options.length then .ok i else .error (.badAttribute "index" raw)
    | none => .error (.badAttribute "index" raw)
  | none => .ok (((e.attr? "value").map fun v => placeOf options (trimmed v)).getD 0)

theorem placeOf_lt {os : List String} (h : os ≠ []) (o : String) : placeOf os o < os.length := by
  unfold placeOf
  cases hi : os.findIdx? (· == o) with
  | none => exact List.length_pos_iff.mpr h
  | some i => exact (List.findIdx?_eq_some_iff_getElem.mp hi).1

theorem chosen_lt {e : Element} {os : List String} {i : Nat} (h : os ≠ [])
    (hi : chosen e os = .ok i) : i < os.length := by
  unfold chosen at hi
  split at hi
  · split at hi
    · split at hi
      · cases hi
        assumption
      · cases hi
    · cases hi
  · cases hi
    cases e.attr? "value" with
    | none => exact List.length_pos_iff.mpr h
    | some v => exact placeOf_lt h _

/-! ## Nodes -/

/-- The color behind the options of the list. -/
def itemColor : Color := .rgb 0.96 0.96 0.96

/-- The place of the arrow. -/
def arrowRect : Rect Single :=
  (((Rect.topLeft 20 20).withAnchors ⟨1, Measure.half⟩ ⟨1, Measure.half⟩).withPivot
    Vec2.middle).withPosition ⟨-15, 0⟩

/-- The place of the list, below the dropdown. -/
def templateRect : Rect Single :=
  (((Rect.stretched.withAnchors ⟨0, 0⟩ ⟨1, 0⟩).withPivot ⟨Measure.half, 1⟩).withPosition
    ⟨0, 2⟩).withSizeDelta ⟨0, 150⟩

/-- The place of all options together. -/
def listRect : Rect Single :=
  ((Rect.stretched.withAnchors Vec2.topLeft Vec2.one).withPivot ⟨Measure.half, 1⟩).withSizeDelta
    ⟨0, 28⟩

/-- The place of one option. -/
def itemRect : Rect Single :=
  (Rect.stretched.withAnchors ⟨0, Measure.half⟩ ⟨1, Measure.half⟩).withSizeDelta ⟨0, 20⟩

/-- The place of the mark on the chosen option. -/
def itemMarkRect : Rect Single :=
  (((Rect.topLeft 20 20).withAnchors ⟨0, Measure.half⟩ ⟨0, Measure.half⟩).withPivot
    Vec2.middle).withPosition ⟨10, 0⟩

/-- The steps for the list that opens. -/
def templateSteps (text : TextBlock) : List Step := [
  .node .template "Template" .root templateRect,
  .attach .template (.graphic (.colored .white)),
  .node .viewport "Viewport" .template .stretched,
  .attach .viewport (.graphic (.colored .white)),
  .attach .viewport (.mask ⟨false⟩),
  .node .content "Content" .viewport listRect,
  .attach .template (.scrollRect ⟨some .content, some .viewport, false, true⟩),
  .node .item "Item" .content itemRect,
  .node .itemBackground "Item Background" .item .stretched,
  .attach .itemBackground (.graphic (.colored itemColor)),
  .node .itemCheckmark "Item Checkmark" .item itemMarkRect,
  .attach .itemCheckmark (.graphic (.colored checkColor)),
  .node .itemLabel "Item Label" .item (framed ⟨20, 1⟩ ⟨-10, -2⟩),
  .attach .itemLabel (.text text),
  .attach .item (.toggle ⟨some .itemBackground, some .itemCheckmark, true⟩),
  .hide .template]

/-- The nodes of a dropdown that shows one of its options. -/
def dropdownSteps (l : Lettering) (options : List String) (chosen : Nat) : List Step :=
  let text := l.text (options.getD chosen "")
  [.attach .root (.graphic (.colored .white)),
    .node .label "Label" .root (framed ⟨10, 6⟩ ⟨-25, -7⟩),
    .attach .label (.text text),
    .node .arrow "Arrow" .root arrowRect,
    .attach .arrow (.graphic (.colored checkColor))] ++
  templateSteps text ++
  [.attach .root (.dropdown
    ⟨some .root, some .template, some .label, some .itemLabel, options, chosen⟩)]

/-- A dropdown, if its attributes make sense. -/
def dropdown (l : Lettering) (e : Element) : Except BuildFault Blueprint :=
  (chosen e (options e)).map fun i => .ofSteps (dropdownSteps l (options e) i)

end AnchoredUi.Widget
