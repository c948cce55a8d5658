import AnchoredUi.Style.Declarations
import AnchoredUi.Style.Value
import AnchoredUi.Styling.Length

/-!
# Layout groups from styles

What a style declares about laying out children: the direction, where the children stand, and the
padding. A group has one place for all its children, so spread ones stand in the middle. A value
that cannot be read counts as not declared.

* `along_childAlign`: the place of the children is the declared one along either axis.
-/

namespace AnchoredUi.Styling

open Number Plane SceneGraph Style

/-- The properties that ask for a layout group. -/
def groupProperties : List String := ["flex-direction", "justify-content", "align-items"]

/-- The style asks for a layout group. -/
def asksForGroup (style : Declarations) : Bool := groupProperties.any style.contains

/-- The value of a property that is a word of a table. -/
def declaredWord {α : Type} (style : Declarations) (property : String)
    (table : List (String × α)) : Option α :=
  (style.get? property).bind fun value => (readKeyword table value).toOption

/-- The declared direction; a column if there is none. -/
def directionOf (style : Declarations) : FlexDirection :=
  (declaredWord style "flex-direction" FlexDirection.words).getD .column

/-- The place of the children, from where they stand along an axis and across it. -/
def childAlign (axis : Axis) (justify : Justify) (align : Align) : TextAnchor :=
  match axis with
  | .horizontal => .ofPlaces justify.placement align.placement
  | .vertical => .ofPlaces align.placement justify.placement

theorem along_childAlign (axis : Axis) (justify : Justify) (align : Align) :
    (childAlign axis justify align).along axis = justify.placement ∧
      (childAlign axis justify align).along axis.cross = align.placement := by
  cases axis <;> simp [childAlign, TextAnchor.along, Axis.cross]

/-- The group with the declared direction and places. -/
def configure (style : Declarations) (g : LayoutGroup) : LayoutGroup :=
  let direction := directionOf style
  let justify := (declaredWord style "justify-content" Justify.words).getD .start
  let align := (declaredWord style "align-items" Align.words).getD .start
  let g := g.setExpands direction.axis.cross (align == Align.stretch)
  { g with
    axis := direction.axis
    reverse := direction.isReverse
    align := childAlign direction.axis justify align }

/-! ## Padding -/

/-- The padding with what one declaration says of it. -/
def addPadding (s : Surroundings) (p : Spacing Single) (d : Declaration) : Spacing Single :=
  match readBox d.value with
  | .error _ => p
  | .ok box =>
    match Text.lowered d.property with
    | "padding" => ⟨s.pixels box.top .vertical, s.pixels box.right .horizontal,
        s.pixels box.bottom .vertical, s.pixels box.left .horizontal⟩
    | "padding-top" => { p with top := s.pixels box.top .vertical }
    | "padding-right" => { p with right := s.pixels box.top .horizontal }
    | "padding-bottom" => { p with bottom := s.pixels box.top .vertical }
    | "padding-left" => { p with left := s.pixels box.top .horizontal }
    | _ => p

/-- The declared padding. -/
def declaredPadding (style : Declarations) (s : Surroundings) : Spacing Single :=
  style.entries.foldl (addPadding s) .zero

/-- The group that a style asks for. -/
def groupOf (style : Declarations) (s : Surroundings) : LayoutGroup :=
  { configure style (.along (directionOf style).axis) with padding := declaredPadding style s }

end AnchoredUi.Styling
