/-!
# Kinds of widgets

The kinds that an element can be built as. Every kind has one name.

* `name_injective`: no two kinds have the same name.
-/

namespace AnchoredUi.Kind

/-- What an element is built as. -/
inductive WidgetKind where
  | button
  | textField
  | dropdown
  | slider
  | toggle
  | label
  | image
  | scrollView
  | genericField
  | container
  | unrecognized
  deriving DecidableEq, Repr

namespace WidgetKind

/-- All kinds. -/
def all : List WidgetKind :=
  [button, textField, dropdown, slider, toggle, label, image, scrollView, genericField, container,
    unrecognized]

/-- The name of a kind. -/
def name : WidgetKind → String
  | button => "Button"
  | textField => "TextField"
  | dropdown => "DropdownField"
  | slider => "Slider"
  | toggle => "Toggle"
  | label => "Label"
  | image => "Image"
  | scrollView => "ScrollView"
  | genericField => "GenericField"
  | container => "Container"
  | unrecognized => "Unrecognized"

theorem name_injective {j k : WidgetKind} (h : j.name = k.name) : j = k := by
  revert h
  cases j <;> cases k <;> decide

/-- The kind with a given name. -/
def named? (name : String) : Option WidgetKind := all.find? fun k => k.name == name

end WidgetKind

end AnchoredUi.Kind
