import AnchoredUi.Catalog
import AnchoredUi.Text.Split

/-!
# Element types

A table of the types that tags can name. A type has a space of names, a short name, perhaps a
base type, and interfaces. The short name of a generic type ends in a back-tick and the number of
its arguments, and a reference to a base type may give the arguments in brackets.

* `head_lineage`: the lineage of a type starts with the type itself.
* `length_lineage_le`: a lineage is at most two longer than the table, also where bases form a
  cycle.
-/

namespace AnchoredUi.Kind

open Text

/-- A type that a tag can name. -/
structure TypeInfo where
  space : String
  shortName : String
  base : Option String := none
  interfaces : List String := []
  deriving DecidableEq, Repr

/-- The mark in front of the number of type arguments. -/
def arityMark : Char := '\x60'

/-- A reference to a type without its type arguments. -/
def definition (ref : String) : String :=
  match cutAt '[' ref.toList with
  | some (front, _) => String.ofList front
  | none => ref

/-- A short name without the number of type arguments. -/
def withoutArity (name : String) : String :=
  match cutAt arityMark name.toList with
  | some (front, _) => String.ofList front
  | none => name

namespace TypeInfo

/-- The short name behind its space. -/
def fullName (t : TypeInfo) : String :=
  if t.space = "" then t.shortName else t.space ++ "." ++ t.shortName

/-- The short name as it is shown. -/
def displayName (t : TypeInfo) : String := withoutArity t.shortName

end TypeInfo

/-- Types with distinct full names. -/
abbrev TypeTable := Catalog TypeInfo.fullName

namespace TypeTable

/-- The type that a reference names; type arguments do not matter. -/
def get? (table : TypeTable) (ref : String) : Option TypeInfo := table.find? (definition ref)

/-! ## Lineage -/

/-- References to the same type, up to type arguments. -/
def sameType (a b : String) : Bool := definition a == definition b

/-- Follows at most `steps` references upward, from `next`, up to a reference to one of the types
in `seen`. -/
def climb (table : TypeTable) : (steps : Nat) → (seen : List String) → (next : Option String) →
    List String
  | 0, _, _ => []
  | _ + 1, _, none => []
  | steps + 1, seen, some ref =>
    if seen.any (sameType ref) then []
    else ref :: climb table steps (ref :: seen) ((table.get? ref).bind TypeInfo.base)

/-- The type and the references to its bases, nearest first. The list ends at a type that is
unknown or has no base, and before a base that is in the list already. -/
def lineage (table : TypeTable) (t : TypeInfo) : List String :=
  t.fullName :: climb table (table.size + 1) [t.fullName] t.base

/-- The interfaces of the type and of its bases. -/
def interfacesOf (table : TypeTable) (t : TypeInfo) : List String :=
  ((table.lineage t).filterMap table.get?).flatMap TypeInfo.interfaces

theorem length_climb_le (table : TypeTable) (steps : Nat) (seen : List String)
    (next : Option String) : (climb table steps seen next).length ≤ steps := by
  induction steps generalizing seen next with
  | zero => simp [climb]
  | succ steps ih =>
    cases next with
    | none => simp [climb]
    | some ref =>
      simp only [climb]
      split
      · simp
      · simpa using ih _ _

theorem head_lineage (table : TypeTable) (t : TypeInfo) :
    (table.lineage t).head? = some t.fullName := rfl

theorem length_lineage_le (table : TypeTable) (t : TypeInfo) :
    (table.lineage t).length ≤ table.size + 2 := by
  simpa [lineage] using length_climb_le table (table.size + 1) [t.fullName] t.base

/-! ## The toolkit's own types -/

/-- The space of the toolkit's own types. -/
def toolkit : String := "UnityEngine.UIElements"

/-- A full name in the space of the toolkit. -/
def inToolkit (name : String) : String := toolkit ++ "." ++ name

/-- A type of the toolkit. -/
def own (name : String) (base : Option String) (interfaces : List String) : TypeInfo :=
  ⟨toolkit, name, base.map inToolkit, interfaces⟩

/-- The toolkit's own types. -/
def builtin : TypeTable := Catalog.ofList [
  own "VisualElement" none ["ITransform"],
  own "BindableElement" (some "VisualElement") ["IBindable"],
  own "TextElement" (some "BindableElement") ["ITextElement"],
  own "Label" (some "TextElement") [],
  own "Button" (some "TextElement") [],
  own "Image" (some "VisualElement") [],
  own "ScrollView" (some "VisualElement") [],
  own "Box" (some "VisualElement") [],
  own "GroupBox" (some "BindableElement") [],
  own "Foldout" (some "BindableElement") [],
  own "TemplateContainer" (some "BindableElement") [],
  own "BaseVerticalCollectionView" (some "BindableElement") [],
  own "ListView" (some "BaseVerticalCollectionView") [],
  own "AbstractProgressBar" (some "BindableElement") [],
  own "ProgressBar" (some "AbstractProgressBar") [],
  own "BaseField`1" (some "BindableElement") ["INotifyValueChanged`1"],
  own "TextInputBaseField`1" (some "BaseField`1[System.String]") [],
  own "TextField" (some "TextInputBaseField`1[System.String]") [],
  own "TextValueField`1" (some "TextInputBaseField`1[System.String]") [],
  own "IntegerField" (some "TextValueField`1[System.Int32]") [],
  own "FloatField" (some "TextValueField`1[System.Single]") [],
  own "BasePopupField`2" (some "BaseField`1[System.String]") [],
  own "PopupField`1" (some "BasePopupField`2[System.String,System.String]") [],
  own "DropdownField" (some "PopupField`1[System.String]") [],
  own "EnumField" (some "BaseField`1[System.Enum]") [],
  own "BaseSlider`1" (some "BaseField`1[System.Single]") [],
  own "Slider" (some "BaseSlider`1[System.Single]") [],
  own "SliderInt" (some "BaseSlider`1[System.Int32]") [],
  own "MinMaxSlider" (some "BaseField`1[UnityEngine.Vector2]") [],
  own "BaseBoolField" (some "BaseField`1[System.Boolean]") [],
  own "Toggle" (some "BaseBoolField") []]

end TypeTable

end AnchoredUi.Kind
