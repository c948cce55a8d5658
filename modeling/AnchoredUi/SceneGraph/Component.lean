import AnchoredUi.Plane.Color
import AnchoredUi.Plane.Spacing
import AnchoredUi.Plane.TextAnchor
import AnchoredUi.SceneGraph.Arena
import AnchoredUi.Sprite.Basic

/-!
# Components

What a node does besides having a rectangle is given by its components: it shows a picture or a
text, clips, reacts, or lays out its children. Components may refer to other nodes; what a
reference is made of is left open, so that the same components serve in scenes and in plans.

* `kind_map`: replacing the references of a component leaves its kind alone.
* `firstOf?_modifyFirst`: changing the first component of a type changes what is found first.
-/

namespace AnchoredUi.SceneGraph

open Number Plane Sprite

/-! ## What is shown -/

/-- How a sprite fills its rectangle. -/
inductive ImageFill where
  | simple
  | tiled
  deriving DecidableEq, Repr

/-- A colored rectangle, perhaps with a sprite. -/
structure Graphic where
  color : Color
  sprite : Option Sprite
  keepsAspect : Bool
  fill : ImageFill
  catchesRays : Bool
  deriving DecidableEq

/-- A rectangle of one color. -/
def Graphic.colored (color : Color) : Graphic := ⟨color, none, false, .simple, true⟩

/-- A text. -/
structure TextBlock where
  text : String
  font : String
  fontSize : Single
  color : Color
  anchor : TextAnchor
  bold : Bool
  italic : Bool
  wraps : Bool
  deriving DecidableEq

/-- The color of texts. -/
def TextBlock.ink : Color := .rgb 0.196 0.196 0.196

/-- A text in the usual color, in the middle of the left side. -/
def TextBlock.plain (text font : String) (fontSize : Single) : TextBlock :=
  ⟨text, font, fontSize, ink, .middleLeft, false, false, true⟩

/-- Clips the children to the graphic of the node. -/
structure Mask where
  showsGraphic : Bool
  deriving DecidableEq, Repr

/-- Clips the children to the rectangle of the node. -/
structure RectMask where
  deriving DecidableEq, Repr

/-! ## What reacts -/

/-- Reacts to a click. -/
structure Button (ρ : Type) where
  target : Option ρ
  interactable : Bool
  deriving DecidableEq, Repr

/-- Switches a mark on and off. -/
structure Toggle (ρ : Type) where
  target : Option ρ
  mark : Option ρ
  isOn : Bool
  deriving DecidableEq, Repr

/-- Moves a handle between two values. -/
structure Slider (ρ : Type) where
  fill : Option ρ
  handle : Option ρ
  target : Option ρ
  low : Single
  high : Single
  value : Single
  whole : Bool
  deriving DecidableEq

namespace Slider

/-- The smallest distance of the two values that counts. -/
def leastRange : Single := .ofRatio 1 (Nat.pow 2 23)

/-- The value as a fraction of the way from the low to the high one; zero if they are too close or
too far apart. -/
def fraction {ρ : Type} (s : Slider ρ) : Single :=
  let range := s.high - s.low
  if range.abs ≤ leastRange ∨ !range.isFinite then 0
  else ((s.value - s.low) / range).clamp 0 1

end Slider

/-- Takes a text. -/
structure InputField (ρ : Type) where
  textNode : Option ρ
  placeholder : Option ρ
  target : Option ρ
  text : String
  deriving DecidableEq, Repr

/-- Takes one of several options. -/
structure Dropdown (ρ : Type) where
  target : Option ρ
  template : Option ρ
  caption : Option ρ
  item : Option ρ
  options : List String
  chosen : Nat
  deriving DecidableEq, Repr

/-- Moves a content behind a viewport. -/
structure ScrollRect (ρ : Type) where
  content : Option ρ
  viewport : Option ρ
  horizontal : Bool
  vertical : Bool
  deriving DecidableEq, Repr

/-! ## What lays out -/

/-- Lays out the children of the node along an axis. -/
structure LayoutGroup where
  axis : Axis
  reverse : Bool
  align : TextAnchor
  spacing : Single
  padding : Spacing Single
  expandWidth : Bool
  expandHeight : Bool
  deriving DecidableEq

namespace LayoutGroup

/-- A group along an axis with everything else at rest. -/
def along (axis : Axis) : LayoutGroup := ⟨axis, false, .upperLeft, 0, .zero, false, false⟩

/-- The children are expanded along an axis. -/
def expands (g : LayoutGroup) : Axis → Bool
  | .horizontal => g.expandWidth
  | .vertical => g.expandHeight

/-- The group with the expansion along an axis switched. -/
def setExpands (g : LayoutGroup) (axis : Axis) (value : Bool) : LayoutGroup :=
  match axis with
  | .horizontal => { g with expandWidth := value }
  | .vertical => { g with expandHeight := value }

end LayoutGroup

/-- Where a child stands across the axis of its group. -/
inductive CrossAlign where
  | start
  | center
  | finish
  | stretch
  deriving DecidableEq, Repr

/-- Up to one number for each axis. -/
structure AxisHints where
  width : Option Single
  height : Option Single
  deriving DecidableEq

namespace AxisHints

/-- No numbers. -/
def none : AxisHints := ⟨.none, .none⟩

/-- The number for an axis. -/
def get (h : AxisHints) : Axis → Option Single
  | .horizontal => h.width
  | .vertical => h.height

/-- The hints with the number for an axis replaced. -/
def set (h : AxisHints) (axis : Axis) (value : Option Single) : AxisHints :=
  match axis with
  | .horizontal => { h with width := value }
  | .vertical => { h with height := value }

end AxisHints

/-- What a node asks of the group that lays it out. -/
structure LayoutHints where
  least : AxisHints
  preferred : AxisHints
  flexible : AxisHints
  alignSelf : Option CrossAlign
  ignored : Bool
  deriving DecidableEq

/-- A node that asks for nothing. -/
def LayoutHints.none : LayoutHints := ⟨.none, .none, .none, .none, false⟩

/-- Fades a node and everything below it. -/
structure CanvasGroup where
  alpha : Single
  deriving DecidableEq

/-- Marks the root of a document. -/
structure LayoutRoot where
  size : Size Single
  deriving DecidableEq

/-! ## All kinds in one type -/

/-- A component of any kind. -/
inductive Component (ρ : Type) where
  | graphic (data : Graphic)
  | text (data : TextBlock)
  | mask (data : Mask)
  | rectMask (data : RectMask)
  | button (data : Button ρ)
  | toggle (data : Toggle ρ)
  | slider (data : Slider ρ)
  | inputField (data : InputField ρ)
  | dropdown (data : Dropdown ρ)
  | scrollRect (data : ScrollRect ρ)
  | layoutGroup (data : LayoutGroup)
  | layoutHints (data : LayoutHints)
  | canvasGroup (data : CanvasGroup)
  | layoutRoot (data : LayoutRoot)
  deriving DecidableEq

/-- The kinds of components. -/
inductive ComponentKind where
  | graphic
  | text
  | mask
  | rectMask
  | button
  | toggle
  | slider
  | inputField
  | dropdown
  | scrollRect
  | layoutGroup
  | layoutHints
  | canvasGroup
  | layoutRoot
  deriving DecidableEq, Repr

namespace ComponentKind

/-- The kinds with their names. -/
def names : List (String × ComponentKind) := [
  ("Image", graphic), ("Text", text), ("Mask", mask), ("RectMask", rectMask),
  ("Button", button), ("Toggle", toggle), ("Slider", slider), ("InputField", inputField),
  ("Dropdown", dropdown), ("ScrollRect", scrollRect), ("LayoutGroup", layoutGroup),
  ("LayoutElement", layoutHints), ("CanvasGroup", canvasGroup), ("LayoutRoot", layoutRoot)]

/-- The name of a kind. -/
def name (k : ComponentKind) : String :=
  match names.find? fun e => e.2 == k with
  | some e => e.1
  | none => ""

/-- The kind with a given name. -/
def named? (name : String) : Option ComponentKind :=
  (names.find? fun e => e.1 == name).map Prod.snd

end ComponentKind

/-- The kind of a component. -/
def Component.kind {ρ : Type} : Component ρ → ComponentKind
  | .graphic _ => .graphic
  | .text _ => .text
  | .mask _ => .mask
  | .rectMask _ => .rectMask
  | .button _ => .button
  | .toggle _ => .toggle
  | .slider _ => .slider
  | .inputField _ => .inputField
  | .dropdown _ => .dropdown
  | .scrollRect _ => .scrollRect
  | .layoutGroup _ => .layoutGroup
  | .layoutHints _ => .layoutHints
  | .canvasGroup _ => .canvasGroup
  | .layoutRoot _ => .layoutRoot

/-- The component with its references replaced. -/
def Component.map {ρ σ : Type} (f : ρ → σ) : Component ρ → Component σ
  | .graphic a => .graphic a
  | .text a => .text a
  | .mask a => .mask a
  | .rectMask a => .rectMask a
  | .button a => .button { a with target := a.target.map f }
  | .toggle a => .toggle { a with target := a.target.map f, mark := a.mark.map f }
  | .slider a =>
    .slider
      { a with fill := a.fill.map f, handle := a.handle.map f, target := a.target.map f }
  | .inputField a =>
    .inputField
      { a with
        textNode := a.textNode.map f
        placeholder := a.placeholder.map f
        target := a.target.map f }
  | .dropdown a =>
    .dropdown
      { a with
        target := a.target.map f
        template := a.template.map f
        caption := a.caption.map f
        item := a.item.map f }
  | .scrollRect a => .scrollRect { a with content := a.content.map f, viewport := a.viewport.map f }
  | .layoutGroup a => .layoutGroup a
  | .layoutHints a => .layoutHints a
  | .canvasGroup a => .canvasGroup a
  | .layoutRoot a => .layoutRoot a

theorem Component.kind_map {ρ σ : Type} (f : ρ → σ) (c : Component ρ) :
    (c.map f).kind = c.kind := by
  cases c <;> rfl

/-- A type of components of one kind, without references. -/
class ComponentType (α : Type) where
  kind : ComponentKind
  wrap : α → Component NodeId
  unwrap? : Component NodeId → Option α
  unwrap?_eq_some_iff : ∀ c a, unwrap? c = some a ↔ c = wrap a
  kind_of_unwrap? : ∀ c, (unwrap? c).isSome ↔ c.kind = kind

instance : ComponentType Graphic where
  kind := .graphic
  wrap := .graphic
  unwrap? c := match c with | .graphic a => some a | _ => none
  unwrap?_eq_some_iff c a := by cases c <;> simp
  kind_of_unwrap? c := by cases c <;> simp [Component.kind]

instance : ComponentType TextBlock where
  kind := .text
  wrap := .text
  unwrap? c := match c with | .text a => some a | _ => none
  unwrap?_eq_some_iff c a := by cases c <;> simp
  kind_of_unwrap? c := by cases c <;> simp [Component.kind]

instance : ComponentType RectMask where
  kind := .rectMask
  wrap := .rectMask
  unwrap? c := match c with | .rectMask a => some a | _ => none
  unwrap?_eq_some_iff c a := by cases c <;> simp
  kind_of_unwrap? c := by cases c <;> simp [Component.kind]

instance : ComponentType LayoutGroup where
  kind := .layoutGroup
  wrap := .layoutGroup
  unwrap? c := match c with | .layoutGroup a => some a | _ => none
  unwrap?_eq_some_iff c a := by cases c <;> simp
  kind_of_unwrap? c := by cases c <;> simp [Component.kind]

instance : ComponentType LayoutHints where
  kind := .layoutHints
  wrap := .layoutHints
  unwrap? c := match c with | .layoutHints a => some a | _ => none
  unwrap?_eq_some_iff c a := by cases c <;> simp
  kind_of_unwrap? c := by cases c <;> simp [Component.kind]

instance : ComponentType CanvasGroup where
  kind := .canvasGroup
  wrap := .canvasGroup
  unwrap? c := match c with | .canvasGroup a => some a | _ => none
  unwrap?_eq_some_iff c a := by cases c <;> simp
  kind_of_unwrap? c := by cases c <;> simp [Component.kind]

/-! ## Lists of components -/

variable {α : Type} [ComponentType α]

/-- The first component of a type. -/
def firstOf? (α : Type) [ComponentType α] (cs : List (Component NodeId)) : Option α :=
  cs.findSome? ComponentType.unwrap?

/-- The list with the first component of a type changed. -/
def modifyFirst (f : α → α) : List (Component NodeId) → List (Component NodeId)
  | [] => []
  | c :: cs =>
    match ComponentType.unwrap? c with
    | some a => ComponentType.wrap (f a) :: cs
    | none => c :: modifyFirst f cs

theorem firstOf?_modifyFirst (f : α → α) (cs : List (Component NodeId)) :
    firstOf? α (modifyFirst f cs) = (firstOf? α cs).map f := by
  induction cs with
  | nil => rfl
  | cons c cs ih =>
    cases h : (ComponentType.unwrap? c : Option α) with
    | none => simpa [modifyFirst, firstOf?, h] using ih
    | some a =>
      have := (ComponentType.unwrap?_eq_some_iff (ComponentType.wrap (f a)) (f a)).mpr rfl
      simp [modifyFirst, firstOf?, h, this]

/-! ### Components of other kinds -/

theorem kind_wrap (a : α) : (ComponentType.wrap a).kind = ComponentType.kind α := by
  have hWrap := (ComponentType.unwrap?_eq_some_iff (ComponentType.wrap a) a).mpr rfl
  exact (ComponentType.kind_of_unwrap? (α := α) _).mp (by simp [hWrap])

theorem unwrap?_eq_none {c : Component NodeId} (h : c.kind ≠ ComponentType.kind α) :
    (ComponentType.unwrap? c : Option α) = none := by
  have hKind := ComponentType.kind_of_unwrap? (α := α) c
  simpa [h] using hKind

theorem firstOf?_append_other {c : Component NodeId} (h : c.kind ≠ ComponentType.kind α)
    (cs : List (Component NodeId)) : firstOf? α (cs ++ [c]) = firstOf? α cs := by
  simp [firstOf?, List.findSome?_append, unwrap?_eq_none h]

theorem firstOf?_modifyFirst_other {β : Type} [ComponentType β]
    (h : ComponentType.kind β ≠ ComponentType.kind α) (f : β → β) (cs : List (Component NodeId)) :
    firstOf? α (modifyFirst f cs) = firstOf? α cs := by
  induction cs with
  | nil => rfl
  | cons c cs ih =>
    unfold firstOf? at ih ⊢
    rw [modifyFirst]
    cases hc : (ComponentType.unwrap? c : Option β) with
    | none => simp only [List.findSome?_cons, ih]
    | some b =>
      -- neither the old component nor the new one is of the type that is looked for
      have hOld : c.kind ≠ ComponentType.kind α := by
        rwa [(ComponentType.unwrap?_eq_some_iff c b).mp hc, kind_wrap]
      have hNew : (ComponentType.wrap (f b)).kind ≠ ComponentType.kind α := by rwa [kind_wrap]
      simp [unwrap?_eq_none hOld, unwrap?_eq_none hNew]

end AnchoredUi.SceneGraph
