import AnchoredUi.Styling.Subject
import AnchoredUi.Widget.Dropdown
import AnchoredUi.Widget.Panel
import AnchoredUi.Widget.Slider

/-!
# Building widgets

The blueprint for each kind of widget, and how it is carried out below a parent. Attributes that
make no sense are found before anything is built.

* `build_of_blueprint_error`: a fault in an attribute leaves the stage as it was.
-/

namespace AnchoredUi.Widget

open Number Plane SceneGraph Markup Kind Sprite Styling

/-- The blueprint for an element that is built as a given kind. -/
def blueprint (kind : WidgetKind) (l : Lettering) (e : Element) : Except BuildFault Blueprint :=
  match kind with
  | .button => .ok (button l e)
  | .textField => .ok (textField l e)
  | .dropdown => dropdown l e
  | .slider => slider e
  | .toggle => .ok (toggle l e)
  | .label => .ok (label l e)
  | .image => .ok (image e)
  | .scrollView => .ok scrollView
  | .genericField => .ok genericField
  | .container => .ok container
  | .unrecognized => .ok (unrecognized e)

/-- The name of the root of a widget: the name of the element, or else its tag. -/
def nodeName (e : Element) : String :=
  match e.name? with
  | some n => if n = "" then e.tag else n
  | none => e.tag

/-- A widget that was built: its root, the node below which its children come, and what is to be
said about it. -/
structure Built where
  root : NodeId
  content : NodeId
  notes : List WarningCause
  deriving DecidableEq

/-- What is to be said about a picture that was looked for. -/
def pictureNotes (address : String) : Option Sprite → List WarningCause
  | some sprite => if sprite.isPlaceholder then [.drawingReplaced address] else []
  | none => [.imageMissing address]

/-- Looks for the picture of a blueprint. -/
def findPicture (address : Option String) : StageM BuildFault (Option Sprite × List WarningCause) :=
  match address with
  | none => pure (none, [])
  | some a => do
    let sprite ← findSprite a
    pure (sprite, pictureNotes a sprite)

/-- Carries out a blueprint below a parent. -/
def Blueprint.build (b : Blueprint) (name : String) (parent : NodeId) :
    StageM BuildFault Built := do
  let root ← onHost .scene (addNode name parent rootRect)
  let (sprite, notes) ← findPicture b.picture
  let nodes ← onHost .scene (runSteps root (b.steps sprite))
  pure ⟨root, nodes b.content, b.notes ++ notes⟩

/-- Builds the widget of a kind for an element below a parent. -/
def build (kind : WidgetKind) (l : Lettering) (e : Element) (parent : NodeId) :
    StageM BuildFault Built :=
  match blueprint kind l e with
  | .ok b => b.build (nodeName e) parent
  | .error f => throw f

theorem build_of_blueprint_error {kind : WidgetKind} {l : Lettering} {e : Element} {f : BuildFault}
    (h : blueprint kind l e = .error f) (parent : NodeId) (st : Stage) :
    build kind l e parent st = (.error f, st) := by
  simp only [build, h]
  rfl

end AnchoredUi.Widget
