import AnchoredUi.SceneGraph.Host
import AnchoredUi.Warning

/-!
# Blueprints

A widget is a node for an element together with helper nodes below it. A blueprint says in which
order the helper nodes are made, where they stand, and what the nodes carry; the nodes are called
by the parts that they play, so that a blueprint is the same wherever it is carried out.

* `run_node`, `run_attach`: what one step asks of the host.
-/

namespace AnchoredUi.Widget

open Number Plane SceneGraph Sprite

/-- The parts that nodes play in a widget. Each widget has a root and some of the others. -/
inductive Part where
  | root
  | text
  | placeholder
  | label
  | background
  | checkmark
  | fillArea
  | fill
  | slideArea
  | handle
  | arrow
  | template
  | viewport
  | content
  | item
  | itemBackground
  | itemCheckmark
  | itemLabel
  deriving DecidableEq, Repr

/-- One step of a construction: a new node below another one, a component on a node, or a node
that is switched off. -/
inductive Step where
  | node (part : Part) (name : String) (under : Part) (rect : Rect Single)
  | attach (part : Part) (component : Component Part)
  | hide (part : Part)
  deriving DecidableEq

/-- How a widget is built. The root is there before the first step. The steps may use the sprite
of a picture, and an address that gives no sprite does not stop them. -/
structure Blueprint where
  /-- The address of the picture. -/
  picture : Option String
  steps : Option Sprite → List Step
  /-- The part below which the nodes of child elements come. -/
  content : Part
  notes : List WarningCause

namespace Blueprint

/-- A blueprint without a picture, whose children come below the root. -/
def ofSteps (steps : List Step) : Blueprint := ⟨none, fun _ => steps, .root, []⟩

end Blueprint

/-! ## Carrying out steps -/

/-- Creates a node below another one with a given rectangle. -/
def addNode (name : String) (parent : NodeId) (rect : Rect Single) : HostM NodeId := do
  let id ← Host.create name parent
  Host.setRect id rect
  pure id

/-- Carries out a step, given the nodes of the parts, and gives the nodes after it. -/
def Step.run (nodes : Part → NodeId) : Step → HostM (Part → NodeId)
  | .node part name under rect => do
    let id ← addNode name (nodes under) rect
    pure fun p => if p = part then id else nodes p
  | .attach part component => do
    Host.attach (nodes part) (component.map nodes)
    pure nodes
  | .hide part => do
    Host.setActive (nodes part) false
    pure nodes

/-- Carries out steps on a root. A part that is not there yet is stood for by the root. -/
def runSteps (root : NodeId) (steps : List Step) : HostM (Part → NodeId) :=
  steps.foldlM Step.run fun _ => root

theorem run_node (nodes : Part → NodeId) (part under : Part) (name : String) (rect : Rect Single) :
    Step.run nodes (.node part name under rect) =
      (addNode name (nodes under) rect >>= fun id =>
        pure fun p => if p = part then id else nodes p) := rfl

theorem run_attach (nodes : Part → NodeId) (part : Part) (component : Component Part) :
    Step.run nodes (.attach part component) =
      (Host.attach (nodes part) (component.map nodes) >>= fun _ => pure nodes) := rfl

/-! ## Common rectangles and texts -/

/-- The rectangle of a new widget. -/
def rootRect : Rect Single := .topLeft 100 30

/-- The whole of the parent, inside the given offsets from the lower left and the upper right. -/
def framed (low high : Vec2 Single) : Rect Single := Rect.stretched.withOffsets low high

/-- How texts are set. -/
structure Lettering where
  font : String
  size : Single
  deriving DecidableEq

/-- A text in the usual color. -/
def Lettering.text (l : Lettering) (text : String) : TextBlock := .plain text l.font l.size

end AnchoredUi.Widget
