import AnchoredUi.Number.Shortest
import AnchoredUi.SceneGraph.Walk
import AnchoredUi.Text.Quoted

/-!
# Outlines

An outline shows a node and the nodes below it, one line each, indented by their depth: the name,
the size, the position, and the components in short. Numbers have at most two digits behind the
point.
-/

namespace AnchoredUi.SceneGraph

open Number Plane Text

/-- A number with at most two digits behind the point. -/
def shortNumber (x : Single) : String := ((x * 100).round / 100).toText

/-- The name of an axis. -/
def axisName : Axis → String
  | .horizontal => "Horizontal"
  | .vertical => "Vertical"

/-- A component in short: its kind, and what tells most about it. -/
def Component.summary {ρ : Type} : Component ρ → String
  | .graphic g =>
    match g.sprite with
    | some s => "Image(" ++ s.name ++ ")"
    | none => "Image(a=" ++ shortNumber g.color.alpha ++ ")"
  | .text t => "Text(" ++ quoted t.text ++ ")"
  | .layoutGroup g => "LayoutGroup(" ++ axisName g.axis ++ ")"
  | .canvasGroup g => "CanvasGroup(" ++ shortNumber g.alpha ++ ")"
  | c => c.kind.name

namespace Scene

/-- The line of a node; a node that is not there has a question mark for its name. -/
def outlineLine (s : Scene) (depth : Nat) (id : NodeId) : String :=
  let size := s.sizeOf id
  let position := match s.rect? id with
    | some r => " @" ++ shortNumber r.position.x ++ "," ++ shortNumber r.position.y
    | none => ""
  let inactive := if s.isActive id then "" else " (inactive)"
  let components := (s.components id).map Component.summary
  let listed := if components = [] then "" else " [" ++ ", ".intercalate components ++ "]"
  String.ofList (List.replicate (2 * depth) ' ') ++ (s.name? id).getD "?" ++ " " ++
    shortNumber size.width ++ "x" ++ shortNumber size.height ++ position ++ inactive ++ listed

/-- The lines of a node and the nodes below it, through at most `levels` levels. -/
def outlineWithin (s : Scene) : (levels depth : Nat) → NodeId → List String
  | 0, _, _ => []
  | levels + 1, depth, id =>
    s.outlineLine depth id :: (s.children id).flatMap (outlineWithin s levels (depth + 1))

/-- The lines of a node and the nodes below it. -/
def outlineLines (s : Scene) (id : NodeId) : List String := s.outlineWithin (s.size + 1) 0 id

/-- The outline of a node and the nodes below it. -/
def outline (s : Scene) (id : NodeId) : String := "\n".intercalate (s.outlineLines id)

end Scene

end AnchoredUi.SceneGraph
