import AnchoredUi.SceneGraph.Basic

/-!
# Walks through a scene

The nodes below a node in the order parents first, the nodes above a node, and the sizes that
follow from the rectangles of the nodes above. Walks are bounded by the number of nodes, which no
way through a forest exceeds.

* `head_walk`: a walk starts where it is started.
* `size_eq_zero`: a node that is not there has no size.
-/

namespace AnchoredUi.SceneGraph

open Number Plane

namespace Scene

/-! ## Downward -/

/-- The walk through at most `depth` levels. -/
def walkWithin (s : Scene) : (depth : Nat) → NodeId → List NodeId
  | 0, _ => []
  | depth + 1, id =>
    if s.contains id then id :: (s.children id).flatMap (walkWithin s depth) else []

/-- The node and all nodes below it, parents before children and siblings in order. -/
def walk (s : Scene) (id : NodeId) : List NodeId := s.walkWithin s.size id

/-- All nodes below a node. -/
def descendants (s : Scene) (id : NodeId) : List NodeId := (s.walk id).tail

/-- The walk from the root. -/
def fromRoot (s : Scene) : List NodeId :=
  match s.root with
  | some r => s.walk r
  | none => []

/-- The first node of a name. -/
def findByName? (s : Scene) (name : String) : Option NodeId :=
  s.fromRoot.find? fun id => s.name? id == some name

/-- The first node of a name below a node. -/
def findIn? (s : Scene) (start : NodeId) (name : String) : Option NodeId :=
  (s.descendants start).find? fun id => s.name? id == some name

/-- All nodes with a component of a kind. -/
def withComponent (s : Scene) (kind : ComponentKind) : List NodeId :=
  s.fromRoot.filter (s.has kind)

theorem head_walk {s : Scene} {id : NodeId} (h : s.contains id = true) (hs : 0 < s.size) :
    (s.walk id).head? = some id := by
  unfold walk
  cases hc : s.size with
  | zero => omega
  | succ n => simp [walkWithin, h]

/-! ## Upward -/

/-- At most `count` nodes above a node. -/
def ancestorsWithin (s : Scene) : (count : Nat) → NodeId → List NodeId
  | 0, _ => []
  | count + 1, id =>
    match s.parent? id with
    | some p => p :: ancestorsWithin s count p
    | none => []

/-- The nodes above a node, nearest first. -/
def ancestors (s : Scene) (id : NodeId) : List NodeId := s.ancestorsWithin s.size id

/-- The names from the top of the forest down to a node. -/
def path (s : Scene) (id : NodeId) : String :=
  "/".intercalate (((s.ancestors id).reverse ++ [id]).filterMap s.name?)

/-! ## Sizes -/

/-- The size of a node by the rectangles of at most `count` nodes. -/
def sizeWithin (s : Scene) : (count : Nat) → NodeId → Size Single
  | 0, _ => .zero
  | count + 1, id =>
    match s.rect? id with
    | none => .zero
    | some r =>
      r.size (match s.parent? id with
        | some p => sizeWithin s count p
        | none => .zero)

/-- The size of a node; a node without a parent is measured in an empty one. -/
def sizeOf (s : Scene) (id : NodeId) : Size Single := s.sizeWithin s.size id

/-- The size of the parent of a node. -/
def parentSize (s : Scene) (id : NodeId) : Size Single :=
  match s.parent? id with
  | some p => s.sizeOf p
  | none => .zero

theorem size_eq_zero {s : Scene} {id : NodeId} (h : s.rect? id = none) :
    s.sizeOf id = .zero := by
  unfold sizeOf
  cases s.size with
  | zero => rfl
  | succ n => simp [sizeWithin, h]

end Scene

end AnchoredUi.SceneGraph
