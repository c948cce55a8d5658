import AnchoredUi.Plane.Rect
import AnchoredUi.SceneGraph.Component

/-!
# Scenes

A scene is a forest of nodes. A node has a name, a rectangle relative to its parent, components,
and may be inactive. The first node without a parent becomes the root of the scene.

* `node?_modify`: changing a node changes what its key finds, and nothing else.
-/

namespace AnchoredUi.SceneGraph

open Number Plane

/-- A node without its place in the forest. -/
structure Node where
  name : String
  rect : Rect Single
  components : List (Component NodeId)
  active : Bool
  deriving DecidableEq

namespace Node

/-- An active node with the usual rectangle and no components. -/
def fresh (name : String) : Node := ⟨name, .fresh, [], true⟩

/-- The node has a component of a kind. -/
def has (n : Node) (kind : ComponentKind) : Bool := n.components.any fun c => c.kind == kind

/-- The first component of a type. -/
def get? (n : Node) (α : Type) [ComponentType α] : Option α := firstOf? α n.components

/-- The node with one more component. -/
def attach (n : Node) (c : Component NodeId) : Node := { n with components := n.components ++ [c] }

end Node

/-- A node in its place: below its parent, and above its children in order. -/
structure Entry where
  node : Node
  parent : Option NodeId
  children : List NodeId
  deriving DecidableEq

/-- Nodes with their places, and the root. -/
structure Scene where
  nodes : Arena Entry
  root : Option NodeId
  deriving DecidableEq

/-- Why a scene does not do what it is asked for. -/
inductive SceneFault where
  | missingNode (id : NodeId)
  | missingParent (id : NodeId)
  deriving DecidableEq, Repr

/-- What is reported about a scene. -/
def SceneFault.message : SceneFault → String
  | missingNode id => "scene node NodeId(" ++ id.toText ++ ") does not exist"
  | missingParent id => "parent node NodeId(" ++ id.toText ++ ") does not exist"

namespace Scene

/-- A scene without nodes. -/
def empty : Scene := ⟨Arena.empty, none⟩

instance : Inhabited Scene := ⟨empty⟩

/-! ## Looking at a node -/

/-- The number of nodes. -/
def size (s : Scene) : Nat := s.nodes.size

/-- The node is there. -/
def contains (s : Scene) (id : NodeId) : Bool := s.nodes.contains id

/-- A node without its place. -/
def node? (s : Scene) (id : NodeId) : Option Node := (s.nodes.find? id).map Entry.node

/-- The parent of a node. -/
def parent? (s : Scene) (id : NodeId) : Option NodeId := (s.nodes.find? id).bind Entry.parent

/-- The children of a node in order. -/
def children (s : Scene) (id : NodeId) : List NodeId :=
  ((s.nodes.find? id).map Entry.children).getD []

/-- The name of a node. -/
def name? (s : Scene) (id : NodeId) : Option String := (s.node? id).map Node.name

/-- The rectangle of a node. -/
def rect? (s : Scene) (id : NodeId) : Option (Rect Single) := (s.node? id).map Node.rect

/-- The components of a node in order. -/
def components (s : Scene) (id : NodeId) : List (Component NodeId) :=
  ((s.node? id).map Node.components).getD []

/-- The first component of a type on a node. -/
def component? (s : Scene) (α : Type) [ComponentType α] (id : NodeId) : Option α :=
  firstOf? α (s.components id)

/-- The node has a component of a kind. -/
def has (s : Scene) (kind : ComponentKind) (id : NodeId) : Bool :=
  (s.components id).any fun c => c.kind == kind

/-- The node is there and active. -/
def isActive (s : Scene) (id : NodeId) : Bool :=
  (s.node? id).any Node.active

/-! ## Adding and removing nodes -/

/-- A new node without a parent, and the scene with it. -/
def insert (s : Scene) (n : Node) : NodeId × Scene :=
  let id := s.nodes.nextKey
  (id, ⟨s.nodes.add ⟨n, none, []⟩, some (s.root.getD id)⟩)

/-- A scene whose root is a canvas of the given size. -/
def withCanvas (width height : Single) : Scene :=
  (empty.insert {
    name := "Canvas"
    rect := .centered width height
    components := [.layoutRoot ⟨⟨width, height⟩⟩]
    active := true }).2

/-- A new last child of a node, and the scene with it. -/
def insertChild (s : Scene) (parent : NodeId) (n : Node) : Except SceneFault (NodeId × Scene) :=
  if s.contains parent then
    let id := s.nodes.nextKey
    let nodes := (s.nodes.add ⟨n, some parent, []⟩).modify parent fun e =>
      { e with children := e.children ++ [id] }
    .ok (id, { s with nodes := nodes })
  else .error (.missingParent parent)

/-- The nodes of a queue and all nodes below them, level by level; at most `count` nodes. -/
def levelOrder (s : Scene) : (count : Nat) → (queue : List NodeId) → List NodeId
  | 0, _ => []
  | _ + 1, [] => []
  | count + 1, id :: queue => id :: levelOrder s count (queue ++ s.children id)

/-- The node and all nodes below it, level by level. -/
def below (s : Scene) (id : NodeId) : List NodeId := s.levelOrder s.size [id]

/-- The scene in which a node is no child any more. -/
def unlink (s : Scene) (id : NodeId) : Arena Entry :=
  match s.parent? id with
  | some p => s.nodes.modify p fun e => { e with children := e.children.filter (· ≠ id) }
  | none => s.nodes

/-- The scene without a node and all nodes below it. -/
def without (s : Scene) (id : NodeId) : Scene where
  nodes := (s.below id).foldl Arena.erase (s.unlink id)
  root := if s.root = some id then none else s.root

/-- Takes a node out, with all nodes below it. -/
def remove (s : Scene) (id : NodeId) : Option Node × Scene :=
  match s.node? id with
  | some n => (some n, s.without id)
  | none => (none, s)

/-! ## Changing a node -/

/-- The scene with a node changed in its place. -/
def modify (s : Scene) (id : NodeId) (f : Node → Node) : Scene :=
  { s with nodes := s.nodes.modify id fun e => { e with node := f e.node } }

/-- The scene with another rectangle for a node. -/
def setRect (s : Scene) (id : NodeId) (r : Rect Single) : Scene :=
  s.modify id fun n => { n with rect := r }

/-- The scene with the components of a node changed. -/
def modifyComponents (s : Scene) (id : NodeId)
    (f : List (Component NodeId) → List (Component NodeId)) : Scene :=
  s.modify id fun n => { n with components := f n.components }

/-- The scene with the first component of a type on a node changed. -/
def modifyComponent {α : Type} [ComponentType α] (s : Scene) (id : NodeId) (f : α → α) : Scene :=
  s.modifyComponents id (modifyFirst f)

theorem node?_modify (s : Scene) (id other : NodeId) (f : Node → Node) :
    (s.modify id f).node? other = if other = id then (s.node? other).map f else s.node? other := by
  simp only [modify, node?, Arena.find?_modify]
  split <;> simp [Function.comp_def]

theorem parent?_modify (s : Scene) (id other : NodeId) (f : Node → Node) :
    (s.modify id f).parent? other = s.parent? other := by
  simp only [modify, parent?, Arena.find?_modify]
  split
  · cases s.nodes.find? other <;> rfl
  · rfl

theorem children_modify (s : Scene) (id other : NodeId) (f : Node → Node) :
    (s.modify id f).children other = s.children other := by
  simp only [modify, children, Arena.find?_modify]
  split
  · cases s.nodes.find? other <;> rfl
  · rfl

end Scene

end AnchoredUi.SceneGraph
