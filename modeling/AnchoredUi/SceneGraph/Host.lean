import AnchoredUi.SceneGraph.Walk

/-!
# Hosts

A host owns a scene and answers calls. It may refuse calls that create a node, attach a component,
set a rectangle or switch a node on and off; a refused call leaves the scene alone and is answered
as if the node were missing. Other calls are always let through.

* `scene_eq_of_refused`: a refused call changes nothing but the count of calls.
-/

namespace AnchoredUi.SceneGraph

open Number Plane

/-- The kinds of calls that a host may refuse. -/
inductive HostCall where
  | create
  | attach
  | setRect
  | setActive
  deriving DecidableEq, Repr

/-- A scene with an owner. -/
structure Host where
  scene : Scene
  /-- Whether a call is refused, given how many calls of its kind came before. -/
  refuses : HostCall → Nat → Bool
  /-- How many calls of each kind came. -/
  calls : HostCall → Nat
  /-- Layout groups are arranged when asked for. -/
  arranges : Bool

/-- Work with a host that may stop at a refusal; what was done before stays. -/
abbrev HostM := ExceptT SceneFault (StateM Host)

namespace Host

/-- A host that lets every call through. -/
def ofScene (s : Scene) : Host := ⟨s, fun _ _ => false, fun _ => 0, true⟩

/-- The host with one more call counted. -/
def count (h : Host) (call : HostCall) : Host :=
  { h with calls := fun c => if c = call then h.calls c + 1 else h.calls c }

/-- Counts a call; a refused one fails. -/
def pass (call : HostCall) (fault : SceneFault) : HostM Unit := fun h =>
  (if h.refuses call (h.calls call) then .error fault else .ok (), h.count call)

theorem scene_eq_of_refused {call : HostCall} {fault : SceneFault} {h : Host} :
    (pass call fault h).2.scene = h.scene := rfl

/-- Changes a node of the scene, which has to be there. -/
def change (id : NodeId) (f : Scene → Scene) : HostM Unit := fun h =>
  if h.scene.contains id then (.ok (), { h with scene := f h.scene })
  else (.error (.missingNode id), h)

/-! ## Calls -/

/-- Creates a node below another one. -/
def create (name : String) (parent : NodeId) : HostM NodeId := do
  pass .create (.missingParent parent)
  fun h =>
    match h.scene.insertChild parent (.fresh name) with
    | .ok (id, s) => (.ok id, { h with scene := s })
    | .error f => (.error f, h)

/-- Destroys a node and all nodes below it. -/
def destroy (id : NodeId) : HostM Unit := change id fun s => s.without id

/-- Sets the rectangle of a node. -/
def setRect (id : NodeId) (r : Rect Single) : HostM Unit := do
  pass .setRect (.missingNode id)
  change id fun s => s.setRect id r

/-- Attaches a component to a node. -/
def attach (id : NodeId) (c : Component NodeId) : HostM Unit := do
  pass .attach (.missingNode id)
  change id fun s => s.modifyComponents id (· ++ [c])

/-- Switches a node on or off. -/
def setActive (id : NodeId) (active : Bool) : HostM Unit := do
  pass .setActive (.missingNode id)
  change id fun s => s.modify id fun n => { n with active := active }

/-! ## What follows from the calls -/

/-- The scene of the host. -/
def current : HostM Scene := fun h => (.ok h.scene, h)

/-- Changes the rectangle of a node. -/
def updateRect (id : NodeId) (f : Rect Single → Rect Single) : HostM Unit := do
  match (← current).rect? id with
  | some r => setRect id (f r)
  | none => throw (.missingNode id)

/-- Changes the first component of a type on a node, if there is one. -/
def updateComponent {α : Type} [ComponentType α] (id : NodeId) (f : α → α) : HostM Unit := fun h =>
  (.ok (), { h with scene := h.scene.modifyComponent id f })

/-- Changes the first component of a type on a node; if there is none, a given one is attached and
changed. -/
def ensureComponent {α : Type} [ComponentType α] (id : NodeId) (new : α) (f : α → α) :
    HostM Unit := do
  if !(← current).has (ComponentType.kind α) id then
    attach id (ComponentType.wrap new)
  match (← current).component? α id with
  | some _ => updateComponent id f
  | none => throw (.missingNode id)

end Host

end AnchoredUi.SceneGraph
