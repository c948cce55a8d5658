import AnchoredUi.Flow.Line
import AnchoredUi.SceneGraph.Host

/-!
# Arranging the children of groups

A node with a layout group lays out its children on a line along the axis of the group. Children
that are inactive, or ask to be ignored, stay where they are. The parents come before their
children, so that inner groups see the sizes that outer ones gave them.

* `arrangeAll_root`: arranging changes nothing about the root of the scene.
-/

namespace AnchoredUi.Flow

open Number Plane SceneGraph

/-! ## From nodes to a line -/

/-- A number that is not negative. -/
def notNegative (x : Single) : Single := Measure.larger x 0

/-- A padding before the children along an axis, from the left or from the top. -/
def paddingBefore (p : Spacing Single) : Axis → Single
  | .horizontal => p.left
  | .vertical => p.top

/-- What the paddings along an axis take together. -/
def paddingAlong (p : Spacing Single) : Axis → Single
  | .horizontal => p.width
  | .vertical => p.height

/-- The room of a group along an axis, inside its paddings. -/
def roomAlong (g : LayoutGroup) (size : Size Single) (axis : Axis) : Single :=
  let padding := paddingAlong g.padding axis
  Measure.larger (size.get axis) padding - padding

/-- The line of a group of the given size. Across the line there is never less than no room. -/
def frameOf (g : LayoutGroup) (size : Size Single) : Frame Single where
  start := paddingBefore g.padding g.axis
  room := roomAlong g size g.axis
  startAcross := paddingBefore g.padding g.axis.cross
  roomAcross := notNegative (roomAlong g size g.axis.cross)
  gap := g.spacing
  reverse := g.reverse
  justify := g.align.along g.axis

/-- How a child stands across the line: as it asks itself, else as the group says. -/
def alignOf (g : LayoutGroup) (hints : LayoutHints) : CrossAlign :=
  match hints.alignSelf with
  | some a => a
  | none =>
    if g.expands g.axis.cross then .stretch
    else
      match g.align.along g.axis.cross with
      | .start => .start
      | .center => .center
      | .finish => .finish

/-- The extent of a child along an axis: the preferred one, else the present one. -/
def wantedExtent (hints : LayoutHints) (size : Size Single) (axis : Axis) : Single :=
  notNegative ((hints.preferred.get axis).getD (size.get axis))

/-- How readily a child grows along the line. -/
def growOf (g : LayoutGroup) (hints : LayoutHints) : Single :=
  let grow := notNegative ((hints.flexible.get g.axis).getD 0)
  if g.expands g.axis ∧ grow = 0 then 1 else grow

/-- A child of the given size as an item of the line. -/
def itemOf (g : LayoutGroup) (hints : LayoutHints) (size : Size Single) : LineItem Single where
  basis := wantedExtent hints size g.axis
  least := notNegative ((hints.least.get g.axis).getD 0)
  grow := growOf g hints
  across :=
    if hints.alignSelf = some .stretch ∨ g.expands g.axis.cross then
      if alignOf g hints = .stretch then .whole else .least
    else .fixed (wantedExtent hints size g.axis.cross)
  leastAcross := notNegative ((hints.least.get g.axis.cross).getD 0)
  place := match alignOf g hints with
    | .start | .stretch => .start
    | .center => .center
    | .finish => .finish

/-- The rectangle of a child with the given spans along and across the line. Spans run downward,
rectangles upward. -/
def rectOf {α : Type} [Measure α] (axis : Axis) (along across : Span α) : Rect α :=
  let (x, y) := match axis with
    | .horizontal => (along.rounded, across.rounded)
    | .vertical => (across.rounded, along.rounded)
  (Rect.topLeft x.extent y.extent).withPosition ⟨x.start, -y.start⟩

/-! ## Groups of a scene -/

/-- What a node asks of its group. -/
def hintsOf (s : Scene) (id : NodeId) : LayoutHints :=
  (s.component? LayoutHints id).getD .none

/-- The children that a group lays out. -/
def inFlow (s : Scene) (id : NodeId) : List NodeId :=
  (s.children id).filter fun c => s.isActive c && !(hintsOf s c).ignored

/-- The rectangles that a group gives its children. -/
def placements (s : Scene) (id : NodeId) (g : LayoutGroup) : List (NodeId × Rect Single) :=
  let children := inFlow s id
  let items := children.map fun c => itemOf g (hintsOf s c) (s.sizeOf c)
  let spans := (frameOf g (s.sizeOf id)).spans items
  children.zip (spans.map fun (along, across) => rectOf g.axis along across)

/-- The scene with the children of one node laid out, if the node is active and has a group. -/
def arrange (s : Scene) (id : NodeId) : Scene :=
  if s.isActive id then
    match s.component? LayoutGroup id with
    | some g => (placements s id g).foldl (fun s p => s.setRect p.1 p.2) s
    | none => s
  else s

/-- The scene with all groups from a node on laid out. -/
def arrangeAll (s : Scene) (id : NodeId) : Scene := (s.walk id).foldl arrange s

theorem root_setRects (ps : List (NodeId × Rect Single)) (s : Scene) :
    (ps.foldl (fun s p => s.setRect p.1 p.2) s).root = s.root := by
  induction ps generalizing s with
  | nil => rfl
  | cons p ps ih =>
    rw [List.foldl_cons]
    exact ih (s.setRect p.1 p.2)

/-- A node that is active and has a group lays out its children; any other one does nothing. -/
theorem arrange_cases (s : Scene) (id : NodeId) :
    arrange s id = s ∨ ∃ g, s.isActive id = true ∧ s.component? LayoutGroup id = some g ∧
      arrange s id = (placements s id g).foldl (fun s p => s.setRect p.1 p.2) s := by
  unfold arrange
  split
  · rename_i hActive
    split
    · rename_i g hGroup
      exact Or.inr ⟨g, hActive, hGroup, rfl⟩
    · exact Or.inl rfl
  · exact Or.inl rfl

theorem arrange_root (s : Scene) (id : NodeId) : (arrange s id).root = s.root := by
  rcases arrange_cases s id with hSame | ⟨g, -, -, hSet⟩
  · rw [hSame]
  · rw [hSet]
    exact root_setRects _ s

theorem arrangeAll_root (s : Scene) (id : NodeId) : (arrangeAll s id).root = s.root := by
  unfold arrangeAll
  generalize s.walk id = ids
  induction ids generalizing s with
  | nil => rfl
  | cons i ids ih =>
    rw [List.foldl_cons, ih]
    exact arrange_root s i

end AnchoredUi.Flow

namespace AnchoredUi.SceneGraph.Host

/-- Lays out all groups from a node on, if the host does so. -/
def rebuild (id : NodeId) : HostM Unit := fun h =>
  (.ok (), if h.arranges then { h with scene := Flow.arrangeAll h.scene id } else h)

end AnchoredUi.SceneGraph.Host
