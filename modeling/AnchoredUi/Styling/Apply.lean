import AnchoredUi.Styling.Change
import AnchoredUi.Styling.Subject

/-!
# Applying declarations

A change is made on the node of the subject, or on the node that holds its text. A change that the
scene refuses, or whose value makes no sense for the node, is reported and not made.
-/

namespace AnchoredUi.Styling

open Number Plane SceneGraph Style Sprite

/-- Makes changes on the host; a refusal is the fault. -/
def hostWork (m : HostM Unit) : StageM ApplyFault Unit := onHost .scene m

/-- Changes the layout hints of a node. -/
def updateHints (id : NodeId) (f : LayoutHints → LayoutHints) : HostM Unit :=
  Host.ensureComponent id LayoutHints.none f

/-- Changes the graphic of a node. -/
def updateGraphic (id : NodeId) (f : Graphic → Graphic) : HostM Unit :=
  Host.ensureComponent id (Graphic.colored .white) f

/-- Gives a node an extent along an axis; its anchors stay. -/
def setExtent (id : NodeId) (axis : Axis) (extent : Single) : HostM Unit := do
  let parent := (← Host.current).parentSize id
  Host.updateRect id fun r => r.setSize axis extent parent

namespace Subject

/-! ## Sizes and hints -/

/-- Sets the extent of the node along an axis. -/
def setSize (x : Subject) (axis : Axis) (value : Scalar) : StageM ApplyFault Unit := do
  let s ← currentScene
  match (x.surroundings s).length? value axis with
  | some pixels =>
    if pixels < 0 then throw (.value .negativeSize)
    else hostWork (setExtent x.node axis pixels)
  | none => hostWork (setExtent x.node axis (contentExtent s x.node axis))

/-- Changes the hints of the node by a length along an axis. -/
def setHint (x : Subject) (axis : Axis) (value : Scalar)
    (f : Option Single → LayoutHints → LayoutHints) : StageM ApplyFault Unit := do
  let pixels := (x.surroundings (← currentScene)).length? value axis
  hostWork (updateHints x.node (f pixels))

/-- Sets the preferred extent along the axis of the parent. -/
def setBasis (x : Subject) (value : Scalar) : StageM ApplyFault Unit := do
  let axis := x.mainAxis (← currentScene)
  x.setHint axis value fun pixels h => { h with preferred := h.preferred.set axis pixels }

/-- Sets how readily the node grows along the axis of the parent. -/
def setGrow (x : Subject) (factor : Single) : StageM ApplyFault Unit := do
  let axis := x.mainAxis (← currentScene)
  hostWork (updateHints x.node fun h => { h with flexible := h.flexible.set axis (some factor) })

/-! ## Places -/

/-- Puts an edge of the node at a distance from that of the parent; `auto` leaves it. -/
def setInset (x : Subject) (side : Rect.Side) (distance : Scalar) : StageM ApplyFault Unit := do
  let s ← currentScene
  match (x.surroundings s).length? distance side.axis with
  | some d => hostWork (Host.updateRect x.node fun r => r.inset side d (s.parentSize x.node))
  | none => pure ()

/-- Takes the node out of the layout of its parent, over the whole parent. -/
def setPosition (x : Subject) : Position → StageM ApplyFault Unit
  | .relative => pure ()
  | .absolute => do
    hostWork (Host.setRect x.node .stretched)
    hostWork (updateHints x.node fun h => { h with ignored := true })

/-- The pixels of the sides of a box; a side that is not named is nothing. -/
def sidePixels (x : Subject) (s : Scene) (sides : Spacing (Option Scalar)) :
    Spacing (Option Single) :=
  let around := x.surroundings s
  ⟨sides.top.map (around.pixels · .vertical), sides.right.map (around.pixels · .horizontal),
    sides.bottom.map (around.pixels · .vertical), sides.left.map (around.pixels · .horizontal)⟩

/-- Moves the node by its margins. -/
def setMargin (x : Subject) (sides : Spacing (Option Scalar)) : StageM ApplyFault Unit := do
  let p := x.sidePixels (← currentScene) sides
  hostWork (Host.updateRect x.node fun r =>
    r.shift (p.top.getD 0) (p.right.getD 0) (p.bottom.getD 0) (p.left.getD 0))

/-- A padding with the named sides replaced. -/
def overPadding (p : Spacing Single) (sides : Spacing (Option Single)) : Spacing Single :=
  ⟨sides.top.getD p.top, sides.right.getD p.right, sides.bottom.getD p.bottom,
    sides.left.getD p.left⟩

/-- Sets the padding of the group of the node. A node without a group is made smaller, unless its
style asks for a group: that group will have the padding. -/
def setPadding (x : Subject) (sides : Spacing (Option Scalar)) : StageM ApplyFault Unit := do
  let s ← currentScene
  let p := x.sidePixels s sides
  if (s.component? LayoutGroup x.node).isSome then
    hostWork (Host.updateComponent x.node fun g : LayoutGroup =>
      { g with padding := overPadding g.padding p })
  else if asksForGroup x.style then pure ()
  else
    hostWork (Host.updateRect x.node fun r =>
      r.shrink (p.top.getD 0) (p.right.getD 0) (p.bottom.getD 0) (p.left.getD 0))

/-- Brings the group of the node in line with its style. -/
def setGroup (x : Subject) : StageM ApplyFault Unit :=
  hostWork (Host.updateComponent x.node (configure x.style))

/-- How an alignment is written down for a group. -/
def crossAlign : Align → Option CrossAlign
  | .auto => none
  | .start => some .start
  | .center => some .center
  | .finish => some .finish
  | .stretch => some .stretch

/-- Where the start, the middle and the end of an axis lie in the parent; vertically, the start is
at the top. -/
def crossFraction (axis : Axis) : Placement → Single
  | .start => match axis with
    | .horizontal => 0
    | .vertical => 1
  | .center => Measure.half
  | .finish => match axis with
    | .horizontal => 1
    | .vertical => 0

/-- Moves the node to a place across the axis of its parent. -/
def moveAcross (x : Subject) (axis : Axis) (place : Placement) : StageM ApplyFault Unit := do
  let parent := (← currentScene).parentSize x.node
  hostWork (Host.updateRect x.node fun r =>
    (r.pin axis (crossFraction axis place) parent).moveTo axis 0)

/-- The hints of a node that is stretched along an axis. -/
def stretched (axis : Axis) (h : LayoutHints) : LayoutHints :=
  { h with flexible := h.flexible.set axis (some 1) }

/-- Places the node across the axis of its parent: by a hint for the group of the parent, else by
itself. -/
def setAlignSelf (x : Subject) (align : Align) : StageM ApplyFault Unit := do
  let s ← currentScene
  let axis := (x.mainAxis s).cross
  if (x.parentGroup? s).isSome then
    hostWork (updateHints x.node fun h =>
      let h := { h with alignSelf := crossAlign align }
      if align = .stretch then stretched axis h else h)
  else
    match align with
    | .auto => pure ()
    | .start => x.moveAcross axis .start
    | .center => x.moveAcross axis .center
    | .finish => x.moveAcross axis .finish
    | .stretch => do
      hostWork (updateHints x.node (stretched axis))
      hostWork (Host.updateRect x.node fun r => r.stretch axis)

/-! ## Looks -/

/-- Gives the node a picture, or takes it away. -/
def setBackground (x : Subject) (address : String) : StageM ApplyFault Unit := do
  if Finder.asksNothing address then
    hostWork (Host.updateComponent x.node fun g : Graphic => { g with sprite := none })
  else
    match ← findSprite address with
    | some sprite =>
      if sprite.isPlaceholder then warn (some x.element.label) (.drawingReplaced address)
      hostWork (updateGraphic x.node fun g => { g with sprite := some sprite })
    | none => warn (some x.element.label) (.backgroundMissing address)

/-- Sets the opacity of the node and everything below it. -/
def setOpacity (x : Subject) (alpha : Single) : StageM ApplyFault Unit := do
  if ((← currentScene).component? CanvasGroup x.node).isSome then
    hostWork (Host.updateComponent x.node fun g : CanvasGroup => { g with alpha := alpha })
  else hostWork (Host.attach x.node (.canvasGroup ⟨alpha⟩))

/-- Clips the children of the node, unless they are clipped already. -/
def setOverflow (x : Subject) (value : Overflow) : StageM ApplyFault Unit := do
  let s ← currentScene
  let clipped := s.has .rectMask x.node || s.has .mask x.node
  if value = .hidden ∧ !clipped then hostWork (Host.attach x.node (.rectMask {}))

/-! ## Texts -/

/-- A font size that a text can have. -/
def fontSizeOf? (around : Surroundings) (value : Scalar) : Option Single :=
  let pixels : Option Single := match value.unit with
    | .percent => some (around.fontSize * value.value / 100)
    | _ => around.length? value .vertical
  pixels.filter fun p => 0 < p ∧ p.isFinite

/-- The text with a change made. -/
def changedText (around : Surroundings) (t : TextBlock) : TextChange → Except ValueFault TextBlock
  | .color c => .ok { t with color := c }
  | .size v =>
    match fontSizeOf? around v with
    | some p => .ok { t with fontSize := p }
    | none => .error .badFontSize
  | .bold b => .ok { t with bold := b }
  | .shape f => .ok { t with bold := f.isBold, italic := f.isItalic }
  | .anchor a => .ok { t with anchor := a }
  | .space w => .ok { t with wraps := w == .normal }

/-- Changes the text of the node; a node without a text has nothing to change, but the value still
has to make sense. -/
def setText (x : Subject) (change : TextChange) : StageM ApplyFault Unit := do
  let s ← currentScene
  let around := x.surroundings s
  let text := (textOf? s x.node).getD (.plain "" "" 0)
  match changedText around text change with
  | .error f => throw (.value f)
  | .ok changed =>
    match textNode? s x.node with
    | some id => hostWork (Host.updateComponent id fun _ : TextBlock => changed)
    | none => pure ()

/-! ## All changes -/

/-- Makes a change. -/
def perform (x : Subject) : Change → StageM ApplyFault Unit
  | .size axis value => x.setSize axis value
  | .leastSize axis value =>
    x.setHint axis value fun pixels h => { h with least := h.least.set axis pixels }
  | .preferredSize axis value =>
    x.setHint axis value fun pixels h => { h with preferred := h.preferred.set axis pixels }
  | .basis value => x.setBasis value
  | .grow factor => x.setGrow factor
  | .shrink _ => pure ()
  | .inset side distance => x.setInset side distance
  | .position value => x.setPosition value
  | .margin sides => x.setMargin sides
  | .padding sides => x.setPadding sides
  | .group => x.setGroup
  | .alignSelf value => x.setAlignSelf value
  | .display value => hostWork (Host.setActive x.node (value != .hidden))
  | .graphicColor value => hostWork (updateGraphic x.node fun g => { g with color := value })
  | .backgroundImage address => x.setBackground address
  | .backgroundSize value =>
    hostWork (updateGraphic x.node fun g => { g with keepsAspect := value.preservesAspect })
  | .backgroundRepeat value =>
    hostWork (updateGraphic x.node fun g =>
      { g with fill := if value = .tiled then .tiled else .simple })
  | .opacity value => x.setOpacity value
  | .overflow value => x.setOverflow value
  | .text change => x.setText change

/-- A fault of a declaration of the element as a warning. -/
def faultWarning (x : Subject) (p : Property) (f : ApplyFault) : Warning where
  label := some x.element.label
  cause := match f with
    | .value f => .style (.invalidValue p.name f)
    | .scene f => .scene f

/-- Applies a declaration: what it asks for is read and done, and a fault becomes a warning. -/
def apply (x : Subject) (d : Declaration) : StateM Stage Unit :=
  match Property.named? d.property with
  | none => raise [⟨some x.element.label, .style (.unknownProperty d.property)⟩]
  | some p =>
    orWarn (do
      match Change.read p d.value with
      | .ok change => x.perform change
      | .error f => throw (.value f)) (x.faultWarning p)

end Subject

end AnchoredUi.Styling
