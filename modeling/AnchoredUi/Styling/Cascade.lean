import AnchoredUi.Styling.Apply

/-!
# The cascade

An element is styled in tiers, the weakest first: the size of the canvas for the root, the rules
of the sheet, the `style` attribute, and the attributes `width` and `height`. Before that, the
parent gets the layout group that its style asks for; after that, the declared sizes are checked
against the rectangle once more.
-/

namespace AnchoredUi.Styling

open Number Plane SceneGraph Style

namespace Subject

/-! ## Tiers -/

/-- Attaches the layout group that the style of the parent asks for, unless there is one. -/
def ensureParentGroup (x : Subject) : HostM Unit := do
  let s ← Host.current
  match x.parentNode, x.parentStyle? with
  | some parent, some style =>
    if asksForGroup style && (s.component? LayoutGroup parent).isNone then
      let around : Surroundings := ⟨s.sizeOf parent, x.canvas, x.fontSize⟩
      Host.attach parent (.layoutGroup (groupOf style around))
  | _, _ => pure ()

/-- Gives the root the size of the canvas, and marks it. -/
def markRoot (x : Subject) : HostM Unit := do
  if x.isRoot then
    Host.setRect x.node (.centered x.canvas.width x.canvas.height)
    if !(← Host.current).has .layoutRoot x.node then
      Host.attach x.node (.layoutRoot ⟨x.canvas⟩)

/-- The attributes that give sizes. -/
def sizeAttributes : List (String × Axis) := [("width", .horizontal), ("height", .vertical)]

/-- The declarations of all tiers, the weakest first. -/
def declarations (x : Subject) : List Declaration :=
  (x.sheet.matching x.element).flatMap (fun r => r.declarations.entries) ++
    (Sheet.inlineStyle x.element).entries ++
    sizeAttributes.filterMap fun (name, _) => (x.element.attr? name).map fun v => ⟨name, v⟩

/-! ## Checking the sizes -/

/-- How far a size may be from the declared one. -/
def tolerance : Single := 0.1

/-- The strongest declared size. -/
def declaredSize? (x : Subject) (name : String) : Option String :=
  match x.element.attr? name with
  | some v => some v
  | none =>
    match (Sheet.inlineStyle x.element).get? name with
    | some v => some v
    | none => x.sheet.lookup x.element name

/-- The declared extent along an axis in pixels. -/
def declaredExtent? (x : Subject) (s : Scene) (name : String) (axis : Axis) : Option Single :=
  (((x.declaredSize? name).bind fun v => (readScalar v).toOption).bind fun l =>
    (x.surroundings s).length? l axis).filter fun p => (0 : Single) ≤ p

/-- Gives the node its declared extent along an axis if it has lost it. -/
def reconcile (x : Subject) (name : String) (axis : Axis) : HostM Unit := do
  let s ← Host.current
  match x.declaredExtent? s name axis with
  | some expected =>
    if tolerance < ((s.sizeOf x.node).get axis - expected).abs then
      setExtent x.node axis expected
  | none => pure ()

/-- A refusal as a warning for the element. -/
def refusal (x : Subject) (f : SceneFault) : Warning := ⟨some x.element.label, .scene f⟩

/-- Work with the host in which a refusal becomes a warning. -/
def tryHost (x : Subject) (m : HostM Unit) : StateM Stage Unit := orWarn (onHost id m) x.refusal

/-- Styles the element. -/
def cascade (x : Subject) : StateM Stage Unit := do
  x.tryHost x.ensureParentGroup
  x.tryHost x.markRoot
  x.declarations.forM x.apply
  sizeAttributes.forM fun (name, axis) => x.tryHost (x.reconcile name axis)

end Subject

end AnchoredUi.Styling
