import AnchoredUi.Flow.Arrange
import AnchoredUi.Sprite.Finder
import AnchoredUi.Style.Sheet
import AnchoredUi.Styling.GroupStyle
import AnchoredUi.Warning

/-!
# Subjects of styling

A subject is an element with the node that stands for it, in its surroundings. Styling works on a
stage: the host of the scene, the finder of sprites, and the warnings raised so far.
-/

namespace AnchoredUi.Styling

open Number Plane SceneGraph Style Markup Sprite

/-- What is styled: an element with its node, below the node and the element of its parent. -/
structure Subject where
  element : Element
  node : NodeId
  parentElement : Option Element
  parentNode : Option NodeId
  canvas : Size Single
  sheet : Sheet
  fontSize : Single
  isRoot : Bool

namespace Subject

/-- What is declared for the element. -/
def style (x : Subject) : Declarations := x.sheet.declared x.element

/-- What is declared for the parent element. -/
def parentStyle? (x : Subject) : Option Declarations := x.parentElement.map x.sheet.declared

/-- The group that lays out the node. -/
def parentGroup? (x : Subject) (s : Scene) : Option LayoutGroup :=
  x.parentNode.bind (s.component? LayoutGroup)

/-- The axis along which the node is laid out: that of its group, else the declared one. -/
def mainAxis (x : Subject) (s : Scene) : Axis :=
  match x.parentGroup? s with
  | some g => g.axis
  | none => ((x.parentStyle?.map directionOf).getD .column).axis

/-- What the lengths of the node refer to. -/
def surroundings (x : Subject) (s : Scene) : Surroundings :=
  surroundingsOf s x.node x.canvas x.fontSize

end Subject

/-- The host, the finder, and the warnings raised so far. -/
structure Stage where
  host : Host
  finder : Finder
  warnings : List Warning

/-- Why a declaration is not applied. -/
inductive ApplyFault where
  | value (fault : ValueFault)
  | scene (fault : SceneFault)
  deriving DecidableEq

/-- Work on a stage that may stop at a fault; what was done before stays. -/
abbrev StageM (ε : Type) := ExceptT ε (StateM Stage)

/-- Work with the host of the stage. -/
def onHost {ε α : Type} (fault : SceneFault → ε) (m : HostM α) : StageM ε α := fun st =>
  let (r, host) := m st.host
  (match r with
    | .ok a => .ok a
    | .error f => .error (fault f), { st with host := host })

/-- The scene on the stage. -/
def currentScene {ε : Type} : StageM ε Scene := fun st => (.ok st.host.scene, st)

/-- Adds warnings to those raised so far. -/
def raise (ws : List Warning) : StateM Stage Unit := fun st =>
  ((), { st with warnings := st.warnings ++ ws })

/-- Raises a warning. -/
def warn {ε : Type} (label : Option String) (cause : WarningCause) : StageM ε Unit := fun st =>
  (.ok (), { st with warnings := st.warnings ++ [⟨label, cause⟩] })

/-- Looks for a sprite. -/
def findSprite {ε : Type} (address : String) : StageM ε (Option Sprite) := fun st =>
  let (found, finder) := st.finder.find address
  (.ok (found.map FoundSprite.sprite), { st with finder := finder })

/-- Does work that cannot fail any more: a fault is turned into a warning. -/
def orWarn {ε : Type} (m : StageM ε Unit) (cause : ε → Warning) : StateM Stage Unit := fun st =>
  match m st with
  | (.ok (), st) => ((), st)
  | (.error f, st) => raise [cause f] st

end AnchoredUi.Styling
