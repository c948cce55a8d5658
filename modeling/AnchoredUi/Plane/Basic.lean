import AnchoredUi.Number.Measure

/-!
# The plane

Vectors and sizes in canvas pixels, with `x` to the right and `y` upward, and the two axes along
which either is read.

* `get_set_self`, `get_set_cross`: writing one component leaves the other one alone.
-/

namespace AnchoredUi.Plane

open Number

/-- One of the two directions of the plane. -/
inductive Axis where
  | horizontal
  | vertical
  deriving DecidableEq, Repr

/-- The other axis. -/
def Axis.cross : Axis → Axis
  | .horizontal => .vertical
  | .vertical => .horizontal

@[simp] theorem Axis.cross_cross (a : Axis) : a.cross.cross = a := by
  cases a <;> rfl

/-! ## Vectors -/

/-- A vector of the plane. -/
structure Vec2 (α : Type) where
  x : α
  y : α
  deriving DecidableEq

namespace Vec2

variable {α : Type} [Measure α]

instance : Add (Vec2 α) := ⟨fun a b => ⟨a.x + b.x, a.y + b.y⟩⟩

instance : Sub (Vec2 α) := ⟨fun a b => ⟨a.x - b.x, a.y - b.y⟩⟩

instance : Neg (Vec2 α) := ⟨fun a => ⟨-a.x, -a.y⟩⟩

/-- Both components multiplied by one factor. -/
def times (a : Vec2 α) (k : α) : Vec2 α := ⟨a.x * k, a.y * k⟩

/-- The product component by component. -/
def scale (a b : Vec2 α) : Vec2 α := ⟨a.x * b.x, a.y * b.y⟩

/-- The origin. -/
def zero : Vec2 α := ⟨0, 0⟩

/-- Both components one. -/
def one : Vec2 α := ⟨1, 1⟩

/-- Both components one half. -/
def middle : Vec2 α := ⟨Measure.half, Measure.half⟩

/-- The top left corner of the unit square. -/
def topLeft : Vec2 α := ⟨0, 1⟩

/-- The component along an axis. -/
def get {α : Type} (a : Vec2 α) : Axis → α
  | .horizontal => a.x
  | .vertical => a.y

/-- The vector with the component along an axis replaced. -/
def set {α : Type} (a : Vec2 α) (axis : Axis) (value : α) : Vec2 α :=
  match axis with
  | .horizontal => { a with x := value }
  | .vertical => { a with y := value }

@[simp] theorem get_set_self {α : Type} (a : Vec2 α) (axis : Axis) (v : α) :
    (a.set axis v).get axis = v := by
  cases axis <;> rfl

@[simp] theorem get_set_cross {α : Type} (a : Vec2 α) (axis : Axis) (v : α) :
    (a.set axis v).get axis.cross = a.get axis.cross := by
  cases axis <;> rfl

/-- Both components differ by no more than a tolerance. -/
def near (a b : Vec2 Single) (tolerance : Single) : Bool :=
  (a.x - b.x).abs ≤ tolerance && (a.y - b.y).abs ≤ tolerance

end Vec2

/-! ## Sizes -/

/-- A width and a height. -/
structure Size (α : Type) where
  width : α
  height : α
  deriving DecidableEq

namespace Size

variable {α : Type}

/-- The empty size. -/
def zero [Measure α] : Size α := ⟨0, 0⟩

/-- The extent along an axis. -/
def get (s : Size α) : Axis → α
  | .horizontal => s.width
  | .vertical => s.height

/-- The size from two extents along an axis and across it. -/
def ofAxes (axis : Axis) (along across : α) : Size α :=
  match axis with
  | .horizontal => ⟨along, across⟩
  | .vertical => ⟨across, along⟩

/-- The size with the components of a vector. -/
def ofVec2 (v : Vec2 α) : Size α := ⟨v.x, v.y⟩

/-- The vector with the components of a size. -/
def toVec2 (s : Size α) : Vec2 α := ⟨s.width, s.height⟩

@[simp] theorem get_ofAxes (axis : Axis) (a b : α) : (ofAxes axis a b).get axis = a := by
  cases axis <;> rfl

@[simp] theorem get_ofAxes_cross (axis : Axis) (a b : α) :
    (ofAxes axis a b).get axis.cross = b := by
  cases axis <;> rfl

end Size

end AnchoredUi.Plane
