import AnchoredUi.Asset.Png.Format
import AnchoredUi.Asset.Png.Row

/-!
# Passes

The pixels of a picture come in one pass, or, interlaced, in seven passes of which each holds the
pixels of some columns in some rows. The rows of a pass are predicted from each other.

* `length_assembled`: the picture has four bytes for each of its pixels.
-/

namespace AnchoredUi.Asset.Png

/-- Every `across`-th column from `left` on, in every `down`-th row from `top` on. -/
structure Pass where
  left : Nat
  top : Nat
  across : Nat
  down : Nat
  deriving DecidableEq, Repr

namespace Pass

/-- All pixels. -/
def whole : Pass := ⟨0, 0, 1, 1⟩

/-- The passes of an interlaced picture. -/
def interlaced : List Pass :=
  [⟨0, 0, 8, 8⟩, ⟨4, 0, 8, 8⟩, ⟨0, 4, 4, 8⟩, ⟨2, 0, 4, 4⟩, ⟨0, 2, 2, 4⟩, ⟨1, 0, 2, 2⟩,
    ⟨0, 1, 1, 2⟩]

/-- How many of the numbers below `size` are met from `first` on in steps of `step`. -/
def met (first step size : Nat) : Nat := (size + step - 1 - first) / step

/-- The columns of a pass. -/
def width (p : Pass) (f : Format) : Nat := met p.left p.across f.width

/-- The rows of a pass. -/
def height (p : Pass) (f : Format) : Nat := met p.top p.down f.height

/-- The pixel in column `x` and row `y` belongs to the pass. -/
def holds (p : Pass) (x y : Nat) : Bool := x % p.across == p.left && y % p.down == p.top

end Pass

/-- The passes that a picture comes in. -/
def Format.passes (f : Format) : List Pass := if f.interlaced then Pass.interlaced else [.whole]

/-- The pixels of a pass by rows. -/
structure Layer where
  pass : Pass
  rows : Array (Array Pixel)

/-- A pixel of a picture from its passes. -/
def pixelAt (layers : List Layer) (x y : Nat) : Pixel :=
  match layers.find? fun l => l.pass.holds x y with
  | some l => ((l.rows[y / l.pass.down]?).bind (·[x / l.pass.across]?)).getD .black
  | none => .black

/-- The pixels of passes, from image data that may go on behind them. A pass without columns has no
rows. -/
def layers? (f : Format) : List Pass → (data : List UInt8) → Option (List Layer)
  | [], _ => some []
  | p :: ps, data =>
    let width := p.width f
    let height := if width = 0 then 0 else p.height f
    match rows? f.stride (f.rowLength width) height [] data with
    | none => none
    | some (rows, rest) =>
      (layers? f ps rest).map (⟨p, (rows.map fun r => (f.rowPixels width r).toArray).toArray⟩ :: ·)

/-- The bytes of a picture from its passes. -/
def assembled (f : Format) (layers : List Layer) : List UInt8 :=
  (List.range f.height).flatMap fun y =>
    (List.range f.width).flatMap fun x => (pixelAt layers x y).bytes

theorem length_assembled (f : Format) (layers : List Layer) :
    (assembled f layers).length = 4 * f.width * f.height := by
  simp [assembled, List.length_flatMap, Pixel.bytes, List.map_const', Nat.mul_comm]

end AnchoredUi.Asset.Png
