import AnchoredUi.Asset.Png.Chunk

/-!
# The meaning of samples

The header of a picture file gives its size, the bits of a sample, and what the samples of a pixel
mean. A palette gives the colors of indexed pixels, and one color, or each color of the palette,
may be transparent.

* `Format.withPalette?_eq_none`: a second palette is refused.
-/

namespace AnchoredUi.Asset.Png

/-- The four bytes of a pixel. -/
structure Pixel where
  red : UInt8
  green : UInt8
  blue : UInt8
  alpha : UInt8
  deriving DecidableEq, Repr

namespace Pixel

/-- The black pixel that nothing shows through. -/
def black : Pixel := ⟨0, 0, 0, 255⟩

/-- The bytes of a pixel in their order. -/
def bytes (p : Pixel) : List UInt8 := [p.red, p.green, p.blue, p.alpha]

end Pixel

/-! ## Kinds of pixels -/

/-- What the samples of a pixel mean. -/
inductive PixelKind where
  | gray
  | rgb
  | indexed
  | grayAlpha
  | rgba
  deriving DecidableEq, Repr

namespace PixelKind

/-- The kind that the header names. -/
def ofByte? : UInt8 → Option PixelKind
  | 0 => some gray
  | 2 => some rgb
  | 3 => some indexed
  | 4 => some grayAlpha
  | 6 => some rgba
  | _ => none

/-- The samples of a pixel. -/
def samples : PixelKind → Nat
  | gray | indexed => 1
  | grayAlpha => 2
  | rgb => 3
  | rgba => 4

/-- The bits that a sample may have; more than 8 are not read. -/
def depths : PixelKind → List Nat
  | gray | indexed => [1, 2, 4, 8]
  | rgb | grayAlpha | rgba => [8]

end PixelKind

/-! ## Formats -/

/-- What the chunks before the image data say about the pixels. -/
structure Format where
  width : Nat
  height : Nat
  depth : Nat
  kind : PixelKind
  interlaced : Bool
  palette : Option (List UInt8)
  transparent : Option (List UInt8)
  deriving DecidableEq, Repr

namespace Format

/-- What a header says. -/
def ofHeader? (data : List UInt8) : Option Format :=
  let byte (i : Nat) : UInt8 := data.getD i 0
  match PixelKind.ofByte? (byte 9) with
  | none => none
  | some kind =>
    let f : Format := {
      width := bigEndian (data.take 4)
      height := bigEndian ((data.drop 4).take 4)
      depth := (byte 8).toNat
      kind := kind
      interlaced := byte 12 = 1
      palette := none
      transparent := none }
    if 13 ≤ data.length ∧ f.depth ∈ kind.depths ∧ 0 < f.width ∧ 0 < f.height ∧ byte 10 = 0 ∧
        byte 11 = 0 ∧ byte 12 ≤ 1 then some f
    else none

/-- The format with a palette of at least one color, if it had none before. -/
def withPalette? (f : Format) (data : List UInt8) : Option Format :=
  if f.palette.isSome ∨ data = [] ∨ data.length % 3 ≠ 0 ∨ 3 * 256 < data.length then none
  else some { f with palette := some data }

theorem withPalette?_eq_none {f g : Format} {data : List UInt8} (h : f.withPalette? data = some g)
    (more : List UInt8) : g.withPalette? more = none := by
  unfold withPalette? at h
  split at h
  · cases h
  · obtain rfl := Option.some.inj h
    simp [withPalette?]

/-- The bytes may say what is transparent: a color of two bytes a sample, or, where there is a
palette for them, the opacities of its colors. -/
def admitsTransparent (f : Format) (data : List UInt8) : Bool :=
  match f.kind with
  | .gray | .rgb => 2 * f.kind.samples ≤ data.length
  | .indexed => f.palette.isSome
  | .grayAlpha | .rgba => false

/-- The format with what is transparent. Only the first such chunk counts. -/
def withTransparent (f : Format) (data : List UInt8) : Format :=
  if f.transparent.isNone ∧ f.admitsTransparent data then { f with transparent := some data }
  else f

/-- Indexed pixels have a palette. -/
def isComplete (f : Format) : Bool := f.kind != .indexed || f.palette.isSome

/-! ## Rows of samples -/

/-- The bits of a pixel. -/
def bits (f : Format) : Nat := f.depth * f.kind.samples

/-- The bytes of a row of pixels. -/
def rowLength (f : Format) (width : Nat) : Nat := (width * f.bits + 7) / 8

/-- The bytes that a prediction goes back to the left. -/
def stride (f : Format) : Nat := max 1 (f.bits / 8)

/-- The samples of a byte, from the highest bits on. -/
def samplesOf (f : Format) (b : UInt8) : List UInt8 :=
  (List.range (8 / f.depth)).map fun i =>
    UInt8.ofNat (b.toNat / Nat.pow 2 (8 - f.depth * (i + 1)) % Nat.pow 2 f.depth)

/-! ## Pixels -/

/-- A gray sample as a whole byte. -/
def widened (f : Format) (s : UInt8) : UInt8 :=
  UInt8.ofNat (s.toNat * (255 / (Nat.pow 2 f.depth - 1)))

/-- The transparent color; of its two bytes a sample, the second ones. -/
def clear? (f : Format) : Option (List UInt8) :=
  f.transparent.map fun t => (List.range f.kind.samples).map fun i => t.getD (2 * i + 1) 0

/-- The opacity of a pixel of the given samples. -/
def opacity (f : Format) (samples : List UInt8) : UInt8 :=
  if f.clear? = some samples then 0 else 255

/-- The opacity of a color of the palette. Opacities for more colors than there are say nothing. -/
def entryOpacity (f : Format) (index : Nat) : UInt8 :=
  let opacities := f.transparent.getD []
  if (f.palette.getD []).length < 3 * opacities.length then 255 else opacities.getD index 255

/-- A color of the palette; one that is missing is black. -/
def entry (f : Format) (index : Nat) : Pixel :=
  match (f.palette.getD []).drop (3 * index) with
  | r :: g :: b :: _ => ⟨r, g, b, f.entryOpacity index⟩
  | _ => .black

/-- The pixel of some samples. -/
def pixel (f : Format) (samples : List UInt8) : Pixel :=
  match f.kind, samples with
  | .gray, [s] => let v := f.widened s; ⟨v, v, v, f.opacity [s]⟩
  | .grayAlpha, [s, a] => ⟨s, s, s, a⟩
  | .rgb, [r, g, b] => ⟨r, g, b, f.opacity [r, g, b]⟩
  | .rgba, [r, g, b, a] => ⟨r, g, b, a⟩
  | .indexed, [s] => f.entry s.toNat
  | _, _ => .black

/-- The pixels that a list of samples makes up. -/
def pixels (f : Format) : (count : Nat) → List UInt8 → List Pixel
  | 0, _ => []
  | count + 1, samples =>
    f.pixel (samples.take f.kind.samples) :: f.pixels count (samples.drop f.kind.samples)

/-- The pixels of a row. -/
def rowPixels (f : Format) (width : Nat) (row : List UInt8) : List Pixel :=
  f.pixels width (row.flatMap f.samplesOf)

end Format

end AnchoredUi.Asset.Png
