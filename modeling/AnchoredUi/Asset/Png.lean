import AnchoredUi.Asset.Picture
import AnchoredUi.Asset.Png.Pass
import AnchoredUi.Asset.Png.Stream

/-!
# Picture files

The file format of pictures: a signature, then chunks. The chunks before the image data tell its
format; the image data is one stream, cut into chunks that follow each other without a gap.
Nothing behind them is read. Read are files of at most 8 bits a sample, whose stream is stored in
plain blocks.

* `length_picture?`: a picture has four bytes for each of its pixels.
-/

namespace AnchoredUi.Asset.Png

/-! ## Before the image data -/

/-- What the chunks so far say: the format, and the last number of the frames of an animation. -/
structure Heading where
  format : Format
  frame : Option Nat
  deriving DecidableEq, Repr

namespace Heading

/-- Announces a frame. Before the image data it must be numbered in order and cover the picture. -/
def announce? (h : Heading) (data : List UInt8) : Option Heading :=
  let word (i : Nat) : Nat := bigEndian ((data.drop (4 * i)).take 4)
  let number := (h.frame.map (· + 1)).getD 0
  let covers := word 1 = h.format.width ∧ word 2 = h.format.height ∧ word 3 = 0 ∧ word 4 = 0
  if 26 ≤ data.length ∧ word 0 = number ∧ covers ∧ data.getD 24 0 ≤ 2 ∧ data.getD 25 0 ≤ 1 then
    some { h with frame := some number }
  else none

/-- Adds what a chunk says. An optional chunk with a wrong checksum says nothing; other faults, a
second header, and chunks that are unknown and not optional make the file unreadable. -/
def add? (h : Heading) (c : Chunk) : Option Heading :=
  if !c.isSound then if c.isOptional then some h else none
  else if c.name = chunkName "PLTE" then
    (h.format.withPalette? c.data).map fun f => { h with format := f }
  else if c.name = chunkName "tRNS" then
    some { h with format := h.format.withTransparent c.data }
  else if c.name = chunkName "fcTL" then h.announce? c.data
  else if c.isOptional then some h
  else none

end Heading

/-- The chunk holds image data: that of the picture, or that of a frame. -/
def isImageData (name : List UInt8) : Bool := name == chunkName "IDAT" || name == chunkName "fdAT"

/-- What the chunks up to the image data say, and the file from the image data on. -/
def headingFrom? (h : Heading) (bs : List UInt8) : Option (Heading × List UInt8) :=
  if (nextName? bs).any isImageData then some (h, bs)
  else
    match taken : Chunk.take? bs with
    | none => none
    | some (c, rest) =>
      have := Chunk.length_take? taken
      match h.add? c with
      | none => none
      | some h => headingFrom? h rest
termination_by bs.length

/-- What the chunks before the image data say, from the header on. -/
def heading? (bs : List UInt8) : Option (Heading × List UInt8) :=
  match Chunk.take? bs with
  | none => none
  | some (c, rest) =>
    if c.name = chunkName "IHDR" ∧ c.isSound then
      match Format.ofHeader? c.data with
      | none => none
      | some f => headingFrom? ⟨f, none⟩ rest
    else none

/-! ## The image data -/

/-- The image data of a chunk, and the last number after it. The chunks of a frame go on with the
numbers of the announcements. -/
def imageBytes? (c : Chunk) (frame : Option Nat) : Option (List UInt8 × Option Nat) :=
  if !c.isSound then none
  else if c.name = chunkName "IDAT" then some (c.data, frame)
  else
    match frame with
    | none => none
    | some n =>
      if c.data.length < 4 ∨ bigEndian (c.data.take 4) ≠ n + 1 then none
      else some (c.data.drop 4, some (n + 1))

/-- The image data of the chunks of one name that a file starts with. Another chunk must follow. -/
def imageData? (name : List UInt8) (frame : Option Nat) (bs : List UInt8) :
    Option (List UInt8) :=
  match nextName? bs with
  | none => none
  | some next =>
    if next ≠ name then some []
    else
      match taken : Chunk.take? bs with
      | none => none
      | some (c, rest) =>
        have := Chunk.length_take? taken
        match imageBytes? c frame with
        | none => none
        | some (data, frame) => (imageData? name frame rest).map (data ++ ·)
termination_by bs.length

/-! ## The picture -/

/-- The bytes that every picture file starts with. -/
def signature : List UInt8 := [137, 80, 78, 71, 13, 10, 26, 10]

/-- The picture that image data holds. -/
def Format.picture? (f : Format) (stream : List UInt8) : Option Picture :=
  if f.isComplete then
    match streamContents? stream with
    | none => none
    | some data =>
      (layers? f f.passes data).map fun layers => ⟨f.width, f.height, assembled f layers⟩
  else none

/-- The picture that a file holds. -/
def picture? (file : List UInt8) : Option Picture :=
  if signature.isPrefixOf file then
    match heading? (file.drop signature.length) with
    | none => none
    | some (h, rest) =>
      (imageData? ((nextName? rest).getD []) h.frame rest).bind h.format.picture?
  else none

theorem Format.length_picture? {f : Format} {stream : List UInt8} {p : Picture}
    (h : f.picture? stream = some p) : p.bytes.length = 4 * p.width * p.height := by
  unfold Format.picture? at h
  split at h
  · split at h
    · cases h
    · obtain ⟨layers, -, rfl⟩ := Option.map_eq_some_iff.mp h
      exact length_assembled f layers
  · cases h

theorem length_picture? {file : List UInt8} {p : Picture} (h : picture? file = some p) :
    p.bytes.length = 4 * p.width * p.height := by
  unfold picture? at h
  split at h
  · split at h
    · cases h
    · obtain ⟨stream, -, hp⟩ := Option.bind_eq_some_iff.mp h
      exact Format.length_picture? hp
  · cases h

end AnchoredUi.Asset.Png
