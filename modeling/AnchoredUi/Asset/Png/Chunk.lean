/-!
# Chunks

A picture file is a sequence of chunks, each with a length, a name of four bytes, data, and a
checksum over name and data.

* `Chunk.length_take?`: what follows a chunk is shorter than the file.
-/

namespace AnchoredUi.Asset.Png

/-- The number that bytes write, the most significant one first. -/
def bigEndian (bs : List UInt8) : Nat := bs.foldl (fun n b => n * 256 + b.toNat) 0

/-- The number that bytes write, the least significant one first. -/
def littleEndian (bs : List UInt8) : Nat := bigEndian bs.reverse

/-! ## The checksum -/

/-- One step of the checksum, for one bit. -/
def checkBit (c : UInt32) : UInt32 :=
  if c &&& 1 = 1 then (c >>> 1) ^^^ 0xEDB88320 else c >>> 1

/-- One step of the checksum, for one byte. -/
def checkByte (c : UInt32) (b : UInt8) : UInt32 :=
  let c := c ^^^ b.toUInt32
  checkBit (checkBit (checkBit (checkBit (checkBit (checkBit (checkBit (checkBit c)))))))

/-- The checksum of bytes. -/
def checksum (bs : List UInt8) : Nat := ((bs.foldl checkByte 0xFFFFFFFF) ^^^ 0xFFFFFFFF).toNat

/-! ## Taking a chunk -/

/-- A named piece of a file. -/
structure Chunk where
  name : List UInt8
  data : List UInt8
  /-- The checksum behind the data is the right one. -/
  isSound : Bool
  deriving DecidableEq, Repr

/-- The name of a chunk as bytes. -/
def chunkName (s : String) : List UInt8 := s.toList.map fun c => UInt8.ofNat c.toNat

/-- The name of the chunk that a file starts with. -/
def nextName? (bs : List UInt8) : Option (List UInt8) :=
  if bs.length < 8 then none else some ((bs.drop 4).take 4)

namespace Chunk

/-- A reader may skip the chunk: the first letter of its name is a small one. -/
def isOptional (c : Chunk) : Bool :=
  match c.name with
  | b :: _ => b &&& 32 != 0
  | [] => false

/-- The chunk that a file starts with, and what follows it. -/
def take? (bs : List UInt8) : Option (Chunk × List UInt8) :=
  let length := bigEndian (bs.take 4)
  let name := (bs.drop 4).take 4
  let data := (bs.drop 8).take length
  let rest := bs.drop (8 + length)
  if rest.length < 4 then none
  else some (⟨name, data, bigEndian (rest.take 4) == checksum (name ++ data)⟩, rest.drop 4)

theorem length_take? {bs rest : List UInt8} {c : Chunk} (h : take? bs = some (c, rest)) :
    rest.length < bs.length := by
  simp only [take?] at h
  split at h
  · cases h
  · rename_i hlen
    simp only [Option.some.injEq, Prod.mk.injEq] at h
    obtain ⟨-, rfl⟩ := h
    simp only [List.length_drop] at hlen ⊢
    omega

end Chunk

end AnchoredUi.Asset.Png
