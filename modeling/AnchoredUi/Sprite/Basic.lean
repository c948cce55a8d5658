import AnchoredUi.Asset.Address
import AnchoredUi.Asset.Picture

/-!
# Sprites

A sprite is a picture with a name, ready to be drawn, that remembers where it came from.
-/

namespace AnchoredUi

open Asset

/-- Where a sprite came from: an asset that was one, a picture that was converted, or a drawing
that the test pattern stands in for. -/
inductive Sprite.Origin where
  | asset (path : String)
  | converted (path : String)
  | placeholder (path : String)
  deriving DecidableEq, Repr

/-- The path that the sprite was made from. -/
def Sprite.Origin.path : Sprite.Origin → String
  | asset p | converted p | placeholder p => p

/-- A named picture. -/
structure Sprite where
  name : String
  picture : Picture
  origin : Sprite.Origin
  deriving DecidableEq

namespace Sprite

/-- A sprite named after its path. -/
def ofPicture (origin : Origin) (picture : Picture) : Sprite where
  name := spriteName origin.path
  picture := picture
  origin := origin

/-- The test pattern in place of a drawing. -/
def placeholder (path : String) : Sprite := ofPicture (.placeholder path) Picture.pattern

/-- The test pattern stands in. -/
def isPlaceholder (s : Sprite) : Bool :=
  match s.origin with
  | .placeholder _ => true
  | _ => false

theorem isPlaceholder_iff (s : Sprite) :
    s.isPlaceholder = true ↔ ∃ path, s.origin = .placeholder path := by
  obtain ⟨n, p, o⟩ := s
  cases o <;> simp [isPlaceholder]

end Sprite

end AnchoredUi
