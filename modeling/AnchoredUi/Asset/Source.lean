import AnchoredUi.Asset.Address
import AnchoredUi.Asset.Picture

/-!
# Sources of assets

A source of assets answers four questions: what kind of asset a path holds, what picture, which
paths have a fragment in their file names, and which path has an identifier. A logical name is
found by these: it addresses a path below a folder named `Resources`, without its ending.
-/

namespace AnchoredUi.Asset

open Text

/-- The kinds of assets: a picture to be drawn, a picture that has to be converted first, a
drawing by lines, and anything else. -/
inductive AssetKind where
  | sprite
  | texture
  | vector
  | other
  deriving DecidableEq, Repr

namespace AssetKind

/-- The asset is made of pixels. -/
def isRaster : AssetKind → Bool
  | sprite | texture => true
  | vector | other => false

/-- The endings of pictures made of pixels. -/
def rasterEndings : List String := ["png", "jpg", "jpeg", "gif", "webp", "bmp", "tga"]

/-- The kind that the ending of a path suggests. -/
def ofPath (path : String) : AssetKind :=
  let e := String.ofList (ending path.toList)
  if rasterEndings.contains e then sprite
  else if e = "svg" then vector
  else other

/-- A filter lets a kind through: no filter all of them, `texture` all that are made of pixels,
any other one itself alone. -/
def passes (filter : Option AssetKind) (kind : AssetKind) : Bool :=
  match filter with
  | none => true
  | some texture => kind.isRaster
  | some wanted => kind == wanted

end AssetKind

/-- The file name of a path holds a fragment, in any case. -/
def hasFragment (fragment path : String) : Bool :=
  occursIn (lower fragment.toList) (lower (behindLast '/' path.toList))

/-- Read access to assets. -/
structure AssetSource where
  kind? : String → Option AssetKind
  picture? : String → Option Picture
  search : (fragment : String) → (filter : Option AssetKind) → List String
  withGuid? : String → Option String

namespace AssetSource

/-- The folder under which assets have logical names. -/
def resourceFolder : List Char := "Resources/".toList

/-- The logical name of a path: what follows the first resource folder, up to the last point. -/
def logicalName? (path : String) : Option (List Char) :=
  (breakOn resourceFolder path.toList).map fun cut => beforeLast '.' cut.2

/-- The first path with a logical name. -/
def resource? (source : AssetSource) (name : String) : Option String :=
  let name := trimBy (· == '/') name.toList
  let stem := String.ofList (behindLast '/' name)
  (source.search stem none).find? fun path => logicalName? path == some name

theorem logicalName_of_resource {source : AssetSource} {name path : String}
    (h : source.resource? name = some path) :
    logicalName? path = some (trimBy (· == '/') name.toList) := by
  simpa [resource?] using List.find?_some h

end AssetSource

end AnchoredUi.Asset
