import AnchoredUi.Asset.Png
import AnchoredUi.Asset.Source
import AnchoredUi.Files.Disk

/-!
# Projects on disk

A project is a folder of a disk. A note beside a file, under its name with `.meta` behind it, may
give the file an identifier and may say that a picture is no sprite.
-/

namespace AnchoredUi.Asset

open Text Files

/-- A folder of a disk with assets. -/
structure Project where
  disk : Disk
  root : String

namespace Project

/-- The name of the note for a file ends in this. -/
def noteEnding : List Char := ".meta".toList

/-- Where an asset lies on the disk; slashes in front of its path do not count. -/
def place (p : Project) (path : String) : String :=
  join p.root (String.ofList (path.toList.dropWhile (· == '/')))

/-- The value that a note gives a key: on the first line that starts with it. -/
def noteValue? (key : String) (note : String) : Option String :=
  ((pieces '\n' note.toList).findSome? fun line => dropFront? (key.toList ++ [':']) (trim line)).map
    fun value => String.ofList (trim value)

/-- The text of the note for an asset. -/
def note? (p : Project) (path : String) : Option String :=
  (p.disk.readText (p.place path ++ String.ofList noteEnding)).toOption

/-- A note leaves a picture a sprite: it gives no other type. -/
def keepsSprite (note : String) : Bool :=
  match noteValue? "textureType" note with
  | some type => type == "8"
  | none => true

/-- The kind of asset at a path. -/
def kind? (p : Project) (path : String) : Option AssetKind :=
  if p.disk.isFile (p.place path) then
    let kind := AssetKind.ofPath path
    if kind = .sprite ∧ (p.note? path).any (fun note => !keepsSprite note) then some .texture
    else some kind
  else none

/-- The endings of files that are read as pictures. -/
def readableEndings : List String := ["png", "apng"]

/-- The picture at a path. -/
def picture? (p : Project) (path : String) : Option Picture :=
  let place := p.place path
  if ((extension? place).map fun e => String.ofList (lower e)).any readableEndings.contains then
    match p.disk.read place with
    | .ok bytes => Png.picture? bytes
    | .error _ => none
  else none

/-- The paths of a kind that hold a fragment. -/
def search (p : Project) (fragment : String) (filter : Option AssetKind) : List String :=
  (p.disk.filesBelow p.root).filter fun path =>
    (dropBack? noteEnding path.toList).isNone && hasFragment fragment path &&
      (p.kind? path).any (AssetKind.passes filter)

/-- The path whose note gives an identifier. -/
def withGuid? (p : Project) (guid : String) : Option String :=
  (p.disk.filesBelow p.root).findSome? fun path =>
    match dropBack? noteEnding path.toList with
    | none => none
    | some asset =>
      match p.disk.readText (p.place path) with
      | .ok note => if noteValue? "guid" note = some guid then some (String.ofList asset) else none
      | .error _ => none

/-- Read access to the project. -/
def source (p : Project) : AssetSource where
  kind? := p.kind?
  picture? := p.picture?
  search := p.search
  withGuid? := p.withGuid?

end Project

end AnchoredUi.Asset
