import AnchoredUi.Asset.Source
import AnchoredUi.Sprite.Basic

/-!
# Searching for sprites

An address is tried in seven ways, and the first that gives a sprite wins: as a path, as an
address in the asset database, as a path below `Assets/`, as a logical name, as a part of the file
name of a sprite, as a part of the file name of any picture, and as a path to whatever can be read
as a picture.

* `exists_way_of_search`: a sprite that is found is found in one of the ways.
-/

namespace AnchoredUi.Sprite

open Text Asset

/-- What may be done to find a sprite. -/
structure SearchOptions where
  convertTextures : Bool
  replaceDrawings : Bool
  remember : Bool
  report : Bool
  deriving DecidableEq, Repr

/-- Everything is allowed, and nothing is reported. -/
def SearchOptions.usual : SearchOptions := ⟨true, true, true, false⟩

instance : Inhabited SearchOptions := ⟨.usual⟩

/-- A way to find a sprite for an address. -/
inductive SearchWay where
  | direct
  | database
  | belowAssets
  | logicalName
  | spriteFile
  | rasterFile
  | anyPicture
  deriving DecidableEq, Repr

/-- All ways in the order in which they are tried. -/
def SearchWay.all : List SearchWay :=
  [direct, database, belowAssets, logicalName, spriteFile, rasterFile, anyPicture]

variable (source : AssetSource) (options : SearchOptions)

/-- The picture at a path as a sprite. -/
def load? (origin : Origin) : Option Sprite :=
  (source.picture? origin.path).map (Sprite.ofPicture origin)

/-- The kind of what is at a path. A path with the ending of a drawing counts as one also where
nothing is. -/
def kindAt? (path : String) : Option AssetKind :=
  match source.kind? path with
  | some kind => some kind
  | none => if AssetKind.ofPath path = .vector then some .vector else none

/-- The sprite at a path. -/
def direct? (path : String) : Option Sprite :=
  match kindAt? source path with
  | some .sprite => load? source (.asset path)
  | some .texture => if options.convertTextures then load? source (.converted path) else none
  | some .vector => if options.replaceDrawings then some (.placeholder path) else none
  | _ => none

/-! ## Addresses of the database -/

/-- What every address of the database starts with. -/
def databaseScheme : List Char := "project://database/".toList

/-- An address of the database: the path of an asset, and perhaps its identifier. -/
structure DatabaseAddress where
  path : String
  guid : Option String
  deriving DecidableEq, Repr

/-- What stands before the first place of a character, or everything. -/
def beforeFirst (d : Char) (cs : List Char) : List Char :=
  match cutAt d cs with
  | some (front, _) => front
  | none => cs

/-- The identifier in the query of an address; an empty one is none. -/
def guidOf? (query : List Char) : Option String :=
  ((pieces '&' query).findSome? (dropFront? "guid=".toList)).bind fun g =>
    if g = [] then none else some (percentDecoded (String.ofList g))

/-- The parts of an address of the database; what follows a hash sign does not count. -/
def databaseAddress? (address : String) : Option DatabaseAddress :=
  (dropFront? databaseScheme address.toList).map fun rest =>
    let rest := beforeFirst '#' rest
    match cutAt '?' rest with
    | some (path, query) => ⟨percentDecoded (String.ofList path), guidOf? query⟩
    | none => ⟨percentDecoded (String.ofList rest), none⟩

/-- The sprite at an address of the database: by its identifier, else by its path. -/
def database? (address : String) : Option Sprite :=
  (databaseAddress? address).bind fun a =>
    match (a.guid.bind source.withGuid?).bind (direct? source options) with
    | some s => some s
    | none => direct? source options a.path

/-! ## The other ways -/

/-- The folder of all assets. -/
def assetFolder : String := "Assets/"

/-- The sprite at a path below the folder of all assets. -/
def belowAssets? (path : String) : Option Sprite :=
  if assetFolder.toList.isPrefixOf path.toList || occursIn "://".toList path.toList then none
  else
    direct? source options
      (assetFolder ++ String.ofList (path.toList.dropWhile (· == '/')))

/-- The sprite of a logical name; an ending, and all up to a resource folder, do not count. -/
def logicalName? (path : String) : Option Sprite :=
  let stem := beforeLast '.' path.toList
  let name := match breakOn AssetSource.resourceFolder stem with
    | some (_, name) => name
    | none => stem
  (source.resource? (String.ofList name)).bind (direct? source options)

/-- The first sprite whose file name holds the name of the one that is looked for. -/
def spriteFile? (path : String) : Option Sprite :=
  (source.search (spriteName path) (some .sprite)).findSome? (direct? source options)

/-- The first picture whose file name holds the name of the sprite that is looked for. -/
def rasterFile? (path : String) : Option Sprite :=
  if options.convertTextures then
    (source.search (spriteName path) (some .texture)).findSome? fun found =>
      load? source (.converted found)
  else none

/-- The sprite that one way finds. -/
def SearchWay.find? (way : SearchWay) (path : String) : Option Sprite :=
  match way with
  | .direct => direct? source options path
  | .database => database? source options path
  | .belowAssets => belowAssets? source options path
  | .logicalName => Sprite.logicalName? source options path
  | .spriteFile => spriteFile? source options path
  | .rasterFile => rasterFile? source options path
  | .anyPicture => load? source (.converted path)

/-- The sprite that the first successful way finds. -/
def search? (path : String) : Option Sprite :=
  SearchWay.all.findSome? fun way => way.find? source options path

theorem exists_way_of_search {path : String} {s : Sprite}
    (h : search? source options path = some s) :
    ∃ way : SearchWay, way.find? source options path = some s := by
  obtain ⟨way, _, hw⟩ := List.exists_of_findSome?_eq_some h
  exact ⟨way, hw⟩

end AnchoredUi.Sprite
