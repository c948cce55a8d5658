import AnchoredUi.Asset.Source

/-!
# Shelves

A shelf holds assets in memory, in the order of their paths.

* `find?_put_self`, `find?_put_other`: an asset is found under its path, and all other paths keep
  theirs.
-/

namespace AnchoredUi.Asset

/-- An asset in memory. -/
structure ShelfAsset where
  path : String
  kind : AssetKind
  picture : Option Picture
  guid : Option String
  deriving DecidableEq

/-- Assets in the order of their paths. -/
structure Shelf where
  assets : List ShelfAsset
  deriving DecidableEq

namespace Shelf

/-- No assets. -/
def empty : Shelf := ⟨[]⟩

/-- An ordered list with one more asset; an asset of the same path is replaced. -/
def insert (a : ShelfAsset) : List ShelfAsset → List ShelfAsset
  | [] => [a]
  | b :: bs =>
    if a.path = b.path then a :: bs
    else if a.path < b.path then a :: b :: bs
    else b :: insert a bs

/-- The shelf with one more asset. -/
def put (s : Shelf) (a : ShelfAsset) : Shelf := ⟨insert a s.assets⟩

/-- The asset of a path. -/
def find? (s : Shelf) (path : String) : Option ShelfAsset :=
  s.assets.find? fun a => a.path = path

/-- The shelf with an identifier for the asset of a path. -/
def withGuid (s : Shelf) (path guid : String) : Shelf :=
  ⟨s.assets.map fun a => if a.path = path then { a with guid := some guid } else a⟩

/-- The paths of a kind that hold a fragment. -/
def search (s : Shelf) (fragment : String) (filter : Option AssetKind) : List String :=
  (s.assets.filter fun a => hasFragment fragment a.path && AssetKind.passes filter a.kind).map
    ShelfAsset.path

/-- Read access to the shelf. -/
def source (s : Shelf) : AssetSource where
  kind? path := (s.find? path).map ShelfAsset.kind
  picture? path := (s.find? path).bind ShelfAsset.picture
  search := s.search
  withGuid? guid := (s.assets.find? fun a => a.guid == some guid).map ShelfAsset.path

theorem find?_put_self (s : Shelf) (a : ShelfAsset) : (s.put a).find? a.path = some a := by
  show (insert a s.assets).find? _ = some a
  induction s.assets with
  | nil => simp [insert]
  | cons b bs ih =>
    by_cases h : a.path = b.path
    · simp [insert, h]
    · by_cases hlt : a.path < b.path
      · simp [insert, h, hlt]
      · have h' : ¬ b.path = a.path := fun e => h e.symm
        simpa [insert, h, hlt, h'] using ih

theorem find?_put_other (s : Shelf) {a : ShelfAsset} {path : String} (hp : a.path ≠ path) :
    (s.put a).find? path = s.find? path := by
  show (insert a s.assets).find? _ = s.assets.find? _
  induction s.assets with
  | nil => simp [insert, hp]
  | cons b bs ih =>
    by_cases h : a.path = b.path
    · have hb : ¬ b.path = path := fun e => hp (h.trans e)
      simp [insert, h, hb]
    · by_cases hlt : a.path < b.path
      · simp [insert, h, hlt, hp]
      · by_cases hb : b.path = path
        · subst hb
          simp [insert, h, hlt]
        · simpa [insert, h, hlt, hb] using ih

end Shelf

end AnchoredUi.Asset
