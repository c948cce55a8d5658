import AnchoredUi.Catalog
import AnchoredUi.Sprite.Search

/-!
# Finding sprites again

A finder searches for sprites and remembers, for each address, what the search gave, also where
it gave nothing.

* `find_of_known`: a remembered outcome is given again.
* `known_find`: what a search gives is remembered, unless the options forbid it.
-/

namespace AnchoredUi.Sprite

open Text Asset

/-- A sprite as one search gave it, with the number of that search. Searches for the same picture
give sprites of different numbers. -/
structure FoundSprite where
  sprite : Sprite
  number : Nat
  deriving DecidableEq

/-- What the search for an address gave. -/
structure Outcome where
  address : String
  found : Option FoundSprite
  deriving DecidableEq

/-- A search for sprites with its memory. -/
structure Finder where
  source : AssetSource
  options : SearchOptions
  memory : Catalog Outcome.address
  searches : Nat

namespace Finder

/-- A finder that remembers nothing yet. -/
def ofSource (source : AssetSource) : Finder := ⟨source, .usual, Catalog.empty, 0⟩

/-- The finder with other options; what it remembers stays. -/
def configure (f : Finder) (options : SearchOptions) : Finder := { f with options := options }

/-- The finder without its memory. -/
def forget (f : Finder) : Finder := { f with memory := Catalog.empty }

/-- What is remembered for an address: nothing yet, or the outcome of its search. -/
def known? (f : Finder) (raw : String) : Option (Option FoundSprite) :=
  (f.memory.find? (normalPath raw)).map Outcome.found

/-- The address asks for no sprite. -/
def asksNothing (address : String) : Bool := address == "" || agreeing address "none"

/-- Searches for an address as if nothing were remembered. -/
def searchAnew (f : Finder) (address : String) : Option FoundSprite × Finder :=
  let found := (search? f.source f.options address).map fun s => ⟨s, f.searches⟩
  let f := { f with searches := f.searches + 1 }
  if f.options.remember then (found, { f with memory := f.memory.put ⟨address, found⟩ })
  else (found, f)

/-- The sprite for an address: the remembered one, else that of a search. -/
def find (f : Finder) (raw : String) : Option FoundSprite × Finder :=
  let address := normalPath raw
  if asksNothing address then (none, f)
  else if f.options.remember then
    match f.memory.find? address with
    | some outcome => (outcome.found, f)
    | none => f.searchAnew address
  else f.searchAnew address

theorem find_of_known {f : Finder} {raw : String} {found : Option FoundSprite}
    (hr : f.options.remember = true) (hn : asksNothing (normalPath raw) = false)
    (h : f.known? raw = some found) : f.find raw = (found, f) := by
  unfold known? at h
  obtain ⟨o, ho, rfl⟩ := Option.map_eq_some_iff.mp h
  simp [find, hn, hr, ho]

theorem known_find {f : Finder} {raw : String} (hr : f.options.remember = true)
    (hn : asksNothing (normalPath raw) = false) :
    (f.find raw).2.known? raw = some (f.find raw).1 := by
  simp only [find, hn, hr, Bool.false_eq_true, if_false, if_true]
  split
  · rename_i o ho
    simp [known?, ho]
  · simp only [searchAnew, hr, if_true]
    have := Catalog.find?_put_self f.memory
      ⟨normalPath raw, (search? f.source f.options (normalPath raw)).map fun s => ⟨s, f.searches⟩⟩
    simp only at this
    simp [known?, this]

end Finder

end AnchoredUi.Sprite
