import AnchoredUi.Sprite.Finder

/-!
# Answers of a finder

Looking for a sprite may fill the memory of a finder, but it changes none of the sprites that the
finder gives from then on: what is remembered is what the search would give again. Only the
numbers of the searches differ.

* `answer_find`: the answers after a search are the answers before.
-/

namespace AnchoredUi.Sprite.Finder

open Asset

/-- The sprite that a finder gives for an address. -/
def answer (f : Finder) (raw : String) : Option Sprite := (f.find raw).1.map FoundSprite.sprite

/-- What the memory gives for an address, else what the search gives. -/
def recalled (f : Finder) (address : String) : Option Sprite :=
  match f.memory.find? address with
  | some outcome => outcome.found.map FoundSprite.sprite
  | none => search? f.source f.options address

theorem sprite_searchAnew (f : Finder) (address : String) :
    (f.searchAnew address).1.map FoundSprite.sprite = search? f.source f.options address := by
  unfold searchAnew
  simp only
  split <;> simp [Function.comp_def]

theorem answer_eq (f : Finder) (raw : String) :
    f.answer raw =
      if asksNothing (normalPath raw) then none
      else if f.options.remember then f.recalled (normalPath raw)
      else search? f.source f.options (normalPath raw) := by
  unfold answer find recalled
  simp only
  split
  · rfl
  · split
    · cases f.memory.find? (normalPath raw) with
      | some outcome => rfl
      | none => exact sprite_searchAnew f _
    · exact sprite_searchAnew f _

theorem recalled_searchAnew {f : Finder} {address : String} (hNew : f.memory.find? address = none)
    (other : String) : (f.searchAnew address).2.recalled other = f.recalled other := by
  unfold searchAnew recalled
  simp only
  cases f.options.remember with
  | false => rfl
  | true =>
    simp only [if_true]
    by_cases hOther : address = other
    · subst hOther
      have hPut := Catalog.find?_put_self f.memory
        ⟨address, (search? f.source f.options address).map fun s => ⟨s, f.searches⟩⟩
      simp only at hPut
      simp [hPut, hNew, Function.comp_def]
    · have hPut := Catalog.find?_put_other f.memory (k := other)
        (e := ⟨address, (search? f.source f.options address).map fun s => ⟨s, f.searches⟩⟩) hOther
      rw [hPut]

/-- Looking for a sprite changes no answer. -/
theorem answer_find (f : Finder) (raw other : String) : (f.find raw).2.answer other =
    f.answer other := by
  unfold find
  simp only
  split
  · rfl
  · split
    · rename_i hRemember
      split
      · rfl
      · rename_i hNew
        rw [answer_eq, answer_eq, recalled_searchAnew hNew]
        simp [searchAnew, hRemember]
    · rename_i hForget
      rw [answer_eq, answer_eq]
      simp [searchAnew, hForget]

end AnchoredUi.Sprite.Finder
