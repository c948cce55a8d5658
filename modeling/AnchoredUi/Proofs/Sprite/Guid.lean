import AnchoredUi.Proofs.Asset.Address
import AnchoredUi.Proofs.Sprite.Sound
import AnchoredUi.Proofs.Text.Cut

/-!
# Sprites by identifier

An address of the database names an asset by its path and, in its query, by an identifier, which
stays when the asset is moved. The identifier is tried first, but not before the whole address was
tried as a path. Where no asset is at this path its ending still counts: an address with a query or
a fragment that ends like the name of a drawing is answered with the test pattern, whatever the
identifier leads to. All other addresses give the sprite of their identifier.

* `databaseAddress?_text`: how an address of the database is taken apart.
* `DatabaseUri.normalPath_text`: it has no wrapper and loses only blanks.
* `Finder.answer_guid`: the sprite for an address with an identifier.
* `Finder.not_answer_guid`: an address that the test pattern answers.
-/

namespace AnchoredUi.Sprite

open Text Asset

variable {shelf : Shelf} {query guid : List Char} {a : ShelfAsset} {s : Sprite} {raw : String}

/-! ## Addresses of the database -/

/-- An address of the database: a path, a query, and perhaps a fragment. -/
structure DatabaseUri where
  path : List Char
  query : List Char
  fragment : Option (List Char)
  question_not_mem_path : '?' ∉ path
  hash_not_mem_path : '#' ∉ path
  hash_not_mem_query : '#' ∉ query

/-- The address as it is written. -/
def DatabaseUri.text (u : DatabaseUri) : String :=
  String.ofList (databaseScheme ++ (u.path ++ '?' :: u.query ++ u.fragment.elim [] ('#' :: ·)))

/-- No wrapper is taken off an address of the database. -/
theorem DatabaseUri.normalPath_text (u : DatabaseUri) : normalPath u.text = trimmed u.text := by
  have hStart : ∀ front : List Char, front.head?.any (· != 'p') = true →
      ¬ front <+: trim u.text.toList := by
    rintro (_ | ⟨c, front⟩) hFront ⟨rest, hTrim⟩
    · cases hFront
    · have hHead := head_trimEndBy (congrArg List.head? hTrim.symm)
      rw [text, String.toList_ofList] at hHead
      cases hHead
      cases hFront
  rw [normalPath, normalChars, unwrapUrl, dropFront?_eq_none_iff.mpr (hStart _ (by decide))]
  simp only
  rw [unwrap_of_not_front (hStart _ (by decide)), unwrap_of_not_front (hStart _ (by decide)),
    unwrap_of_not_front (hStart _ (by decide))]
  rfl

/-- The first parameter of a query that gives an identifier. -/
def NamesGuid (query guid : List Char) : Prop :=
  ∃ before behind, pieces '&' query = before ++ ("guid=".toList ++ guid) :: behind ∧
    ∀ parameter ∈ before, ¬ "guid=".toList <+: parameter

theorem guidOf?_of_namesGuid (h : NamesGuid query guid) (hGuid : guid ≠ []) :
    guidOf? query = some (percentDecoded (String.ofList guid)) := by
  obtain ⟨before, behind, hPieces, hNot⟩ := h
  have hNone : before.findSome? (dropFront? "guid=".toList) = none :=
    List.findSome?_eq_none_iff.mpr fun parameter hMem =>
      dropFront?_eq_none_iff.mpr (hNot parameter hMem)
  rw [guidOf?, hPieces, List.findSome?_append, hNone, Option.none_or, List.findSome?_cons,
    dropFront?_append, Option.bind_some, if_neg hGuid]

theorem beforeFirst_append {d : Char} {cs : List Char} (h : d ∉ cs) (rest : Option (List Char)) :
    beforeFirst d (cs ++ rest.elim [] (d :: ·)) = cs := by
  cases rest with
  | none => rw [Option.elim_none, List.append_nil, beforeFirst, cutAt_eq_none_iff.mpr h]
  | some rest => rw [Option.elim_some, beforeFirst, cutAt_append h]

/-- An address is taken apart into the parts that it was put together from. -/
theorem databaseAddress?_text (u : DatabaseUri) : databaseAddress? u.text =
    some ⟨percentDecoded (String.ofList u.path), guidOf? u.query⟩ := by
  have hHash : '#' ∉ u.path ++ '?' :: u.query := by
    simp [u.hash_not_mem_path, u.hash_not_mem_query]
  rw [databaseAddress?, DatabaseUri.text, String.toList_ofList, dropFront?_append, Option.map_some,
    beforeFirst_append hHash]
  simp only [cutAt_append u.question_not_mem_path]

/-! ## Finding by identifier -/

theorem direct?_of_absent {path : String} (h : ∀ b ∈ shelf.assets, b.path ≠ path) :
    direct? shelf.source .usual path =
      if ending path.toList = "svg".toList then some (.placeholder path) else none := by
  rw [direct?, kindAt?_source, Shelf.find?_eq_none_iff.mpr h]
  by_cases hEnding : ending path.toList = "svg".toList
  · rw [if_pos hEnding, if_pos ((ofPath_eq_vector_iff path).mpr hEnding)]
    rfl
  · rw [if_neg hEnding, if_neg fun hVector => hEnding ((ofPath_eq_vector_iff path).mp hVector)]

/-- What an address of the database gives counts only if the address leads nowhere as a path. -/
theorem search?_of_database {source : AssetSource} {options : SearchOptions} {path : String}
    (h : database? source options path = some s) :
    search? source options path = some ((direct? source options path).getD s) := by
  have hDirect : SearchWay.direct.find? source options path = direct? source options path := rfl
  have hDatabase : SearchWay.database.find? source options path = some s := h
  rw [search?, SearchWay.all, List.findSome?_cons, List.findSome?_cons, hDirect, hDatabase]
  cases direct? source options path <;> rfl

theorem asksNothing_text (u : DatabaseUri) : Finder.asksNothing u.text = false := by
  have hFirst : u.text.toList.head? = some 'p' := by
    rw [DatabaseUri.text, String.toList_ofList]
    rfl
  simp only [Finder.asksNothing, agreeing, Bool.or_eq_false_iff, beq_eq_false_iff_ne]
  constructor
  · intro hEmpty
    rw [hEmpty] at hFirst
    cases hFirst
  · rw [← Bool.not_eq_true, sameLetters_iff]
    intro hSame
    have hHeads := congrArg List.head? hSame
    rw [lower, lower, List.head?_map, List.head?_map, hFirst] at hHeads
    revert hHeads
    decide

/-- An address of the database that is no path of an asset, whose first identifier is that of an
asset with a sprite, gives this sprite unless the address ends like that of a drawing. -/
theorem Finder.answer_guid (steps : List Shelf.Step) (u : DatabaseUri) :
    let shelf := Shelf.stocked steps
    normalPath raw = u.text → (∀ b ∈ shelf.assets, b.path ≠ u.text) →
    NamesGuid u.query guid → guid ≠ [] →
    a ∈ shelf.assets → a.guid = some (percentDecoded (String.ofList guid)) →
    (∀ b ∈ shelf.assets, b.guid = a.guid → a.path ≤ b.path) →
    direct? shelf.source .usual a.path = some s →
    (Finder.ofSource shelf.source).answer raw =
      some (if ending u.text.toList = "svg".toList then .placeholder u.text else s) := by
  intro shelf hRaw hAbsent hNames hGuid hMem hHas hFirst hSprite
  have hs : shelf.Ordered := Shelf.ordered_stocked steps
  have hFound : shelf.source.withGuid? (percentDecoded (String.ofList guid)) = some a.path :=
    Shelf.withGuid?_eq_some hs hMem hHas fun b hb hSame => hFirst b hb (hSame.trans hHas.symm)
  have hDatabase : database? shelf.source .usual u.text = some s := by
    rw [database?, databaseAddress?_text, guidOf?_of_namesGuid hNames hGuid]
    simp only [Option.bind_some, hFound, hSprite]
  have hFresh : (Finder.ofSource shelf.source).recalled u.text =
      search? shelf.source .usual u.text := rfl
  rw [Finder.answer_eq, hRaw, asksNothing_text, hFresh]
  change search? shelf.source .usual u.text = _
  rw [search?_of_database hDatabase, direct?_of_absent hAbsent]
  split <;> rfl

/-- An icon that was moved, behind a wrapper. -/
theorem Finder.answer_guid_moved :
    let dot := Picture.filled 1 1 255 0 0 255
    let a : ShelfAsset := ⟨"Assets/UI/icon.png", .sprite, some dot, some "0123 abcd"⟩
    let raw := "url('project://database/Assets/old.svg?type=3&guid=0123%20abcd&guid=0#a.png')"
    (Finder.ofSource (Shelf.stocked [.put a]).source).answer raw =
      some ⟨"icon", dot, .asset "Assets/UI/icon.png"⟩ := by
  intro dot a raw
  let u : DatabaseUri := ⟨"Assets/old.svg".toList, "type=3&guid=0123%20abcd&guid=0".toList,
    some "a.png".toList, by decide, by decide, by decide⟩
  have hRaw : normalPath raw = u.text := by decide +kernel
  have hNames : NamesGuid u.query "0123%20abcd".toList :=
    ⟨["type=3".toList], ["guid=0".toList], by decide, by decide⟩
  have hSprite : direct? (Shelf.stocked [.put a]).source .usual a.path =
      some ⟨"icon", dot, .asset "Assets/UI/icon.png"⟩ := by decide +kernel
  rw [answer_guid [.put a] u hRaw (by decide +kernel) hNames (by decide) (by decide +kernel)
    (by decide +kernel) (by decide +kernel) hSprite]
  decide +kernel

/-- The test pattern answers an address whose fragment ends like the name of a drawing. -/
theorem Finder.not_answer_guid :
    ¬ ∀ (steps : List Shelf.Step) (u : DatabaseUri) (guid : List Char) (a : ShelfAsset)
        (s : Sprite),
      let shelf := Shelf.stocked steps
      (∀ b ∈ shelf.assets, b.path ≠ u.text) → NamesGuid u.query guid → guid ≠ [] →
      a ∈ shelf.assets → a.guid = some (percentDecoded (String.ofList guid)) →
      direct? shelf.source .usual a.path = some s →
      (Finder.ofSource shelf.source).answer u.text = some s := by
  intro h
  let dot := Picture.filled 1 1 255 0 0 255
  let a : ShelfAsset := ⟨"Assets/UI/icon.png", .sprite, some dot, some "0123abcd"⟩
  let u : DatabaseUri := ⟨"Assets/Moved/old.png".toList,
    "fileID=2800000&guid=0123abcd&type=3".toList, some "icon.svg".toList,
    by decide, by decide, by decide⟩
  have hNames : NamesGuid u.query "0123abcd".toList :=
    ⟨["fileID=2800000".toList], ["type=3".toList], by decide, by decide⟩
  have hSprite : direct? (Shelf.stocked [.put a]).source .usual a.path =
      some ⟨"icon", dot, .asset "Assets/UI/icon.png"⟩ := by decide +kernel
  have hAnswer := h [.put a] u "0123abcd".toList a _ (by decide +kernel) hNames (by decide)
    (by decide +kernel) (by decide +kernel) hSprite
  revert hAnswer
  decide +kernel

end AnchoredUi.Sprite
