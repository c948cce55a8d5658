import AnchoredUi.Asset.Shelf
import AnchoredUi.Proofs.Asset.Shelf
import AnchoredUi.Proofs.Text.Cut

/-!
# Logical names

A logical name addresses an asset below a folder of resources. The folder is looked for as a piece
of the path, the name `Resources` and a slash, which is not bound to the start of a segment: the
first segment that ends in `Resources` counts, whatever it starts with. So a name may address assets
in other folders with such a name. Apart from this, the names are those of the paths below these
folders, and no asset with a name is missed by the search for its file name that comes first.

* `segments_of_logicalName?`: the folder that a logical name is relative to.
* `logicalName?_text`, `hasFragment_text`: what the path of a resource is found by.
* `Shelf.resource?_addresses`: what a logical name finds, and when it finds something.
* `Shelf.not_resource?_addresses`: an asset that is in no folder of resources.
-/

namespace AnchoredUi.Asset

open Text AssetSource

variable {d : Char} {a b : List Char}

/-! ## Parts of a path -/

theorem behindLast_append_cons (d : Char) (a b : List Char) :
    behindLast d (a ++ d :: b) = behindLast d b := by
  rw [behindLast, behindLast]
  cases hCut : cutAtLast d b with
  | none => rw [cutAtLast_append a (cutAtLast_eq_none_iff.mp hCut)]
  | some cut =>
    obtain ⟨front, back⟩ := cut
    obtain ⟨rfl, hBack⟩ := append_of_cutAtLast hCut
    have hText : a ++ d :: (front ++ d :: back) = (a ++ d :: front) ++ d :: back := by simp
    rw [hText, cutAtLast_append _ hBack]

theorem behindLast_append (a : List Char) (hb : d ∉ b) :
    behindLast d (a ++ b) = behindLast d a ++ b := by
  rw [behindLast, behindLast]
  cases hCut : cutAtLast d a with
  | none =>
    have hNot : d ∉ a ++ b := fun hMem =>
      (List.mem_append.mp hMem).elim (cutAtLast_eq_none_iff.mp hCut) hb
    rw [cutAtLast_eq_none_iff.mpr hNot]
  | some cut =>
    obtain ⟨front, back⟩ := cut
    obtain ⟨rfl, hBack⟩ := append_of_cutAtLast hCut
    have hNot : d ∉ back ++ b := fun hMem => (List.mem_append.mp hMem).elim hBack hb
    rw [List.append_assoc, List.cons_append, cutAtLast_append _ hNot]

theorem beforeLast_append (a : List Char) (hb : d ∉ b) : beforeLast d (a ++ d :: b) = a := by
  rw [beforeLast, cutAtLast_append a hb]

/-- The last piece of a text goes on where the text goes on, and the pieces before stay. -/
theorem exists_pieces_append (a : List Char) (hb : d ∉ b) :
    ∃ before last, pieces d (a ++ b) = before ++ [last ++ b] ∧
      ∀ piece ∈ before, piece ++ [d] <:+: a := by
  cases hCut : cutAtLast d a with
  | none =>
    have hNot : d ∉ a ++ b := fun hMem =>
      (List.mem_append.mp hMem).elim (cutAtLast_eq_none_iff.mp hCut) hb
    exact ⟨[], a, pieces_of_not_mem hNot, List.forall_mem_nil _⟩
  | some cut =>
    obtain ⟨front, back⟩ := cut
    obtain ⟨rfl, hBack⟩ := append_of_cutAtLast hCut
    have hNot : d ∉ back ++ b := fun hMem => (List.mem_append.mp hMem).elim hBack hb
    refine ⟨pieces d front, back, ?_, fun piece hPiece => ?_⟩
    · rw [List.append_assoc, List.cons_append, pieces_append_cons, pieces_of_not_mem hNot]
    · refine (append_infix_of_mem_pieces hPiece).trans ⟨[], back, ?_⟩
      simp

/-! ## Folders of resources -/

theorem resourceFolder_eq : resourceFolder = "Resources".toList ++ ['/'] := rfl

/-- A logical name is relative to the first folder of the path whose name ends in `Resources`. -/
theorem segments_of_logicalName? {path : String} {name : List Char}
    (h : logicalName? path = some name) :
    ∃ before start after, after ≠ [] ∧
      pieces '/' path.toList = before ++ (start ++ "Resources".toList) :: after ∧
      (∀ segment ∈ before, ¬ "Resources".toList <:+ segment) ∧
      beforeLast '.' (['/'].intercalate after) = name := by
  obtain ⟨⟨front, rest⟩, hBreak, hName⟩ := Option.map_eq_some_iff.mp h
  have hFirst := not_infix_of_breakOn (by decide) hBreak
  obtain ⟨before, start, hPieces, hBefore⟩ :=
    exists_pieces_append (d := '/') (b := "Resources".toList) front (by decide)
  refine ⟨before, start, pieces '/' rest, List.splitOnP_ne_nil _ _, ?_, fun segment hMem hEnd => ?_,
    ?_⟩
  · have hText : path.toList = (front ++ "Resources".toList) ++ '/' :: rest := by
      rw [append_of_breakOn hBreak, resourceFolder_eq]
      simp
    rw [hText, pieces_append_cons, hPieces]
    simp
  · obtain ⟨stem, rfl⟩ := hEnd
    refine hFirst (List.IsInfix.trans ⟨stem, [], ?_⟩ (hBefore _ hMem))
    rw [resourceFolder_eq]
    simp
  · rw [intercalate_pieces]
    exact hName

/-! ## Assets below them -/

/-- The path of an asset below a folder of resources. What stands in front of the folder may have
any form but has no such folder in it. -/
structure ResourcePath where
  front : List Char
  name : List Char
  ending : List Char
  front_free : ¬ resourceFolder <:+: front
  name_trimmed : trimBy (· == '/') name = name
  point_not_mem_ending : '.' ∉ ending
  slash_not_mem_ending : '/' ∉ ending

namespace ResourcePath

/-- The path as it is written. -/
def text (p : ResourcePath) : String :=
  String.ofList (p.front ++ resourceFolder ++ (p.name ++ '.' :: p.ending))

theorem logicalName?_text (p : ResourcePath) : logicalName? p.text = some p.name := by
  rw [logicalName?, text, String.toList_ofList, resourceFolder_eq,
    breakOn_of_mark (by decide) (resourceFolder_eq ▸ p.front_free), Option.map_some,
    beforeLast_append _ p.point_not_mem_ending]

/-- The search for the last part of the name does not miss the asset. -/
theorem hasFragment_text (p : ResourcePath) :
    hasFragment (String.ofList (behindLast '/' p.name)) p.text = true := by
  have hNot : '/' ∉ '.' :: p.ending := by simp [p.slash_not_mem_ending]
  have hFile : behindLast '/' p.text.toList = behindLast '/' p.name ++ '.' :: p.ending := by
    have hText : p.text.toList =
        (p.front ++ "Resources".toList) ++ '/' :: (p.name ++ '.' :: p.ending) := by
      rw [text, String.toList_ofList, resourceFolder_eq]
      simp
    rw [hText, behindLast_append_cons, behindLast_append _ hNot]
  rw [hasFragment_iff, hFile, String.toList_ofList, lower, lower, List.map_append]
  exact (List.prefix_append _ _).isInfix

end ResourcePath

namespace Shelf

/-- A logical name finds an asset of the shelf below a folder whose name ends in `Resources`, the
first such folder of its path, and the name is what stands behind this folder, up to the last point.
If there is an asset of a name below a folder of resources, the name finds one. -/
theorem resource?_addresses (s : Shelf) :
    (∀ name path, s.source.resource? name = some path →
      (∃ a ∈ s.assets, a.path = path) ∧
      ∃ before start after, after ≠ [] ∧
        pieces '/' path.toList = before ++ (start ++ "Resources".toList) :: after ∧
        (∀ segment ∈ before, ¬ "Resources".toList <:+ segment) ∧
        beforeLast '.' (['/'].intercalate after) = trimBy (· == '/') name.toList) ∧
    ∀ p : ResourcePath, (∃ a ∈ s.assets, a.path = p.text) →
      ∃ path, s.source.resource? (String.ofList p.name) = some path := by
  refine ⟨fun name path h => ⟨?_, segments_of_logicalName? (logicalName_of_resource h)⟩,
    fun p hAsset => ?_⟩
  · obtain ⟨a, hMem, hPath, -⟩ := mem_search_iff.mp (List.mem_of_find?_eq_some h)
    exact ⟨a, hMem, hPath⟩
  · obtain ⟨a, hMem, hPath⟩ := hAsset
    have hSearched : p.text ∈ s.search (String.ofList (behindLast '/' p.name)) none :=
      mem_search_iff.mpr ⟨a, hMem, hPath, p.hasFragment_text, rfl⟩
    refine Option.isSome_iff_exists.mp ?_
    rw [resource?, String.toList_ofList, p.name_trimmed]
    refine List.find?_isSome.mpr ⟨p.text, hSearched, ?_⟩
    rw [p.logicalName?_text]
    exact beq_self_eq_true _

/-- Folders with points in their names, and a folder of resources in another one. -/
example :
    let a : ShelfAsset := ⟨"Assets/v1.2/Resources/ui/Resources/star.big.png", .sprite, none, none⟩
    (stocked [.put a]).source.resource? "/ui/Resources/star.big" = some a.path ∧
      (stocked [.put a]).source.resource? "star.big" = none := by
  decide +kernel

/-- An asset is found under a logical name although the path has no folder of resources. -/
theorem not_resource?_addresses :
    ¬ ∀ (steps : List Step) (name path : String),
      (stocked steps).source.resource? name = some path →
      ∃ before after, pieces '/' path.toList = before ++ "Resources".toList :: after ∧
        beforeLast '.' (['/'].intercalate after) = trimBy (· == '/') name.toList := by
  intro h
  obtain ⟨before, after, hPieces, -⟩ := h
    [.put ⟨"Assets/OldResources/logo.png", .sprite, none, none⟩] "logo"
    "Assets/OldResources/logo.png" (by decide +kernel)
  have hFolder : "Resources".toList ∈ pieces '/' "Assets/OldResources/logo.png".toList :=
    hPieces ▸ List.mem_append_right _ List.mem_cons_self
  revert hFolder
  decide +kernel

end Shelf

end AnchoredUi.Asset
