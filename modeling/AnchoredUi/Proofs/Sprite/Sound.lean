import AnchoredUi.Proofs.Asset.Shelf
import AnchoredUi.Proofs.Sprite.Answer

/-!
# Which sprites are found

Each of the seven ways ends in one of two things: the picture at a path is made a sprite, or the
test pattern stands in for a drawing. So a sprite that is found shows what is on the shelf, or what
the options let stand in for it. If nothing is found then all ways have failed, and the three that
look at whole files tell which pictures cannot be there.

* `genuine_search`: what is found shows what is on the shelf.
* `exhausted_search`: what cannot be on the shelf if nothing is found.
* `genuine_or_exhausted`: both, for a finder that has not searched yet.
-/

namespace AnchoredUi.Sprite

open Text Asset

variable {shelf : Shelf} {options : SearchOptions} {path : String} {s : Sprite}

/-- A path leads to a drawing: by the kind of its asset, or by its ending if it has none. -/
def LeadsToDrawing (shelf : Shelf) (path : String) : Prop :=
  (∃ a ∈ shelf.assets, a.path = path ∧ a.kind = .vector) ∨
    (∀ a ∈ shelf.assets, a.path ≠ path) ∧ ending path.toList = "svg".toList

/-- A sprite is named after the path that it comes from. It is the test pattern in place of a
drawing, or else it has the picture of the asset at that path. -/
structure Genuine (shelf : Shelf) (options : SearchOptions) (s : Sprite) : Prop where
  name_eq : s.name = spriteName s.origin.path
  shows :
    (s.isPlaceholder = true ∧ s.picture = Picture.pattern ∧ options.replaceDrawings = true ∧
        LeadsToDrawing shelf s.origin.path) ∨
      (s.isPlaceholder = false ∧ ∃ a ∈ shelf.assets, a.path = s.origin.path ∧
        a.picture = some s.picture ∧ ∀ path, s.origin = .asset path → a.kind = .sprite)

/-- The file name of a path holds the name of a sprite, up to the case of letters. -/
def FileHolds (name path : String) : Prop :=
  lower name.toList <:+: lower (behindLast '/' path.toList)

/-- No asset with a picture is at a path or is a sprite whose file name holds the name of the path,
nor any other picture with such a file name if these may be converted. -/
structure Exhausted (shelf : Shelf) (options : SearchOptions) (path : String) : Prop where
  at_path : ∀ a ∈ shelf.assets, a.path = path → a.picture = none
  sprites : ∀ a ∈ shelf.assets, a.kind = .sprite → FileHolds (spriteName path) a.path →
    a.picture = none
  rasters : options.convertTextures = true → ∀ a ∈ shelf.assets, a.kind.isRaster = true →
    FileHolds (spriteName path) a.path → a.picture = none

/-! ## Sprites that are found -/

theorem ofPath_eq_vector_iff (path : String) :
    AssetKind.ofPath path = AssetKind.vector ↔ ending path.toList = "svg".toList := by
  unfold AssetKind.ofPath
  rw [← String.ofList_inj, String.ofList_toList]
  by_cases hEnding : String.ofList (ending path.toList) = "svg"
  · rw [hEnding]
    decide
  · simp only [hEnding, if_false, iff_false]
    split <;> decide

theorem kindAt?_source (shelf : Shelf) (path : String) : kindAt? shelf.source path =
    match shelf.find? path with
    | some a => some a.kind
    | none => if AssetKind.ofPath path = AssetKind.vector then some AssetKind.vector else none := by
  have hKind : shelf.source.kind? path = (shelf.find? path).map ShelfAsset.kind := rfl
  rw [kindAt?, hKind]
  cases shelf.find? path <;> rfl

section Ordered

variable (hs : shelf.Ordered)
include hs

theorem genuine_load {origin : Origin} (h : load? shelf.source origin = some s)
    (hKind : ∀ path, origin = .asset path → shelf.source.kind? path = some .sprite)
    (hNot : ∀ path, origin ≠ .placeholder path) : Genuine shelf options s := by
  obtain ⟨picture, hPicture, rfl⟩ := Option.map_eq_some_iff.mp h
  obtain ⟨a, hFind, hHas⟩ := Option.bind_eq_some_iff.mp hPicture
  obtain ⟨hMem, hPath⟩ := (Shelf.find?_eq_some_iff hs).mp hFind
  refine ⟨rfl, Or.inr ⟨?_, a, hMem, hPath, hHas, ?_⟩⟩
  · rw [← Bool.not_eq_true, isPlaceholder_iff]
    exact fun ⟨path, hOrigin⟩ => hNot path hOrigin
  · rintro path rfl
    have hSprite : (shelf.find? path).map ShelfAsset.kind = some .sprite := hKind path rfl
    change shelf.find? path = some a at hFind
    rw [hFind] at hSprite
    exact Option.some.inj hSprite

theorem leadsToDrawing_of_kindAt? (h : kindAt? shelf.source path = some .vector) :
    LeadsToDrawing shelf path := by
  rw [kindAt?_source] at h
  split at h
  · rename_i a hFind
    obtain ⟨hMem, hPath⟩ := (Shelf.find?_eq_some_iff hs).mp hFind
    exact Or.inl ⟨a, hMem, hPath, Option.some.inj h⟩
  · rename_i hFind
    obtain ⟨hVector, -⟩ := Option.ite_none_right_eq_some.mp h
    exact Or.inr ⟨Shelf.find?_eq_none_iff.mp hFind, (ofPath_eq_vector_iff path).mp hVector⟩

theorem genuine_direct (h : direct? shelf.source options path = some s) :
    Genuine shelf options s := by
  unfold direct? at h
  split at h
  · rename_i hKind
    refine genuine_load hs h (fun other hOther => ?_) (fun _ hOther => nomatch hOther)
    cases hOther
    -- a path without an asset does not count as a sprite
    change (shelf.find? path).map ShelfAsset.kind = _
    rw [kindAt?_source] at hKind
    split at hKind
    · rename_i a hFind
      rw [hFind, Option.map_some, hKind]
    · split at hKind <;> cases hKind
  · obtain ⟨-, hLoad⟩ := Option.ite_none_right_eq_some.mp h
    exact genuine_load hs hLoad (fun _ hOther => nomatch hOther) (fun _ hOther => nomatch hOther)
  · rename_i hKind
    obtain ⟨hReplace, hEq⟩ := Option.ite_none_right_eq_some.mp h
    cases hEq
    exact ⟨rfl, Or.inl ⟨rfl, rfl, hReplace, leadsToDrawing_of_kindAt? hs hKind⟩⟩
  · cases h

theorem genuine_database (h : database? shelf.source options path = some s) :
    Genuine shelf options s := by
  obtain ⟨address, -, hFound⟩ := Option.bind_eq_some_iff.mp h
  split at hFound
  · rename_i hGuid
    cases hFound
    obtain ⟨found, -, hDirect⟩ := Option.bind_eq_some_iff.mp hGuid
    exact genuine_direct hs hDirect
  · exact genuine_direct hs hFound

/-- What one of the ways finds shows what is on the shelf. -/
theorem genuine_way {way : SearchWay} (h : way.find? shelf.source options path = some s) :
    Genuine shelf options s := by
  cases way with
  | direct => exact genuine_direct hs h
  | database => exact genuine_database hs h
  | belowAssets =>
    obtain ⟨-, hDirect⟩ := Option.ite_none_left_eq_some.mp h
    exact genuine_direct hs hDirect
  | logicalName =>
    obtain ⟨found, -, hDirect⟩ := Option.bind_eq_some_iff.mp h
    exact genuine_direct hs hDirect
  | spriteFile =>
    obtain ⟨found, -, hDirect⟩ := List.exists_of_findSome?_eq_some h
    exact genuine_direct hs hDirect
  | rasterFile =>
    obtain ⟨-, hSearch⟩ := Option.ite_none_right_eq_some.mp h
    obtain ⟨found, -, hLoad⟩ := List.exists_of_findSome?_eq_some hSearch
    exact genuine_load hs hLoad (fun _ hOther => nomatch hOther) (fun _ hOther => nomatch hOther)
  | anyPicture =>
    exact genuine_load hs h (fun _ hOther => nomatch hOther) (fun _ hOther => nomatch hOther)

theorem genuine_search (h : search? shelf.source options path = some s) :
    Genuine shelf options s := by
  obtain ⟨way, hWay⟩ := exists_way_of_search shelf.source options h
  exact genuine_way hs hWay

/-! ## Pictures that are missed -/

/-- A picture that cannot be made a sprite is not on the shelf. -/
theorem picture_eq_none {a : ShelfAsset} (origin : Origin) (hMem : a ∈ shelf.assets)
    (hPath : a.path = origin.path) (h : load? shelf.source origin = none) : a.picture = none := by
  have hFind := (Shelf.find?_eq_some_iff hs).mpr ⟨hMem, hPath⟩
  have hPicture : (shelf.find? origin.path).bind ShelfAsset.picture = none :=
    Option.map_eq_none_iff.mp h
  rwa [hFind] at hPicture

/-- At the path of a sprite, the direct way makes its picture a sprite. -/
theorem direct?_of_sprite {a : ShelfAsset} (hMem : a ∈ shelf.assets) (hKind : a.kind = .sprite) :
    direct? shelf.source options a.path = load? shelf.source (.asset a.path) := by
  have hAt : kindAt? shelf.source a.path = some .sprite := by
    rw [kindAt?_source, (Shelf.find?_eq_some_iff hs).mpr ⟨hMem, rfl⟩]
    exact congrArg some hKind
  rw [direct?, hAt]

theorem exhausted_search (h : search? shelf.source options path = none) :
    Exhausted shelf options path := by
  have hWays : ∀ way : SearchWay, way.find? shelf.source options path = none := fun way =>
    List.findSome?_eq_none_iff.mp h way (by cases way <;> decide)
  have hSearched : ∀ {a : ShelfAsset} {filter : AssetKind}, a ∈ shelf.assets →
      AssetKind.passes (some filter) a.kind = true → FileHolds (spriteName path) a.path →
      a.path ∈ shelf.search (spriteName path) (some filter) := fun hMem hPasses hHolds =>
    Shelf.mem_search_iff.mpr ⟨_, hMem, rfl, (hasFragment_iff _ _).mpr hHolds, hPasses⟩
  refine ⟨fun a hMem hPath => ?_, fun a hMem hKind hHolds => ?_, fun hMay a hMem hKind hHolds => ?_⟩
  · exact picture_eq_none hs (.converted path) hMem hPath (hWays .anyPicture)
  · have hNone := List.findSome?_eq_none_iff.mp (hWays .spriteFile) a.path
      (hSearched hMem (by rw [hKind]; rfl) hHolds)
    rw [direct?_of_sprite hs hMem hKind] at hNone
    exact picture_eq_none hs (.asset a.path) hMem rfl hNone
  · have hRaster := hWays .rasterFile
    simp only [SearchWay.find?, rasterFile?, hMay, if_true] at hRaster
    have hNone := List.findSome?_eq_none_iff.mp hRaster a.path (hSearched hMem hKind hHolds)
    exact picture_eq_none hs (.converted a.path) hMem rfl hNone

end Ordered

/-- What a finder finds on a shelf is genuine. If it finds nothing, although it is asked for
something, the shelf has no picture that would have done. -/
theorem genuine_or_exhausted (steps : List Shelf.Step) (options : SearchOptions) (raw : String) :
    let shelf := Shelf.stocked steps
    let f := (Finder.ofSource shelf.source).configure options
    (∀ s, f.answer raw = some s → Genuine shelf options s) ∧
      (f.answer raw = none → normalPath raw ≠ "" → lowered (normalPath raw) ≠ "none" →
        Exhausted shelf options (normalPath raw)) := by
  intro shelf f
  have hs : shelf.Ordered := Shelf.ordered_stocked steps
  have hFresh : f.recalled (normalPath raw) = search? shelf.source options (normalPath raw) := rfl
  have hAnswer : f.answer raw = if Finder.asksNothing (normalPath raw) then none
      else search? shelf.source options (normalPath raw) := by
    rw [Finder.answer_eq, hFresh]
    split
    · rfl
    · exact ite_self _
  refine ⟨fun s h => ?_, fun h hSome hNone => ?_⟩
  · rw [hAnswer] at h
    exact genuine_search hs (Option.ite_none_left_eq_some.mp h).2
  · have hAsks : Finder.asksNothing (normalPath raw) = false := by
      have hLower : lower (normalPath raw).toList ≠ lower "none".toList := fun hEq =>
        hNone (congrArg String.ofList hEq)
      simp only [Finder.asksNothing, agreeing, Bool.or_eq_false_iff, beq_eq_false_iff_ne]
      exact ⟨hSome, Bool.eq_false_iff.mpr fun hSame => hLower ((sameLetters_iff _ _).mp hSame)⟩
    rw [hAnswer, hAsks] at h
    exact exhausted_search hs h

/-- An icon that is found by its file name alone, behind wrappers and in another case, and a picture
that is nowhere. -/
theorem genuine_or_exhausted_icon :
    let dot := Picture.filled 1 1 255 0 0 255
    let steps : List Shelf.Step :=
      [.put ⟨"Assets/UI/icon.png", .sprite, some dot, none⟩,
        .put ⟨"Assets/Raw/photo.jpg", .texture, some dot, none⟩,
        .put ⟨"Assets/UI/logo.svg", .vector, none, none⟩]
    let options : SearchOptions := ⟨false, true, true, false⟩
    let shelf := Shelf.stocked steps
    let f := (Finder.ofSource shelf.source).configure options
    let icon : Sprite := ⟨"icon", dot, .asset "Assets/UI/icon.png"⟩
    f.answer "url('elsewhere/ICON.png')" = some icon ∧ Genuine shelf options icon ∧
      f.answer "hot" = none ∧ normalPath "hot" ≠ "" ∧ lowered (normalPath "hot") ≠ "none" ∧
      Exhausted shelf options (normalPath "hot") := by
  intro dot steps options shelf f icon
  have hIcon : f.answer "url('elsewhere/ICON.png')" = some icon := by decide +kernel
  have hNone : f.answer "hot" = none := by decide +kernel
  have hSome : normalPath "hot" ≠ "" := by decide +kernel
  have hOther : lowered (normalPath "hot") ≠ "none" := by decide +kernel
  exact ⟨hIcon, (genuine_or_exhausted steps options "url('elsewhere/ICON.png')").1 icon hIcon,
    hNone, hSome, hOther, (genuine_or_exhausted steps options "hot").2 hNone hSome hOther⟩

end AnchoredUi.Sprite
