import AnchoredUi.Asset.Shelf
import AnchoredUi.Proofs.Text.Cut

/-!
# What stands on a shelf

A shelf is filled step by step, each asset at the place of its path in the order of all paths. So
no path comes twice, an asset is found under its own path, and a search goes through all assets.

* `ordered_stocked`: the paths of a shelf are strictly ordered.
* `find?_eq_some_iff`: what is found under a path is the asset of that path.
* `withGuid?_eq_some`: what is found by an identifier.
* `mem_search_iff`: a search misses no asset.
-/

namespace AnchoredUi.Asset

open Text

theorem hasFragment_iff (fragment path : String) :
    hasFragment fragment path = true ↔
      lower fragment.toList <:+: lower (behindLast '/' path.toList) := by
  rw [hasFragment, occursIn_iff]

namespace Shelf

/-! ## Filling a shelf -/

/-- A step of filling a shelf: an asset is put on it, or the asset of a path gets an identifier. -/
inductive Step where
  | put (a : ShelfAsset)
  | withGuid (path guid : String)

/-- The shelf after a step. -/
def Step.run : Step → Shelf → Shelf
  | put a, s => s.put a
  | withGuid path guid, s => s.withGuid path guid

/-- The shelf that is filled by steps, one after the other. -/
def stocked (steps : List Step) : Shelf := steps.foldl (fun s step => step.run s) empty

/-- The paths are in strict order. -/
def Ordered (s : Shelf) : Prop := s.assets.Pairwise fun a b => a.path < b.path

variable {s : Shelf} {a b : ShelfAsset}

theorem mem_insert {as : List ShelfAsset} (h : b ∈ insert a as) : b = a ∨ b ∈ as := by
  induction as with
  | nil => exact Or.inl (List.mem_singleton.mp h)
  | cons c cs ih =>
    rw [insert] at h
    split at h
    · exact (List.mem_cons.mp h).imp_right (List.mem_cons_of_mem c)
    · split at h
      · exact List.mem_cons.mp h
      · rcases List.mem_cons.mp h with rfl | hRest
        · exact Or.inr List.mem_cons_self
        · exact (ih hRest).imp_right (List.mem_cons_of_mem c)

theorem Ordered.put (h : s.Ordered) (a : ShelfAsset) : (s.put a).Ordered := by
  obtain ⟨as⟩ := s
  change as.Pairwise _ at h
  change (insert a as).Pairwise _
  induction as with
  | nil => exact List.pairwise_singleton _ a
  | cons b bs ih =>
    obtain ⟨hFirst, hRest⟩ := List.pairwise_cons.mp h
    rw [insert]
    split
    · rename_i hSame
      exact List.pairwise_cons.mpr ⟨fun c hc => hSame ▸ hFirst c hc, hRest⟩
    · rename_i hOther
      split
      · rename_i hBefore
        refine List.pairwise_cons.mpr ⟨fun c hc => ?_, h⟩
        rcases List.mem_cons.mp hc with rfl | hc
        · exact hBefore
        · exact String.lt_trans hBefore (hFirst c hc)
      · rename_i hNot
        have hBehind : b.path < a.path :=
          Std.lt_of_le_of_ne (String.not_lt.mp hNot) fun hEq => hOther hEq.symm
        refine List.pairwise_cons.mpr ⟨fun c hc => ?_, ih hRest⟩
        rcases mem_insert hc with rfl | hc
        · exact hBehind
        · exact hFirst c hc

theorem Ordered.withGuid (h : s.Ordered) (path guid : String) : (s.withGuid path guid).Ordered := by
  have hPath : ∀ a : ShelfAsset,
      (if a.path = path then { a with guid := some guid } else a).path = a.path := fun a => by
    split <;> rfl
  refine List.pairwise_map.mpr (h.imp fun {a b} hLt => ?_)
  rwa [hPath, hPath]

theorem ordered_stocked (steps : List Step) : (stocked steps).Ordered := by
  suffices hAll : ∀ s : Shelf, s.Ordered → (steps.foldl (fun s step => step.run s) s).Ordered from
    hAll empty List.Pairwise.nil
  induction steps with
  | nil => exact fun s hs => hs
  | cons step steps ih =>
    intro s hs
    refine ih _ ?_
    cases step with
    | put a => exact hs.put a
    | withGuid path guid => exact hs.withGuid path guid

/-! ## Finding assets -/

theorem find?_eq_some_iff (h : s.Ordered) {path : String} :
    s.find? path = some a ↔ a ∈ s.assets ∧ a.path = path := by
  obtain ⟨as⟩ := s
  change as.Pairwise _ at h
  change as.find? _ = some a ↔ a ∈ as ∧ _
  induction as with
  | nil => simp
  | cons b bs ih =>
    obtain ⟨hFirst, hRest⟩ := List.pairwise_cons.mp h
    rw [List.find?_cons, List.mem_cons]
    by_cases hPath : b.path = path
    · simp only [hPath, decide_true, Option.some.injEq]
      constructor
      · rintro rfl
        exact ⟨Or.inl rfl, hPath⟩
      · rintro ⟨rfl | hMem, ha⟩
        · rfl
        · exact absurd (hFirst a hMem) (hPath ▸ ha ▸ String.lt_irrefl _)
    · simp only [hPath, decide_false, ih hRest]
      constructor
      · exact fun ha => ⟨Or.inr ha.1, ha.2⟩
      · rintro ⟨rfl | hMem, ha⟩
        · exact absurd ha hPath
        · exact ⟨hMem, ha⟩

theorem find?_eq_none_iff {path : String} :
    s.find? path = none ↔ ∀ a ∈ s.assets, a.path ≠ path := by
  simp [find?]

/-- What is found by an identifier is the first asset with it, in the order of the paths. -/
theorem withGuid?_eq_some (hs : s.Ordered) {guid : String} (hMem : a ∈ s.assets)
    (hGuid : a.guid = some guid)
    (hFirst : ∀ b ∈ s.assets, b.guid = some guid → a.path ≤ b.path) :
    s.source.withGuid? guid = some a.path := by
  obtain ⟨before, behind, hSplit⟩ := List.append_of_mem hMem
  have hBefore : ∀ b ∈ before, b.path < a.path := by
    have hPaths : s.assets.Pairwise fun a b => a.path < b.path := hs
    rw [hSplit] at hPaths
    exact fun b hb => (List.pairwise_append.mp hPaths).2.2 b hb a List.mem_cons_self
  have hFind : s.assets.find? (fun b => b.guid == some guid) = some a := by
    rw [List.find?_eq_some_iff_append]
    refine ⟨beq_iff_eq.mpr hGuid, before, behind, hSplit, fun b hb => ?_⟩
    rw [Bool.not_eq_true', beq_eq_false_iff_ne]
    intro hSame
    have hb' : b ∈ s.assets := hSplit ▸ List.mem_append_left _ hb
    exact String.lt_irrefl _ (Std.lt_of_lt_of_le (hBefore b hb) (hFirst b hb' hSame))
  exact congrArg (Option.map ShelfAsset.path) hFind

theorem mem_search_iff {fragment path : String} {filter : Option AssetKind} :
    path ∈ s.search fragment filter ↔ ∃ a ∈ s.assets, a.path = path ∧
      hasFragment fragment path = true ∧ AssetKind.passes filter a.kind = true := by
  simp only [search, List.mem_map, List.mem_filter, Bool.and_eq_true]
  constructor
  · rintro ⟨a, ⟨hMem, hFragment, hKind⟩, rfl⟩
    exact ⟨a, hMem, rfl, hFragment, hKind⟩
  · rintro ⟨a, hMem, rfl, hFragment, hKind⟩
    exact ⟨a, ⟨hMem, hFragment, hKind⟩, rfl⟩

end Shelf

end AnchoredUi.Asset
