import Mathlib.Data.List.Pairwise
import Mathlib.Data.String.Basic
import AnchoredUi.Asset.Shelf
import AnchoredUi.Conversion.Batch
import AnchoredUi.Files.Disk
import AnchoredUi.Proofs.Catalog

/-!
# Files that fail in a batch

A batch goes through the files directly inside a folder. Listing the folder gives the names of these
files, each once: two items of one folder that end in the same name would have the same path.

Whatever can go wrong with a file, in its markup or in the sheet beside it, is found before
anything is converted. So a file that fails leaves the workshop as it was, with its scene and the
memory of its finder, and the next file starts as if the failing one had not been there. A batch
therefore does what it would have done with the converted files alone.

* `mem_fileNames_iff`, `nodup_fileNames`: which names are listed.
* `workshop_of_convertFile_error`: a file that fails leaves no trace.
* `convertFiles_converted`: the files that fail can be left out.
* `exists_markupPaths`: which files a batch goes through, and in which order.
* `convertFolder_isolates`: all of it for a folder.
-/

/-! ## The files of a folder -/

namespace AnchoredUi.Files.Disk

variable {d : Disk} {folder name : String} {names listed : List String} {item : DiskItem}

/-- A file of a name stands directly inside a folder. -/
def Holds (d : Disk) (folder name : String) : Prop :=
  ∃ names item, d.locate folder = .ok (.inside names) ∧ d.isFolder (.inside names) = true ∧
    d.find? (names ++ [name]) = some item ∧ item.isFile = true

/-- The files directly inside a folder. -/
def filesIn (d : Disk) (names : List String) : List DiskItem :=
  (d.inFolder names).filter DiskItem.isFile

theorem mem_filesIn_iff : item ∈ d.filesIn names ↔
    item ∈ d.entries ∧ item.isFile = true ∧ item.path ≠ [] ∧ item.path.dropLast = names := by
  simp only [filesIn, inFolder, List.mem_filter, decide_eq_true_eq]
  tauto

theorem eq_concat_of_mem_filesIn (h : item ∈ d.filesIn names)
    (hName : item.path.getLast? = some name) : item.path = names ++ [name] := by
  obtain ⟨-, -, -, rfl⟩ := mem_filesIn_iff.mp h
  exact (List.dropLast_append_getLast? name hName).symm

/-- What a folder that is listed lists. -/
theorem fileNames_cases (h : d.fileNames folder = .ok listed) :
    (d.locate folder = .ok .outside ∧ listed = []) ∨
      ∃ names, d.locate folder = .ok (.inside names) ∧ d.isFolder (.inside names) = true ∧
        listed = (d.filesIn names).filterMap fun item => item.path.getLast? := by
  unfold fileNames at h
  split at h
  · cases h
  · rename_i place hPlace
    split at h
    · rename_i hFolder
      split at h
      · cases h
        exact Or.inl ⟨hPlace, rfl⟩
      · rename_i names
        cases h
        exact Or.inr ⟨names, hPlace, hFolder, rfl⟩
    · cases h

variable (hd : d.keys.Nodup)
include hd

theorem mem_fileNames_iff (h : d.fileNames folder = .ok listed) :
    name ∈ listed ↔ d.Holds folder name := by
  rcases fileNames_cases h with ⟨hPlace, rfl⟩ | ⟨names, hPlace, hFolder, rfl⟩
  · simp [Holds, hPlace]
  rw [List.mem_filterMap]
  constructor
  · rintro ⟨item, hItem, hName⟩
    have hPath := eq_concat_of_mem_filesIn hItem hName
    obtain ⟨hEntry, hFile, -, -⟩ := mem_filesIn_iff.mp hItem
    refine ⟨names, item, hPlace, hFolder, ?_, hFile⟩
    rw [← hPath]
    exact Catalog.find?_of_mem hd hEntry
  · rintro ⟨names', item, hPlace', -, hFind, hFile⟩
    cases hPlace.symm.trans hPlace'
    obtain ⟨hPath, hEntry⟩ := Catalog.key_of_find? hFind
    refine ⟨item, mem_filesIn_iff.mpr ⟨hEntry, hFile, ?_, ?_⟩, ?_⟩
    · simp [hPath]
    · rw [hPath, List.dropLast_concat]
    · rw [hPath, List.getLast?_concat]

theorem nodup_fileNames (h : d.fileNames folder = .ok listed) : listed.Nodup := by
  rcases fileNames_cases h with ⟨-, rfl⟩ | ⟨names, -, -, rfl⟩
  · exact List.nodup_nil
  have hPaths : (d.filesIn names).Pairwise fun a b => a.path ≠ b.path := by
    have hAll : d.entries.Pairwise fun a b => a.path ≠ b.path := List.pairwise_map.mp hd
    exact (hAll.filter _).filter _
  refine List.pairwise_filterMap.mpr (hPaths.imp_of_mem ?_)
  rintro a b ha hb hNe name hName _ hName' rfl
  exact hNe ((eq_concat_of_mem_filesIn ha hName).trans (eq_concat_of_mem_filesIn hb hName').symm)

end AnchoredUi.Files.Disk

namespace AnchoredUi.Conversion

open SceneGraph Files

/-- The outcomes of the files that were converted. -/
def BatchReport.converted (b : BatchReport) : List FileOutcome :=
  b.files.filter fun f => f.result.isOk

namespace Workshop

variable {w w' : Workshop} {d : Disk} {path folder : String} {parent : NodeId} {f : Fault}
  {paths : List String}

/-! ## One file -/

theorem workshop_of_convertText_error {markup sheet : String}
    (h : w.convertText markup sheet parent = (.error f, w')) : w' = w := by
  unfold convertText at h
  split at h
  · cases h
    rfl
  · cases h

/-- A file that cannot be converted leaves the workshop as it was. -/
theorem workshop_of_convertFile_error (h : w.convertFile d path parent = (.error f, w')) :
    w' = w := by
  unfold convertFile at h
  split at h
  · cases h
    rfl
  · split at h
    · cases h
      rfl
    · exact workshop_of_convertText_error h

/-! ## Many files -/

theorem map_path_convertFiles (w : Workshop) (d : Disk) (parent : NodeId) (paths : List String) :
    (w.convertFiles d parent paths).1.map FileOutcome.path = paths := by
  induction paths generalizing w with
  | nil => rfl
  | cons p ps ih => simp only [convertFiles, List.map_cons, ih]

/-- Without the files that fail, the others are converted just the same. -/
theorem convertFiles_converted (w : Workshop) (d : Disk) (parent : NodeId) (paths : List String) :
    let converted := (w.convertFiles d parent paths).1.filter fun f => f.result.isOk
    w.convertFiles d parent (converted.map FileOutcome.path) =
      (converted, (w.convertFiles d parent paths).2) := by
  induction paths generalizing w with
  | nil => rfl
  | cons p ps ih =>
    rcases hFile : w.convertFile d p parent with ⟨_ | r, w'⟩
    · cases workshop_of_convertFile_error hFile
      simpa [convertFiles, hFile, Except.isOk, Except.toBool] using ih w
    · simpa [convertFiles, hFile, Except.isOk, Except.toBool, Prod.ext_iff] using ih w'

/-! ## The files of a folder -/

/-- The markup files of a folder, by their names. -/
theorem exists_markupPaths (hd : d.keys.Nodup) (h : w.markupPaths d folder = .ok paths) :
    ∃ names : List String, paths = names.map (join folder) ∧ names.Pairwise (· < ·) ∧
      ∀ name, name ∈ names ↔ w.isMarkupName name = true ∧ d.Holds folder name := by
  obtain ⟨listed, hListed, rfl⟩ : ∃ listed, d.fileNames folder = .ok listed ∧
      ((listed.filter w.isMarkupName).mergeSort fun a b => decide (a ≤ b)).map (join folder) =
        paths := by
    unfold markupPaths at h
    cases hListed : d.fileNames folder with
    | error f => simp [hListed, Except.map] at h
    | ok listed =>
      rw [hListed] at h
      exact ⟨listed, rfl, Except.ok.inj h⟩
  have hPerm := List.mergeSort_perm (listed.filter w.isMarkupName) fun a b => decide (a ≤ b)
  refine ⟨_, rfl, ?_, fun name => ?_⟩
  · have hSorted : ((listed.filter w.isMarkupName).mergeSort fun a b => decide (a ≤ b)).Pairwise
        fun a b => decide (a ≤ b) = true := by
      refine List.pairwise_mergeSort (fun a b c hab hbc => ?_) (fun a b => ?_) _
      · exact decide_eq_true (le_trans (of_decide_eq_true hab) (of_decide_eq_true hbc))
      · simpa using le_total a b
    have hNodup := hPerm.nodup_iff.mpr ((Disk.nodup_fileNames hd hListed).filter w.isMarkupName)
    exact hSorted.imp₂ (fun a b hLe hNe => lt_of_le_of_ne (of_decide_eq_true hLe) hNe) hNodup
  · rw [hPerm.mem_iff, List.mem_filter, Disk.mem_fileNames_iff hd hListed]
    exact and_comm

/-- A file that fails leaves the workshop as it was. A folder that can be listed gives a report
with one outcome for each markup file directly inside of it, in the order of their names; and what
the batch leaves behind, and what it gives for the converted files, is what these files give alone,
one after the other. -/
theorem convertFolder_isolates (hd : d.keys.Nodup) (w : Workshop) (parent : NodeId) :
    (∀ path f w', w.convertFile d path parent = (.error f, w') → w' = w) ∧
      ∀ folder, match d.fileNames folder with
        | .error f => w.convertFolder d folder parent = (.error (.unreadable folder f), w)
        | .ok _ => ∃ b w', w.convertFolder d folder parent = (.ok b, w') ∧
            (∃ names : List String, b.files.map FileOutcome.path = names.map (join folder) ∧
              names.Pairwise (· < ·) ∧
              ∀ name, name ∈ names ↔ w.isMarkupName name = true ∧ d.Holds folder name) ∧
            w.convertFiles d parent (b.converted.map FileOutcome.path) = (b.converted, w') := by
  refine ⟨fun path f w' h => workshop_of_convertFile_error h, fun folder => ?_⟩
  cases hListed : d.fileNames folder with
  | error f => simp [convertFolder, markupPaths, hListed, Except.map]
  | ok listed =>
    obtain ⟨paths, hPaths⟩ : ∃ paths, w.markupPaths d folder = .ok paths := by
      simp [markupPaths, hListed, Except.map]
    refine ⟨⟨(w.convertFiles d parent paths).1⟩, (w.convertFiles d parent paths).2, ?_, ?_, ?_⟩
    · simp [convertFolder, hPaths]
    · rw [map_path_convertFiles]
      exact exists_markupPaths hd hPaths
    · exact convertFiles_converted w d parent paths

/-- A folder with a markup file, one that is no text, one that may not be read, and another file.
Only the first one is converted, as it would be alone. -/
theorem convertFolder_isolates_mixed :
    let d : Disk := Catalog.ofList [⟨["ui"], .folder⟩, ⟨["ui", "c.uxml"], .closed⟩,
      ⟨["ui", "b.uxml"], .file [255]⟩, ⟨["ui", "notes.txt"], .file []⟩,
      ⟨["ui", "a.uxml"], .file [60, 65, 47, 62]⟩]
    let canvas := Scene.empty.nodes.nextKey
    let w : Workshop := ⟨.ofFinder default (.ofSource Asset.Shelf.empty.source),
      .ofScene (.withCanvas 800 600)⟩
    d.keys.Nodup ∧
      w.convertFile d "ui/b.uxml" canvas = (.error (.unreadable "ui/b.uxml" .notText), w) ∧
      w.convertFile d "ui/c.uxml" canvas = (.error (.unreadable "ui/c.uxml" .notPermitted), w) ∧
      ∃ b w', w.convertFolder d "ui" canvas = (.ok b, w') ∧
        b.files.map (fun f => (f.path, f.result.isOk)) =
          [("ui/a.uxml", true), ("ui/b.uxml", false), ("ui/c.uxml", false)] ∧
        w.convertFiles d canvas ["ui/a.uxml"] = (b.converted, w') := by
  intro d canvas w
  have hd : d.keys.Nodup := by decide +kernel
  have hListed : d.fileNames "ui" = .ok ["c.uxml", "b.uxml", "notes.txt", "a.uxml"] := by
    decide +kernel
  have hMarkup : ["c.uxml", "b.uxml", "notes.txt", "a.uxml"].filter w.isMarkupName =
      ["c.uxml", "b.uxml", "a.uxml"] := by decide +kernel
  have hPaths : w.markupPaths d "ui" = .ok ["ui/a.uxml", "ui/b.uxml", "ui/c.uxml"] := by
    simp +decide [markupPaths, hListed, Except.map, hMarkup, List.mergeSort]
  have hResults : (w.convertFiles d canvas ["ui/a.uxml", "ui/b.uxml", "ui/c.uxml"]).1.map
      (fun f => (f.path, f.result.isOk)) =
        [("ui/a.uxml", true), ("ui/b.uxml", false), ("ui/c.uxml", false)] := by decide +kernel
  obtain ⟨-, hFolder⟩ := convertFolder_isolates hd w canvas
  have hBatch := hFolder "ui"
  rw [hListed] at hBatch
  obtain ⟨b, w', hRun, -, hAlone⟩ := hBatch
  have hFiles : b.files = (w.convertFiles d canvas ["ui/a.uxml", "ui/b.uxml", "ui/c.uxml"]).1 := by
    simp only [convertFolder, hPaths, Prod.mk.injEq, Except.ok.injEq] at hRun
    rw [← hRun.1]
  have hConverted : b.converted.map FileOutcome.path = ["ui/a.uxml"] := by
    have hPairs : b.converted.map FileOutcome.path =
        ((b.files.map fun f => (f.path, f.result.isOk)).filter Prod.snd).map Prod.fst := by
      simp [BatchReport.converted, List.filter_map, Function.comp_def]
    rw [hPairs, hFiles, hResults]
    rfl
  rw [hConverted] at hAlone
  have hB : fileText d "ui/b.uxml" = .error (.unreadable "ui/b.uxml" .notText) := by
    decide +kernel
  have hC : fileText d "ui/c.uxml" = .error (.unreadable "ui/c.uxml" .notPermitted) := by
    decide +kernel
  exact ⟨hd, by simp only [convertFile, hB], by simp only [convertFile, hC], b, w', hRun,
    hFiles ▸ hResults, hAlone⟩

end Workshop

end AnchoredUi.Conversion
