import AnchoredUi.Conversion.Converter

/-!
# Converting files

A markup file is converted together with the style sheet of the same name beside it, if there is
one. All markup files of a folder are converted in the order of their names; a file that fails does
not stop the others.

* `length_files_convertFolder`: the report has an outcome for each markup file of the folder.
-/

namespace AnchoredUi.Conversion

open SceneGraph Files Text

namespace Workshop

/-- The text of a file, for a conversion. -/
def fileText (d : Disk) (path : String) : Except Fault String :=
  (d.readText path).mapError (.unreadable path)

/-- The text of the style sheet beside a markup file; none is an empty one. -/
def sheetBeside (w : Workshop) (d : Disk) (path : String) : Except Fault String :=
  let beside := withExtension path w.converter.settings.sheetExtension
  if d.isFile beside then fileText d beside else .ok ""

/-- Converts a markup file below a parent. -/
def convertFile (w : Workshop) (d : Disk) (path : String) (parent : NodeId) :
    Except Fault Result × Workshop :=
  match fileText d path with
  | .error f => (.error f, w)
  | .ok markup =>
    match w.sheetBeside d path with
    | .error f => (.error f, w)
    | .ok sheet => w.convertText markup sheet parent

/-- Converts files one after the other. -/
def convertFiles (w : Workshop) (d : Disk) (parent : NodeId) :
    List String → List FileOutcome × Workshop
  | [] => ([], w)
  | path :: paths =>
    let (r, w) := w.convertFile d path parent
    let (rs, w) := w.convertFiles d parent paths
    (⟨path, r⟩ :: rs, w)

/-- A name ends in the extension of markup files, in any case of letters. -/
def isMarkupName (w : Workshop) (name : String) : Bool :=
  (extension? name).any fun e => sameLetters e w.converter.settings.markupExtension.toList

/-- The paths of the markup files directly inside a folder, by their names. -/
def markupPaths (w : Workshop) (d : Disk) (folder : String) : Except DiskFault (List String) :=
  (d.fileNames folder).map fun names =>
    ((names.filter w.isMarkupName).mergeSort fun a b => decide (a ≤ b)).map (join folder)

/-- Converts all markup files directly inside a folder. -/
def convertFolder (w : Workshop) (d : Disk) (folder : String) (parent : NodeId) :
    Except Fault BatchReport × Workshop :=
  match w.markupPaths d folder with
  | .error f => (.error (.unreadable folder f), w)
  | .ok paths =>
    let (files, w) := w.convertFiles d parent paths
    (.ok ⟨files⟩, w)

theorem length_convertFiles (w : Workshop) (d : Disk) (parent : NodeId) (paths : List String) :
    (w.convertFiles d parent paths).1.length = paths.length := by
  induction paths generalizing w with
  | nil => rfl
  | cons p ps ih => simp only [convertFiles, List.length_cons, ih]

theorem length_files_convertFolder {w : Workshop} {d : Disk} {folder : String} {parent : NodeId}
    {paths : List String} {b : BatchReport} (h : w.markupPaths d folder = .ok paths)
    (hb : (w.convertFolder d folder parent).1 = .ok b) : b.files.length = paths.length := by
  simp only [convertFolder, h, Except.ok.injEq] at hb
  rw [← hb]
  exact w.length_convertFiles d parent paths

end Workshop

end AnchoredUi.Conversion
