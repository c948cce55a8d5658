import AnchoredUi.Catalog
import AnchoredUi.Files.Path

/-!
# Disks

A disk is the content of the folder that paths start from: files with their bytes, files that may
not be read, and folders. What lies outside that folder is not known, and nothing is found there.

* `mem_of_read`: what is read is the content of a file of the disk.
-/

namespace AnchoredUi.Files

open Text

/-- A folder, a file with its bytes, or a file that may not be read. -/
inductive DiskContent where
  | folder
  | file (bytes : List UInt8)
  | closed
  deriving DecidableEq, Repr

/-- A file or a folder, under the names that lead to it. -/
structure DiskItem where
  path : List String
  content : DiskContent
  deriving DecidableEq, Repr

/-- The item is a file, whether it may be read or not. -/
def DiskItem.isFile (item : DiskItem) : Bool := item.content != .folder

/-- Files and folders with distinct paths. -/
abbrev Disk := Catalog DiskItem.path

/-- Why nothing can be read from a path. -/
inductive DiskFault where
  | notFound
  | notPermitted
  | notAFolder
  | isAFolder
  | nameTooLong
  | zeroInName
  | notText
  /-- Anything else, in words. -/
  | other (reason : String)
  deriving DecidableEq, Repr

/-- What is reported about a path. -/
def DiskFault.message : DiskFault → String
  | notFound => "No such file or directory (os error 2)"
  | notPermitted => "Permission denied (os error 13)"
  | notAFolder => "Not a directory (os error 20)"
  | isAFolder => "Is a directory (os error 21)"
  | nameTooLong => "File name too long (os error 36)"
  | zeroInName => "file name contained an unexpected NUL byte"
  | notText => "stream did not contain valid UTF-8"
  | other reason => reason

/-- Where a path leads: to the top folder or below it, or out of it. -/
inductive Place where
  | inside (path : List String)
  | outside
  deriving DecidableEq, Repr

namespace Disk

/-! ## Following a path -/

/-- The place is a folder. -/
def isFolder (d : Disk) : Place → Bool
  | .outside => true
  | .inside path => path = [] ∨ d.find? path = some ⟨path, .folder⟩

/-- The most bytes of a name. -/
def longestName : Nat := 255

/-- The most bytes of a path. -/
def longestPath : Nat := 4095

/-- Follows one segment of a path. -/
def follow (d : Disk) (place : Place) (segment : String) : Except DiskFault Place :=
  if !d.isFolder place then .error .notAFolder
  else if segment = "" ∨ segment = "." then .ok place
  else if segment = ".." then
    match place with
    | .outside | .inside [] => .ok .outside
    | .inside path => .ok (.inside path.dropLast)
  else if longestName < segment.utf8ByteSize then .error .nameTooLong
  else
    match place with
    | .outside => .error .notFound
    | .inside path =>
      if d.contains (path ++ [segment]) then .ok (.inside (path ++ [segment]))
      else .error .notFound

/-- Where a path leads. -/
def locate (d : Disk) (path : String) : Except DiskFault Place :=
  let cs := path.toList
  if cs.contains (Char.ofNat 0) then .error .zeroInName
  else if path = "" then .error .notFound
  else if longestPath < path.utf8ByteSize then .error .nameTooLong
  else
    let start : Place := if cs.head? = some '/' then .outside else .inside []
    ((pieces '/' cs).map String.ofList).foldlM d.follow start

/-! ## Reading -/

/-- The bytes of a file. -/
def read (d : Disk) (path : String) : Except DiskFault (List UInt8) :=
  match d.locate path with
  | .error f => .error f
  | .ok .outside => .error .isAFolder
  | .ok (.inside names) =>
    match (d.find? names).map DiskItem.content with
    | some (.file bytes) => .ok bytes
    | some .closed => .error .notPermitted
    | _ => .error .isAFolder

/-- The text of a file. -/
def readText (d : Disk) (path : String) : Except DiskFault String :=
  match d.read path with
  | .error f => .error f
  | .ok bytes =>
    match String.fromUTF8? ⟨bytes.toArray⟩ with
    | some s => .ok s
    | none => .error .notText

/-- The path leads to a file, whether it may be read or not. -/
def isFile (d : Disk) (path : String) : Bool :=
  match d.locate path with
  | .ok (.inside names) => (d.find? names).any DiskItem.isFile
  | _ => false

/-- The items directly inside a folder. -/
def inFolder (d : Disk) (names : List String) : List DiskItem :=
  d.entries.filter fun item => item.path ≠ [] ∧ item.path.dropLast = names

/-- The names of the files directly inside a folder. -/
def fileNames (d : Disk) (folder : String) : Except DiskFault (List String) :=
  match d.locate folder with
  | .error f => .error f
  | .ok place =>
    if d.isFolder place then
      match place with
      | .outside => .ok []
      | .inside names =>
        .ok (((d.inFolder names).filter DiskItem.isFile).filterMap fun item =>
          item.path.getLast?)
    else .error .notAFolder

/-- The paths of all files below a folder, from that folder on, in order. -/
def filesBelow (d : Disk) (folder : String) : List String :=
  match d.locate folder with
  | .ok (.inside names) =>
    if d.isFolder (.inside names) then
      let below := d.entries.filter fun item => item.isFile ∧ names.isPrefixOf item.path
      (below.map fun item => "/".intercalate (item.path.drop names.length)).mergeSort
        fun a b => decide (a ≤ b)
    else []
  | _ => []

theorem mem_of_read {d : Disk} {path : String} {bytes : List UInt8} (h : d.read path = .ok bytes) :
    ∃ names, (⟨names, .file bytes⟩ : DiskItem) ∈ d.entries := by
  unfold read at h
  split at h
  · cases h
  · cases h
  · rename_i names _
    split at h
    · rename_i bs hb
      cases h
      obtain ⟨item, hi, hbytes⟩ := Option.map_eq_some_iff.mp hb
      refine ⟨item.path, ?_⟩
      have hm := List.mem_of_find?_eq_some hi
      rw [← hbytes]
      exact hm
    · cases h
    · cases h

/-! ## Writing -/

/-- The disk with a folder and all folders above it. -/
def addFolder (d : Disk) (path : List String) : Disk :=
  ((List.range path.length).map fun n => path.take (n + 1)).foldl
    (fun d p => if d.contains p then d else d.put ⟨p, .folder⟩) d

/-- The names of a path. -/
def namesOf (path : String) : List String := (names path.toList).map String.ofList

/-- The disk with a folder. -/
def makeFolder (d : Disk) (path : String) : Disk := d.addFolder (namesOf path)

/-- The disk with a file, in folders that are made as needed. -/
def write (d : Disk) (path : String) (bytes : List UInt8) : Disk :=
  let names := namesOf path
  (d.addFolder names.dropLast).put ⟨names, .file bytes⟩

end Disk

end AnchoredUi.Files
