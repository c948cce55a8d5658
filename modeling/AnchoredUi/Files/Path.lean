import AnchoredUi.Text.Case
import AnchoredUi.Text.Split

/-!
# Paths of files

A path is a list of names between slashes. The last name of a path may end in a point and an
extension; a point at its very start begins no extension.

* `nameParts_append`: stem, point and extension make up the name again.
-/

namespace AnchoredUi.Files

open Text

/-- The segments of a path that name something. -/
def names (path : List Char) : List (List Char) :=
  (pieces '/' path).filter fun s => s ≠ [] ∧ s ≠ ['.']

/-- The last name of a path; a path that ends upward has none. -/
def fileName? (path : String) : Option String :=
  match (names path.toList).getLast? with
  | some name => if name = ['.', '.'] then none else some (String.ofList name)
  | none => none

/-- A name as it is shown: the last name of a path, or the whole path. -/
def shownName (path : String) : String := (fileName? path).getD path

/-- The stem and the extension of a name. -/
def nameParts (name : List Char) : List Char × Option (List Char) :=
  match cutAtLast '.' name with
  | some (front, back) => if front = [] then (name, none) else (front, some back)
  | none => (name, none)

theorem nameParts_append (name : List Char) :
    (nameParts name).1 ++ ((nameParts name).2.map ('.' :: ·)).getD [] = name := by
  unfold nameParts
  split
  · rename_i front back h
    split
    · simp
    · unfold cutAtLast at h
      obtain ⟨r, hr, he⟩ := Option.map_eq_some_iff.mp h
      have hcut := (append_of_cutAt (a := r.1) (b := r.2) hr).1
      have hname : name = r.2.reverse ++ '.' :: r.1.reverse := by
        rw [← List.reverse_reverse name, hcut]
        simp
      simp only [Prod.mk.injEq] at he
      simp [← he.1, ← he.2, hname]
  · simp

/-- The extension of a path. -/
def extension? (path : String) : Option (List Char) :=
  (fileName? path).bind fun name => (nameParts name.toList).2

/-- The path of a file with another extension. -/
def withExtension (path ext : String) : String :=
  let behind := if ext = "" then [] else '.' :: ext.toList
  match cutAtLast '/' path.toList with
  | some (folder, name) => String.ofList (folder ++ '/' :: (nameParts name).1 ++ behind)
  | none => String.ofList ((nameParts path.toList).1 ++ behind)

/-- The path of a name inside a folder. -/
def join (folder name : String) : String :=
  if folder = "" ∨ folder.toList.getLast? = some '/' then folder ++ name
  else folder ++ "/" ++ name

end AnchoredUi.Files
