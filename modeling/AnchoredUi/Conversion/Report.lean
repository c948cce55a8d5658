import AnchoredUi.Files.Disk
import AnchoredUi.Files.Path
import AnchoredUi.Markup.Document
import AnchoredUi.Warning

/-!
# Reports of conversions

What a conversion gives, why there is none, and how the conversions of the files of a folder are
summed up.

* `succeeded_add_failed`: every file either succeeds or fails.
-/

namespace AnchoredUi.Conversion

open SceneGraph Files Markup

/-- What a conversion gives. -/
structure Result where
  /-- How many elements were turned into nodes. -/
  count : Nat
  /-- The nodes of these elements, children before their parents. -/
  created : List NodeId
  warnings : List Warning
  deriving DecidableEq

namespace Result

/-- The node of the root element. -/
def root? (r : Result) : Option NodeId := r.created.getLast?

/-- The result in one line. -/
def summary (r : Result) : String :=
  toString r.count ++ " node(s) created, " ++ toString r.warnings.length ++ " warning(s)"

end Result

/-- Why there is no result. -/
inductive Fault where
  | malformed (fault : Xml.Fault)
  | unreadable (path : String) (fault : DiskFault)
  deriving DecidableEq

/-- What is reported instead of a result. -/
def Fault.message : Fault → String
  | malformed fault => markupMessage fault
  | unreadable path fault => "cannot read " ++ path ++ ": " ++ fault.message

/-! ## Files of a folder -/

/-- What became of one file. -/
structure FileOutcome where
  path : String
  result : Except Fault Result

/-- One line about a file. -/
def FileOutcome.line (f : FileOutcome) : String :=
  match f.result with
  | .ok r => shownName f.path ++ ": " ++ r.summary
  | .error e => shownName f.path ++ ": failed: " ++ e.message

/-- What became of the files of a folder. -/
structure BatchReport where
  files : List FileOutcome

namespace BatchReport

/-- How many files were converted. -/
def succeeded (b : BatchReport) : Nat := b.files.countP fun f => f.result.isOk

/-- How many files were not converted. -/
def failed (b : BatchReport) : Nat := b.files.countP fun f => !f.result.isOk

/-- The totals, and a line for each file. -/
def summary (b : BatchReport) : String :=
  let total := "converted " ++ toString b.succeeded ++ " of " ++ toString b.files.length ++
    " file(s), " ++ toString b.failed ++ " failed"
  "\n".intercalate (total :: b.files.map FileOutcome.line)

theorem succeeded_add_failed (b : BatchReport) : b.succeeded + b.failed = b.files.length := by
  unfold succeeded failed
  induction b.files with
  | nil => rfl
  | cons f fs ih =>
    simp only [List.countP_cons, List.length_cons, ← ih]
    cases f.result.isOk <;> simp <;> omega

end BatchReport

end AnchoredUi.Conversion
