import AnchoredUi.Files.Disk
import AnchoredUi.Markup.Document

/-!
# Markup files

Reading a markup document from a file.
-/

namespace AnchoredUi.Markup

open Files

/-- Why a file gives no document. -/
inductive FileFault where
  | unreadable (path : String) (fault : DiskFault)
  | malformed (fault : Xml.Fault)
  deriving DecidableEq

/-- What is reported about a file. -/
def FileFault.message : FileFault → String
  | unreadable path fault => "cannot read markup file " ++ path ++ ": " ++ fault.message
  | malformed fault => markupMessage fault

/-- Reads the document of a file. -/
def readMarkup (d : Disk) (path : String) : Except FileFault Element :=
  match d.readText path with
  | .error f => .error (.unreadable path f)
  | .ok text => (parseMarkup text).mapError .malformed

end AnchoredUi.Markup
