import AnchoredUi.Kind.Basic
import AnchoredUi.SceneGraph.Basic
import AnchoredUi.Style.Value

/-!
# Warnings

What went wrong without stopping the conversion of a document. A warning has a cause, and most
name the element.
-/

namespace AnchoredUi

open SceneGraph Style Kind Text

/-- Why a widget cannot be built. -/
inductive BuildFault where
  | scene (fault : SceneFault)
  | badAttribute (name value : String)
  deriving DecidableEq

/-- What is reported about a widget. -/
def BuildFault.message : BuildFault → String
  | scene f => f.message
  | badAttribute name value =>
    "invalid value " ++ quoted value ++ " for attribute '" ++ name ++ "'"

/-- The cause of a warning. -/
inductive WarningCause where
  | style (fault : StyleFault)
  | scene (fault : SceneFault)
  | drawingReplaced (address : String)
  | backgroundMissing (address : String)
  | imageMissing (address : String)
  | unrecognized (tag : String)
  | notBuilt (kind : WidgetKind) (fault : BuildFault)
  | skipped (fault : BuildFault)
  deriving DecidableEq

/-- What is reported about a cause. -/
def WarningCause.message : WarningCause → String
  | style f => f.message
  | scene f => f.message
  | drawingReplaced address =>
    "vector image '" ++ address ++ "' replaced by a placeholder texture"
  | backgroundMissing address => "background image '" ++ address ++ "' could not be resolved"
  | imageMissing address => "image '" ++ address ++ "' could not be resolved"
  | unrecognized tag => "unrecognized element <" ++ tag ++ ">, built as a plain container"
  | notBuilt kind f =>
    "could not build " ++ kind.name ++ " (" ++ f.message ++ "), built as a container instead"
  | skipped f => "skipped with its children: " ++ f.message

/-- A cause, and the label of the element if the warning names it. -/
structure Warning where
  label : Option String
  cause : WarningCause
  deriving DecidableEq

/-- What is reported. -/
def Warning.message (w : Warning) : String :=
  match w.label with
  | some l => l ++ ": " ++ w.cause.message
  | none => w.cause.message

end AnchoredUi
