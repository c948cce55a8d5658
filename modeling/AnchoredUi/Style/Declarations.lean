import AnchoredUi.Catalog
import AnchoredUi.Text.Case
import AnchoredUi.Text.Split
import AnchoredUi.Text.Trim

/-!
# Declarations

A declaration gives a property a value. A block of declarations keeps the first place and the
last value of each property.
-/

namespace AnchoredUi.Style

open Text

/-- A property with its value, both as written. -/
structure Declaration where
  property : String
  value : String
  deriving DecidableEq, Repr

/-- Declarations of distinct properties. -/
abbrev Declarations := Catalog Declaration.property

namespace Declarations

/-- The value of a property. -/
def get? (ds : Declarations) (property : String) : Option String :=
  (ds.find? property).map Declaration.value

/-- The declarations with those of a second block on top. -/
def overlay (ds es : Declarations) : Declarations := es.entries.foldl Catalog.put ds

/-- What a piece between semicolons declares: a name before its first colon, in small letters,
and a value behind it. -/
def ofPiece? (piece : List Char) : Option Declaration :=
  match cutAt ':' piece with
  | none => none
  | some (name, value) =>
    let name := trim name
    if name = [] then none
    else some ⟨String.ofList (lower name), String.ofList (trim value)⟩

/-- The declarations of a block, given by its characters. -/
def ofChars (block : List Char) : Declarations :=
  Catalog.ofList ((pieces ';' block).filterMap ofPiece?)

/-- The declarations of a block. -/
def parse (block : String) : Declarations := ofChars block.toList

end Declarations

end AnchoredUi.Style
