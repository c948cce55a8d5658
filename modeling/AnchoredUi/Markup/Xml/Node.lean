import AnchoredUi.Markup.Xml.Fault
import AnchoredUi.Markup.Xml.Cursor

/-!
# The tree of an XML document

Elements with their attributes and content. Names carry the address of their namespace in place
of its abbreviation.
-/

namespace AnchoredUi.Markup.Xml

/-- A name with the address of its namespace. -/
structure FullName where
  space : Option (List Char)
  plain : List Char
  deriving DecidableEq

/-- An attribute with its value after references are replaced. -/
structure NodeAttribute where
  name : FullName
  value : List Char
  deriving DecidableEq

/-- A part of a document. -/
inductive Node where
  | element (name : FullName) (attributes : List NodeAttribute) (content : List Node)
  | text (value : List Char)
  | comment (value : List Char)
  | instruction (target : List Char) (value : List Char)

namespace Node

/-- The part is an element. -/
def isElement : Node → Bool
  | element _ _ _ => true
  | _ => false

end Node

/-! ## Open elements -/

/-- The namespaces that are in force, the innermost first; the default one has no abbreviation. -/
abbrev Scope := List (Option (List Char) × List Char)

/-- An element whose content is being read, with the last part first. -/
structure OpenElement where
  written : Reader.QName
  name : FullName
  attributes : List NodeAttribute
  scope : Scope
  content : List Node

/-- An attribute as written, with its place. -/
structure WrittenAttribute where
  name : Reader.QName
  value : List Char
  place : Position

/-- What a start tag says: the namespaces it declares and its attributes, both in order. -/
structure TagContent where
  declared : Scope
  attributes : List WrittenAttribute

namespace TagContent

/-- A start tag that says nothing. -/
def empty : TagContent := ⟨[], []⟩

end TagContent

/-- The parts of a document read so far: the open elements, the innermost first, and what stands
outside of all, with the last part first. -/
structure Builder where
  opened : List OpenElement
  outside : List Node
  /-- The last part is a text that may go on. -/
  textOpen : Bool
  /-- How many references inside of entities were followed. -/
  references : Nat
  /-- What the start tags say in which entities ended; the next tag takes it over. -/
  pending : TagContent

namespace Builder

/-- Nothing is read. -/
def empty : Builder := ⟨[], [], false, 0, .empty⟩

/-- Adds a part to the innermost open element. -/
def add (b : Builder) (n : Node) : Builder :=
  match b.opened with
  | [] => { b with outside := n :: b.outside, textOpen := false }
  | e :: es => { b with opened := { e with content := n :: e.content } :: es, textOpen := false }

/-- A text behind a list of parts, joined to a text at its front. -/
def joinText (cs : List Char) (parts : List Node) : List Node :=
  match parts with
  | .text ds :: ns => .text (ds ++ cs) :: ns
  | ns => .text cs :: ns

/-- Adds text, to the text before it if nothing came between. -/
def addText (b : Builder) (cs : List Char) : Builder :=
  if b.textOpen then
    match b.opened with
    | [] => { b with outside := joinText cs b.outside }
    | e :: es => { b with opened := { e with content := joinText cs e.content } :: es }
  else { b.add (.text cs) with textOpen := true }

/-- The namespaces in force inside the innermost open element. -/
def scope (b : Builder) : Scope :=
  match b.opened with
  | [] => []
  | e :: _ => e.scope

/-- Opens an element. -/
def openElement (b : Builder) (e : OpenElement) : Builder :=
  { b with opened := e :: b.opened, textOpen := false }

/-- The element that an open one becomes. -/
def closed (e : OpenElement) : Node := .element e.name e.attributes e.content.reverse

/-- Closes the innermost open element. -/
def closeElement (b : Builder) : Builder :=
  match b.opened with
  | [] => { b with textOpen := false }
  | e :: es => ({ b with opened := es }).add (closed e)

/-- The first element outside of all, if the document has one and nothing is left open. -/
def root (b : Builder) : Except Fault Node :=
  match b.outside.reverse.find? Node.isElement, b.opened with
  | none, [] => .error .noRoot
  | some n, [] => .ok n
  | _, _ :: _ => .error .openRoot

end Builder

end AnchoredUi.Markup.Xml
