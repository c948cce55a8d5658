import AnchoredUi.Markup.Element
import AnchoredUi.Markup.Xml.Document

/-!
# Markup documents

A markup document is an XML document. Of it only the elements are kept, each with its attributes
under their plain names and with the last text directly inside it that is more than blanks.

* `children_ofNode`: the children of an element are the elements of its content, in order.
-/

namespace AnchoredUi.Markup

open Text

namespace Element

/-- The attributes under their plain names; of two with one plain name the later value stays. -/
def plainAttributes (as : List Xml.NodeAttribute) : Attributes :=
  Catalog.ofList (as.map fun a => ⟨String.ofList a.name.plain, String.ofList a.value⟩)

/-- The text of a part, if it is more than blanks. -/
def partText? : Xml.Node → Option String
  | .text cs => if trim cs = [] then none else some (String.ofList (trim cs))
  | _ => none

mutual

/-- The element that a part of a document is. -/
def ofNode? : Xml.Node → Option Element
  | .element name attributes content =>
    some (.mk (String.ofList name.plain) (name.space.map String.ofList)
      (plainAttributes attributes) (ofContent content) (content.filterMap partText?).getLast?)
  | _ => none

/-- The elements among the parts of a document. -/
def ofContent : List Xml.Node → List Element
  | [] => []
  | n :: ns => (ofNode? n).toList ++ ofContent ns

end

theorem ofContent_eq_filterMap (ns : List Xml.Node) : ofContent ns = ns.filterMap ofNode? := by
  induction ns with
  | nil => rfl
  | cons n ns ih =>
    rw [ofContent, List.filterMap_cons, ih]
    cases ofNode? n <;> rfl

theorem children_ofNode {n : Xml.FullName} {as : List Xml.NodeAttribute} {content : List Xml.Node}
    {e : Element} (h : ofNode? (.element n as content) = some e) :
    e.children = content.filterMap ofNode? := by
  rw [ofNode?, Option.some.injEq] at h
  rw [← h, ← ofContent_eq_filterMap]
  rfl

end Element

/-- Reads a markup document. -/
def parseMarkup (text : String) : Except Xml.Fault Element :=
  match Xml.parse text with
  | .error f => .error f
  | .ok node =>
    match Element.ofNode? node with
    | some e => .ok e
    | none => .error .noRoot

/-- What is reported about a faulty markup document. -/
def markupMessage (f : Xml.Fault) : String := "malformed markup: " ++ f.message

end AnchoredUi.Markup
