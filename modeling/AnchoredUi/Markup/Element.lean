import AnchoredUi.Catalog
import AnchoredUi.Text.Trim

/-!
# Markup elements

A document is a tree of elements. An element has a tag, perhaps a namespace, attributes with
distinct names, children, and perhaps a text of its own.

* `elementCount_eq_length`: the count of elements is the length of the list of elements.
-/

namespace AnchoredUi.Markup

open Text

/-- A named value on an element. -/
structure Attribute where
  name : String
  value : String
  deriving DecidableEq, Repr

/-- The attributes of an element, in the order of the document. -/
abbrev Attributes := Catalog Attribute.name

/-- An element with everything below it. -/
inductive Element where
  | mk (tag : String) (space : Option String) (attributes : Attributes)
    (children : List Element) (text : Option String)

namespace Element

/-- The name of the kind of element, without its namespace. -/
def tag : Element → String
  | mk t _ _ _ _ => t

/-- The namespace of the tag. -/
def space : Element → Option String
  | mk _ s _ _ _ => s

/-- The attributes. -/
def attributes : Element → Attributes
  | mk _ _ a _ _ => a

/-- The elements directly below. -/
def children : Element → List Element
  | mk _ _ _ c _ => c

/-- The text directly below. -/
def text : Element → Option String
  | mk _ _ _ _ t => t

/-- An element that is a tag and nothing else. -/
def bare (tag : String) : Element := mk tag none Catalog.empty [] none

instance : Inhabited Element := ⟨bare ""⟩

/-- The value of an attribute. -/
def attr? (e : Element) (name : String) : Option String :=
  (e.attributes.find? name).map Attribute.value

/-- The name that identifies the element. -/
def name? (e : Element) : Option String := e.attr? "name"

/-- The words of the `class` attribute. -/
def classes (e : Element) : List (List Char) :=
  match e.attr? "class" with
  | some list => words list.toList
  | none => []

/-- The element is of a class. -/
def hasClass (e : Element) (c : String) : Bool := e.classes.contains c.toList

/-- A namespace that can stand in front of a type name: it is no address. -/
def isTypeSpace (s : String) : Bool :=
  s.toList != [] && !s.toList.contains ':' && !s.toList.contains '/'

/-- The name under which the kind of widget is looked up. -/
def typeName (e : Element) : String :=
  match e.space with
  | some s => if isTypeSpace s then s ++ "." ++ e.tag else e.tag
  | none => e.tag

/-- The text to show: the own text, else the `text` attribute. -/
def displayText (e : Element) : Option String :=
  match e.text with
  | some t => some t
  | none => e.attr? "text"

/-- How messages name the element. -/
def label (e : Element) : String :=
  match e.name? with
  | some n => "<" ++ e.tag ++ " name=\"" ++ n ++ "\">"
  | none => "<" ++ e.tag ++ ">"

/-! ## Whole trees -/

mutual

/-- The element and all elements below it, parents first. -/
def elements : Element → List Element
  | e@(mk _ _ _ cs _) => e :: elementsOf cs

/-- All elements of several trees, one tree after the other. -/
def elementsOf : List Element → List Element
  | [] => []
  | e :: es => elements e ++ elementsOf es

end

mutual

/-- The number of elements of the tree. -/
def elementCount : Element → Nat
  | mk _ _ _ cs _ => 1 + countOf cs

/-- The number of elements of several trees. -/
def countOf : List Element → Nat
  | [] => 0
  | e :: es => elementCount e + countOf es

end

mutual

theorem elementCount_eq_length (e : Element) : e.elementCount = e.elements.length := by
  cases e with
  | mk t s a cs x =>
    simp only [elementCount, elements, List.length_cons, countOf_eq_length cs]
    omega

theorem countOf_eq_length (es : List Element) : countOf es = (elementsOf es).length := by
  cases es with
  | nil => rfl
  | cons e es =>
    simp only [countOf, elementsOf, List.length_append, elementCount_eq_length e,
      countOf_eq_length es]

end

theorem countOf_append (es ds : List Element) : countOf (es ++ ds) = countOf es + countOf ds := by
  induction es with
  | nil => simp [countOf]
  | cons e es ih => simp only [List.cons_append, countOf, ih, Nat.add_assoc]

end Element

end AnchoredUi.Markup
