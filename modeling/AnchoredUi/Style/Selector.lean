import AnchoredUi.Markup.Element
import AnchoredUi.Text.Case
import AnchoredUi.Text.Letter

/-!
# Selectors

A selector is a class, a name or a tag. Anything else is no selector and matches nothing.
-/

namespace AnchoredUi.Style

open Text Markup

/-- What a rule applies to. -/
inductive Selector where
  | ofClass (name : String)
  | ofName (name : String)
  | ofTag (name : String)
  deriving DecidableEq, Repr

namespace Selector

/-- A character of a selector's name. -/
def isAtomChar (c : Char) : Bool := isAlphanumeric c || c == '-' || c == '_'

/-- A name as a selector may have it. -/
def isAtomName (cs : List Char) : Bool := cs != [] && cs.all isAtomChar

/-- The selector that a text without outer blanks writes. -/
def ofAtom? : List Char → Option Selector
  | '.' :: cs => if isAtomName cs then some (.ofClass (String.ofList cs)) else none
  | '#' :: cs => if isAtomName cs then some (.ofName (String.ofList cs)) else none
  | cs => if isAtomName cs then some (.ofTag (String.ofList cs)) else none

/-- The selector that a text writes. -/
def parse? (text : String) : Option Selector := ofAtom? (trim text.toList)

/-- The selector applies to an element. -/
def matches? (s : Selector) (e : Element) : Bool :=
  match s with
  | .ofClass c => e.hasClass c
  | .ofName n => e.name? == some n
  | .ofTag t => agreeing e.tag t

end Selector

end AnchoredUi.Style
