import AnchoredUi.Style.Declarations
import AnchoredUi.Style.Selector

/-!
# Style sheets

A sheet is a list of rules with distinct selector texts. Reading a sheet drops comments and
whatever is no block; a block whose selector text is known replaces the earlier one.

* `length_lt_of_breakOn`: what follows a comment mark is shorter, so reading ends.
-/

namespace AnchoredUi.Style

open Text Markup

/-- A selector as written and what it declares. -/
structure Rule where
  selectorText : String
  declarations : Declarations
  deriving DecidableEq

namespace Rule

/-- The selector, if the text is one. -/
def selector? (r : Rule) : Option Selector := Selector.parse? r.selectorText

/-- The rule applies to an element. -/
def applies (r : Rule) (e : Element) : Bool :=
  match r.selector? with
  | some s => s.matches? e
  | none => false

end Rule

/-- Rules with distinct selector texts. -/
abbrev Sheet := Catalog Rule.selectorText

namespace Sheet

/-! ## What a sheet says of an element -/

/-- The rules that apply to an element. -/
def matching (s : Sheet) (e : Element) : List Rule := s.entries.filter fun r => r.applies e

/-- The declarations of all rules that apply, later ones on top. -/
def computed (s : Sheet) (e : Element) : Declarations :=
  (s.matching e).foldl (fun ds r => ds.overlay r.declarations) Catalog.empty

/-- The value that the last rule to set a property gives it. -/
def lookup (s : Sheet) (e : Element) (property : String) : Option String :=
  ((s.matching e).filterMap fun r => r.declarations.get? property).getLast?

/-- The declarations of an element's `style` attribute. -/
def inlineStyle (e : Element) : Declarations :=
  match e.attr? "style" with
  | some text => Declarations.parse text
  | none => Catalog.empty

/-- Everything declared for an element: the rules, and the `style` attribute on top. -/
def declared (s : Sheet) (e : Element) : Declarations := (s.computed e).overlay (inlineStyle e)

/-! ## Reading a sheet -/

theorem length_lt_of_breakOn {piece cs a b : List Char} (hp : piece ≠ [])
    (h : breakOn piece cs = some (a, b)) : b.length < cs.length := by
  have := List.length_pos_iff.mpr hp
  rw [append_of_breakOn h]
  simp only [List.length_append]
  omega

theorem length_lt_of_cutAt {d : Char} {cs a b : List Char} (h : cutAt d cs = some (a, b)) :
    b.length < cs.length := by
  rw [(append_of_cutAt h).1]
  simp only [List.length_append, List.length_cons]
  omega

/-- The mark that opens a comment. -/
def commentOpen : List Char := ['/', '*']

/-- The mark that closes a comment. -/
def commentClose : List Char := ['*', '/']

/-- The text with a space in place of each comment; an unclosed comment reaches to the end. -/
def withoutComments (cs : List Char) : List Char :=
  match h : breakOn commentOpen cs with
  | none => cs
  | some (front, inside) =>
    match h' : breakOn commentClose inside with
    | none => front ++ [' ']
    | some (_, rest) =>
      have : rest.length < cs.length :=
        Nat.lt_trans (length_lt_of_breakOn (by decide) h') (length_lt_of_breakOn (by decide) h)
      front ++ ' ' :: withoutComments rest
termination_by cs.length

/-- The blocks of a text: what stands before each opening brace, and what stands between it and
the next closing brace. -/
def blocks (cs : List Char) : List (List Char × List Char) :=
  match h : cutAt '\x7b' cs with
  | none => []
  | some (front, inside) =>
    match h' : cutAt '\x7d' inside with
    | none => []
    | some (body, rest) =>
      have : rest.length < cs.length :=
        Nat.lt_trans (length_lt_of_cutAt h') (length_lt_of_cutAt h)
      (front, body) :: blocks rest
termination_by cs.length

/-- The rule of a block; a block needs a selector text. -/
def ofBlock? (block : List Char × List Char) : Option Rule :=
  let selector := trim block.1
  if selector = [] then none
  else some ⟨String.ofList selector, Declarations.ofChars block.2⟩

/-- The sheet that a text writes. -/
def parse (text : String) : Sheet :=
  Catalog.ofList ((blocks (withoutComments text.toList)).filterMap ofBlock?)

end Sheet

end AnchoredUi.Style
