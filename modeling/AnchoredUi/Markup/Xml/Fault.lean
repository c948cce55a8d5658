import AnchoredUi.Text.Quoted

/-!
# Faults of XML documents

Why a text is no XML document, and where, counted in lines and characters from one.
-/

namespace AnchoredUi.Markup.Xml

open Text

/-- A place in a document. -/
structure Position where
  line : Nat
  column : Nat
  deriving DecidableEq, Repr

namespace Position

/-- The start of a document. -/
def start : Position := ⟨1, 1⟩

/-- The place behind a character. -/
def after (p : Position) (c : Char) : Position :=
  if c = '\n' then ⟨p.line + 1, 1⟩ else ⟨p.line, p.column + 1⟩

/-- A place as messages show it. -/
def toText (p : Position) : String := toString p.line ++ ":" ++ toString p.column

end Position

/-- Why a text is no XML document. -/
inductive Fault where
  | wrongXmlSpace (place : Position)
  | xmlSpaceElsewhere (place : Position)
  | xmlnsSpace (place : Position)
  | xmlnsElement (place : Position)
  | repeatedSpace (name : List Char) (place : Position)
  | unknownSpace (name : List Char) (place : Position)
  | wrongClose (expected actual : List Char) (place : Position)
  | strayClose (place : Position)
  | malformedReference (place : Position)
  | unknownEntity (name : List Char) (place : Position)
  | entityLoop (place : Position)
  | bareLess (place : Position)
  | repeatedAttribute (name : List Char) (place : Position)
  | noRoot
  | openRoot
  | lateDeclaration (place : Position)
  | badName (place : Position)
  | forbidden (c : Char) (place : Position)
  | unexpected (expected : String) (actual : Char) (place : Position)
  | missing (expected : List Char) (place : Position)
  | badExternal (place : Position)
  | badComment (place : Position)
  | badText (place : Position)
  | unknownToken (place : Position)
  | endOfText
  deriving DecidableEq, Repr

/-- A character inside single quotes; one with several bytes is shown by its first byte. -/
def firstByte (c : Char) : List Char :=
  let n := c.toNat
  if n < 0x80 then [c]
  else if n < 0x800 then [Char.ofNat (0xC0 + n / 0x40)]
  else if n < 0x10000 then [Char.ofNat (0xE0 + n / 0x1000)]
  else [Char.ofNat (0xF0 + n / 0x40000)]

namespace Fault

/-- What is reported about a faulty document. -/
def message : Fault → String
  | wrongXmlSpace p => "'xml' namespace prefix mapped to wrong URI at " ++ p.toText
  | xmlSpaceElsewhere p =>
    "the 'xml' namespace URI is used for not 'xml' prefix at " ++ p.toText
  | xmlnsSpace p => "the 'xmlns' URI is used at " ++ p.toText ++ ", but it must not be declared"
  | xmlnsElement p => "the 'xmlns' prefix is used at " ++ p.toText ++ ", but it must not be"
  | repeatedSpace n p =>
    "namespace '" ++ String.ofList n ++ "' at " ++ p.toText ++ " is already defined"
  | unknownSpace n p =>
    "an unknown namespace prefix '" ++ String.ofList n ++ "' at " ++ p.toText
  | wrongClose e a p =>
    "expected '" ++ String.ofList e ++ "' tag, not '" ++ String.ofList a ++ "' at " ++ p.toText
  | strayClose p => "unexpected close tag at " ++ p.toText
  | malformedReference p => "malformed entity reference at " ++ p.toText
  | unknownEntity n p =>
    "unknown entity reference '" ++ String.ofList n ++ "' at " ++ p.toText
  | entityLoop p => "a possible entity reference loop is detected at " ++ p.toText
  | bareLess p => "unescaped '<' found at " ++ p.toText
  | repeatedAttribute n p =>
    "attribute '" ++ String.ofList n ++ "' at " ++ p.toText ++ " is already defined"
  | noRoot => "the document does not have a root node"
  | openRoot => "the root node was opened but never closed"
  | lateDeclaration p => "unexpected XML declaration at " ++ p.toText
  | badName p => "invalid name token at " ++ p.toText
  | forbidden c p =>
    "a non-XML character '" ++ String.ofList (quoteChar c) ++ "' found at " ++ p.toText
  | unexpected e a p =>
    "expected " ++ e ++ " not '" ++ String.ofList (firstByte a) ++ "' at " ++ p.toText
  | missing e p => "expected '" ++ String.ofList e ++ "' at " ++ p.toText
  | badExternal p => "invalid ExternalID at " ++ p.toText
  | badComment p => "comment at " ++ p.toText ++ " contains '--'"
  | badText p => "']]>' at " ++ p.toText ++ " is not allowed inside a character data"
  | unknownToken p => "unknown token at " ++ p.toText
  | endOfText => "unexpected end of stream"

end Fault

end AnchoredUi.Markup.Xml
