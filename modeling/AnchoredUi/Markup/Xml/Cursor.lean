import AnchoredUi.Markup.Xml.Fault

/-!
# Reading along a document

A cursor is what is left of a text together with the place where it starts. The readers below
take characters from its front or fail with a fault.
-/

namespace AnchoredUi.Markup.Xml

open Text

/-- The rest of a text and its place. -/
structure Cursor where
  place : Position
  rest : List Char
  deriving DecidableEq

namespace Cursor

/-- A cursor at the start of a document. -/
def ofChars (cs : List Char) : Cursor := ⟨.start, cs⟩

/-- The cursor behind its first `n` characters. -/
def advance : Nat → Cursor → Cursor
  | n + 1, ⟨p, c :: cs⟩ => advance n ⟨p.after c, cs⟩
  | _, cursor => cursor

/-- A text is next. -/
def startsWith (cursor : Cursor) (text : String) : Bool := text.toList.isPrefixOf cursor.rest

/-- Everything is read. -/
def atEnd (cursor : Cursor) : Bool := cursor.rest.isEmpty

end Cursor

/-- A reader: it moves a cursor and gives a value, or fails. -/
abbrev Reader := StateT Cursor (Except Fault)

namespace Reader

/-- Fails. -/
def fail {α : Type} (f : Fault) : Reader α := fun _ => .error f

/-- The place of the cursor. -/
def place : Reader Position := do return (← get).place

/-- A text is next. -/
def sees (text : String) : Reader Bool := do return (← get).startsWith text

/-- Moves over some characters. -/
def skip (n : Nat) : Reader Unit := modify (Cursor.advance n)

/-- The next character; at the end there is none. -/
def peek? : Reader (Option Char) := do return (← get).rest.head?

/-- The next character. -/
def peek : Reader Char := do
  match ← peek? with
  | some c => return c
  | none => fail .endOfText

/-! ## Characters of a class -/

/-- A blank of XML. -/
def isSpace (c : Char) : Bool := c == ' ' || c == '\t' || c == '\n' || c == '\r'

/-- Takes the characters of a class. -/
def takeWhile (p : Char → Bool) : Reader (List Char) := do
  let taken := (← get).rest.takeWhile p
  skip taken.length
  return taken

/-- Skips blanks. -/
def skipSpaces : Reader Unit := do
  let _ ← takeWhile isSpace

/-- A blank is next. -/
def seesSpace : Reader Bool := do return (← peek?).any isSpace

/-- Skips at least one blank. -/
def requireSpaces : Reader Unit := do
  let c ← peek
  if isSpace c then skipSpaces else fail (.unexpected "a whitespace" c (← place))

/-- Takes a given character if it is next. -/
def tryChar (c : Char) : Reader Bool := do
  if (← peek?) = some c then
    skip 1
    return true
  else return false

/-- Takes a given character. -/
def requireChar (c : Char) : Reader Unit := do
  let d ← peek
  if d = c then skip 1
  else fail (.unexpected (String.ofList ['\'', c, '\'']) d (← place))

/-- Takes a given text. -/
def requireText (text : String) : Reader Unit := do
  if ← sees text then skip text.length
  else fail (.missing text.toList (← place))

/-- Takes a quote of either kind. -/
def requireQuote : Reader Char := do
  let c ← peek
  if c = '"' ∨ c = '\'' then
    skip 1
    return c
  else fail (.unexpected "a quote" c (← place))

/-! ## Text -/

/-- A character that documents may hold. -/
def isAllowed (c : Char) : Bool :=
  if c.toNat < 0x20 then isSpace c else c.toNat != 0xFFFE && c.toNat != 0xFFFF

/-- The allowed characters before a stop, or the first forbidden one. -/
def textBefore (stop : List Char → Bool) : Position → List Char → Except Fault (List Char)
  | _, [] => .ok []
  | p, c :: cs =>
    if !isAllowed c then .error (.forbidden c p)
    else if stop (c :: cs) then .ok []
    else (textBefore stop (p.after c) cs).map (c :: ·)

/-- Takes the characters before a stop. -/
def takeText (stop : List Char → Bool) : Reader (List Char) := do
  let cursor ← get
  match textBefore stop cursor.place cursor.rest with
  | .ok taken =>
    skip taken.length
    return taken
  | .error f => fail f

/-- Takes the characters before a given text. -/
def takeUntil (text : String) : Reader (List Char) := takeText (text.toList.isPrefixOf ·)

/-! ## Names -/

/-- The characters beyond the ASCII range that a name may start with, as ranges. -/
def nameStartRanges : List (Nat × Nat) := [
  (0xC0, 0xD6), (0xD8, 0xF6), (0xF8, 0x2FF), (0x370, 0x37D), (0x37F, 0x1FFF), (0x200C, 0x200D),
  (0x2070, 0x218F), (0x2C00, 0x2FEF), (0x3001, 0xD7FF), (0xF900, 0xFDCF), (0xFDF0, 0xFFFD),
  (0x10000, 0xEFFFF)]

/-- The further characters beyond the ASCII range that may go on a name. -/
def nameMoreRanges : List (Nat × Nat) := [(0xB7, 0xB7), (0x300, 0x36F), (0x203F, 0x2040)]

/-- A character that a name may start with. -/
def isNameStart (c : Char) : Bool :=
  if c.toNat ≤ 128 then c.isAlpha || c == ':' || c == '_' else inRanges nameStartRanges c.toNat

/-- A character that may go on a name. -/
def isNameChar (c : Char) : Bool :=
  if c.toNat ≤ 128 then c.isAlphanum || c == ':' || c == '_' || c == '-' || c == '.'
  else inRanges nameStartRanges c.toNat || inRanges nameMoreRanges c.toNat

/-- Takes a name, which may be empty at the end of the text only. -/
def optionalName : Reader (List Char) := do
  match ← peek? with
  | none => return []
  | some c => if isNameStart c then takeWhile isNameChar else fail (.badName (← place))

/-- Takes a name. -/
def name : Reader (List Char) := do
  let start ← place
  let n ← optionalName
  if n = [] then fail (.badName start) else return n

/-- A name in two parts; without a colon the first part is empty. -/
structure QName where
  space : List Char
  plain : List Char
  deriving DecidableEq

/-- The name as written. -/
def QName.text (n : QName) : List Char :=
  if n.space = [] then n.plain else n.space ++ ':' :: n.plain

/-- Cuts a name at its only colon. A part may not start like the middle of a name, and the second
one may not be empty. -/
def splitName? (cs : List Char) : Option QName :=
  let startsWell (part : List Char) : Bool := part.head?.all isNameStart
  match cs.splitOnP (· == ':') with
  | [plain] => if plain ≠ [] ∧ startsWell plain then some ⟨[], plain⟩ else none
  | [space, plain] =>
    if plain ≠ [] ∧ startsWell space ∧ startsWell plain then some ⟨space, plain⟩ else none
  | _ => none

/-- Takes a name in two parts. -/
def qname : Reader QName := do
  let start ← place
  match splitName? (← takeWhile isNameChar) with
  | some n => return n
  | none => fail (.badName start)

end Reader

end AnchoredUi.Markup.Xml
