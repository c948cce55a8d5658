import AnchoredUi.Markup.Xml.Node
import AnchoredUi.Number.Numeral

/-!
# References and line ends

A reference stands for a character or for an entity, a named piece of the document. Entities may
refer to entities, to a limited depth. Line ends are made uniform on the way: in text each becomes
one line feed, in attributes one space; characters written as references are kept.
-/

namespace AnchoredUi.Markup.Xml

open Reader

/-- What a reference stands for. -/
inductive Reference where
  | char (c : Char)
  | entity (name : List Char)
  deriving DecidableEq

/-- A named piece of the document. -/
structure Entity where
  name : List Char
  value : Cursor

/-- How deep entities may stand inside each other. -/
def depthLimit : Nat := 10

/-- How many references inside of entities are followed for one reference in the document. -/
def referenceLimit : Nat := 255

/-! ## Reading a reference -/

/-- The value of digits to a base; too large a number has none. -/
def codePoint? (base : Nat) (digits : List Char) : Option Nat :=
  let value (c : Char) : Nat :=
    if c.isDigit then c.toNat - '0'.toNat
    else if 'a' ≤ c then c.toNat - 'a'.toNat + 10 else c.toNat - 'A'.toNat + 10
  let n := digits.foldl (fun n c => base * n + value c) 0
  if digits = [] ∨ 0x100000000 ≤ n then none else some n

/-- The character of a code point; a code point without a character gives the replacement sign,
and a character that documents may not hold is refused. -/
def charOf? (n : Nat) : Option Char :=
  let c := if n.isValidChar then Char.ofNat n else '\uFFFD'
  if isAllowed c then some c else none

/-- A digit to the base sixteen. -/
def isHex (c : Char) : Bool :=
  c.isDigit || ('a' ≤ c && c ≤ 'f') || ('A' ≤ c && c ≤ 'F')

/-- The names of the characters that can always be referred to. -/
def namedChars : List (String × Char) :=
  [("quot", '"'), ("amp", '&'), ("apos", '\''), ("lt", '<'), ("gt", '>')]

/-- A reference without its mark; any failure means that it is malformed. -/
def referenceBody : Reader (Option Reference) := do
  if ← tryChar '#' then
    let digits ←
      if ← tryChar 'x' then codePoint? 16 <$> takeWhile isHex
      else codePoint? 10 <$> takeWhile Char.isDigit
    return digits.bind fun n => (charOf? n).map .char
  else
    let n ← name
    match namedChars.find? fun e => e.1.toList == n with
    | some e => return some (.char e.2)
    | none => return some (.entity n)

/-- A reference; none if it is malformed. -/
def reference? (cursor : Cursor) : Option (Reference × Cursor) :=
  let reader : Reader (Option Reference) := do
    requireChar '&'
    let r ← referenceBody
    if r.isSome then requireChar ';'
    return r
  match reader cursor with
  | .ok (some r, rest) => some (r, rest)
  | _ => none

/-- A reference at a place where one must stand. -/
def requireReference (cursor : Cursor) : Except Fault (Reference × Cursor) :=
  match reference? cursor with
  | some r => .ok r
  | none => .error (.malformedReference cursor.place)

/-- The entity with a name. -/
def entityNamed (entities : List Entity) (name : List Char) (place : Position) :
    Except Fault Entity :=
  match entities.find? fun e => e.name == name with
  | some e => .ok e
  | none => .error (.unknownEntity name place)

/-- Counts a reference that stands inside an entity. -/
def countReference (inside : Bool) (place : Position) (count : Nat) : Except Fault Nat :=
  if !inside then .ok count
  else if count = referenceLimit then .error (.entityLoop place)
  else .ok (count + 1)

/-! ## Values of attributes -/

/-- A value being read, with the last character first, and the count of references. -/
structure ValueState where
  chars : List Char
  references : Nat

/-- Adds a character of an attribute's value: of a pair of line ends only the second one counts,
and each becomes a space. -/
def ValueState.pushChar (s : ValueState) (c : Char) (next : Option Char) : ValueState :=
  if c = '\r' ∧ next = some '\n' then s
  else
    let kept := if c = '\n' ∨ c = '\r' ∨ c = '\t' then ' ' else c
    { s with chars := kept :: s.chars }

/-- Reads a value. Entities are read by `expand`, which knows how deep it may still go. -/
def valueLoop (entities : List Entity) (inside : Bool)
    (expand : Position → Cursor → ValueState → Except Fault ValueState) :
    (fuel : Nat) → Cursor → ValueState → Except Fault ValueState
  | 0, _, s => .ok s
  | fuel + 1, cursor, s =>
    match cursor.rest with
    | [] => .ok s
    | '&' :: _ => do
      let (r, rest) ← requireReference cursor
      match r with
      | .char c =>
        if !inside then valueLoop entities inside expand fuel rest { s with chars := c :: s.chars }
        else if c = '<' then .error (.bareLess cursor.place)
        else valueLoop entities inside expand fuel rest (s.pushChar c none)
      | .entity n =>
        let e ← entityNamed entities n cursor.place
        let count ← countReference inside rest.place s.references
        let s ← expand rest.place e.value { s with references := count }
        let s := if inside then s else { s with references := 0 }
        valueLoop entities inside expand fuel rest s
    | c :: cs =>
      valueLoop entities inside expand fuel ⟨cursor.place.after c, cs⟩ (s.pushChar c cs.head?)

/-- Reads a value with `left` more levels of entities allowed. -/
def valueAt (entities : List Entity) : (left : Nat) → Cursor → ValueState → Except Fault ValueState
  | 0, cursor, s =>
    valueLoop entities true (fun p _ _ => .error (.entityLoop p)) cursor.rest.length cursor s
  | left + 1, cursor, s =>
    valueLoop entities (left + 1 != depthLimit) (fun _ c s => valueAt entities left c s)
      cursor.rest.length cursor s

/-! ## Text -/

/-- Adds a character of a text, with the last character first: a line end with or without its
second half becomes one line feed as soon as it is complete. -/
def pushTextChar (chars : List Char) (c : Char) (last : Bool) : List Char :=
  match chars with
  | '\r' :: ds =>
    if last ∧ c = '\r' then '\n' :: '\n' :: ds
    else if c = '\n' then '\n' :: ds
    else c :: '\n' :: ds
  | ds => if last ∧ c = '\r' then '\n' :: ds else c :: ds

/-- A text without references, with uniform line ends. -/
def uniformLines (cs : List Char) : List Char :=
  let rec go (done : List Char) : List Char → List Char
    | [] => done.reverse
    | [c] => (pushTextChar done c true).reverse
    | c :: cs => go (pushTextChar done c false) cs
  go [] cs

/-- The text that is ready goes into the tree. -/
def flushText (b : Builder) (chars : List Char) : Builder :=
  if chars = [] then b else b.addText chars.reverse

/-- Reads a text into the tree. Entities are read by `expand`; `kept` says that the character
before was written as a reference. -/
def textLoop (entities : List Entity) (inside : Bool)
    (expand : Position → Cursor → Builder → Except Fault Builder) :
    (fuel : Nat) → Cursor → (chars : List Char) → (kept : Bool) → Builder → Except Fault Builder
  | 0, _, chars, _, b => .ok (flushText b chars)
  | fuel + 1, cursor, chars, kept, b =>
    match cursor.rest with
    | [] => .ok (flushText b chars)
    | '&' :: _ => do
      let (r, rest) ← requireReference cursor
      match r with
      | .char c =>
        if inside then
          textLoop entities inside expand fuel rest (pushTextChar chars c rest.atEnd) kept b
        else textLoop entities inside expand fuel rest (c :: chars) true b
      | .entity n =>
        let e ← entityNamed entities n cursor.place
        let b := flushText b chars
        let count ← countReference inside rest.place b.references
        let b ← expand rest.place e.value { b with references := count }
        let b := if inside then b else { b with references := 0 }
        textLoop entities inside expand fuel rest [] false b
    | c :: cs =>
      let chars := if kept then c :: chars else pushTextChar chars c cs.isEmpty
      textLoop entities inside expand fuel ⟨cursor.place.after c, cs⟩ chars false b

end AnchoredUi.Markup.Xml
