import AnchoredUi.Markup.Xml.Content

/-!
# XML documents

A document is an optional declaration, an optional document type with entities, and one root
element, with comments and instructions between them.
-/

namespace AnchoredUi.Markup.Xml

open Reader

/-! ## Declaration -/

/-- Blanks, unless the declaration ends. -/
def declarationSpaces : Reader Unit := do
  if ← seesSpace then skipSpaces
  else
    match ← peek? with
    | none => return ()
    | some c => if ← sees "?>" then return () else fail (.unexpected "a whitespace" c (← place))

/-- A setting of the declaration, which is read and forgotten. -/
def declarationSetting : Reader Unit := do
  let _ ← qname
  skipSpaces
  requireChar '='
  skipSpaces
  let quote ← requireQuote
  let _ ← takeText fun cs => cs.head? = some quote || cs.head? = some '<'
  requireChar quote

/-- The declaration at the start of a document. -/
def declaration : Reader Unit := do
  skip 5
  declarationSpaces
  if !(← sees "version") then requireText "version"
  declarationSetting
  declarationSpaces
  if ← sees "encoding" then
    declarationSetting
    declarationSpaces
  if ← sees "standalone" then declarationSetting
  skipSpaces
  requireText "?>"

/-! ## Between the parts -/

/-- Comments and instructions outside of the root element. -/
def miscLoop : (fuel : Nat) → Builder → Reader Builder
  | 0, b => return b
  | fuel + 1, b => do
    skipSpaces
    if ← sees "<!--" then miscLoop fuel (← comment b)
    else if ← sees "<?" then miscLoop fuel (← instruction b)
    else return b

/-- Comments and instructions outside of the root element. -/
def misc (b : Builder) : Reader Builder := do miscLoop ((← get).rest.length + 1) b

/-! ## Document type -/

/-- A text in quotes, which is read and forgotten. -/
def quotedText : Reader Unit := do
  let quote ← requireQuote
  let _ ← takeWhile (· != quote)
  requireChar quote

/-- A reference to another document, if there is one. -/
def externalId : Reader Bool := do
  let isSystem ← sees "SYSTEM"
  let isPublic ← sees "PUBLIC"
  if isSystem ∨ isPublic then
    skip 6
    requireSpaces
    quotedText
    if isPublic then
      requireSpaces
      quotedText
    return true
  else return false

/-- The value of an entity; one in another document has none. -/
def entityValue (general : Bool) : Reader (Option Cursor) := do
  match ← peek with
  | '"' | '\'' =>
    let quote ← requireQuote
    let start ← place
    let value ← takeWhile (· != quote)
    requireChar quote
    return some ⟨start, value⟩
  | 'S' | 'P' =>
    if ← externalId then
      if general then
        skipSpaces
        if ← sees "NDATA" then
          skip 5
          requireSpaces
          let _ ← optionalName
      return none
    else fail (.badExternal (← place))
  | c => fail (.unexpected "a quote, SYSTEM or PUBLIC" c (← place))

/-- The declaration of an entity. -/
def entityDeclaration : Reader (Option Entity) := do
  skip 8
  requireSpaces
  let general ←
    if ← tryChar '%' then do
      requireSpaces
      pure false
    else pure true
  let n ← name
  requireSpaces
  let value ← entityValue general
  skipSpaces
  requireChar '>'
  return value.map fun v => ⟨n, v⟩

/-- The end of a document type behind its closing bracket. -/
def typeEnd : Reader Unit := do
  skip 1
  skipSpaces
  match ← peek with
  | '>' => skip 1
  | c => fail (.unexpected "'>'" c (← place))

/-- The declarations inside a document type that starts at a place. -/
def typeLoop (start : Position) :
    (fuel : Nat) → List Entity → Builder → Reader (List Entity × Builder)
  | 0, es, b => return (es, b)
  | fuel + 1, es, b => do
    if (← get).atEnd then return (es, b)
    skipSpaces
    if ← sees "<!ENTITY" then
      let e ← entityDeclaration
      typeLoop start fuel (es ++ e.toList) b
    else if ← sees "<!--" then typeLoop start fuel es (← comment b)
    else if ← sees "<?" then typeLoop start fuel es (← instruction b)
    else if ← sees "]" then
      typeEnd
      return (es, b)
    else
      let known := ["<!ELEMENT", "<!ATTLIST", "<!NOTATION"]
      let cursor ← get
      if known.any cursor.startsWith then
        let _ ← takeWhile (· != '>')
        if ← tryChar '>' then typeLoop start fuel es b else fail (.unknownToken start)
      else fail (.unknownToken cursor.place)

/-- A document type. -/
def documentType (b : Builder) : Reader (List Entity × Builder) := do
  let start ← place
  skip 9
  requireSpaces
  let _ ← optionalName
  skipSpaces
  let _ ← externalId
  skipSpaces
  match ← peek with
  | '>' =>
    skip 1
    return ([], b)
  | '[' =>
    skip 1
    typeLoop start ((← get).rest.length + 1) [] b
  | c => fail (.unexpected "'[' or '>'" c (← place))

/-! ## Document -/

/-- A whole document. -/
def document : Reader Builder := do
  let _ ← tryChar '\uFEFF'
  if ← sees "<?xml " then declaration
  let b ← misc Builder.empty
  skipSpaces
  let (entities, b) ←
    if ← sees "<!DOCTYPE" then do
      let (es, b) ← documentType b
      pure (es, ← misc b)
    else pure ([], b)
  skipSpaces
  let b ← if (← peek?) = some '<' then rootElement entities b else pure b
  let b ← misc b
  if (← get).atEnd then return b else fail (.unknownToken (← place))

/-- The root element of the document that a text writes. -/
def parse (text : String) : Except Fault Node := do
  let (b, _) ← document (Cursor.ofChars text.toList)
  b.root

end AnchoredUi.Markup.Xml
