import AnchoredUi.Markup.Xml.Reference
import AnchoredUi.Text.Split

/-!
# Tags and content

Start tags declare namespaces and give attributes; content is text, elements, comments and
instructions up to the closing tag. The tree grows as the reading goes on, so the first fault in
the order of the document is the one reported. An entity may end inside a start tag: the tag adds
no element, and the next tag takes its namespaces and attributes over.
-/

namespace AnchoredUi.Markup.Xml

open Reader

/-! ## Namespaces -/

/-- An address by its parts between slashes. -/
def address (parts : List String) : List Char := (String.intercalate "/" parts).toList

/-- The namespace of the abbreviation `xml`. -/
def xmlSpace : List Char := address ["http:", "", "www.w3.org", "XML", "1998", "namespace"]

/-- The namespace of the declarations of namespaces. -/
def xmlnsSpace : List Char := address ["http:", "", "www.w3.org", "2000", "xmlns", ""]

/-- Adds an attribute to a tag; one that declares a namespace is no attribute. -/
def TagContent.add (t : TagContent) (a : WrittenAttribute) : Except Fault TagContent :=
  let plain := a.name.plain
  if a.name.space = "xmlns".toList then
    if a.value = xmlnsSpace then .error (.xmlnsSpace a.place)
    else if plain = "xml".toList ∧ a.value ≠ xmlSpace then .error (.wrongXmlSpace a.place)
    else if plain ≠ "xml".toList ∧ a.value = xmlSpace then .error (.xmlSpaceElsewhere a.place)
    else if t.declared.any (fun d => d.1 == some plain) then
      .error (.repeatedSpace plain a.place)
    else if a.value = xmlSpace then .ok t
    else .ok { t with declared := t.declared ++ [(some plain, a.value)] }
  else if plain = "xmlns".toList then
    if a.value = xmlSpace then .error (.xmlSpaceElsewhere a.place)
    else if a.value = xmlnsSpace then .error (.xmlnsSpace a.place)
    else .ok { t with declared := t.declared ++ [(none, a.value)] }
  else .ok { t with attributes := t.attributes ++ [a] }

/-- The namespaces inside an element: its own, then those around it that it does not replace. -/
def innerScope (declared outer : Scope) : Scope :=
  declared ++ outer.filter fun d => !declared.any fun e => e.1 == d.1

/-- The address of an abbreviation. -/
def findSpace (scope : Scope) (space : List Char) (place : Position) :
    Except Fault (Option (List Char)) :=
  let key := if space = [] then none else some space
  match scope.find? fun d => d.1 == key with
  | some d => .ok (some d.2)
  | none => if space = [] then .ok none else .error (.unknownSpace space place)

/-- The address of an attribute's namespace; without an abbreviation it has none. -/
def attributeSpace (scope : Scope) (a : WrittenAttribute) : Except Fault (Option (List Char)) :=
  if a.name.space = "xml".toList then .ok (some xmlSpace)
  else if a.name.space = [] then .ok none
  else findSpace scope a.name.space a.place

/-- The attributes with their full names, which must be distinct. -/
def resolveAttributes (scope : Scope) :
    (done : List NodeAttribute) → List WrittenAttribute → Except Fault (List NodeAttribute)
  | done, [] => .ok done
  | done, a :: as => do
    let space ← attributeSpace scope a
    let name : FullName := ⟨space, a.name.plain⟩
    if done.any fun d => d.name == name then .error (.repeatedAttribute a.name.plain a.place)
    else resolveAttributes scope (done ++ [⟨name, a.value⟩]) as

/-- The namespaces in force behind a tag and its attributes. What the tag says includes what the
unfinished tags before it said. -/
def resolveTag (b : Builder) (t : TagContent) : Except Fault (Scope × List NodeAttribute) :=
  let scope := innerScope t.declared b.scope
  (resolveAttributes scope [] t.attributes).map (scope, ·)

/-! ## Start tags -/

/-- How a start tag ends; at the end of the text it may not end at all. -/
inductive TagEnd where
  | opened
  | empty
  | unfinished

/-- What a document says about entities, and how deep the reading may still go. -/
structure Env where
  entities : List Entity
  left : Nat

/-- The reading goes on inside an entity. -/
def Env.inside (env : Env) : Bool := env.left != depthLimit

/-- An attribute of a start tag, with the count of references followed so far. -/
def tagAttribute (env : Env) (references : Nat) : Reader (WrittenAttribute × Nat) := do
  let start ← place
  let n ← qname
  skipSpaces
  requireChar '='
  skipSpaces
  let quote ← requireQuote
  let valuePlace ← place
  let raw ← takeText fun cs => cs.head? = some quote || cs.head? = some '<'
  requireChar quote
  match valueAt env.entities env.left ⟨valuePlace, raw⟩ ⟨[], references⟩ with
  | .ok s => return (⟨n, s.chars.reverse, start⟩, s.references)
  | .error f => fail f

/-- The rest of a start tag behind its name. -/
def tagLoop (env : Env) : (fuel : Nat) → TagContent → Nat → Reader (TagEnd × TagContent × Nat)
  | 0, t, n => return (.unfinished, t, n)
  | fuel + 1, t, n => do
    if (← get).atEnd then return (.unfinished, t, n)
    let spaced ← seesSpace
    skipSpaces
    match ← peek with
    | '/' =>
      skip 1
      requireChar '>'
      return (.empty, t, n)
    | '>' =>
      skip 1
      return (.opened, t, n)
    | c =>
      if !spaced then fail (.unexpected "a whitespace" c (← place))
      let (a, n) ← tagAttribute env n
      match t.add a with
      | .ok t => tagLoop env fuel t n
      | .error f => fail f

/-- A start tag: the tree with the element added, and whether its content follows. A tag in which
an entity ends adds no element; what it says goes to the next tag. -/
def startTag (env : Env) (b : Builder) : Reader (Builder × Bool) := do
  skip 1
  let start ← place
  let n ← qname
  if n.space = "xmlns".toList then fail (.xmlnsElement start)
  let (tagEnd, t, references) ← tagLoop env ((← get).rest.length + 1) b.pending b.references
  let b := { b with textOpen := false, references := references }
  match tagEnd with
  | .unfinished => return ({ b with pending := t }, false)
  | _ =>
    match resolveTag b t with
    | .error f => fail f
    | .ok (scope, attributes) =>
      match findSpace scope n.space start with
      | .error f => fail f
      | .ok space =>
        let b := { b with pending := .empty }
        let b := b.openElement ⟨n, ⟨space, n.plain⟩, attributes, scope, []⟩
        match tagEnd with
        | .opened => return (b, true)
        | _ => return (b.closeElement, false)

/-! ## Other parts -/

/-- A comment. -/
def comment (b : Builder) : Reader Builder := do
  let start ← place
  skip 4
  let body ← takeUntil "-->"
  requireText "-->"
  if Text.occursIn ['-', '-'] body ∨ body.getLast? = some '-' then fail (.badComment start)
  return b.add (.comment body)

/-- An instruction. -/
def instruction (b : Builder) : Reader Builder := do
  if ← sees "<?xml " then fail (.lateDeclaration (← place))
  skip 2
  let target ← name
  skipSpaces
  let body ← takeUntil "?>"
  requireText "?>"
  return b.add (.instruction target body)

/-- A section of text without markup. -/
def rawSection (b : Builder) : Reader Builder := do
  skip 9
  let body ← takeUntil "]]>"
  requireText "]]>"
  return b.addText (uniformLines body)

/-- A closing tag, which must fit the innermost open element. Inside an entity one may only stand
behind a start tag. What unfinished tags said is checked and dropped. -/
def closeTag (started : Bool) (b : Builder) : Reader Builder := do
  let start ← place
  skip 2
  let n ← qname
  skipSpaces
  requireChar '>'
  if !started then fail (.strayClose start)
  match resolveTag b b.pending with
  | .error f => fail f
  | .ok _ =>
    let b := { b with pending := .empty }
    match b.opened with
    | [] => return b.closeElement
    | e :: _ =>
      if e.written = n then return b.closeElement
      else fail (.wrongClose e.written.text n.text start)

/-! ## Content -/

/-- Content up to the closing tag of level zero, or to the end of the text. `started` says that a
start tag has been read. -/
def contentLoop (env : Env)
    (expand : Position → Cursor → Builder → Except Fault Builder) :
    (fuel : Nat) → (level : Nat) → (started : Bool) → Builder → Reader Builder
  | 0, _, _, b => return b
  | fuel + 1, level, started, b => do
    if level = 0 then return b
    let cursor ← get
    match cursor.rest with
    | [] => return b
    | '<' :: '!' :: _ =>
      if cursor.startsWith "<!--" then
        contentLoop env expand fuel level started (← comment b)
      else if cursor.startsWith "<![CDATA[" then
        contentLoop env expand fuel level started (← rawSection b)
      else fail (.unknownToken cursor.place)
    | '<' :: '?' :: _ => contentLoop env expand fuel level started (← instruction b)
    | '<' :: '/' :: _ => contentLoop env expand fuel (level - 1) started (← closeTag started b)
    | ['<'] => fail (.unknownToken cursor.place)
    | '<' :: _ =>
      let (b, opened) ← startTag env b
      contentLoop env expand fuel (if opened then level + 1 else level) true b
    | _ =>
      let start ← place
      let body ← takeText fun cs => cs.head? = some '<'
      if Text.occursIn "]]>".toList body then fail (.badText (← place))
      match textLoop env.entities env.inside expand body.length ⟨start, body⟩ [] false b with
      | .ok b => contentLoop env expand fuel level started b
      | .error f => fail f

/-- The value of an entity as content, with `left` more levels of entities allowed. -/
def entityContent (entities : List Entity) :
    (left : Nat) → Cursor → Builder → Except Fault Builder
  | 0, cursor, b =>
    (contentLoop ⟨entities, 0⟩ (fun p _ _ => .error (.entityLoop p)) cursor.rest.length 1 false b
      cursor).map Prod.fst
  | left + 1, cursor, b =>
    (contentLoop ⟨entities, left + 1⟩ (fun _ c b => entityContent entities left c b)
      cursor.rest.length 1 false b cursor).map Prod.fst

/-- The root element with everything in it. -/
def rootElement (entities : List Entity) (b : Builder) : Reader Builder := do
  let env : Env := ⟨entities, depthLimit⟩
  let (b, opened) ← startTag env b
  if opened then
    contentLoop env (fun _ c b => entityContent entities (depthLimit - 1) c b)
      ((← get).rest.length + 1) 1 true b
  else return b

end AnchoredUi.Markup.Xml
