import AnchoredUi.Conversion.Report
import AnchoredUi.Kind.Lookup
import AnchoredUi.Styling.Cascade
import AnchoredUi.Widget.Build

/-!
# Converting documents

Each element of a document is built as a widget and styled, and then its children are converted
below the content of the widget. An element that cannot be built as what it is becomes a container;
one that cannot even be built as a container is left out with everything below it. In the end the
groups below the new root are arranged.

* `visit_skipped`: an element that is left out gives no nodes.
-/

namespace AnchoredUi.Conversion

open Number Plane SceneGraph Sprite Markup Style Kind Widget Styling

/-! ## What a conversion needs -/

/-- How conversions are carried out. -/
structure Settings where
  /-- The size of the root of a document that is read from text. -/
  canvas : Size Single
  markupExtension : String
  sheetExtension : String
  lettering : Lettering
  search : SearchOptions
  deriving DecidableEq

/-- A large canvas, and a plain font. -/
def Settings.usual : Settings where
  canvas := ⟨1920, 1080⟩
  markupExtension := "uxml"
  sheetExtension := "uss"
  lettering := ⟨"LegacyRuntime", defaultFontSize⟩
  search := .usual

instance : Inhabited Settings := ⟨.usual⟩

/-- Settings, rules for the kinds of widgets, and a finder of sprites. -/
structure Converter where
  settings : Settings
  rules : KindRules
  finder : Finder

/-- What is the same for all elements of a document. -/
structure Job where
  lettering : Lettering
  rules : KindRules
  sheet : Sheet
  canvas : Size Single

/-! ## Single elements -/

/-- Builds an element as what it is, else as a container. -/
def Job.widgetOf (job : Job) (e : Element) (parent : NodeId) : StateM Stage (Option Built) := do
  let kind := (job.rules.resolve e.typeName).kind
  match ← (Widget.build kind job.lettering e parent).run with
  | .ok w =>
    raise (w.notes.map fun n => ⟨none, n⟩)
    pure (some w)
  | .error f =>
    raise [⟨some e.label, .notBuilt kind f⟩]
    match ← (Widget.build .container job.lettering e parent).run with
    | .ok w =>
      raise (w.notes.map fun n => ⟨none, n⟩)
      pure (some w)
    | .error f =>
      raise [⟨some e.label, .skipped f⟩]
      pure none

/-- An element with its node as a subject of styling. -/
def Job.subject (job : Job) (e : Element) (parentElement : Option Element) (node parent : NodeId) :
    Subject where
  element := e
  node := node
  parentElement := parentElement
  parentNode := some parent
  canvas := job.canvas
  sheet := job.sheet
  fontSize := job.lettering.size
  isRoot := parentElement.isNone

/-! ## Trees of elements -/

mutual

/-- Converts an element with everything below it, and gives the nodes of the elements, children
before their parents. -/
def Job.visit (job : Job) (e : Element) (parentElement : Option Element) (parent : NodeId) :
    StateM Stage (List NodeId) :=
  match e with
  | .mk tag space attributes children text => do
    let e := Element.mk tag space attributes children text
    match ← job.widgetOf e parent with
    | none => pure []
    | some w =>
      (job.subject e parentElement w.root parent).cascade
      let below ← job.visitAll children e w.content
      pure (below ++ [w.root])

/-- Converts the children of an element one after the other. -/
def Job.visitAll (job : Job) (children : List Element) (parentElement : Element)
    (parent : NodeId) : StateM Stage (List NodeId) :=
  match children with
  | [] => pure []
  | e :: es => do
    let first ← job.visit e (some parentElement) parent
    let others ← job.visitAll es parentElement parent
    pure (first ++ others)

end

theorem visit_skipped {job : Job} {e : Element} {parent : NodeId} {st st' : Stage}
    (h : job.widgetOf e parent st = (none, st')) (parentElement : Option Element) :
    job.visit e parentElement parent st = ([], st') := by
  cases e
  simp only [Job.visit, bind, StateT.bind, h]
  rfl

/-! ## Documents -/

/-- A converter with the host for its nodes. -/
structure Workshop where
  converter : Converter
  host : Host

namespace Workshop

/-- Converts a document below a parent. -/
def convert (w : Workshop) (root : Element) (sheet : Sheet) (parent : NodeId)
    (canvas : Size Single) : Result × Workshop :=
  let c := w.converter
  let job : Job := ⟨c.settings.lettering, c.rules, sheet, canvas⟩
  let (created, stage) := job.visit root none parent ⟨w.host, c.finder, []⟩
  let host := match created.getLast? with
    | some node => (Host.rebuild node stage.host).2
    | none => stage.host
  (⟨created.length, created, stage.warnings⟩, ⟨{ c with finder := stage.finder }, host⟩)

/-- Reads a document and a sheet, and converts the document on the canvas of the settings. -/
def convertText (w : Workshop) (markup sheet : String) (parent : NodeId) :
    Except Fault Result × Workshop :=
  match parseMarkup markup with
  | .error f => (.error (.malformed f), w)
  | .ok root =>
    let (r, w) := w.convert root (Sheet.parse sheet) parent w.converter.settings.canvas
    (.ok r, w)

end Workshop

namespace Converter

/-- A converter with the usual settings. -/
def ofFinder (rules : KindRules) (finder : Finder) : Converter :=
  ⟨.usual, rules, finder.configure Settings.usual.search⟩

/-- The converter with other settings; its finder follows them. -/
def configure (c : Converter) (settings : Settings) : Converter :=
  { c with settings := settings, finder := c.finder.configure settings.search }

end Converter

end AnchoredUi.Conversion
