import AnchoredUi.Asset.Shelf
import AnchoredUi.Conversion.Converter
import AnchoredUi.Proofs.Catalog
import AnchoredUi.Styling.Cascade

/-!
# Rules that match nothing

A sheet is asked two things when an element is styled: which of its rules apply to the element, and
which apply to the parent element. Work on a subject does not tell two sheets apart that answer both
alike. A sheet answers as before if it gets a rule with a new selector text, as long as the rule
does not apply; and a text that is no selector applies to nothing.

A conversion asks the sheet which of its rules apply to the elements of the document, and nothing
else. So two sheets that agree on these elements give the same conversion, down to the keys of the
new nodes and the sprites that are remembered. In particular a rule may be added that applies to
none of them.

* `matching_put`: a rule that does not apply is not noticed.
* `perform_under`, `cascade_under`: styling by a sheet that answers as the one before.
* `visit_under`, `visitAll_under`: trees of elements, converted by another sheet.
* `convert_congr`: documents, converted by another sheet.
* `convert_put`: a rule that matches nothing.
-/

namespace AnchoredUi.Style

open Markup

section Sheets

variable {s s' : Sheet} {r : Rule} {e : Element}

theorem Rule.applies_of_selector?_eq_none (h : r.selector? = none) (e : Element) :
    r.applies e = false := by
  unfold Rule.applies
  rw [h]

namespace Sheet

theorem matching_put (hNew : r.selectorText ∉ s.keys) (h : r.applies e = false) :
    matching (s.put r) e = s.matching e := by
  have hPut : (s.put r).entries = s.entries ++ [r] := Catalog.place_of_not_mem hNew
  unfold matching
  rw [hPut, List.filter_append, List.filter_singleton, h, cond_false, List.append_nil]

theorem computed_congr (h : s'.matching e = s.matching e) : s'.computed e = s.computed e := by
  unfold computed
  rw [h]

theorem lookup_congr (h : s'.matching e = s.matching e) (property : String) :
    s'.lookup e property = s.lookup e property := by
  unfold lookup
  rw [h]

theorem declared_congr (h : s'.matching e = s.matching e) : s'.declared e = s.declared e := by
  unfold declared
  rw [computed_congr h]

end Sheet

end Sheets

end AnchoredUi.Style

namespace AnchoredUi.Styling.Subject

open Number Plane SceneGraph Style Markup

/-- The subject styled by another sheet. -/
def under (x : Subject) (sheet : Sheet) : Subject := { x with sheet := sheet }

/-- The same rules of another sheet apply to the element and to its parent. -/
structure SameRules (x : Subject) (sheet : Sheet) : Prop where
  own : sheet.matching x.element = x.sheet.matching x.element
  parent : ∀ e ∈ x.parentElement, sheet.matching e = x.sheet.matching e

section Under

variable {x : Subject} {sheet : Sheet} (h : x.SameRules sheet)
include h

/-! ## What is read from a sheet -/

theorem style_under : (x.under sheet).style = x.style := Sheet.declared_congr h.own

theorem parentStyle?_under : (x.under sheet).parentStyle? = x.parentStyle? :=
  Option.map_congr fun e he => Sheet.declared_congr (h.parent e he)

theorem declarations_under : (x.under sheet).declarations = x.declarations := by
  unfold declarations
  rw [show (x.under sheet).sheet.matching (x.under sheet).element = _ from h.own]
  rfl

theorem declaredSize?_under (name : String) :
    (x.under sheet).declaredSize? name = x.declaredSize? name := by
  unfold declaredSize?
  rw [show (x.under sheet).sheet.lookup (x.under sheet).element name = _ from
    Sheet.lookup_congr h.own name]
  rfl

theorem mainAxis_under (s : Scene) : (x.under sheet).mainAxis s = x.mainAxis s := by
  unfold mainAxis
  rw [parentStyle?_under h]
  rfl

/-! ## Single changes -/

theorem setPadding_under (sides : Spacing (Option Scalar)) :
    (x.under sheet).setPadding sides = x.setPadding sides := by
  unfold setPadding
  rw [style_under h]
  rfl

theorem setAlignSelf_under (align : Align) :
    (x.under sheet).setAlignSelf align = x.setAlignSelf align := by
  unfold setAlignSelf
  simp only [mainAxis_under h]
  cases align <;> rfl

/-- Most changes do not ask the sheet. -/
theorem perform_under (c : Change) : (x.under sheet).perform c = x.perform c := by
  cases c with
  | basis value =>
    simp only [perform, setBasis, mainAxis_under h]
    rfl
  | grow factor =>
    simp only [perform, setGrow, mainAxis_under h]
    rfl
  | padding sides => exact setPadding_under h sides
  | group =>
    simp only [perform, setGroup, style_under h]
    rfl
  | alignSelf value => exact setAlignSelf_under h value
  | _ => rfl

theorem apply_under (d : Declaration) : (x.under sheet).apply d = x.apply d := by
  have hWarning : (x.under sheet).faultWarning = x.faultWarning := rfl
  unfold apply
  cases Property.named? d.property with
  | none => rfl
  | some p => simp only [perform_under h, hWarning]

/-! ## The cascade -/

theorem ensureParentGroup_under : (x.under sheet).ensureParentGroup = x.ensureParentGroup := by
  unfold ensureParentGroup
  rw [parentStyle?_under h]
  rfl

theorem reconcile_under (name : String) (axis : Axis) :
    (x.under sheet).reconcile name axis = x.reconcile name axis := by
  unfold reconcile declaredExtent?
  rw [declaredSize?_under h]
  rfl

theorem cascade_under : (x.under sheet).cascade = x.cascade := by
  have hTry : (x.under sheet).tryHost = x.tryHost := rfl
  have hMark : (x.under sheet).markRoot = x.markRoot := rfl
  unfold cascade
  simp only [hTry, hMark, declarations_under h, ensureParentGroup_under h, funext (apply_under h),
    reconcile_under h]

end Under

end AnchoredUi.Styling.Subject

namespace AnchoredUi.Conversion

open Number Plane SceneGraph Sprite Markup Style Kind Widget Styling

/-! ## Trees of elements -/

/-- The job done by another sheet. -/
def Job.under (job : Job) (sheet : Sheet) : Job := { job with sheet := sheet }

section Trees

variable {job : Job} {sheet : Sheet}

theorem cascade_subject {e : Element} {parentElement : Option Element}
    (hOwn : sheet.matching e = job.sheet.matching e)
    (hParent : ∀ d ∈ parentElement, sheet.matching d = job.sheet.matching d)
    (node parent : NodeId) :
    ((job.under sheet).subject e parentElement node parent).cascade =
      (job.subject e parentElement node parent).cascade :=
  Subject.cascade_under (x := job.subject e parentElement node parent) ⟨hOwn, hParent⟩

mutual

theorem visit_under (e : Element) (parentElement : Option Element) (parent : NodeId)
    (hBelow : ∀ d ∈ e.elements, sheet.matching d = job.sheet.matching d)
    (hParent : ∀ d ∈ parentElement, sheet.matching d = job.sheet.matching d) :
    (job.under sheet).visit e parentElement parent = job.visit e parentElement parent := by
  obtain ⟨tag, space, attributes, children, text⟩ := e
  rw [Element.elements, List.forall_mem_cons] at hBelow
  obtain ⟨hOwn, hChildren⟩ := hBelow
  have hWidget : (job.under sheet).widgetOf = job.widgetOf := rfl
  simp only [Job.visit, hWidget, cascade_subject hOwn hParent,
    visitAll_under children (.mk tag space attributes children text) _ hChildren hOwn]

theorem visitAll_under (es : List Element) (parentElement : Element) (parent : NodeId)
    (hBelow : ∀ d ∈ Element.elementsOf es, sheet.matching d = job.sheet.matching d)
    (hParent : sheet.matching parentElement = job.sheet.matching parentElement) :
    (job.under sheet).visitAll es parentElement parent = job.visitAll es parentElement parent := by
  cases es with
  | nil => rfl
  | cons e es =>
    rw [Element.elementsOf, List.forall_mem_append] at hBelow
    obtain ⟨hFirst, hOthers⟩ := hBelow
    have hParents : ∀ d ∈ some parentElement, sheet.matching d = job.sheet.matching d := by
      rintro d ⟨⟩
      exact hParent
    rw [Job.visitAll, Job.visitAll, visit_under e (some parentElement) parent hFirst hParents,
      visitAll_under es parentElement parent hOthers hParent]

end

end Trees

/-! ## Documents -/

namespace Workshop

theorem convert_congr (w : Workshop) {root : Element} {sheet sheet' : Sheet}
    (h : ∀ e ∈ root.elements, sheet'.matching e = sheet.matching e) (p : NodeId)
    (canvas : Size Single) : w.convert root sheet' p canvas = w.convert root sheet p canvas := by
  let job : Job := ⟨w.converter.settings.lettering, w.converter.rules, sheet, canvas⟩
  have hVisit : (job.under sheet').visit root none p = job.visit root none p :=
    visit_under root none p h nofun
  dsimp only [Job.under, job] at hVisit
  dsimp only [convert]
  rw [hVisit]

/-- A rule with a new selector text that is no selector, or that applies to no element of the
document, changes nothing: the result is the same, and so are the scene with the keys of its nodes
and the finder with what it remembers. -/
theorem convert_put (w : Workshop) {root : Element} {sheet : Sheet} {r : Rule}
    (hNew : r.selectorText ∉ sheet.keys)
    (hNone : r.selector? = none ∨ ∀ e ∈ root.elements, r.applies e = false) (p : NodeId)
    (canvas : Size Single) :
    w.convert root (sheet.put r) p canvas = w.convert root sheet p canvas := by
  have hUnmatched : ∀ e ∈ root.elements, r.applies e = false := by
    rcases hNone with hNone | hNone
    · exact fun e _ => Rule.applies_of_selector?_eq_none hNone e
    · exact hNone
  exact w.convert_congr (fun e he => Sheet.matching_put hNew (hUnmatched e he)) p canvas

/-- A rule for labels inside panels, which is no selector, and a rule for buttons, next to a rule
that does apply. -/
theorem convert_put_panel :
    let w : Workshop := ⟨.ofFinder (.standard ⟨[]⟩) (.ofSource Asset.Shelf.empty.source),
      Host.ofScene (Scene.withCanvas 800 600)⟩
    let root : Element := .mk "VisualElement" none Catalog.empty [.bare "Label"] none
    let sheet : Sheet := ⟨[⟨"Label", ⟨[⟨"width", "50px"⟩]⟩⟩]⟩
    let inside : Rule := ⟨"VisualElement Label", ⟨[⟨"width", "70px"⟩]⟩⟩
    let button : Rule := ⟨"Button", ⟨[⟨"width", "70px"⟩]⟩⟩
    inside.selectorText ∉ sheet.keys ∧ inside.selector? = none ∧
      button.selectorText ∉ sheet.keys ∧ (∀ e ∈ root.elements, button.applies e = false) ∧
      ∀ r ∈ [inside, button], w.convert root (sheet.put r) Scene.empty.nodes.nextKey ⟨800, 600⟩ =
        w.convert root sheet Scene.empty.nodes.nextKey ⟨800, 600⟩ := by
  intro w root sheet inside button
  have hInside : inside.selectorText ∉ sheet.keys := by decide
  have hNone : inside.selector? = none := by decide +kernel
  have hButton : button.selectorText ∉ sheet.keys := by decide
  have hApplies : ∀ e ∈ root.elements, button.applies e = false := by decide +kernel
  refine ⟨hInside, hNone, hButton, hApplies, fun r hr => ?_⟩
  simp only [List.mem_cons, List.not_mem_nil, or_false] at hr
  rcases hr with rfl | rfl
  · exact w.convert_put hInside (Or.inl hNone) _ _
  · exact w.convert_put hButton (Or.inr hApplies) _ _

end Workshop

end AnchoredUi.Conversion
