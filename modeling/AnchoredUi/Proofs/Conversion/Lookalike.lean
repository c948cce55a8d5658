import AnchoredUi.Conversion.Converter
import AnchoredUi.Proofs.Styling.TwinStage
import AnchoredUi.Proofs.Widget.Build

/-!
# Elements that look alike

The size of an element is given by attributes that only styling reads. Two elements that are the
same but for these attributes, and for their children, are built as the same widget, have the same
label, and are matched by the same rules.

A blueprint calls nodes by their parts, so it does the same wherever it is carried out. Built on
twin stages, its parts are related from then on: every new node makes the relation larger by one
pair.

* `blueprint_eq`: lookalike elements have the same blueprints.
* `matching_eq`, `declared_eq`: the same rules apply to them, and declare the same.
* `twins_step`, `twins_runSteps`: the steps of a blueprint on twin stages.
* `twins_build`: a widget with its picture.
-/

namespace AnchoredUi.Conversion

open Markup Style Kind Widget Styling

/-- Two elements that are the same but for their children and the attributes that give sizes. -/
structure Lookalike (e e' : Element) : Prop where
  tag_eq : e.tag = e'.tag
  space_eq : e.space = e'.space
  text_eq : e.text = e'.text
  attr_eq : ∀ name, name ∉ Subject.sizeAttributes.map Prod.fst → e.attr? name = e'.attr? name

section Lookalike

variable {e e' : Element} (h : Lookalike e e')
include h

theorem Lookalike.name?_eq : e.name? = e'.name? := h.attr_eq "name" (by decide)

theorem Lookalike.label_eq : e.label = e'.label := by
  unfold Element.label
  rw [h.name?_eq, h.tag_eq]

theorem Lookalike.nodeName_eq : nodeName e = nodeName e' := by
  unfold nodeName
  rw [h.name?_eq, h.tag_eq]

theorem Lookalike.kindOf_eq (rules : KindRules) : kindOf rules e = kindOf rules e' := by
  unfold kindOf Element.typeName
  rw [h.space_eq, h.tag_eq]

theorem Lookalike.displayText_eq : e.displayText = e'.displayText := by
  unfold Element.displayText
  rw [h.text_eq, h.attr_eq "text" (by decide)]

theorem Lookalike.applies_eq (r : Rule) : r.applies e = r.applies e' := by
  have hClasses : e.classes = e'.classes := by
    unfold Element.classes
    rw [h.attr_eq "class" (by decide)]
  unfold Rule.applies
  cases r.selector? with
  | none => rfl
  | some s =>
    cases s <;> simp only [Selector.matches?, Element.hasClass, hClasses, h.name?_eq, h.tag_eq]

theorem Lookalike.matching_eq (sheet : Sheet) : sheet.matching e = sheet.matching e' := by
  unfold Sheet.matching
  exact congrArg (fun p => sheet.entries.filter p) (funext h.applies_eq)

theorem Lookalike.inlineStyle_eq : Sheet.inlineStyle e = Sheet.inlineStyle e' := by
  unfold Sheet.inlineStyle
  rw [h.attr_eq "style" (by decide)]

theorem Lookalike.declared_eq (sheet : Sheet) : sheet.declared e = sheet.declared e' := by
  unfold Sheet.declared Sheet.computed
  rw [h.matching_eq, h.inlineStyle_eq]

theorem Lookalike.sliderOf_eq : sliderOf e = sliderOf e' := by
  have hNumber : ∀ name, name ∉ Subject.sizeAttributes.map Prod.fst →
      numberAttr e name = numberAttr e' name := fun name hName => by
    unfold numberAttr
    rw [h.attr_eq name hName]
  unfold sliderOf
  rw [hNumber "low-value" (by decide), hNumber "high-value" (by decide),
    hNumber "value" (by decide), h.attr_eq "high-value" (by decide), h.tag_eq]

theorem Lookalike.blueprint_eq (kind : WidgetKind) (l : Lettering) :
    blueprint kind l e = blueprint kind l e' := by
  have hValue := h.attr_eq "value" (by decide)
  cases kind with
  | button =>
    simp only [blueprint, button, captionSteps, h.displayText_eq]
  | textField =>
    simp only [blueprint, textField, hintText, hValue, h.attr_eq "placeholder-text" (by decide),
      h.attr_eq "placeholder" (by decide)]
  | dropdown =>
    have hOptions : options e = options e' := by
      unfold options
      rw [h.attr_eq "choices" (by decide)]
    have hChosen : ∀ os, chosen e os = chosen e' os := fun os => by
      unfold chosen
      rw [h.attr_eq "index" (by decide), hValue]
    simp only [blueprint, dropdown, hOptions, hChosen]
  | slider => simp only [blueprint, slider, h.sliderOf_eq]
  | toggle =>
    simp only [blueprint, toggle, toggleText, isOn, hValue, h.displayText_eq,
      h.attr_eq "label" (by decide)]
  | label => simp only [blueprint, label, h.displayText_eq]
  | image =>
    simp only [blueprint, image, pictureOf?, pictureAttributes, List.findSome?,
      h.attr_eq "src" (by decide), h.attr_eq "source" (by decide), h.attr_eq "image" (by decide)]
  | scrollView | genericField | container => rfl
  | unrecognized => simp only [blueprint, unrecognized, h.tag_eq]

end Lookalike

end AnchoredUi.Conversion

namespace AnchoredUi.Widget

open Number Plane SceneGraph Sprite Styling

variable {G : Grounds} {R : NodeId → NodeId → Prop} {answers : String → Option Sprite}
  {u v : NodeId} {h h' : Host}

/-! ## Steps -/

theorem twins_addNode (hG : G.Level) (huv : G.Under R u v) (hw : h.Willing) (hw' : h'.Willing)
    (hTwins : Scene.Twins G R h.scene h'.scene) (name : String) (rect : Rect Single) :
    ∃ a b t t', Host.Does (addNode name u rect) h a t ∧ Host.Does (addNode name v rect) h' b t' ∧
      Scene.Twins G (Scene.withPair R a b) t t' := by
  obtain ⟨hu, hv⟩ := hTwins.under_contains hG huv
  refine ⟨_, _, _, _, does_addNode hw hu hTwins.left_forest.sound name rect,
    does_addNode hw' hv hTwins.right_forest.sound name rect, ?_⟩
  exact (hTwins.withChild hG huv name).setRect hG (Or.inr ⟨rfl, rfl⟩) rect

/-- What a step, or several, give on twin stages: the parts are related, as far as there are any,
and what was related before is still so. -/
def TwinParts (G : Grounds) (R : NodeId → NodeId → Prop) (m m' : HostM (Part → NodeId))
    (h h' : Host) : Prop :=
  ∃ R' nodes nodes' t t', Host.Does m h nodes t ∧ Host.Does m' h' nodes' t' ∧
    (∀ a b, R a b → R' a b) ∧ (∀ p, R' (nodes p) (nodes' p)) ∧ Scene.Twins G R' t t'

theorem twins_step (hG : G.Level) {nodes nodes' : Part → NodeId}
    (hNodes : ∀ p, R (nodes p) (nodes' p)) (hw : h.Willing) (hw' : h'.Willing)
    (hTwins : Scene.Twins G R h.scene h'.scene) (step : Step) :
    TwinParts G R (step.run nodes) (step.run nodes') h h' := by
  cases step with
  | node part name under rect =>
    obtain ⟨a, b, t, t', hDoes, hDoes', hAfter⟩ :=
      twins_addNode hG (Or.inl (hNodes under)) hw hw' hTwins name rect
    refine ⟨Scene.withPair R a b, fun p => if p = part then a else nodes p,
      fun p => if p = part then b else nodes' p, t, t', hDoes.map _, hDoes'.map _,
      fun _ _ => Or.inl, fun p => ?_, hAfter⟩
    by_cases hp : p = part
    · simp only [if_pos hp]
      exact Or.inr ⟨rfl, rfl⟩
    · simp only [if_neg hp]
      exact Or.inl (hNodes p)
  | attach part component =>
    obtain ⟨t, t', hDoes, hDoes', hAfter⟩ :=
      Host.twinWork_attach hG (hNodes part) (Component.alike_map hNodes component) h h' hw hw'
        hTwins
    exact ⟨R, nodes, nodes', t, t', hDoes.map fun _ => nodes, hDoes'.map fun _ => nodes',
      fun _ _ => id, hNodes, hAfter⟩
  | hide part =>
    obtain ⟨t, t', hDoes, hDoes', hAfter⟩ :=
      Host.twinWork_setActive hG (hNodes part) false h h' hw hw' hTwins
    exact ⟨R, nodes, nodes', t, t', hDoes.map fun _ => nodes, hDoes'.map fun _ => nodes',
      fun _ _ => id, hNodes, hAfter⟩

theorem twins_runSteps (hG : G.Level) {nodes nodes' : Part → NodeId}
    (hNodes : ∀ p, R (nodes p) (nodes' p)) (hw : h.Willing) (hw' : h'.Willing)
    (hTwins : Scene.Twins G R h.scene h'.scene) (steps : List Step) :
    TwinParts G R (steps.foldlM Step.run nodes) (steps.foldlM Step.run nodes') h h' := by
  induction steps generalizing R nodes nodes' h h' with
  | nil =>
    exact ⟨R, nodes, nodes', h.scene, h'.scene, Host.does_pure nodes h, Host.does_pure nodes' h',
      fun _ _ => id, hNodes, hTwins⟩
  | cons step steps ih =>
    obtain ⟨R₁, nodes₁, nodes₁', t, t', ⟨k, hRun, rfl, hOwner⟩, ⟨k', hRun', rfl, hOwner'⟩, hMono,
      hNodes₁, hStep⟩ := twins_step hG hNodes hw hw' hTwins step
    obtain ⟨R₂, nodes₂, nodes₂', r, r', ⟨l, hRest, hl, hOwner₂⟩, ⟨l', hRest', hl', hOwner₂'⟩,
      hMono₂, hNodes₂, hEnd⟩ := ih hNodes₁ (hOwner.willing hw) (hOwner'.willing hw') hStep
    refine ⟨R₂, nodes₂, nodes₂', r, r', ⟨l, ?_, hl, hOwner.trans hOwner₂⟩,
      ⟨l', ?_, hl', hOwner'.trans hOwner₂'⟩, fun a b hab => hMono₂ a b (hMono a b hab), hNodes₂,
      hEnd⟩
    · rw [List.foldlM_cons, Host.run_bind, hRun]
      exact hRest
    · rw [List.foldlM_cons, Host.run_bind, hRun']
      exact hRest'

/-! ## Widgets -/

theorem alike_findPicture (address : Option String) :
    AlikeWork G R answers Eq (findPicture address) (findPicture address) := by
  cases address with
  | none => exact alike_pure rfl
  | some a =>
    refine alike_bind (alike_findSprite a) fun sprite _ hEq => ?_
    subst hEq
    exact alike_pure rfl

theorem twins_findPicture {extra : List Warning} {st st' : Stage}
    (hStages : TwinStages G R answers extra st st') (address : Option String) :
    ∃ found st₁ st₁', findPicture address st = (.ok found, st₁) ∧
      findPicture address st' = (.ok found, st₁') ∧ TwinStages G R answers extra st₁ st₁' := by
  obtain ⟨st₁, hFind, -⟩ := run_findPicture address st
  obtain ⟨st₁', hFind', -⟩ := run_findPicture address st'
  obtain ⟨hResults, hAfter⟩ := alike_findPicture address extra st st' hStages
  rw [hFind, hFind'] at hResults hAfter
  cases hResults with
  | ok hEq =>
    rw [← hEq] at hFind'
    exact ⟨_, st₁, st₁', hFind, hFind', hAfter⟩

/-- A blueprint gives twin widgets below corresponding nodes. -/
theorem twins_build (hG : G.Level) (huv : G.Under R u v) {extra : List Warning} {st st' : Stage}
    (hStages : TwinStages G R answers extra st st') (b : Blueprint) (name : String) :
    ∃ R' w w' st₁ st₁', b.build name u st = (.ok w, st₁) ∧ b.build name v st' = (.ok w', st₁') ∧
      (∀ a b, R a b → R' a b) ∧ R' w.root w'.root ∧ R' w.content w'.content ∧
      w.notes = w'.notes ∧ TwinStages G R' answers extra st₁ st₁' := by
  obtain ⟨x, y, t, t', ⟨k, hAdd, rfl, hOwner⟩, ⟨k', hAdd', rfl, hOwner'⟩, hAdded⟩ :=
    twins_addNode hG huv hStages.left_willing hStages.right_willing hStages.scenes name rootRect
  obtain ⟨⟨sprite, notes⟩, st₁, st₁', hFind, hFind', hFound⟩ :=
    twins_findPicture (hStages.of_does hOwner hOwner' hAdded) b.picture
  have hNodes : ∀ _ : Part, Scene.withPair R x y x y := fun _ => Or.inr ⟨rfl, rfl⟩
  obtain ⟨R', nodes, nodes', r, r', ⟨l, hSteps, rfl, hOwner₂⟩, ⟨l', hSteps', rfl, hOwner₂'⟩, hMono,
    hParts, hEnd⟩ :=
    twins_runSteps hG hNodes hFound.left_willing hFound.right_willing hFound.scenes (b.steps sprite)
  refine ⟨R', ⟨x, nodes b.content, b.notes ++ notes⟩, ⟨y, nodes' b.content, b.notes ++ notes⟩,
    { st₁ with host := l }, { st₁' with host := l' }, ?_, ?_, fun a c hac => hMono a c (Or.inl hac),
    hMono x y (Or.inr ⟨rfl, rfl⟩), hParts b.content, rfl, hFound.of_does hOwner₂ hOwner₂' hEnd⟩
  · unfold Blueprint.build
    rw [run_bind_ok (run_onHost hAdd), run_bind_ok hFind]
    exact run_bind_ok (run_onHost hSteps)
  · unfold Blueprint.build
    rw [run_bind_ok (run_onHost hAdd'), run_bind_ok hFind']
    exact run_bind_ok (run_onHost hSteps')

end AnchoredUi.Widget
