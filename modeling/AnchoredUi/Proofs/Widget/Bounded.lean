import AnchoredUi.Proofs.Text.Cut
import AnchoredUi.Proofs.Widget.Attribute
import AnchoredUi.Proofs.Widget.Offspring

/-!
# Widgets within bounds

The nodes of a new widget stand at fixed places, which are a few hundred pixels apart at most, and
only the fill and the handle of a slider stand where its value says. That is a fraction of its
range: the value is brought into the range, and a range so narrow that nothing could be divided by
it counts as empty.

* `value_sliderIn`, `fraction_sliderOf`: the value of a slider, and the fraction of its range.
* `plain_blueprint`: the steps of every blueprint.
* `offspring_widgetOf`: the nodes of the widget of an element.
-/

namespace AnchoredUi.Markup

/-- The own text of an element and the values of its attributes have at most `n` letters. -/
structure Element.Brief (e : Element) (n : ℕ) : Prop where
  text : ∀ t, e.text = some t → t.length ≤ n
  value : ∀ a ∈ e.attributes.entries, a.value.length ≤ n

instance (e : Element) (n : ℕ) : Decidable (e.Brief n) :=
  decidable_of_iff ((∀ t ∈ e.text.toList, t.length ≤ n) ∧
      ∀ a ∈ e.attributes.entries, a.value.length ≤ n)
    ⟨fun ⟨hText, hValue⟩ => ⟨fun t ht => hText t (Option.mem_toList.mpr ht), hValue⟩,
      fun h => ⟨fun t ht => h.text t (Option.mem_toList.mp ht), h.value⟩⟩

section Brief

variable {e : Element} {n : ℕ} (h : e.Brief n)
include h

theorem Element.Brief.attr? {name v : String} (hv : e.attr? name = some v) : v.length ≤ n := by
  obtain ⟨a, ha, rfl⟩ := Option.map_eq_some_iff.mp hv
  exact h.value a (List.mem_of_find?_eq_some ha)

theorem Element.Brief.getD (name : String) : ((e.attr? name).getD "").length ≤ n := by
  cases hv : e.attr? name with
  | none => exact Nat.zero_le n
  | some v => exact h.attr? hv

theorem Element.Brief.displayText : (e.displayText.getD "").length ≤ n := by
  unfold Element.displayText
  split
  · exact h.text _ ‹_›
  · exact h.getD _

end Brief

end AnchoredUi.Markup

namespace AnchoredUi.Widget

open Number Plane SceneGraph Scene Markup Kind Sprite Styling Binary Text

/-! ## Sliders -/

/-- The value of a slider is between its ends, whichever is the lower one. -/
theorem value_sliderIn {low high : Single} {value : Option Single} (h : Ranged low high value)
    (whole : Bool) : (sliderIn low high value whole).value.isFinite = true ∧
      min low.value high.value ≤ (sliderIn low high value whole).value.value ∧
      (sliderIn low high value whole).value.value ≤ max high.value low.value := by
  have hMiddle : value.getD (low + (high - low) * Measure.half) ≠ .nan := by
    cases value with
    | none =>
      exact add_ne_nan h.finite_low (rounds_mul h.finite_range fraction_half.isFinite).ne_nan
    | some x => exact ne_nan_of_isFinite (h.finite_value x rfl)
  obtain ⟨hLower, hMin⟩ := value_smaller h.finite_low h.finite_high
  obtain ⟨hUpper, hMax⟩ := value_larger h.finite_high h.finite_low
  have hOrder : min low.value high.value ≤ max high.value low.value :=
    (min_le_left _ _).trans (le_max_right _ _)
  rw [← hMin, ← hMax] at hOrder ⊢
  unfold sliderIn
  rcases clamp_cases hMiddle hLower hUpper with hSame | hSame | ⟨hSame, hFinite, hLow, hHigh⟩ <;>
    rw [hSame]
  · exact ⟨hLower, le_rfl, hOrder⟩
  · exact ⟨hUpper, hOrder, le_rfl⟩
  · exact ⟨hFinite, hLow, hHigh⟩

/-- The handle of a slider stands at a fraction of its range. -/
theorem fraction_sliderIn {low high : Single} {value : Option Single} (h : Ranged low high value)
    (whole : Bool) : (sliderIn low high value whole).fraction.Fraction := by
  have hStands := (value_sliderIn h whole).1
  unfold SceneGraph.Slider.fraction
  simp only
  split
  · exact fraction_zero
  · rename_i hWide
    have hOffset := (rounds_sub hStands h.finite_low).ne_nan
    refine clamp_fraction (div_ne_nan hOffset h.finite_range fun hZero => hWide ?_)
    -- a range of zero would be too narrow
    have hNone : high - low = 0 :=
      value_injective h.finite_range isFinite_zero (hZero.trans value_zero.symm)
    left
    show (high - low).abs ≤ SceneGraph.Slider.leastRange
    rw [hNone]
    decide +kernel

theorem fraction_sliderOf {e : Element} {v : SceneGraph.Slider Part} (h : sliderOf e = .ok v) :
    v.fraction.Fraction := by
  obtain ⟨value, rfl, hRanged⟩ := exists_sliderOf h
  exact fraction_sliderIn hRanged _

/-! ## Texts -/

section Texts

variable {e : Element} {n : ℕ} (h : e.Brief n)
include h

theorem length_toggleText_le : (toggleText e).length ≤ n := by
  unfold toggleText
  split
  · exact h.attr? ‹_›
  · exact h.displayText

theorem length_hintText_le : (hintText e).length ≤ n := by
  unfold hintText
  split
  · exact h.attr? ‹_›
  · exact h.getD _

/-- An option of a dropdown is cut out of an attribute, unless it is a usual one. -/
theorem length_option_le (hn : 8 ≤ n) (i : ℕ) : ((options e).getD i "").length ≤ n := by
  have hAll : ∀ o ∈ options e, o.length ≤ n := by
    intro o ho
    unfold options at ho
    split at ho
    · have hUsual : ∀ o ∈ usualOptions, o.length = 8 := by decide
      exact (hUsual o ho).trans_le hn
    · obtain ⟨cs, hCs, rfl⟩ := List.mem_map.mp ho
      obtain ⟨piece, hPiece, rfl⟩ := List.mem_map.mp (List.mem_of_mem_filter hCs)
      have hInfix := (trimBy_isInfix isBlank piece).trans (infix_of_mem_pieces hPiece).1
      rw [String.length_ofList]
      exact hInfix.length_le.trans ((String.length_toList).trans_le (h.getD _))
  rw [List.getD_eq_getElem?_getD]
  cases hOption : (options e)[i]? with
  | none => exact Nat.zero_le n
  | some o => exact hAll o (List.mem_of_getElem? hOption)

end Texts

/-! ## Steps of blueprints -/

/-- No part is made twice. -/
theorem Buildable.nodup {there : List Part} {steps : List Step} (h : Buildable there steps)
    (hThere : there.Nodup) : (there ++ madeBy steps).Nodup := by
  induction steps generalizing there with
  | nil => rwa [madeBy, List.filterMap_nil, List.append_nil]
  | cons step steps ih =>
    obtain ⟨hFits, hRest⟩ := h
    cases step with
    | node part label under rect =>
      have hMore : (there ++ [part]).Nodup := List.concat_eq_append ▸ hThere.concat hFits.1
      have hAll := ih hRest hMore
      rwa [List.append_assoc] at hAll
    | attach _ _ | hide _ =>
      simp only [Step.made?, Option.toList_none, List.append_nil] at hRest
      exact ih hRest hThere

/-- There are not more new nodes below the root than other parts. -/
theorem length_madeBy_le {steps : List Step} (h : Buildable [.root] steps) :
    (madeBy steps).length ≤ 17 := by
  have hAll : ∀ p : Part, p ∈ [.root, .text, .placeholder, .label, .background, .checkmark,
      .fillArea, .fill, .slideArea, .handle, .arrow, .template, .viewport, .content, .item,
      .itemBackground, .itemCheckmark, .itemLabel] := by
    intro p
    cases p <;> decide
  have hNodup := h.nodup (List.nodup_singleton _)
  exact Nat.le_of_succ_le_succ (hNodup.subperm fun p _ => hAll p).length_le

/-- The rectangle of a new node is a few hundred pixels large at most, and of what a layout reads
new components hold only texts, in the given font and with at most `n` letters. -/
def Step.Plain (l : Lettering) (n : ℕ) : Step → Prop
  | .node _ _ _ rect => rect.Within 9 1
  | .attach _ (.layoutGroup _) | .attach _ (.layoutHints _) => False
  | .attach _ (.text t) => t.fontSize = l.size ∧ t.text.length ≤ n
  | _ => True

/-- The rectangles of all nodes of widgets; those that move with a slider are at its low end. -/
theorem rects_within : ∀ r ∈ [rootRect, fieldRect, framed ⟨10, 6⟩ ⟨-25, -7⟩, arrowRect,
    templateRect, listRect, itemRect, itemMarkRect, framed ⟨20, 1⟩ ⟨-10, -2⟩, trackRect,
    trackRect.withOffsets ⟨5, 0⟩ ⟨-15, 0⟩, fillRect 0, framed ⟨10, 0⟩ ⟨-10, 0⟩, handleRect 0,
    (Rect.topLeft 20 20).withPosition ⟨0, -5⟩, framed ⟨23, 1⟩ ⟨-5, -2⟩, contentRect],
    r.Within 9 1 := by
  decide +kernel

theorem rootRect_within : rootRect.Within 9 1 := rects_within _ (by simp)

theorem fillRect_within {t : Single} (ht : t.Fraction) : (fillRect t).Within 9 1 := by
  have hDelta := (rects_within (fillRect 0) (by simp)).sizeDelta
  refine ⟨Vec2.fraction_zero, fun axis => ?_, Vec2.fraction_middle, Vec2.within_zero, hDelta⟩
  cases axis
  · exact ht
  · exact fraction_one

theorem handleRect_within {t : Single} (ht : t.Fraction) : (handleRect t).Within 9 1 := by
  have hDelta := (rects_within (handleRect 0) (by simp)).sizeDelta
  refine ⟨fun axis => ?_, fun axis => ?_, Vec2.fraction_middle, Vec2.within_zero, hDelta⟩ <;>
    cases axis
  · exact ht
  · exact fraction_zero
  · exact ht
  · exact fraction_one

section Blueprints

variable {l : Lettering} {e : Element} {n : ℕ} (h : e.Brief n)
include h

theorem plain_captionSteps (l : Lettering) : ∀ step ∈ captionSteps l e, step.Plain l n := by
  have hText := h.displayText
  unfold captionSteps
  split
  · exact fun _ hStep => nomatch hStep
  · rename_i caption hCaption
    rw [hCaption, Option.getD_some] at hText
    have hRect : (Rect.stretched : Rect Single).Within 9 1 := Rect.stretched_within
    split
    · exact fun _ hStep => nomatch hStep
    · simp [Step.Plain, Lettering.text, TextBlock.plain, hRect, hText]

theorem plain_textField (l : Lettering) (sprite : Option Sprite) :
    ∀ step ∈ (textField l e).steps sprite, step.Plain l n := by
  have hField : fieldRect.Within 9 1 := rects_within _ (by simp)
  have hHint := length_hintText_le h
  have hValue : ((e.attr? "value").getD "").length ≤ n := h.getD _
  by_cases hEmpty : (e.attr? "value").getD "" = "" <;>
    simp [textField, Blueprint.ofSteps, hEmpty, Step.Plain, Lettering.text, TextBlock.plain, hField,
      hHint, hValue]

/-- The steps of every blueprint are plain. -/
theorem plain_blueprint (hn : 8 ≤ n) {kind : WidgetKind} {p : Blueprint}
    (hBlueprint : blueprint kind l e = .ok p) (sprite : Option Sprite) :
    ∀ step ∈ p.steps sprite, step.Plain l n := by
  have hStretched : (Rect.stretched : Rect Single).Within 9 1 := Rect.stretched_within
  cases kind with
  | button =>
    cases hBlueprint
    have hCaption := plain_captionSteps h l
    simpa [button, Blueprint.ofSteps, Step.Plain] using hCaption
  | textField =>
    cases hBlueprint
    exact plain_textField h l sprite
  | dropdown =>
    obtain ⟨i, -, rfl⟩ := exists_of_map_eq_ok hBlueprint
    have hLabel : (framed ⟨10, 6⟩ ⟨-25, -7⟩).Within 9 1 := rects_within _ (by simp)
    have hArrow : arrowRect.Within 9 1 := rects_within _ (by simp)
    have hTemplate : templateRect.Within 9 1 := rects_within _ (by simp)
    have hList : listRect.Within 9 1 := rects_within _ (by simp)
    have hItem : itemRect.Within 9 1 := rects_within _ (by simp)
    have hMark : itemMarkRect.Within 9 1 := rects_within _ (by simp)
    have hItemLabel : (framed ⟨20, 1⟩ ⟨-10, -2⟩).Within 9 1 := rects_within _ (by simp)
    have hOption := length_option_le h hn i
    rw [List.getD_eq_getElem?_getD] at hOption
    simp [Blueprint.ofSteps, dropdownSteps, templateSteps, Step.Plain, Lettering.text,
      TextBlock.plain, *]
  | slider =>
    obtain ⟨v, hv, rfl⟩ := exists_of_map_eq_ok hBlueprint
    have hTrack : trackRect.Within 9 1 := rects_within _ (by simp)
    have hArea : (trackRect.withOffsets ⟨5, 0⟩ ⟨-15, 0⟩).Within 9 1 := rects_within _ (by simp)
    have hFill := fillRect_within (fraction_sliderOf hv)
    have hSlide : (framed ⟨10, 0⟩ ⟨-10, 0⟩).Within 9 1 := rects_within _ (by simp)
    have hHandle := handleRect_within (fraction_sliderOf hv)
    simp [Blueprint.ofSteps, sliderSteps, Step.Plain, *]
  | toggle =>
    cases hBlueprint
    have hBox : ((Rect.topLeft 20 20).withPosition ⟨0, -5⟩ : Rect Single).Within 9 1 :=
      rects_within _ (by simp)
    have hLabel : (framed ⟨23, 1⟩ ⟨-5, -2⟩).Within 9 1 := rects_within _ (by simp)
    have hText := length_toggleText_le h
    simp [toggle, Blueprint.ofSteps, Step.Plain, Lettering.text, TextBlock.plain, *]
  | scrollView =>
    cases hBlueprint
    have hContent : contentRect.Within 9 1 := rects_within _ (by simp)
    simp [scrollView, Step.Plain, *]
  | label | image | genericField | container | unrecognized =>
    cases hBlueprint
    have hText := h.displayText
    simp [label, image, genericField, container, unrecognized, panel, Blueprint.ofSteps,
      Step.Plain, Lettering.text, TextBlock.plain, hText]

end Blueprints

/-! ## Building -/

theorem Step.Plain.moderate {l : Lettering} {f b e : ℕ} {step : Step} (h : step.Plain l (2 ^ b))
    (hSize : l.size.Within f 1) (he : 9 ≤ e) : step.Moderate f b e := by
  cases step with
  | node _ _ _ rect => exact Rect.Within.scale_mono h he
  | attach part c =>
    cases c with
    | layoutGroup _ | layoutHints _ => exact h.elim
    | text t =>
      obtain ⟨hFont, hLength⟩ : t.fontSize = l.size ∧ t.text.length ≤ 2 ^ b := h
      exact ⟨hFont ▸ hSize, hLength⟩
    | _ => trivial
  | hide _ => trivial

theorem offspring_build {kind : WidgetKind} {l : Lettering} {e : Element} {p : Blueprint}
    (hBlueprint : blueprint kind l e = .ok p) {f b s : ℕ} (hSize : l.size.Within f 1)
    (hBrief : e.Brief (2 ^ b)) (hb : 3 ≤ b) (hRoom : 9 ≤ s) {name : String} {parent : NodeId}
    {st st' : Stage} {w : Built} (hw : st.host.Willing) (hs : st.host.scene.Forest)
    (hLive : st.host.scene.contains parent = true) (h : p.build name parent st = (.ok w, st')) :
    Offspring f b s 17 (st.host.scene.depth parent + 18) st.host.scene st'.host.scene := by
  obtain ⟨st₁, hScene, hOwner, -, -, hRun⟩ := run_build p name hw hs hLive
  have hWilling := hOwner.willing hw
  have hLaid := laid_root hs hLive name rootRect
  have hRoot : Offspring f b s 0 (st.host.scene.depth parent + 1) st.host.scene
      (withNode st.host.scene parent name rootRect) :=
    offspring_withNode hs hLive name (rootRect_within.scale_mono hRoom) le_rfl
  rw [← hScene] at hLaid hRoot
  have hBuild : Buildable [.root] (p.stepsFor st.finder.answer) :=
    (buildable_blueprint hBlueprint _).1
  obtain ⟨nodes, t, hDoes, -, -⟩ := laid_runSteps hWilling hLaid hBuild
  obtain ⟨k, hBuilt, rfl, -⟩ := hRun nodes t hDoes
  obtain ⟨-, rfl⟩ := Prod.ext_iff.mp (h.symm.trans hBuilt)
  have hMany : 2 ^ 3 ≤ 2 ^ b := Nat.pow_le_pow_right (by decide) hb
  have hPlain := plain_blueprint hBrief hMany hBlueprint (p.picture.bind st.finder.answer)
  have hAll := offspring_runSteps hWilling hLaid hRoot hBuild
    (fun step hStep => (hPlain step hStep).moderate hSize hRoom) hDoes
  have hCount := length_madeBy_le hBuild
  exact hAll.mono le_rfl (by omega) (by omega)

end AnchoredUi.Widget

namespace AnchoredUi.Conversion

open Number SceneGraph Scene Markup Widget Styling

/-- The nodes of a widget are within bounds. -/
theorem offspring_widgetOf {job : Job} {e : Element} {f b s : ℕ}
    (hSize : job.lettering.size.Within f 1) (hBrief : e.Brief (2 ^ b)) (hb : 3 ≤ b) (hRoom : 9 ≤ s)
    {parent : NodeId} {st st' : Stage} {w : Built} (hw : st.host.Willing)
    (hs : st.host.scene.Forest) (hLive : st.host.scene.contains parent = true)
    (h : job.widgetOf e parent st = (some w, st')) :
    Offspring f b s 17 (st.host.scene.depth parent + 18) st.host.scene st'.host.scene := by
  cases hBlueprint : blueprint (kindOf job.rules e) job.lettering e with
  | ok p =>
    obtain ⟨w', st₁, hBuild, -⟩ := exists_build
      (fun sprite => (buildable_blueprint hBlueprint sprite).1) (nodeName e) hw hs hLive
    have hEnd := offspring_build hBlueprint hSize hBrief hb hRoom hw hs hLive hBuild
    rw [← build_of_blueprint_ok hBlueprint] at hBuild
    obtain ⟨-, rfl⟩ := Prod.ext_iff.mp (h.symm.trans (run_widgetOf_ok hBuild))
    exact hEnd
  | error fault =>
    have hFault := build_of_blueprint_error hBlueprint parent st
    have hContainer := blueprint_container job.lettering e
    let warning : Warning := ⟨some e.label, .notBuilt (kindOf job.rules e) fault⟩
    have hw' : (raise [warning] st).2.host.Willing := hw
    obtain ⟨w', st₁, hBuild, -⟩ := exists_build
      (fun sprite => (buildable_blueprint hContainer sprite).1) (nodeName e) hw' hs hLive
    have hEnd := offspring_build hContainer hSize hBrief hb hRoom hw' hs hLive hBuild
    rw [← build_of_blueprint_ok hContainer] at hBuild
    obtain ⟨-, rfl⟩ := Prod.ext_iff.mp (h.symm.trans (run_widgetOf_error hFault hBuild))
    exact hEnd

end AnchoredUi.Conversion
