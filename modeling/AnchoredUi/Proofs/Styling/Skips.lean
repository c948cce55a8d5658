import AnchoredUi.Proofs.Styling.Stage
import AnchoredUi.Styling.Cascade

/-!
# Styling skips nothing

Only the conversion of trees says that an element is skipped. Styling has its own warnings, about
declarations, about refused calls and about pictures, and this holds on every host.

* `skipLabels`: the labels of the elements that warnings report as skipped.
* `skipFree_cascade`: a cascade adds none.
-/

namespace AnchoredUi

/-- The cause says that an element is skipped. -/
def WarningCause.isSkip : WarningCause → Bool
  | .skipped _ => true
  | _ => false

/-- The labels of skipped elements in order. -/
def skipLabels (ws : List Warning) : List (Option String) :=
  (ws.filter fun w => w.cause.isSkip).map Warning.label

theorem skipLabels_append (ws more : List Warning) :
    skipLabels (ws ++ more) = skipLabels ws ++ skipLabels more := by
  simp only [skipLabels, List.filter_append, List.map_append]

theorem skipLabels_eq_nil {ws : List Warning} (h : ∀ w ∈ ws, w.cause.isSkip = false) :
    skipLabels ws = [] := by
  unfold skipLabels
  rw [List.filter_eq_nil_iff.mpr fun w hw => by rw [h w hw]; exact Bool.false_ne_true]
  rfl

end AnchoredUi

namespace AnchoredUi.Styling

open Number Plane SceneGraph Style Sprite

/-- Work on a stage that reports no element as skipped. -/
def SkipFree {β : Type} (m : Stage → β × Stage) : Prop :=
  ∀ st, skipLabels (m st).2.warnings = skipLabels st.warnings

section Stages

variable {ε β γ : Type}

theorem skipFree_pure (b : β) : SkipFree (pure b : StageM ε β) := fun _ => rfl

theorem skipFree_throw (f : ε) : SkipFree (throw f : StageM ε β) := fun _ => rfl

theorem SkipFree.bind {m : StageM ε β} {next : β → StageM ε γ} (hm : SkipFree m)
    (hNext : ∀ b, SkipFree (next b)) : SkipFree (m >>= next) := by
  intro st
  have hFirst := hm st
  rw [run_bind]
  rcases hRun : m st with ⟨f | b, st'⟩
  · rw [hRun] at hFirst
    exact hFirst
  · rw [hRun] at hFirst
    exact (hNext b st').trans hFirst

theorem skipFree_current : SkipFree (currentScene : StageM ε Scene) := fun _ => rfl

theorem skipFree_onHost (fault : SceneFault → ε) (m : HostM β) : SkipFree (onHost fault m) :=
  fun _ => rfl

theorem skipFree_findSprite (address : String) :
    SkipFree (findSprite address : StageM ε (Option Sprite)) := by
  intro st
  rw [run_findSprite]

theorem skipFree_raise {ws : List Warning} (h : ∀ w ∈ ws, w.cause.isSkip = false) :
    SkipFree (raise ws) := by
  intro st
  show skipLabels (st.warnings ++ ws) = _
  rw [skipLabels_append, skipLabels_eq_nil h, List.append_nil]

theorem skipFree_warn (label : Option String) {cause : WarningCause}
    (hCause : cause.isSkip = false) : SkipFree (warn label cause : StageM ε Unit) := by
  have hOne : ∀ w ∈ [Warning.mk label cause], w.cause.isSkip = false := by
    intro w hw
    rw [List.mem_singleton.mp hw]
    exact hCause
  exact skipFree_raise hOne

theorem skipFree_orWarn {m : StageM ε Unit} (hm : SkipFree m) {cause : ε → Warning}
    (hCause : ∀ f, (cause f).cause.isSkip = false) : SkipFree (orWarn m cause) := by
  intro st
  have hRun := hm st
  unfold orWarn
  rcases hm' : m st with ⟨f | _, st'⟩
  · rw [hm'] at hRun
    have hRaise : ∀ w ∈ [cause f], w.cause.isSkip = false := fun w hw => by
      rw [List.mem_singleton.mp hw]
      exact hCause f
    exact (skipFree_raise hRaise st').trans hRun
  · rw [hm'] at hRun
    exact hRun

theorem skipFree_then {m : StateM Stage Unit} {next : StateM Stage β} (hm : SkipFree m)
    (hNext : SkipFree next) : SkipFree (m >>= fun _ => next) := fun st =>
  (hNext (m st).2).trans (hm st)

theorem skipFree_forM {step : β → StateM Stage Unit} (hStep : ∀ b, SkipFree (step b))
    (bs : List β) : SkipFree (bs.forM step) := by
  induction bs with
  | nil => exact fun _ => rfl
  | cons b bs ih => exact skipFree_then (hStep b) ih

end Stages

/-! ## Declarations and cascades -/

namespace Subject

variable (x : Subject)

theorem skipFree_setSize (axis : Axis) (value : Scalar) : SkipFree (x.setSize axis value) := by
  refine skipFree_current.bind fun s => ?_
  cases (x.surroundings s).length? value axis with
  | none => exact skipFree_onHost _ _
  | some pixels =>
    simp only
    split
    · exact skipFree_throw _
    · exact skipFree_onHost _ _

theorem skipFree_setPadding (sides : Spacing (Option Scalar)) : SkipFree (x.setPadding sides) := by
  refine skipFree_current.bind fun s => ?_
  simp only
  split
  · exact skipFree_onHost _ _
  · split
    · exact skipFree_pure ()
    · exact skipFree_onHost _ _

theorem skipFree_setAlignSelf (align : Align) : SkipFree (x.setAlignSelf align) := by
  refine skipFree_current.bind fun s => ?_
  simp only
  split
  · exact skipFree_onHost _ _
  · cases align with
    | auto => exact skipFree_pure ()
    | start | center | finish => exact skipFree_current.bind fun _ => skipFree_onHost _ _
    | stretch => exact (skipFree_onHost _ _).bind fun _ => skipFree_onHost _ _

theorem skipFree_setBackground (address : String) : SkipFree (x.setBackground address) := by
  unfold setBackground
  split
  · exact skipFree_onHost _ _
  · refine (skipFree_findSprite address).bind fun found => ?_
    cases found with
    | none => exact skipFree_warn _ rfl
    | some sprite =>
      simp only
      split
      · exact (skipFree_warn _ rfl).bind fun _ => skipFree_onHost _ _
      · exact skipFree_onHost _ _

theorem skipFree_setText (change : TextChange) : SkipFree (x.setText change) := by
  refine skipFree_current.bind fun s => ?_
  simp only
  cases changedText (x.surroundings s) ((textOf? s x.node).getD (.plain "" "" 0)) change with
  | error f => exact skipFree_throw _
  | ok changed =>
    cases textNode? s x.node with
    | none => exact skipFree_pure ()
    | some id => exact skipFree_onHost _ _

theorem skipFree_perform (change : Change) : SkipFree (x.perform change) := by
  unfold perform
  cases change with
  | size axis value => exact x.skipFree_setSize axis value
  | leastSize axis value => exact skipFree_current.bind fun _ => skipFree_onHost _ _
  | preferredSize axis value => exact skipFree_current.bind fun _ => skipFree_onHost _ _
  | basis value =>
    exact skipFree_current.bind fun _ => skipFree_current.bind fun _ => skipFree_onHost _ _
  | grow factor => exact skipFree_current.bind fun _ => skipFree_onHost _ _
  | shrink _ => exact skipFree_pure ()
  | inset side distance =>
    refine skipFree_current.bind fun s => ?_
    cases (x.surroundings s).length? distance side.axis with
    | none => exact skipFree_pure ()
    | some d => exact skipFree_onHost _ _
  | position value =>
    cases value with
    | relative => exact skipFree_pure ()
    | absolute => exact (skipFree_onHost _ _).bind fun _ => skipFree_onHost _ _
  | margin sides => exact skipFree_current.bind fun _ => skipFree_onHost _ _
  | padding sides => exact x.skipFree_setPadding sides
  | group => exact skipFree_onHost _ _
  | alignSelf value => exact x.skipFree_setAlignSelf value
  | display value => exact skipFree_onHost _ _
  | graphicColor value => exact skipFree_onHost _ _
  | backgroundImage address => exact x.skipFree_setBackground address
  | backgroundSize value => exact skipFree_onHost _ _
  | backgroundRepeat value => exact skipFree_onHost _ _
  | opacity value =>
    refine skipFree_current.bind fun s => ?_
    split
    · exact skipFree_onHost _ _
    · exact skipFree_onHost _ _
  | overflow value =>
    refine skipFree_current.bind fun s => ?_
    simp only
    split
    · exact skipFree_onHost _ _
    · exact skipFree_pure ()
  | text change => exact x.skipFree_setText change

theorem skipFree_apply (d : Declaration) : SkipFree (x.apply d) := by
  unfold apply
  cases Property.named? d.property with
  | none =>
    refine skipFree_raise fun w hw => ?_
    rw [List.mem_singleton.mp hw]
    rfl
  | some p =>
    refine skipFree_orWarn ?_ fun f => ?_
    · cases Change.read p d.value with
      | error f => exact skipFree_throw _
      | ok change => exact x.skipFree_perform change
    · cases f <;> rfl

theorem skipFree_tryHost (m : HostM Unit) : SkipFree (x.tryHost m) :=
  skipFree_orWarn (skipFree_onHost _ _) fun _ => rfl

/-- A cascade reports no element as skipped, whatever the host refuses. -/
theorem skipFree_cascade : SkipFree x.cascade :=
  skipFree_then (x.skipFree_tryHost _) <|
    skipFree_then (x.skipFree_tryHost _) <|
      skipFree_then (skipFree_forM x.skipFree_apply _) <|
        skipFree_forM (fun _ => x.skipFree_tryHost _) _

end Subject

end AnchoredUi.Styling
