import AnchoredUi.Proofs.Styling.Skips
import AnchoredUi.Proofs.Widget.Raised

/-!
# Attempts to build a widget

A host may refuse any call while a widget is built. The widget then stays unfinished, and its nodes
stay where they are. So an attempt never loses a node; and where it succeeds, its root is a new node
with the name of the element below the given parent, and the node for the children is that root or
below it.

* `Attempted`: what an attempt to build a widget does, and what it gives if it succeeds.
* `attempted_widget`: all attempts.
* `widgetOf_cases`: an element gets a widget, or is reported as skipped.
-/

namespace AnchoredUi.Widget

open Number Plane SceneGraph Markup Kind Sprite Styling

/-! ## Widgets -/

/-- What an attempt to build a widget does: no node is lost and no warning raised. If it succeeds,
the root has arrived below the parent, and the children come at or below it. -/
structure Attempted (name : String) (parent : NodeId) (st : Stage)
    (run : Except BuildFault Built × Stage) : Prop where
  stays : Scene.Stays st.host.scene run.2.host.scene
  warnings_eq : run.2.warnings = st.warnings
  built : ∀ w, run.1 = .ok w → st.host.scene.Arrived name parent w.root run.2.host.scene ∧
    run.2.host.scene.Below w.root w.content ∧ ∀ n ∈ w.notes, n.isSkip = false

theorem isSkip_addressNotes {answers : String → Option Sprite} {address : Option String} :
    ∀ n ∈ addressNotes answers address, n.isSkip = false := by
  intro n hn
  cases address with
  | none => cases hn
  | some a =>
    simp only [addressNotes, pictureNotes] at hn
    split at hn
    · split at hn
      · rw [List.mem_singleton.mp hn]
        rfl
      · cases hn
    · rw [List.mem_singleton.mp hn]
      rfl

theorem isSkip_blueprint {kind : WidgetKind} {l : Lettering} {e : Element} {b : Blueprint}
    (hBlueprint : blueprint kind l e = .ok b) : ∀ n ∈ b.notes, n.isSkip = false := by
  intro n hn
  cases kind with
  | dropdown | slider =>
    obtain ⟨_, -, rfl⟩ := exists_of_map_eq_ok hBlueprint
    cases hn
  | unrecognized =>
    cases hBlueprint
    rw [List.mem_singleton.mp hn]
    rfl
  | button | textField | toggle | label | image | scrollView | genericField | container =>
    cases hBlueprint
    cases hn

theorem attempted_widget (kind : WidgetKind) (l : Lettering) (e : Element) (parent : NodeId)
    {st : Stage} (hs : st.host.scene.Forest) :
    Attempted (nodeName e) parent st (build kind l e parent st) := by
  cases hBlueprint : blueprint kind l e with
  | error f =>
    rw [build_of_blueprint_error hBlueprint]
    exact ⟨.refl hs, rfl, fun _ hw => nomatch hw⟩
  | ok b =>
    obtain ⟨st', hHost, hRun, hWarnings⟩ := run_build_eq b (nodeName e) parent st
    have hStays := (b.ofCalls_work st.finder.answer (nodeName e) parent).staying st.host hs
    rw [← hHost] at hStays
    rw [build_of_blueprint_ok hBlueprint, hRun]
    refine ⟨hStays, hWarnings, fun w hw => ?_⟩
    have hOutcome : b.outcome _ _ = .ok w := hw
    rw [hOutcome] at hRun
    have hBuild := fun sprite => (buildable_blueprint hBlueprint sprite).1
    obtain ⟨nodes, hStands, rfl⟩ := exists_stands hBuild hs hRun
    have hLaid := hStands.laid
    refine ⟨⟨hStays, hLaid.fresh .root, hLaid.live .root, hLaid.root_name, hLaid.root_parent⟩,
      (hLaid.isContent hBlueprint).below hStays.forest, fun n hn => ?_⟩
    rcases List.mem_append.mp hn with hn | hn
    · exact isSkip_blueprint hBlueprint n hn
    · exact isSkip_addressNotes n hn

end AnchoredUi.Widget

namespace AnchoredUi.Conversion

open SceneGraph Markup Kind Widget Styling

/-! ## Elements -/

variable {job : Job} {e : Element} {parent : NodeId} {st : Stage}

theorem run_widgetOf_none {st' st'' : Stage} {f g : BuildFault}
    (hFirst : Widget.build (kindOf job.rules e) job.lettering e parent st = (.error f, st'))
    (hSecond : Widget.build .container job.lettering e parent
      (raise [⟨some e.label, .notBuilt (kindOf job.rules e) f⟩] st').2 = (.error g, st'')) :
    job.widgetOf e parent st = (none, (raise [⟨some e.label, .skipped g⟩] st'').2) := by
  simp only [kindOf, raise] at hFirst hSecond
  simp only [Job.widgetOf, bind, StateT.bind, ExceptT.run, hFirst, raise, hSecond]
  rfl

/-- An element got a widget. -/
structure Job.Got (job : Job) (e : Element) (parent : NodeId) (st : Stage) (w : Built)
    (st' : Stage) : Prop where
  run_eq : job.widgetOf e parent st = (some w, st')
  arrived : st.host.scene.Arrived (nodeName e) parent w.root st'.host.scene
  below : st'.host.scene.Below w.root w.content
  labels : skipLabels st'.warnings = skipLabels st.warnings

/-- An element got no widget, and is reported as skipped. -/
structure Job.Skipped (job : Job) (e : Element) (parent : NodeId) (st st' : Stage) : Prop where
  run_eq : job.widgetOf e parent st = (none, st')
  stays : Scene.Stays st.host.scene st'.host.scene
  labels : skipLabels st'.warnings = skipLabels st.warnings ++ [some e.label]

theorem skipLabels_notes (ws : List Warning) {notes : List WarningCause}
    (hNotes : ∀ n ∈ notes, n.isSkip = false) :
    skipLabels (ws ++ notes.map fun n => ⟨none, n⟩) = skipLabels ws := by
  have hNone : skipLabels (notes.map fun n => ⟨none, n⟩) = [] := by
    refine skipLabels_eq_nil fun w hw => ?_
    obtain ⟨n, hn, rfl⟩ := List.mem_map.mp hw
    exact hNotes n hn
  rw [skipLabels_append, hNone, List.append_nil]

/-- Whatever the host refuses, an element gets a widget, as what it is or as a container, or it is
reported as skipped. -/
theorem widgetOf_cases (job : Job) (e : Element) (parent : NodeId) {st : Stage}
    (hs : st.host.scene.Forest) :
    (∃ st', job.Skipped e parent st st') ∨ ∃ w st', job.Got e parent st w st' := by
  have hFirst := attempted_widget (kindOf job.rules e) job.lettering e parent hs
  rcases hRun : Widget.build (kindOf job.rules e) job.lettering e parent st with ⟨f | w, st₁⟩
  · -- what was built in vain stays, and a container is built next to it
    rw [hRun] at hFirst
    let st₂ := (raise [⟨some e.label, .notBuilt (kindOf job.rules e) f⟩] st₁).2
    have hLabels : skipLabels st₂.warnings = skipLabels st.warnings := by
      refine (skipFree_raise ?_ st₁).trans (congrArg skipLabels hFirst.warnings_eq)
      intro w hw
      rw [List.mem_singleton.mp hw]
      rfl
    have hStays : Scene.Stays st.host.scene st₂.host.scene := hFirst.stays
    have hForest : st₂.host.scene.Forest := hStays.forest
    have hSecond := attempted_widget .container job.lettering e parent hForest
    rcases hContainer : Widget.build .container job.lettering e parent st₂ with ⟨g | w, st₃⟩
    · rw [hContainer] at hSecond
      refine Or.inl ⟨_, run_widgetOf_none hRun hContainer, hStays.trans hSecond.stays, ?_⟩
      show skipLabels (st₃.warnings ++ _) = _
      rw [skipLabels_append, hSecond.warnings_eq, hLabels]
      rfl
    · rw [hContainer] at hSecond
      obtain ⟨hArrived, hBelow, hNotes⟩ := hSecond.built w rfl
      refine Or.inr ⟨w, _, run_widgetOf_error hRun hContainer, hArrived.after hStays, hBelow, ?_⟩
      refine (skipLabels_notes st₃.warnings hNotes).trans ?_
      rw [hSecond.warnings_eq, hLabels]
  · rw [hRun] at hFirst
    obtain ⟨hArrived, hBelow, hNotes⟩ := hFirst.built w rfl
    refine Or.inr ⟨w, _, run_widgetOf_ok hRun, hArrived, hBelow, ?_⟩
    exact (skipLabels_notes st₁.warnings hNotes).trans (congrArg skipLabels hFirst.warnings_eq)

end AnchoredUi.Conversion
