import AnchoredUi.Proofs.Conversion.Frame
import AnchoredUi.Proofs.SceneGraph.Aside

/-!
# The layout group may come early

The layout group that a parent element asks for is attached when its first child is styled, after
the widget of that child was built. Building looks at no components of the node above, so the group
may as well be there before: the conversion of the child then runs the same from its start to its
end, with the same keys. So what the children of an element get does not depend on which of them is
the first one.

* `aside_build`: building looks at no components of the node above.
* `visit_given`, `visitAll_given`: the group may be attached before the visit.
* `groupFor_visitAll`: after the visit, no group is asked for any more.
-/

namespace AnchoredUi.Widget

open Number Plane SceneGraph Sprite Styling

variable {u : NodeId} {cs : List (Component NodeId)}

/-! ## Building -/

theorem aside_addNode (name : String) (parent : NodeId) (rect : Rect Single) :
    Aside (Host.Ready u) (Host.given u cs) (· ≠ u) (addNode name parent rect) :=
  (Host.aside_create name parent).bind fun id hId =>
    (Host.aside_setRect id rect).bind fun _ _ => aside_pure hId

/-- No step is about the node, if none of the parts is. -/
theorem aside_step {nodes : Part → NodeId} (hNodes : ∀ p, nodes p ≠ u) (step : Step) :
    Aside (Host.Ready u) (Host.given u cs) (fun after => ∀ p, after p ≠ u) (step.run nodes) := by
  cases step with
  | node part name under rect =>
    refine (aside_addNode name (nodes under) rect).bind fun id hId => aside_pure fun p => ?_
    split
    · exact hId
    · exact hNodes p
  | attach part c => exact (Host.aside_attach (hNodes part) _).bind fun _ _ => aside_pure hNodes
  | hide part => exact (Host.aside_setActive _ false).bind fun _ _ => aside_pure hNodes

theorem aside_runSteps {nodes : Part → NodeId} (hNodes : ∀ p, nodes p ≠ u) (steps : List Step) :
    Aside (Host.Ready u) (Host.given u cs) (fun after => ∀ p, after p ≠ u)
      (steps.foldlM Step.run nodes) := by
  induction steps generalizing nodes with
  | nil => exact aside_pure hNodes
  | cons step steps ih =>
    rw [List.foldlM_cons]
    exact (aside_step hNodes step).bind fun after hAfter => ih hAfter

end AnchoredUi.Widget

namespace AnchoredUi.Styling

open Number Plane SceneGraph Style Sprite Widget

variable {u : NodeId} {cs : List (Component NodeId)}

/-- The stage after components were attached to a node. -/
def Stage.given (u : NodeId) (cs : List (Component NodeId)) (st : Stage) : Stage :=
  { st with host := st.host.given u cs }

theorem Stage.given_nil (st : Stage) (u : NodeId) : st.given u [] = st := by
  unfold given
  rw [Host.given_nil]

/-- A stage with a host that refuses nothing, and with a node that is there. -/
def Stage.Ready (u : NodeId) (st : Stage) : Prop := st.host.Ready u

theorem aside_onHost {ε β : Type} {Q : β → Prop} {m : HostM β}
    (hm : Aside (Host.Ready u) (Host.given u cs) Q m) (fault : SceneFault → ε) :
    Aside (Stage.Ready u) (Stage.given u cs) Q (onHost fault m) := by
  intro st hReady
  obtain ⟨hSame, hAfter, hResult⟩ := hm st.host hReady
  have hGiven : m (st.given u cs).host = ((m st.host).1, (m st.host).2.given u cs) := hSame
  unfold onHost
  rw [hGiven]
  rcases hRun : m st.host with ⟨r, k⟩
  rw [hRun] at hAfter hResult
  cases r with
  | error f => exact ⟨rfl, hAfter, nofun⟩
  | ok b =>
    refine ⟨rfl, hAfter, ?_⟩
    rintro _ ⟨⟩
    exact hResult b rfl

theorem aside_findPicture (address : Option String) :
    Aside (Stage.Ready u) (Stage.given u cs) (fun _ => True) (findPicture address) := by
  cases address with
  | none => exact aside_pure trivial
  | some a =>
    have hFind : Aside (Stage.Ready u) (Stage.given u cs) (fun _ => True)
        (findSprite a : StageM BuildFault (Option Sprite)) := fun st hReady => by
      have hFinder : (st.given u cs).finder = st.finder := rfl
      rw [run_findSprite, run_findSprite, hFinder]
      generalize st.finder.answer a = found
      generalize (st.finder.find a).2 = finder
      exact ⟨rfl, hReady, fun _ _ => trivial⟩
    exact hFind.bind fun _ _ => aside_pure trivial

theorem aside_build (b : Blueprint) (name : String) (parent : NodeId) :
    Aside (Stage.Ready u) (Stage.given u cs) (fun _ => True) (b.build name parent) :=
  (aside_onHost (aside_addNode name parent rootRect) _).bind fun _ hRoot =>
    (aside_findPicture b.picture).bind fun found _ =>
      (aside_onHost (aside_runSteps (fun _ => hRoot) (b.steps found.1)) _).bind fun _ _ =>
        aside_pure trivial

end AnchoredUi.Styling

namespace AnchoredUi.Conversion

open Number Plane SceneGraph Sprite Markup Style Kind Widget Styling

variable {u : NodeId} {st : Stage}

/-! ## Visits -/

/-- The widget of an element is the same if the node above gets its components before. -/
theorem widgetOf_given (job : Job) (e : Element) (cs : List (Component NodeId))
    (hw : st.host.Willing) (hs : st.host.scene.Forest)
    (hLive : st.host.scene.contains u = true) :
    job.widgetOf e u (st.given u cs) =
      ((job.widgetOf e u st).1, (job.widgetOf e u st).2.given u cs) := by
  have hBuild : ∀ {kind b w} {st st' : Stage}, blueprint kind job.lettering e = .ok b →
      st.Ready u → Widget.build kind job.lettering e u st = (.ok w, st') →
      Widget.build kind job.lettering e u (st.given u cs) = (.ok w, st'.given u cs) := by
    intro kind b w st st' hBlueprint hReady hRun
    rw [build_of_blueprint_ok hBlueprint] at hRun ⊢
    rw [(aside_build b _ u st hReady).1, hRun]
  cases hBlueprint : blueprint (kindOf job.rules e) job.lettering e with
  | ok b =>
    obtain ⟨w, st', hRun, -⟩ :=
      exists_build (fun sprite => (buildable_blueprint hBlueprint sprite).1) (nodeName e) hw hs
        hLive
    rw [← build_of_blueprint_ok hBlueprint] at hRun
    rw [run_widgetOf_ok hRun, run_widgetOf_ok (hBuild hBlueprint ⟨hw, hs.sound, hLive⟩ hRun)]
    rfl
  | error f =>
    have hContainer := blueprint_container job.lettering e
    have hw' : (raise [⟨some e.label, .notBuilt (kindOf job.rules e) f⟩] st).2.host.Willing := hw
    obtain ⟨w, st', hRun, -⟩ :=
      exists_build (fun sprite => (buildable_blueprint hContainer sprite).1) (nodeName e) hw' hs
        hLive
    rw [← build_of_blueprint_ok hContainer] at hRun
    have hGiven := hBuild hContainer (show (raise _ st).2.Ready u from ⟨hw, hs.sound, hLive⟩) hRun
    rw [run_widgetOf_error (build_of_blueprint_error hBlueprint u st) hRun,
      run_widgetOf_error (build_of_blueprint_error hBlueprint u (st.given u cs)) hGiven]
    rfl

/-- A cascade starts with the group of the parent. -/
theorem run_ensureParentGroup {x : Subject} (hUp : x.parentNode = some u) (hReady : st.Ready u) :
    (x.tryHost x.ensureParentGroup st).2 = st.given u (x.groupFor st.host.scene u) := by
  have hRun : x.ensureParentGroup st.host =
      (.ok (), st.host.given u (x.groupFor st.host.scene u)) := by
    unfold Subject.ensureParentGroup Subject.groupFor groupAsked
    rw [Host.run_current_bind, hUp]
    cases x.parentStyle? with
    | none => exact congrArg _ (Host.given_nil st.host u).symm
    | some style =>
      simp only
      split
      · exact Host.run_attach hReady _
      · exact congrArg _ (Host.given_nil st.host u).symm
  unfold Subject.tryHost orWarn
  rw [run_onHost hRun]
  rfl

/-- The layout group that is asked for may be attached before the visit. -/
theorem visit_given (job : Job) (e : Element) (parentElement : Option Element)
    (hw : st.host.Willing) (hs : st.host.scene.Forest)
    (hLive : st.host.scene.contains u = true) :
    job.visit e parentElement u (st.given u (job.groupFor parentElement st.host.scene u)) =
      job.visit e parentElement u st := by
  obtain ⟨tag, space, attributes, children, text⟩ := e
  obtain ⟨w, st₁, hWidget, hBuilds⟩ :=
    exists_widgetOf job (.mk tag space attributes children text) hw hs hLive
  obtain ⟨nodes, hLaid, -⟩ := hBuilds.tree
  let x := job.subject (.mk tag space attributes children text) parentElement w.root u
  have hReady : st₁.Ready u :=
    ⟨hBuilds.owner.willing hw, hLaid.grown.forest.sound, hLaid.grown.contains hLive⟩
  have hGroup : x.groupFor st₁.host.scene u = job.groupFor parentElement st.host.scene u :=
    hBuilds.groupFor_eq hs hLive parentElement
  have hNone : x.groupFor (st₁.given u (x.groupFor st₁.host.scene u)).host.scene u = [] :=
    groupAsked_given hReady.live _ _ _
  have hReadyGiven : (st₁.given u (x.groupFor st₁.host.scene u)).Ready u :=
    ⟨hReady.willing, hReady.sound.modify _ _, (Scene.contains_modify ..).trans hReady.live⟩
  have hGiven := widgetOf_given job (.mk tag space attributes children text)
    (job.groupFor parentElement st.host.scene u) hw hs hLive
  rw [hWidget, ← hGroup] at hGiven
  -- the cascade finds the group, or attaches it as its first piece of work
  have hCascade : x.cascade (st₁.given u (x.groupFor st₁.host.scene u)) = x.cascade st₁ := by
    rw [Subject.run_cascade, Subject.run_cascade, run_ensureParentGroup rfl hReady,
      run_ensureParentGroup rfl hReadyGiven, hNone, Stage.given_nil]
  rw [← hGroup, run_visit hWidget, run_visit hGiven]
  have hSubject : job.subject (.mk tag space attributes children text) parentElement w.root u = x :=
    rfl
  simp only [hSubject, hCascade]

theorem visitAll_given (job : Job) {es : List Element} (hSome : es ≠ []) (parentElement : Element)
    (hw : st.host.Willing) (hs : st.host.scene.Forest)
    (hLive : st.host.scene.contains u = true) :
    job.visitAll es parentElement u
        (st.given u (job.groupFor (some parentElement) st.host.scene u)) =
      job.visitAll es parentElement u st := by
  cases es with
  | nil => exact absurd rfl hSome
  | cons e es =>
    rw [run_visitAll_cons, run_visitAll_cons, visit_given job e _ hw hs hLive]

/-- After the visit of a child, no group is asked for any more. -/
theorem groupFor_visit (job : Job) (e : Element) (parentElement : Option Element)
    (hw : st.host.Willing) (hs : st.host.scene.Forest)
    (hLive : st.host.scene.contains u = true) :
    job.groupFor parentElement (job.visit e parentElement u st).2.host.scene u = [] := by
  let given := st.given u (job.groupFor parentElement st.host.scene u)
  have hForest : given.host.scene.Forest := hs.modify u fun n =>
    { n with components := n.components ++ job.groupFor parentElement st.host.scene u }
  have hThere : given.host.scene.contains u = true := (Scene.contains_modify ..).trans hLive
  have hNone : job.groupFor parentElement given.host.scene u = [] := groupAsked_given hLive _ _ _
  have hw' : given.host.Willing := hw
  have hComponents := components_visit job e parentElement hw' hForest hThere
  obtain ⟨node, created, st', hVisit, -, hVisited⟩ :=
    exists_visit job e parentElement hw' hForest hThere
  rw [hNone, List.append_nil] at hComponents
  rw [← visit_given job e parentElement hw hs hLive]
  rw [hVisit] at hComponents ⊢
  rw [← hNone]
  exact groupAsked_congr hComponents (hVisited.placed.grown.sizeOf hForest hThere) _ _ _

theorem groupFor_visitAll (job : Job) {es : List Element} (hSome : es ≠ [])
    (parentElement : Element) (hw : st.host.Willing) (hs : st.host.scene.Forest)
    (hLive : st.host.scene.contains u = true) :
    job.groupFor (some parentElement) (job.visitAll es parentElement u st).2.host.scene u = [] := by
  induction es generalizing st with
  | nil => exact absurd rfl hSome
  | cons e es ih =>
    have hFirst := groupFor_visit job e (some parentElement) hw hs hLive
    obtain ⟨node, created, st', hVisit, hOwner, hVisited⟩ :=
      exists_visit job e (some parentElement) hw hs hLive
    rw [run_visitAll_cons, hVisit]
    rw [hVisit] at hFirst
    by_cases hMore : es = []
    · rw [hMore]
      exact hFirst
    · exact ih hMore (hOwner.willing hw) hVisited.placed.grown.forest
        (hVisited.placed.grown.contains hLive)

end AnchoredUi.Conversion
