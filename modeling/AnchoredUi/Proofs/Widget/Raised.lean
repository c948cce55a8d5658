import AnchoredUi.Proofs.SceneGraph.Staying
import AnchoredUi.Proofs.SceneGraph.Refusal
import AnchoredUi.Proofs.Widget.Build

/-!
# Widgets that were built

To carry out a blueprint is work that is made of calls. So it ends with the fault of a call, or with
a widget; and a widget that was built is the same on every host, whatever else the host refuses. Its
nodes are those that the steps of its blueprint made: each part is a new node that has the
rectangle, and carries the components, that the blueprint gives it.

* `Blueprint.work`, `run_build_eq`: carrying out a blueprint is work with the host.
* `Sized`: the rectangles after some of the steps.
* `Stands`, `exists_stands`, `exists_stands_of_build`: the nodes of a widget that was built.
-/

namespace AnchoredUi.Widget

open Number Plane SceneGraph Markup Kind Sprite Styling

/-! ## Calls -/

theorem ofCalls_addNode (name : String) (parent : NodeId) (rect : Rect Single) :
    Host.OfCalls (addNode name parent rect) :=
  .bind (.call (.create name parent)) fun id => .bind (.call (.setRect id rect)) fun _ => .pure id

theorem ofCalls_step (nodes : Part → NodeId) (step : Step) : Host.OfCalls (step.run nodes) := by
  cases step with
  | node part name under rect => exact .bind (ofCalls_addNode _ _ _) fun _ => .pure _
  | attach part c => exact .bind (.call (.attach _ _)) fun _ => .pure nodes
  | hide part => exact .bind (.call (.setActive _ _)) fun _ => .pure nodes

theorem ofCalls_steps (nodes : Part → NodeId) (steps : List Step) :
    Host.OfCalls (steps.foldlM Step.run nodes) := by
  induction steps generalizing nodes with
  | nil => exact .pure nodes
  | cons step steps ih =>
    rw [List.foldlM_cons]
    exact .bind (ofCalls_step nodes step) fun nodes' => ih nodes'

/-! ## The work of a blueprint -/

/-- What carrying out a blueprint asks of the host: the root, and then the steps. -/
def Blueprint.work (b : Blueprint) (answers : String → Option Sprite) (name : String)
    (parent : NodeId) : HostM (NodeId × (Part → NodeId)) := do
  let root ← addNode name parent rootRect
  let nodes ← runSteps root (b.stepsFor answers)
  pure (root, nodes)

/-- What comes of the work of a blueprint. -/
def Blueprint.outcome (b : Blueprint) (answers : String → Option Sprite) :
    Except SceneFault (NodeId × (Part → NodeId)) → Except BuildFault Built
  | .ok (root, nodes) => .ok ⟨root, nodes b.content, b.notesFor answers⟩
  | .error f => .error (.scene f)

theorem Blueprint.ofCalls_work (b : Blueprint) (answers : String → Option Sprite) (name : String)
    (parent : NodeId) : Host.OfCalls (b.work answers name parent) :=
  .bind (ofCalls_addNode _ _ _) fun root => .bind (ofCalls_steps _ _) fun nodes =>
    .pure (root, nodes)

/-- Carrying out a blueprint is work with the host, and a look for the picture in between. -/
theorem run_build_eq (b : Blueprint) (name : String) (parent : NodeId) (st : Stage) :
    ∃ st' : Stage, st'.host = (b.work st.finder.answer name parent st.host).2 ∧
      b.build name parent st =
        (b.outcome st.finder.answer (b.work st.finder.answer name parent st.host).1, st') ∧
      st'.warnings = st.warnings := by
  unfold Blueprint.build Blueprint.work
  rw [Host.run_bind]
  rcases hAdd : addNode name parent rootRect st.host with ⟨f | root, k⟩
  · rw [run_bind, run_onHost_error hAdd]
    exact ⟨_, rfl, rfl, rfl⟩
  · obtain ⟨mid, hFind, hHost, hWarnings, -⟩ := run_findPicture b.picture { st with host := k }
    rw [run_bind_ok (run_onHost hAdd), run_bind_ok hFind]
    dsimp only
    rw [Host.run_bind, run_bind]
    rcases hSteps : runSteps root (b.stepsFor st.finder.answer) k with ⟨f | nodes, l⟩ <;>
      have hRun : runSteps root (b.steps (b.picture.bind st.finder.answer)) mid.host = _ :=
        (congrArg _ hHost).trans hSteps
    · rw [run_onHost_error hRun]
      exact ⟨_, rfl, rfl, hWarnings⟩
    · rw [run_onHost hRun]
      exact ⟨_, rfl, rfl, hWarnings⟩

/-! ## Rectangles -/

variable {s t : Scene} {u : NodeId} {name : String} {nodes nodes' : Part → NodeId}
  {done : List Step}

/-- Each part has the rectangle with which it was made. -/
def Sized (nodes : Part → NodeId) (done : List Step) (t : Scene) : Prop :=
  ∀ part label under rect, Step.node part label under rect ∈ done →
    t.rect? (nodes part) = some rect

/-- A step that makes no node changes no rectangle. -/
theorem Sized.keep (h : Sized nodes done s) {step : Step} (hNone : step.made? = none)
    (hSame : ∀ id, t.rect? id = s.rect? id) : Sized nodes (done ++ [step]) t := by
  intro part label under rect hStep
  rw [hSame]
  rcases List.mem_append.mp hStep with hStep | hStep
  · exact h part label under rect hStep
  · rw [← List.mem_singleton.mp hStep] at hNone
    cases hNone

/-- One more step is carried out. -/
theorem sized_step {h : Host} (hw : h.Willing) {step : Step}
    (hLaid : Laid s u name nodes done h.scene) (hFits : step.Fits (.root :: madeBy done))
    (hDoes : Host.Does (step.run nodes) h nodes' t) (hSized : Sized nodes done h.scene) :
    Sized nodes' (done ++ [step]) t := by
  cases step with
  | node part label under rect =>
    have hForest := hLaid.grown.forest
    have hLive := hLaid.live under
    have hGrown := grown_withNode hForest hLive label rect
    obtain ⟨rfl, rfl⟩ := hDoes.unique ((does_addNode hw hLive hForest.sound label rect).map _)
    intro q l v r hStep
    rcases List.mem_append.mp hStep with hStep | hStep
    · have hMade := List.mem_cons_of_mem Part.root (mem_madeBy.mpr ⟨l, v, r, hStep⟩)
      have hOther : q ≠ part := fun hEq => hFits.1 (hEq ▸ hMade)
      simp only [if_neg hOther]
      rw [hGrown.rect? (hLaid.live q)]
      exact hSized q l v r hStep
    · obtain ⟨rfl, -, -, rfl⟩ := Step.node.inj (List.mem_singleton.mp hStep)
      have hNew : (h.scene.withChild (nodes under) (.fresh label)).contains
          h.scene.nodes.nextKey = true := by
        rw [Scene.contains_withChild hForest.sound hLive]
        simp
      obtain ⟨r', hr'⟩ := Scene.rect?_of_contains hNew
      simp only [if_true]
      rw [withNode, Scene.rect?_setRect, if_pos rfl, hr']
      rfl
  | attach part c =>
    obtain ⟨rfl, rfl⟩ := hDoes.unique ((Host.does_attach hw (hLaid.live part) (c.map nodes)).map _)
    exact hSized.keep rfl fun id => Scene.rect?_modifyComponents _ _ id _
  | hide part =>
    obtain ⟨rfl, rfl⟩ := hDoes.unique ((Host.does_setActive hw (hLaid.live part) false).map _)
    exact hSized.keep rfl fun id =>
      Scene.rect?_modify (f := fun n => { n with active := false }) (fun _ => rfl) _ _ id

/-! ## Widgets that stand -/

/-- The parts of a blueprint that was carried out below a parent in the scene `s` have nodes in the
scene `t`, which are in their places, and have their rectangles and their components. -/
structure Stands (b : Blueprint) (answers : String → Option Sprite) (name : String)
    (parent : NodeId) (s t : Scene) (nodes : Part → NodeId) : Prop where
  live : s.contains parent = true
  laid : Laid s parent name nodes (b.stepsFor answers) t
  furnished : Furnished s nodes (b.stepsFor answers) t
  sized : Sized nodes (b.stepsFor answers) t

theorem live_of_addNode {h k : Host} {parent id : NodeId} {rect : Rect Single}
    (hRun : addNode name parent rect h = (.ok id, k)) : h.scene.contains parent = true := by
  by_contra hDead
  obtain ⟨new, l, hCreate, -⟩ := Host.of_bind_ok hRun
  have hFails := (Host.fails_create (Bool.of_not_eq_true hDead) name).1
  rw [hCreate] at hFails
  cases hFails

/-- The widget of a blueprint that was carried out stands, whatever else the host would have
refused. -/
theorem exists_stands {b : Blueprint} (hBuild : ∀ sprite, Buildable [.root] (b.steps sprite))
    {parent : NodeId} {st st' : Stage} {w : Built} (hs : st.host.scene.Forest)
    (h : b.build name parent st = (.ok w, st')) :
    ∃ nodes, Stands b st.finder.answer name parent st.host.scene st'.host.scene nodes ∧
      w = ⟨nodes .root, nodes b.content, b.notesFor st.finder.answer⟩ := by
  obtain ⟨st₁, hHost, hRun, -⟩ := run_build_eq b name parent st
  obtain ⟨hOutcome, rfl⟩ := Prod.mk.inj (h.symm.trans hRun)
  rcases hWork : b.work st.finder.answer name parent st.host with ⟨f | ⟨root, nodes⟩, l⟩ <;>
    rw [hWork] at hOutcome hHost <;> cases hOutcome
  obtain ⟨_, k, hAdd, hRest⟩ := Host.of_bind_ok hWork
  obtain ⟨_, _, hSteps, hPure⟩ := Host.of_bind_ok hRest
  cases hPure
  -- both the root and the steps are as on a host that refuses nothing
  have hLive := live_of_addNode hAdd
  have hFreed := Host.willing_freed k
  obtain ⟨rfl, hScene⟩ := (ofCalls_addNode _ _ _).eq_of_does hAdd
    (does_addNode (Host.willing_freed _) hLive hs.sound name rootRect)
  have hRootLaid := laid_root hs hLive name rootRect
  have hRootFurnished := furnished_root hs hLive name rootRect
  have hRootSized : Sized (fun _ => st.host.scene.nodes.nextKey) [] k.freed.scene :=
    fun _ _ _ _ hStep => nomatch hStep
  rw [show withNode st.host.scene parent name rootRect = k.freed.scene from hScene]
    at hRootLaid hRootFurnished
  have hFits := hBuild (b.picture.bind st.finder.answer)
  obtain ⟨nodes', t, hDoes, hRoot, hLaid⟩ := laid_runSteps hFreed hRootLaid hFits
  have hFurnished := furnished_runSteps hFreed hRootLaid hRootFurnished hFits hDoes
  have hSized := kept_runSteps (P := Sized) (fun _ hw hLaid hFits hDoes hSized =>
    sized_step hw hLaid hFits hDoes hSized) hFreed hRootLaid hFits hDoes hRootSized
  obtain ⟨rfl, rfl⟩ := (ofCalls_steps _ _).eq_of_does hSteps hDoes
  rw [hHost]
  refine ⟨nodes', ⟨hLive, hLaid, hFurnished, hSized⟩, ?_⟩
  rw [hRoot]
  rfl

/-- So does the widget of an element. -/
theorem exists_stands_of_build {kind : WidgetKind} {l : Lettering} {e : Element} {parent : NodeId}
    {st st' : Stage} {w : Built} (hs : st.host.scene.Forest)
    (h : build kind l e parent st = (.ok w, st')) :
    ∃ b nodes, blueprint kind l e = .ok b ∧
      Stands b st.finder.answer (nodeName e) parent st.host.scene st'.host.scene nodes ∧
      w = ⟨nodes .root, nodes b.content, b.notesFor st.finder.answer⟩ := by
  cases hBlueprint : blueprint kind l e with
  | error f =>
    rw [build_of_blueprint_error hBlueprint] at h
    cases h
  | ok b =>
    rw [build_of_blueprint_ok hBlueprint] at h
    have hBuild := fun sprite => (buildable_blueprint hBlueprint sprite).1
    obtain ⟨nodes, hStands⟩ := exists_stands hBuild hs h
    exact ⟨b, nodes, rfl, hStands⟩

end AnchoredUi.Widget
