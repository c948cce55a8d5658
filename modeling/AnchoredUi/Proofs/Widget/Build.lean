import AnchoredUi.Conversion.Converter
import AnchoredUi.Proofs.SceneGraph.Staying
import AnchoredUi.Proofs.Styling.Stage
import AnchoredUi.Proofs.Widget.Furnish

/-!
# Widgets are built

The steps of every blueprint can be carried out. So on a host that refuses nothing each element
gets a widget below a node that is there: a tree of new nodes under the name of the element, with
the node for its children in it.

* `buildable_blueprint`: the steps of all blueprints.
* `exists_widgetOf`: the widget of an element, also where it is built as a container instead, with
  the components of its nodes and the warnings that it gives.
-/

namespace AnchoredUi.Widget

open Number Plane SceneGraph Markup Kind Sprite Styling

/-! ## Blueprints -/

/-- The part below which the children of an element come. -/
def contentPart (kind : WidgetKind) : Part := if kind = .scrollView then .content else .root

theorem buildable_captionSteps (l : Lettering) (e : Element) :
    Buildable [.root] (captionSteps l e) := by
  unfold captionSteps
  split
  · trivial
  · split
    · trivial
    · simp [Buildable, Step.Fits, Step.made?]

theorem buildable_textField (l : Lettering) (e : Element) (sprite : Option Sprite) :
    Buildable [.root] ((textField l e).steps sprite) := by
  by_cases hEmpty : (e.attr? "value").getD "" = "" <;>
    simp [textField, Blueprint.ofSteps, hEmpty, Buildable, Step.Fits, Step.made?]

/-- Each step of a blueprint finds its parts, and makes a new one. -/
theorem buildable_blueprint {kind : WidgetKind} {l : Lettering} {e : Element} {b : Blueprint}
    (h : blueprint kind l e = .ok b) (sprite : Option Sprite) :
    Buildable [.root] (b.steps sprite) ∧ b.content = contentPart kind := by
  cases kind with
  | button =>
    cases h
    have hCaption := buildable_captionSteps l e
    exact ⟨by simpa [button, Blueprint.ofSteps, Buildable, Step.Fits, Step.made?] using hCaption,
      rfl⟩
  | textField =>
    cases h
    exact ⟨buildable_textField l e sprite, rfl⟩
  | dropdown =>
    obtain ⟨i, -, rfl⟩ := exists_of_map_eq_ok h
    exact ⟨by simp [Blueprint.ofSteps, dropdownSteps, templateSteps, Buildable, Step.Fits,
      Step.made?], rfl⟩
  | slider =>
    obtain ⟨v, -, rfl⟩ := exists_of_map_eq_ok h
    exact ⟨by simp [Blueprint.ofSteps, sliderSteps, Buildable, Step.Fits, Step.made?], rfl⟩
  | toggle =>
    cases h
    exact ⟨by simp [toggle, Blueprint.ofSteps, Buildable, Step.Fits, Step.made?], rfl⟩
  | scrollView =>
    cases h
    exact ⟨by simp [scrollView, Buildable, Step.Fits, Step.made?], rfl⟩
  | label | image | genericField | container | unrecognized =>
    cases h
    exact ⟨by simp [label, image, genericField, container, unrecognized, panel, Blueprint.ofSteps,
      Buildable, Step.Fits], rfl⟩

theorem blueprint_container (l : Lettering) (e : Element) :
    blueprint .container l e = .ok container := rfl

/-! ## Building -/

/-- The steps of a blueprint, with the sprite of its picture. -/
def Blueprint.stepsFor (b : Blueprint) (answers : String → Option Sprite) : List Step :=
  b.steps (b.picture.bind answers)

/-- What is to be said about the picture of an address, if there is an address. -/
def addressNotes (answers : String → Option Sprite) : Option String → List WarningCause
  | some a => pictureNotes a (answers a)
  | none => []

/-- What is to be said about a widget. -/
def Blueprint.notesFor (b : Blueprint) (answers : String → Option Sprite) : List WarningCause :=
  b.notes ++ addressNotes answers b.picture

theorem build_of_blueprint_ok {kind : WidgetKind} {l : Lettering} {e : Element} {b : Blueprint}
    (h : blueprint kind l e = .ok b) (parent : NodeId) (st : Stage) :
    build kind l e parent st = b.build (nodeName e) parent st := by
  simp only [build, h]

theorem run_findPicture (address : Option String) (st : Stage) :
    ∃ st', findPicture address st =
        (.ok (address.bind st.finder.answer, addressNotes st.finder.answer address), st') ∧
      st'.host = st.host ∧ st'.warnings = st.warnings ∧
      ∀ a, st'.finder.answer a = st.finder.answer a := by
  cases address with
  | none => exact ⟨st, rfl, rfl, rfl, fun _ => rfl⟩
  | some a =>
    have hFind : findPicture (some a) st = (.ok (st.finder.answer a,
        pictureNotes a (st.finder.answer a)), { st with finder := (st.finder.find a).2 }) :=
      run_bind_ok (run_findSprite a st)
    refine ⟨{ st with finder := (st.finder.find a).2 }, ?_, rfl, rfl, st.finder.answer_find a⟩
    rw [Option.bind_some, addressNotes]
    exact hFind

/-- A new root is a tree without steps. -/
theorem laid_root {s : Scene} (hs : s.Forest) {parent : NodeId} (hLive : s.contains parent = true)
    (name : String) (rect : Rect Single) :
    Laid s parent name (fun _ => s.nodes.nextKey) [] (withNode s parent name rect) := by
  have hFresh : s.contains s.nodes.nextKey = false := by
    simp [Scene.contains, Arena.contains, hs.sound.find?_nextKey]
  have hNe : s.nodes.nextKey ≠ parent := (hs.sound.nextKey_ne hLive).symm
  refine ⟨grown_withNode hs hLive name rect, fun _ => hFresh, fun _ => ?_, ?_, ?_, ?_, ?_, ?_⟩
  · rw [contains_withNode hs.sound hLive]
    simp
  · exact name?_withNode_self hs.sound hLive name rect
  · rw [parent?_withNode hs.sound hLive, if_pos rfl]
  · intro p hp q hq _
    rw [List.mem_singleton.mp hp, List.mem_singleton.mp hq]
  · intro _ _ _ _ hStep
    cases hStep
  · intro p _
    rw [children_withNode hs.sound hLive, if_neg hNe]
    simp [Scene.children, hs.sound.find?_nextKey, madeUnder]

theorem furnished_root {s : Scene} (hs : s.Forest) {parent : NodeId}
    (hLive : s.contains parent = true) (name : String) (rect : Rect Single) :
    Furnished s (fun _ => s.nodes.nextKey) [] (withNode s parent name rect) := by
  refine ⟨fun id n hn => ?_, fun _ _ hStep => (nomatch hStep), fun p _ => ?_, fun _ p _ => ?_,
    fun id hId hNew => ?_⟩
  · rw [node?_withNode hs.sound hLive name rect (Scene.contains_of_node? hn), hn]
  · rw [components_withNode_self hs.sound hLive]
    exact .nil
  · rw [components_withNode_self hs.sound hLive]
    rfl
  · rw [contains_withNode hs.sound hLive, hNew, Bool.or_false, decide_eq_true_iff] at hId
    exact ⟨.root, List.mem_cons_self, hId.symm⟩

/-- What carrying out a blueprint below a parent gives on a host that refuses nothing. -/
structure Erected (b : Blueprint) (name : String) (parent : NodeId) (st : Stage) (w : Built)
    (st' : Stage) : Prop where
  owner : Host.SameOwner st.host st'.host
  answer_eq : ∀ a, st'.finder.answer a = st.finder.answer a
  warnings_eq : st'.warnings = st.warnings
  notes_eq : w.notes = b.notesFor st.finder.answer
  tree : ∃ nodes, Laid st.host.scene parent name nodes (b.stepsFor st.finder.answer)
      st'.host.scene ∧
    Furnished st.host.scene nodes (b.stepsFor st.finder.answer) st'.host.scene ∧
    w.root = nodes .root ∧ w.content = nodes b.content

/-- A blueprint is carried out by adding the root, and then its steps. -/
theorem run_build (b : Blueprint) (name : String) {parent : NodeId} {st : Stage}
    (hw : st.host.Willing) (hs : st.host.scene.Forest)
    (hLive : st.host.scene.contains parent = true) :
    ∃ st₁ : Stage, st₁.host.scene = withNode st.host.scene parent name rootRect ∧
      Host.SameOwner st.host st₁.host ∧ st₁.warnings = st.warnings ∧
      (∀ a, st₁.finder.answer a = st.finder.answer a) ∧
      ∀ nodes t, Host.Does ((b.stepsFor st.finder.answer).foldlM Step.run
          fun _ => st.host.scene.nodes.nextKey) st₁.host nodes t →
        ∃ l, b.build name parent st =
            (.ok ⟨st.host.scene.nodes.nextKey, nodes b.content, b.notesFor st.finder.answer⟩,
              { st₁ with host := l }) ∧
          l.scene = t ∧ Host.SameOwner st₁.host l := by
  obtain ⟨k, hAdd, hk, hOwner⟩ := does_addNode hw hLive hs.sound name rootRect
  obtain ⟨st₁, hFind, hHost, hWarnings, hAnswers⟩ :=
    run_findPicture b.picture { st with host := k }
  refine ⟨st₁, by rw [hHost, hk], by rwa [hHost], hWarnings, hAnswers, ?_⟩
  rintro nodes t ⟨l, hSteps, hl, hOwner'⟩
  refine ⟨l, ?_, hl, hOwner'⟩
  unfold Blueprint.build
  rw [run_bind_ok (run_onHost hAdd), run_bind_ok hFind]
  exact run_bind_ok (run_onHost hSteps)

theorem exists_build {b : Blueprint} (hBuild : ∀ sprite, Buildable [.root] (b.steps sprite))
    (name : String) {parent : NodeId} {st : Stage} (hw : st.host.Willing)
    (hs : st.host.scene.Forest) (hLive : st.host.scene.contains parent = true) :
    ∃ w st', b.build name parent st = (.ok w, st') ∧ Erected b name parent st w st' := by
  obtain ⟨st₁, hScene, hOwner, hWarnings, hAnswers, hRun⟩ := run_build b name hw hs hLive
  have hRootLaid := laid_root hs hLive name rootRect
  have hRootFurnished := furnished_root hs hLive name rootRect
  rw [← hScene] at hRootLaid hRootFurnished
  have hWilling := hOwner.willing hw
  have hFits := hBuild (b.picture.bind st.finder.answer)
  obtain ⟨nodes, t, hDoes, hRoot, hLaid⟩ := laid_runSteps hWilling hRootLaid hFits
  have hFurnished := furnished_runSteps hWilling hRootLaid hRootFurnished hFits hDoes
  obtain ⟨l, hBuilt, rfl, hOwner'⟩ := hRun nodes t hDoes
  exact ⟨_, _, hBuilt, hOwner.trans hOwner', hAnswers, hWarnings, rfl, nodes, hLaid, hFurnished,
    hRoot.symm, rfl⟩

/-- The node below which the children of an element come, as a widget has it that was built as a
given kind: its root, or for a scroll view the only node two levels below. -/
structure IsContent (t : Scene) (kind : WidgetKind) (root content : NodeId) : Prop where
  of_scrollView : kind = .scrollView →
    ∃ viewport, t.children root = [viewport] ∧ t.name? viewport = some "Viewport" ∧
      t.children viewport = [content] ∧ t.name? content = some "Content"
  of_other : kind ≠ .scrollView → content = root

theorem Laid.isContent {s t : Scene} {u : NodeId} {name : String} {nodes : Part → NodeId}
    {kind : WidgetKind} {l : Lettering} {e : Element} {b : Blueprint} {sprite : Option Sprite}
    (hBlueprint : blueprint kind l e = .ok b) (h : Laid s u name nodes (b.steps sprite) t) :
    IsContent t kind (nodes .root) (nodes b.content) := by
  have hContent := (buildable_blueprint hBlueprint sprite).2
  constructor
  · rintro rfl
    cases hBlueprint
    have hMade : madeBy (scrollView.steps sprite) = [.viewport, .content] := rfl
    have hUnderRoot : madeUnder .root (scrollView.steps sprite) = [.viewport] := rfl
    have hUnderViewport : madeUnder .viewport (scrollView.steps sprite) = [.content] := rfl
    have hRoot := h.below .root (by simp)
    have hViewport := h.below .viewport (by simp [hMade])
    rw [hUnderRoot] at hRoot
    rw [hUnderViewport] at hViewport
    refine ⟨nodes .viewport, hRoot, ?_, hViewport, ?_⟩
    · exact (h.named .viewport _ .root .stretched (by simp [scrollView])).2.2
    · exact (h.named .content _ .viewport contentRect (by simp [scrollView])).2.2
  · intro hKind
    rw [hContent, contentPart, if_neg hKind]

theorem IsContent.of_place {s t : Scene} {kind : WidgetKind} {root content : NodeId}
    (h : IsContent s kind root content) (hPlace : ∀ id, t.place? id = s.place? id) :
    IsContent t kind root content := by
  have hChildren := fun id => Scene.children_of_place? (hPlace id)
  have hName := fun id => Scene.name?_of_place? (hPlace id)
  refine ⟨fun hKind => ?_, h.of_other⟩
  obtain ⟨viewport, hView, hViewName, hInner, hInnerName⟩ := h.of_scrollView hKind
  exact ⟨viewport, by rw [hChildren, hView], by rw [hName, hViewName], by rw [hChildren, hInner],
    by rw [hName, hInnerName]⟩

/-- The node for the children is the root or below it. -/
theorem IsContent.below {t : Scene} {kind : WidgetKind} {root content : NodeId}
    (h : IsContent t kind root content) (ht : t.Forest) : t.Below root content := by
  by_cases hKind : kind = .scrollView
  · obtain ⟨viewport, hRoot, -, hViewport, -⟩ := h.of_scrollView hKind
    have hUp := (ht.mem_children_iff root viewport).mp (by simp [hRoot])
    have hUp' := (ht.mem_children_iff viewport content).mp (by simp [hViewport])
    exact ((Scene.Below.refl t root).child hUp).child hUp'
  · rw [h.of_other hKind]
    exact .refl t root

/-- The content of a widget is recognized after its children were converted, and later on. -/
theorem IsContent.later {s s₁ s₂ t : Scene} {u root content : NodeId} {kind : WidgetKind}
    {news roots : List NodeId} (hContent : IsContent s₁ kind root content) (hs : s.Forest)
    (hGrown : Scene.Grown u news s s₁) (hMore : Scene.Grown content roots s₁ s₂)
    (hRoot : s.contains root = false) (hRootLive : s₁.contains root = true)
    (hLater : Scene.Later s s₂ t) : IsContent t kind root content := by
  refine ⟨fun hKind => ?_, hContent.of_other⟩
  obtain ⟨viewport, hView, hViewName, hInner, hName⟩ := hContent.of_scrollView hKind
  have hViewMem : viewport ∈ s₁.children root := by simp [hView]
  have hInnerMem : content ∈ s₁.children viewport := by simp [hInner]
  have hForest := hGrown.forest
  have hViewNew := hGrown.not_contains_child hs hRoot
    ((hForest.mem_children_iff _ _).mp hViewMem)
  have hContentNew := hGrown.not_contains_child hs hViewNew
    ((hForest.mem_children_iff _ _).mp hInnerMem)
  -- neither the root nor the viewport is the content, so their places are as they were
  have hSame : ∀ id, s.contains id = false → s₁.contains id = true → id ≠ content →
      t.place? id = s₁.place? id := fun id hNew hLive hId =>
    (hLater id (hMore.contains hLive) hNew).trans (hMore.place? hLive hId)
  have hRootSame := hSame root hRoot hRootLive
    (hForest.ne_grandchild hViewMem hInnerMem).symm
  have hViewSame := hSame viewport hViewNew (hForest.contains_child hViewMem)
    (hForest.ne_child hInnerMem).symm
  have hLive := hForest.contains_child hInnerMem
  refine ⟨viewport, ?_, ?_, ?_, ?_⟩
  · rw [Scene.children_of_place? hRootSame, hView]
  · rw [Scene.name?_of_place? hViewSame, hViewName]
  · rw [Scene.children_of_place? hViewSame, hInner]
  · rw [Scene.name?_of_place? (hLater content (hMore.contains hLive) hContentNew),
      hMore.name? hLive, hName]

end AnchoredUi.Widget

namespace AnchoredUi.Conversion

open SceneGraph Markup Kind Widget Styling

/-- The kind as which an element is to be built. -/
def kindOf (rules : KindRules) (e : Element) : WidgetKind := (rules.resolve e.typeName).kind

theorem run_widgetOf_ok {job : Job} {e : Element} {parent : NodeId} {st st' : Stage} {w : Built}
    (h : Widget.build (kindOf job.rules e) job.lettering e parent st = (.ok w, st')) :
    job.widgetOf e parent st =
      (some w, (raise (w.notes.map fun n => ⟨none, n⟩) st').2) := by
  unfold kindOf at h
  simp only [Job.widgetOf, bind, StateT.bind, ExceptT.run, h]
  rfl

theorem run_widgetOf_error {job : Job} {e : Element} {parent : NodeId} {st st' st'' : Stage}
    {f : BuildFault} {w : Built}
    (h : Widget.build (kindOf job.rules e) job.lettering e parent st = (.error f, st'))
    (hContainer : Widget.build .container job.lettering e parent
      (raise [⟨some e.label, .notBuilt (kindOf job.rules e) f⟩] st').2 = (.ok w, st'')) :
    job.widgetOf e parent st =
      (some w, (raise (w.notes.map fun n => ⟨none, n⟩) st'').2) := by
  simp only [kindOf, raise] at h hContainer
  simp only [Job.widgetOf, bind, StateT.bind, ExceptT.run, h, raise, hContainer]
  rfl

/-- Only sliders and dropdowns can have attributes that make no sense. -/
theorem ne_scrollView_of_error {kind : WidgetKind} {l : Lettering} {e : Element} {f : BuildFault}
    (h : blueprint kind l e = .error f) : kind ≠ .scrollView := by
  rintro rfl
  cases h

/-- The blueprint that is carried out for an element: that of its kind, else a container. -/
def Job.plan (job : Job) (e : Element) : Blueprint :=
  match blueprint (kindOf job.rules e) job.lettering e with
  | .ok b => b
  | .error _ => container

/-- The warnings that building an element gives. -/
def Job.buildWarnings (job : Job) (answers : String → Option Sprite) (e : Element) :
    List Warning :=
  match blueprint (kindOf job.rules e) job.lettering e with
  | .ok b => (b.notesFor answers).map fun n => ⟨none, n⟩
  | .error f => [⟨some e.label, .notBuilt (kindOf job.rules e) f⟩]

/-- What building the widget of an element gives on a host that refuses nothing. -/
structure Job.Builds (job : Job) (e : Element) (parent : NodeId) (st : Stage) (w : Built)
    (st' : Stage) : Prop where
  owner : Host.SameOwner st.host st'.host
  answer_eq : ∀ a, st'.finder.answer a = st.finder.answer a
  warnings_eq : st'.warnings = st.warnings ++ job.buildWarnings st.finder.answer e
  tree : ∃ nodes, Laid st.host.scene parent (nodeName e) nodes
      ((job.plan e).stepsFor st.finder.answer) st'.host.scene ∧
    Furnished st.host.scene nodes ((job.plan e).stepsFor st.finder.answer) st'.host.scene ∧
    w.root = nodes .root ∧ ∃ p, w.content = nodes p
  isContent : IsContent st'.host.scene (kindOf job.rules e) w.root w.content

/-- On a host that refuses nothing every element gets a widget below a node that is there. -/
theorem exists_widgetOf (job : Job) (e : Element) {parent : NodeId} {st : Stage}
    (hw : st.host.Willing) (hs : st.host.scene.Forest)
    (hLive : st.host.scene.contains parent = true) :
    ∃ w st', job.widgetOf e parent st = (some w, st') ∧ job.Builds e parent st w st' := by
  cases hBlueprint : blueprint (kindOf job.rules e) job.lettering e with
  | ok b =>
    have hPlan : job.plan e = b := by simp only [Job.plan, hBlueprint]
    obtain ⟨w, st', hBuild, hErected⟩ :=
      exists_build (fun sprite => (buildable_blueprint hBlueprint sprite).1) (nodeName e) hw hs
        hLive
    obtain ⟨nodes, hLaid, hFurnished, hRoot, hContent⟩ := hErected.tree
    rw [← build_of_blueprint_ok hBlueprint] at hBuild
    refine ⟨w, _, run_widgetOf_ok hBuild, hErected.owner, hErected.answer_eq, ?_,
      ⟨nodes, ?_, ?_, hRoot, _, hContent⟩, ?_⟩
    · simp only [raise, hErected.warnings_eq, hErected.notes_eq, Job.buildWarnings, hBlueprint]
    · rw [hPlan]
      exact hLaid
    · rw [hPlan]
      exact hFurnished
    · rw [hRoot, hContent]
      exact hLaid.isContent hBlueprint
  | error f =>
    -- the fault leaves the stage alone, and the element becomes a container
    have hPlan : job.plan e = container := by simp only [Job.plan, hBlueprint]
    have hFault := build_of_blueprint_error hBlueprint parent st
    have hContainer := blueprint_container job.lettering e
    have hw' : (raise [⟨some e.label, .notBuilt (kindOf job.rules e) f⟩] st).2.host.Willing := hw
    obtain ⟨w, st', hBuild, hErected⟩ :=
      exists_build (fun sprite => (buildable_blueprint hContainer sprite).1) (nodeName e) hw' hs
        hLive
    obtain ⟨nodes, hLaid, hFurnished, hRoot, hContent⟩ := hErected.tree
    rw [← build_of_blueprint_ok hContainer] at hBuild
    refine ⟨w, _, run_widgetOf_error hFault hBuild, hErected.owner, hErected.answer_eq, ?_,
      ⟨nodes, ?_, ?_, hRoot, _, hContent⟩, ?_⟩
    · have hNone : container.notesFor st.finder.answer = [] := rfl
      have hNotes : w.notes = container.notesFor st.finder.answer := hErected.notes_eq
      simp only [raise, hErected.warnings_eq, hNotes, hNone, Job.buildWarnings, hBlueprint,
        List.map_nil, List.append_nil]
    · rw [hPlan]
      exact hLaid
    · rw [hPlan]
      exact hFurnished
    · refine ⟨fun hKind => absurd hKind (ne_scrollView_of_error hBlueprint), fun _ => ?_⟩
      rw [hRoot, hContent]
      rfl

end AnchoredUi.Conversion
