import AnchoredUi.Asset.Shelf
import AnchoredUi.Proofs.Flow.Moved
import AnchoredUi.Proofs.SceneGraph.Operation
import AnchoredUi.Proofs.Styling.ParentGroup
import AnchoredUi.Proofs.Widget.Build

/-!
# Converted documents stand in the scene as they are written

A conversion turns each element into one node, and lists these nodes with children before their
parents. A node has the name of its element and stands below the content of the widget of the
parent element, after the nodes of the elements that come before it.

What is said of the tree of an element holds until the end of the conversion, since later work
leaves its nodes in their places. So the induction over the document speaks of all later scenes at
once.

* `Stands`: how the tree of an element stands in a scene.
* `exists_visit`, `exists_visitAll`: what the conversion of trees gives.
* `stands_convert`: what the conversion of a document gives.
-/

namespace AnchoredUi.Conversion

open Number Plane SceneGraph Sprite Markup Style Kind Widget Styling

mutual

/-- The tree of an element stands below the node `under`: its root has the node `node`, and
`created` lists the nodes of its elements, children before their parents. -/
inductive Stands (t : Scene) (rules : KindRules) :
    Element → (under node : NodeId) → (created : List NodeId) → Prop
  | mk {tag : String} {space : Option String} {attributes : Attributes} {children : List Element}
      {text : Option String} {under node content : NodeId} {helpers roots below : List NodeId}
      (hName : t.name? node = some (nodeName (.mk tag space attributes children text)))
      (hUnder : t.parent? node = some under)
      (hContent : IsContent t (kindOf rules (.mk tag space attributes children text)) node content)
      (hChildren : t.children content = helpers ++ roots)
      (hBelow : StandAll t rules children content roots below) :
      Stands t rules (.mk tag space attributes children text) under node (below ++ [node])

/-- The trees of elements stand below the node `under`, and `roots` are the nodes of their roots
in order. -/
inductive StandAll (t : Scene) (rules : KindRules) :
    List Element → (under : NodeId) → (roots created : List NodeId) → Prop
  | nil {under : NodeId} : StandAll t rules [] under [] []
  | cons {e : Element} {es : List Element} {under node : NodeId} {roots first others : List NodeId}
      (hFirst : Stands t rules e under node first)
      (hOthers : StandAll t rules es under roots others) :
      StandAll t rules (e :: es) under (node :: roots) (first ++ others)

end

theorem StandAll.length_eq {t : Scene} {rules : KindRules} {es : List Element} {under : NodeId}
    {roots created : List NodeId} (h : StandAll t rules es under roots created) :
    roots.length = es.length := by
  induction es generalizing roots created with
  | nil =>
    cases h
    rfl
  | cons e es ih =>
    cases h with
    | cons _ hOthers => rw [List.length_cons, List.length_cons, ih hOthers]

/-! ## Runs of visits -/

theorem run_visit {job : Job} {tag : String} {space : Option String} {attributes : Attributes}
    {children : List Element} {text : Option String} {parent : NodeId} {st st' : Stage} {w : Built}
    (h : job.widgetOf (.mk tag space attributes children text) parent st = (some w, st'))
    (parentElement : Option Element) :
    job.visit (.mk tag space attributes children text) parentElement parent st =
      let e := Element.mk tag space attributes children text
      let below := job.visitAll children e w.content
        ((job.subject e parentElement w.root parent).cascade st').2
      (below.1 ++ [w.root], below.2) := by
  simp only [Job.visit, bind, StateT.bind, h]
  rfl

theorem run_visitAll_cons (job : Job) (e : Element) (es : List Element) (parentElement : Element)
    (parent : NodeId) (st : Stage) :
    job.visitAll (e :: es) parentElement parent st =
      let first := job.visit e (some parentElement) parent st
      let others := job.visitAll es parentElement parent first.2
      (first.1 ++ others.1, others.2) := by
  simp only [Job.visitAll, bind, StateT.bind]
  rfl

/-! ## Visits -/

/-- From `s` to `s'`, trees with the given roots were added below `u`, and the nodes of their
elements are `created`. -/
structure Placed (s : Scene) (u : NodeId) (roots created : List NodeId) (s' : Scene) : Prop where
  grown : Scene.Grown u roots s s'
  nodup : created.Nodup
  live : ∀ id ∈ created, s'.contains id = true
  fresh : ∀ id ∈ created, s.contains id = false

theorem Placed.append {s s' s'' : Scene} {u : NodeId} {roots others created more : List NodeId}
    (h : Placed s u roots created s') (hMore : Placed s' u others more s'') :
    Placed s u (roots ++ others) (created ++ more) s'' := by
  refine ⟨h.grown.trans hMore.grown, ?_, ?_, ?_⟩
  · exact List.nodup_append.mpr ⟨h.nodup, hMore.nodup, fun a ha b hb =>
      Scene.ne_of_contains (h.live a ha) (hMore.fresh b hb)⟩
  · intro id hId
    rcases List.mem_append.mp hId with hId | hId
    · exact hMore.grown.contains (h.live id hId)
    · exact hMore.live id hId
  · intro id hId
    rcases List.mem_append.mp hId with hId | hId
    · exact h.fresh id hId
    · exact h.grown.not_contains (hMore.fresh id hId)

/-- What a visit of a tree gives on a host that refuses nothing. -/
structure Visited (job : Job) (e : Element) (s : Scene) (u node : NodeId) (created : List NodeId)
    (s' : Scene) : Prop where
  placed : Placed s u [node] created s'
  length_eq : created.length = e.elementCount
  last_eq : created.getLast? = some node
  stands : ∀ t, Scene.Later s s' t → Stands t job.rules e u node created

/-- A widget for an element was built below `u` and styled. -/
structure Dressed (job : Job) (e : Element) (s : Scene) (u : NodeId) (w : Built) (t : Scene) :
    Prop where
  grown : Scene.Grown u [w.root] s t
  root_fresh : s.contains w.root = false
  root_live : t.contains w.root = true
  content_fresh : s.contains w.content = false
  content_live : t.contains w.content = true
  name_eq : t.name? w.root = some (nodeName e)
  parent_eq : t.parent? w.root = some u
  isContent : IsContent t (kindOf job.rules e) w.root w.content

theorem exists_dressed (job : Job) (e : Element) (parentElement : Option Element) {u : NodeId}
    {st : Stage} (hw : st.host.Willing) (hs : st.host.scene.Forest)
    (hLive : st.host.scene.contains u = true) :
    ∃ w st₁ st₂, job.widgetOf e u st = (some w, st₁) ∧
      ((job.subject e parentElement w.root u).cascade st₁).2 = st₂ ∧ job.Builds e u st w st₁ ∧
      Host.SameOwner st.host st₂.host ∧ Dressed job e st.host.scene u w st₂.host.scene := by
  obtain ⟨w, st₁, hWidget, hBuilds⟩ := exists_widgetOf job e hw hs hLive
  obtain ⟨nodes, hLaid, -, hRoot, part, hPart⟩ := hBuilds.tree
  let x := job.subject e parentElement w.root u
  have hPlace := x.place?_cascade st₁
  have hContains := fun id => Scene.contains_of_place? (hPlace id)
  have hFresh : st.host.scene.contains w.root = false := by
    rw [hRoot]
    exact hLaid.fresh .root
  have hGrown : Scene.Grown u [w.root] st.host.scene st₁.host.scene := by
    rw [hRoot]
    exact hLaid.grown
  refine ⟨w, st₁, _, hWidget, rfl, hBuilds, hBuilds.owner.trans (x.keeps_cascade st₁).owner,
    Subject.grown_cascade hGrown hs hFresh rfl, hFresh, ?_, ?_, ?_, ?_, ?_, ?_⟩
  · rw [hContains, hRoot]
    exact hLaid.live .root
  · rw [hPart]
    exact hLaid.fresh part
  · rw [hContains, hPart]
    exact hLaid.live part
  · rw [Scene.name?_of_place? (hPlace _), hRoot]
    exact hLaid.root_name
  · rw [Scene.parent?_of_place? (hPlace _), hRoot]
    exact hLaid.root_parent
  · exact hBuilds.isContent.of_place hPlace

mutual

theorem exists_visit (job : Job) (e : Element) (parentElement : Option Element) {u : NodeId}
    {st : Stage} (hw : st.host.Willing) (hs : st.host.scene.Forest)
    (hLive : st.host.scene.contains u = true) :
    ∃ node created st', job.visit e parentElement u st = (created, st') ∧
      Host.SameOwner st.host st'.host ∧
      Visited job e st.host.scene u node created st'.host.scene := by
  obtain ⟨tag, space, attributes, children, text⟩ := e
  obtain ⟨w, st₁, st₂, hWidget, hStyled, -, hOwner, hDressed⟩ :=
    exists_dressed job (.mk tag space attributes children text) parentElement hw hs hLive
  obtain ⟨roots, below, st₃, hBelow, hOwner₃, hPlaced, hLength, hStands⟩ :=
    exists_visitAll job children (.mk tag space attributes children text) (hOwner.willing hw)
      hDressed.grown.forest hDressed.content_live
  have hInside := hDressed.grown.inside hDressed.content_fresh hPlaced.grown
  have hRootLive := hPlaced.grown.contains hDressed.root_live
  have hContentLive := hPlaced.grown.contains hDressed.content_live
  refine ⟨w.root, below ++ [w.root], st₃, ?_, hOwner.trans hOwner₃, ⟨hInside, ?_, ?_, ?_⟩, ?_,
    List.getLast?_concat, fun t hLater => ?_⟩
  · rw [run_visit hWidget]
    simp only [hStyled, hBelow]
  · -- the root was there before the nodes of the children
    refine List.nodup_append.mpr ⟨hPlaced.nodup, List.nodup_singleton _, fun a ha b hb => ?_⟩
    rw [List.mem_singleton.mp hb]
    exact (Scene.ne_of_contains hDressed.root_live (hPlaced.fresh a ha)).symm
  · intro id hId
    rcases List.mem_append.mp hId with hId | hId
    · exact hPlaced.live id hId
    · rw [List.mem_singleton.mp hId]
      exact hRootLive
  · intro id hId
    rcases List.mem_append.mp hId with hId | hId
    · exact hDressed.grown.not_contains (hPlaced.fresh id hId)
    · rw [List.mem_singleton.mp hId]
      exact hDressed.root_fresh
  · simp only [List.length_append, hLength, List.length_singleton, Element.elementCount]
    omega
  · have hRootPlace := hLater w.root hRootLive hDressed.root_fresh
    have hContentPlace := hLater w.content hContentLive hDressed.content_fresh
    have hChildren : t.children w.content = st₂.host.scene.children w.content ++ roots := by
      rw [Scene.children_of_place? hContentPlace, hPlaced.grown.children_top hDressed.content_live]
    refine .mk ?_ ?_ ?_ hChildren (hStands t (hLater.second hDressed.grown))
    · rw [Scene.name?_of_place? hRootPlace, hPlaced.grown.name? hDressed.root_live,
        hDressed.name_eq]
    · rw [Scene.parent?_of_place? hRootPlace, hPlaced.grown.parent? hDressed.root_live,
        hDressed.parent_eq]
    · exact hDressed.isContent.later hs hDressed.grown hPlaced.grown hDressed.root_fresh
        hDressed.root_live hLater

theorem exists_visitAll (job : Job) (es : List Element) (parentElement : Element) {u : NodeId}
    {st : Stage} (hw : st.host.Willing) (hs : st.host.scene.Forest)
    (hLive : st.host.scene.contains u = true) :
    ∃ roots created st', job.visitAll es parentElement u st = (created, st') ∧
      Host.SameOwner st.host st'.host ∧
      Placed st.host.scene u roots created st'.host.scene ∧
      created.length = Element.countOf es ∧
      ∀ t, Scene.Later st.host.scene st'.host.scene t →
        StandAll t job.rules es u roots created := by
  cases es with
  | nil =>
    refine ⟨[], [], st, rfl, .refl _, ⟨.refl u hs, List.nodup_nil, ?_, ?_⟩, rfl, fun _ _ => .nil⟩
    · simp
    · simp
  | cons e es =>
    obtain ⟨node, first, st₁, hFirst, hOwner, hVisited⟩ :=
      exists_visit job e (some parentElement) hw hs hLive
    have hLive₁ := hVisited.placed.grown.contains hLive
    obtain ⟨roots, others, st₂, hOthers, hOwner₂, hPlaced, hLength, hStands⟩ :=
      exists_visitAll job es parentElement (hOwner.willing hw) hVisited.placed.grown.forest hLive₁
    refine ⟨node :: roots, first ++ others, st₂, ?_, hOwner.trans hOwner₂,
      hVisited.placed.append hPlaced, ?_, fun t hLater => ?_⟩
    · rw [run_visitAll_cons, hFirst]
      simp only [hOthers]
    · rw [List.length_append, hVisited.length_eq, hLength, Element.countOf]
    · exact .cons (hVisited.stands t (hLater.first hLive hPlaced.grown))
        (hStands t (hLater.second hVisited.placed.grown))

end

/-! ## Documents -/

theorem place?_rebuild (node : NodeId) (h : Host) (id : NodeId) :
    (Host.rebuild node h).2.scene.place? id = h.scene.place? id := by
  unfold Host.rebuild
  cases h.arranges with
  | false => rfl
  | true => exact Flow.place?_arrangeAll h.scene node id

theorem sameOwner_rebuild (id : NodeId) (h : Host) : Host.SameOwner h (Host.rebuild id h).2 := by
  simp only [Host.rebuild]
  split <;> exact ⟨rfl, rfl⟩

theorem run_convert {w : Workshop} {root : Element} {sheet : Sheet} {parent : NodeId}
    {canvas : Size Single} {created : List NodeId} {st : Stage} {node : NodeId}
    (hVisit : Job.visit ⟨w.converter.settings.lettering, w.converter.rules, sheet, canvas⟩ root none
      parent ⟨w.host, w.converter.finder, []⟩ = (created, st))
    (hLast : created.getLast? = some node) :
    w.convert root sheet parent canvas = (⟨created.length, created, st.warnings⟩,
      ⟨{ w.converter with finder := st.finder }, (Host.rebuild node st.host).2⟩) := by
  simp only [Workshop.convert, hVisit, hLast]

/-- A conversion is a visit of the document, after which its groups are arranged. -/
theorem exists_convert (w : Workshop) (root : Element) (sheet : Sheet) {parent : NodeId}
    (canvas : Size Single) (hw : w.host.Willing) (hs : w.host.scene.Forest)
    (hLive : w.host.scene.contains parent = true) :
    ∃ node created, ∃ st : Stage, Host.SameOwner w.host st.host ∧
      Visited ⟨w.converter.settings.lettering, w.converter.rules, sheet, canvas⟩ root w.host.scene
        parent node created st.host.scene ∧
      w.convert root sheet parent canvas = (⟨created.length, created, st.warnings⟩,
        ⟨{ w.converter with finder := st.finder }, (Host.rebuild node st.host).2⟩) := by
  have hw' : (Stage.mk w.host w.converter.finder []).host.Willing := hw
  obtain ⟨node, created, st, hVisit, hOwner, hVisited⟩ := exists_visit
    ⟨w.converter.settings.lettering, w.converter.rules, sheet, canvas⟩ root none hw' hs hLive
  exact ⟨node, created, st, hOwner, hVisited, run_convert hVisit hVisited.last_eq⟩

/-- Each element of a document is converted to one node, and the nodes stand below a parent as the
elements stand in the document. -/
theorem stands_convert (c : Converter) (root : Element) (sheet : Sheet) (canvas : Size Single)
    {s : Scene} {parent : NodeId} (hs : s.Reachable) (hLive : s.contains parent = true) :
    let run := Workshop.convert ⟨c, Host.ofScene s⟩ root sheet parent canvas
    let t := run.2.host.scene
    run.1.count = root.elementCount ∧ run.1.created.length = root.elementCount ∧
      run.1.created.Nodup ∧ (∀ id ∈ run.1.created, t.contains id = true) ∧
      ∃ node, run.1.root? = some node ∧ t.children parent = s.children parent ++ [node] ∧
        Stands t c.rules root parent node run.1.created := by
  obtain ⟨node, created, st, -, hVisited, hRun⟩ :=
    exists_convert ⟨c, Host.ofScene s⟩ root sheet canvas (Host.willing_ofScene s) hs.forest hLive
  have hPlace := place?_rebuild node st.host
  have hLength := hVisited.length_eq
  simp only [hRun]
  refine ⟨hLength, hLength, hVisited.placed.nodup, fun id hId => ?_, node, hVisited.last_eq, ?_, ?_⟩
  · rw [Scene.contains_eq_place?, hPlace, ← Scene.contains_eq_place?]
    exact hVisited.placed.live id hId
  · rw [Scene.children_eq_place?, hPlace, ← Scene.children_eq_place?]
    exact hVisited.placed.grown.children_top hLive
  · exact hVisited.stands _ fun id _ _ => hPlace id

/-- A scroll view with a label is converted below a canvas. -/
theorem stands_convert_scrollView :
    let s := Scene.withCanvas 800 600
    let parent := Scene.empty.nodes.nextKey
    let c := Converter.ofFinder default (.ofSource Asset.Shelf.empty.source)
    let root := Element.mk "ScrollView" none Catalog.empty [.bare "Label"] none
    let run := Workshop.convert ⟨c, Host.ofScene s⟩ root Catalog.empty parent ⟨800, 600⟩
    s.Reachable ∧ s.contains parent = true ∧ run.1.count = 2 ∧
      ∃ node, run.1.root? = some node ∧
        Stands run.2.host.scene c.rules root parent node run.1.created := by
  have hs : (Scene.withCanvas 800 600).Reachable := ⟨[], Or.inr ⟨800, 600, rfl⟩⟩
  have hLive : (Scene.withCanvas 800 600).contains Scene.empty.nodes.nextKey = true := rfl
  have hStands := stands_convert (.ofFinder default (.ofSource Asset.Shelf.empty.source))
    (.mk "ScrollView" none Catalog.empty [.bare "Label"] none) Catalog.empty ⟨800, 600⟩ hs hLive
  obtain ⟨node, hRoot, -, hNode⟩ := hStands.2.2.2.2
  exact ⟨hs, hLive, hStands.1, node, hRoot, hNode⟩

end AnchoredUi.Conversion
