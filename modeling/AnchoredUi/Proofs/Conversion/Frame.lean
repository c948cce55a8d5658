import AnchoredUi.Proofs.Conversion.Twin
import AnchoredUi.Proofs.Styling.ParentGroup

/-!
# What a conversion leaves alone

A conversion adds one tree below its parent. Of all that was there before, only the list of
children of that parent changes, by one node at its end: a document has no parent element, so no
style asks for a layout group of its parent, and arranging reaches new nodes only.

* `components_visit`: what the conversion of a tree gives the node above it.
* `find?_convert`: what the conversion of a document leaves as it was.
-/

namespace AnchoredUi.Conversion

open Number Plane SceneGraph Sprite Markup Style Kind Widget Styling

/-- The components that a node gets for the sake of a child element, by the style of its own
element. -/
def Job.groupFor (job : Job) (parentElement : Option Element) (s : Scene) (u : NodeId) :
    List (Component NodeId) :=
  groupAsked (parentElement.map job.sheet.declared) job.canvas job.lettering.size s u

/-- Building changes no components of the nodes that were there. -/
theorem Job.Builds.components_eq {job : Job} {e : Element} {u id : NodeId} {st st₁ : Stage}
    {w : Built} (h : job.Builds e u st w st₁) (hLive : st.host.scene.contains id = true) :
    st₁.host.scene.components id = st.host.scene.components id := by
  obtain ⟨nodes, -, hFurnished, -⟩ := h.tree
  obtain ⟨e, he⟩ := Scene.find?_of_contains hLive
  have hNode := Scene.node?_of_find? he
  rw [Scene.components, hFurnished.kept id _ hNode, Scene.components, hNode]

/-- Building does not change what the node above is to get. -/
theorem Job.Builds.groupFor_eq {job : Job} {e : Element} {u : NodeId} {st st₁ : Stage} {w : Built}
    (h : job.Builds e u st w st₁) (hs : st.host.scene.Forest)
    (hLive : st.host.scene.contains u = true) (parentElement : Option Element) :
    job.groupFor parentElement st₁.host.scene u = job.groupFor parentElement st.host.scene u := by
  obtain ⟨nodes, hLaid, -⟩ := h.tree
  exact groupAsked_congr (h.components_eq hLive) (hLaid.grown.sizeOf hs hLive) _ _ _

/-- A tree gives the node above it the layout group that is asked for, and nothing else. -/
theorem components_visit (job : Job) (e : Element) (parentElement : Option Element) {u : NodeId}
    {st : Stage} (hw : st.host.Willing) (hs : st.host.scene.Forest)
    (hLive : st.host.scene.contains u = true) :
    (job.visit e parentElement u st).2.host.scene.components u =
      st.host.scene.components u ++ job.groupFor parentElement st.host.scene u := by
  obtain ⟨tag, space, attributes, children, text⟩ := e
  obtain ⟨w, st₁, st₂, hWidget, hStyled, hBuilds, hOwner, hDressed⟩ :=
    exists_dressed job (.mk tag space attributes children text) parentElement hw hs hLive
  obtain ⟨nodes, hLaid, -⟩ := hBuilds.tree
  obtain ⟨roots, below, st₃, hBelow, -, hPlaced, -, -⟩ :=
    exists_visitAll job children (.mk tag space attributes children text) (hOwner.willing hw)
      hDressed.grown.forest hDressed.content_live
  have hLive₁ := hLaid.grown.contains hLive
  -- styling gives it the group
  have hNe : u ≠ w.root := Scene.ne_of_contains hLive hDressed.root_fresh
  have hNotBelow : u ∉ st₁.host.scene.children w.root := fun hMem => by
    have hUp := (hLaid.grown.forest.mem_children_iff _ _).mp hMem
    exact Scene.ne_of_contains hLive
      (hLaid.grown.not_contains_child hs hDressed.root_fresh hUp) rfl
  have hCascade := Subject.components_cascade
    (x := job.subject (.mk tag space attributes children text) parentElement w.root u)
    (hBuilds.owner.willing hw) rfl hLive₁ hNe hNotBelow
  have hGroup : (job.subject (.mk tag space attributes children text) parentElement w.root
      u).groupFor st₁.host.scene u = job.groupFor parentElement st.host.scene u :=
    hBuilds.groupFor_eq hs hLive parentElement
  rw [hStyled, hBuilds.components_eq hLive, hGroup] at hCascade
  -- the trees of the children stand elsewhere
  have hNeContent : u ≠ w.content := Scene.ne_of_contains hLive hDressed.content_fresh
  rw [run_visit hWidget]
  simp only [hStyled, hBelow]
  rw [← hCascade, hPlaced.grown.components_eq (hDressed.grown.contains hLive) hNeContent]

theorem components_rebuild (node : NodeId) (h : Host) (id : NodeId) :
    (Host.rebuild node h).2.scene.components id = h.scene.components id := by
  unfold Host.rebuild
  cases h.arranges with
  | false => rfl
  | true => exact Flow.components_arrangeAll h.scene node id

/-- A conversion leaves every node that was there as it was, with its name, rectangle, components,
activity, parent and children; only the parent of the document gets one new child, its last. -/
theorem find?_convert (c : Converter) (root : Element) (sheet : Sheet) (canvas : Size Single)
    {s : Scene} {parent : NodeId} (hs : s.Reachable) (hLive : s.contains parent = true) :
    let run := Workshop.convert ⟨c, Host.ofScene s⟩ root sheet parent canvas
    let t := run.2.host.scene
    t.root = s.root ∧ ∃ node, run.1.root? = some node ∧ s.contains node = false ∧
      ∀ id e, s.nodes.find? id = some e → t.nodes.find? id =
        some (if id = parent then { e with children := e.children ++ [node] } else e) := by
  have hw := Host.willing_ofScene s
  let job : Job := ⟨c.settings.lettering, c.rules, sheet, canvas⟩
  have hw' : (Stage.mk (Host.ofScene s) c.finder []).host.Willing := hw
  obtain ⟨node, created, st, hVisit, -, hVisited⟩ :=
    exists_visit job root none hw' hs.forest hLive
  have hRun := run_convert (w := ⟨c, Host.ofScene s⟩) hVisit hVisited.last_eq
  -- arranging reaches new nodes only
  have hBehind := leftBehind_convert (w := ⟨c, Host.ofScene s⟩) hw hs.forest hLive root sheet canvas
  obtain ⟨news, hGrown⟩ := hBehind.grown
  simp only [hRun] at hGrown ⊢
  have hChildren : (Host.rebuild node st.host).2.scene.children parent =
      s.children parent ++ [node] := by
    rw [Scene.children_of_place? (place?_rebuild _ _ _)]
    exact hVisited.placed.grown.children_top hLive
  have hComponents : (Host.rebuild node st.host).2.scene.components parent =
      s.components parent := by
    have hVisitComponents := components_visit job root none hw' hs.forest hLive
    rw [hVisit] at hVisitComponents
    rw [components_rebuild, hVisitComponents]
    exact List.append_nil _
  have hFresh : s.contains node = false :=
    hVisited.placed.fresh node (List.mem_of_getLast? hVisited.last_eq)
  refine ⟨hGrown.root_eq, node, hVisited.last_eq, hFresh, fun id e he => ?_⟩
  by_cases hId : id = parent
  · subst hId
    obtain ⟨cs, hTop⟩ := hGrown.top e he
    have hOld := Scene.children_of_find? he
    have hNew := Scene.children_of_find? hTop
    rw [hChildren, hOld] at hNew
    have hNews : news = [node] := (List.append_cancel_left hNew).symm
    simp only [Scene.components, Scene.node?_of_find? he, Scene.node?_of_find? hTop,
      Option.map_some, Option.getD_some, Entry.extended, List.append_right_eq_self] at hComponents
    rw [if_pos rfl, hTop, hNews, hComponents]
    simp [Entry.extended]
  · rw [if_neg hId]
    exact hGrown.kept id e he hId

/-- A slider whose range is no number is converted below a canvas that has a child and lays it
out. -/
theorem find?_convert_slider :
    let canvas := Scene.empty.nodes.nextKey
    let s := Operation.runAll
      [.create "Panel" canvas, .attach canvas (.layoutGroup (.along .vertical))]
      (Scene.withCanvas 800 600)
    let c := Converter.ofFinder default (.ofSource Asset.Shelf.empty.source)
    let root := Element.mk "Slider" none (Catalog.ofList [⟨"low-value", "none"⟩]) [] none
    let run := Workshop.convert ⟨c, Host.ofScene s⟩ root Catalog.empty canvas ⟨800, 600⟩
    let t := run.2.host.scene
    s.Reachable ∧ s.contains canvas = true ∧
      t.root = s.root ∧ ∃ node, run.1.root? = some node ∧ s.contains node = false ∧
        ∀ id e, s.nodes.find? id = some e → t.nodes.find? id =
          some (if id = canvas then { e with children := e.children ++ [node] } else e) := by
  intro canvas s c root
  have hs : s.Reachable :=
    ⟨[.create "Panel" canvas, .attach canvas (.layoutGroup (.along .vertical))],
      Or.inr ⟨800, 600, rfl⟩⟩
  have hLive : s.contains canvas = true := rfl
  exact ⟨hs, hLive, find?_convert c root Catalog.empty ⟨800, 600⟩ hs hLive⟩

end AnchoredUi.Conversion
