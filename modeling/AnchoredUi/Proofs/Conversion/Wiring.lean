import AnchoredUi.Proofs.Conversion.Frame
import AnchoredUi.Proofs.Conversion.Remnant
import AnchoredUi.Proofs.Widget.Wiring

/-!
# References stay inside of widgets

After a conversion each reference of a new node leads to the node itself or to one below it, in the
widget of the same element, and to what it is for. A new widget is wired in this way. Later work
styles nodes, adds others and arranges them; it takes no node away and makes no reference between
nodes that are there, so what is said of a widget is carried from one scene to the next.

To say which nodes make up a widget, the conversion is followed by a record of its buildings.

* `Job.pieces`: the buildings of widgets in the conversion of a tree.
* `Piece.Wired`: how the references of a widget lead in a scene.
* `assembled_visit`, `assembled_visitAll`: what the conversion of trees gives.
* `wired_convert`: what the conversion of a document gives.
-/

namespace AnchoredUi.Conversion

open Number Plane SceneGraph Sprite Markup Style Kind Widget Styling

/-! ## Buildings -/

/-- The building of the widget of an element below a node. -/
structure Piece where
  element : Element
  parent : NodeId
  widget : Built
  before : Stage
  after : Stage

/-- The nodes of the widget: those that are new after it was built. -/
def Piece.Makes (p : Piece) : NodeId → Prop := Scene.New p.before.host.scene p.after.host.scene

mutual

/-- The buildings in the conversion of an element with everything below it, children before their
parents. -/
def Job.pieces (job : Job) (e : Element) (parentElement : Option Element) (parent : NodeId)
    (st : Stage) : List Piece :=
  match e with
  | .mk tag space attributes children text =>
    let e := Element.mk tag space attributes children text
    match job.widgetOf e parent st with
    | (none, _) => []
    | (some w, st₁) =>
      let st₂ := ((job.subject e parentElement w.root parent).cascade st₁).2
      job.piecesAll children e w.content st₂ ++ [⟨e, parent, w, st, st₁⟩]

/-- The buildings in the conversion of the children of an element. -/
def Job.piecesAll (job : Job) (children : List Element) (parentElement : Element)
    (parent : NodeId) (st : Stage) : List Piece :=
  match children with
  | [] => []
  | e :: es =>
    let st₁ := (job.visit e (some parentElement) parent st).2
    job.pieces e (some parentElement) parent st ++ job.piecesAll es parentElement parent st₁

end

theorem pieces_of_run {job : Job} {tag : String} {space : Option String} {attributes : Attributes}
    {children : List Element} {text : Option String} {parent : NodeId} {st st₁ : Stage} {w : Built}
    (h : job.widgetOf (.mk tag space attributes children text) parent st = (some w, st₁))
    (parentElement : Option Element) :
    job.pieces (.mk tag space attributes children text) parentElement parent st =
      let e := Element.mk tag space attributes children text
      let st₂ := ((job.subject e parentElement w.root parent).cascade st₁).2
      job.piecesAll children e w.content st₂ ++ [⟨e, parent, w, st, st₁⟩] := by
  simp only [Job.pieces, h]

theorem pieces_of_skipped {job : Job} {e : Element} {parent : NodeId} {st st₁ : Stage}
    (h : job.widgetOf e parent st = (none, st₁)) (parentElement : Option Element) :
    job.pieces e parentElement parent st = [] := by
  cases e
  simp only [Job.pieces, h]

mutual

/-- The nodes that a conversion lists are the roots of what it builds. -/
theorem roots_pieces (job : Job) (e : Element) (parentElement : Option Element) (parent : NodeId)
    (st : Stage) : (job.pieces e parentElement parent st).map (fun p => p.widget.root) =
      (job.visit e parentElement parent st).1 := by
  obtain ⟨tag, space, attributes, children, text⟩ := e
  rcases hWidget : job.widgetOf (.mk tag space attributes children text) parent st with
    ⟨_ | w, st₁⟩
  · rw [pieces_of_skipped hWidget, visit_skipped hWidget]
    rfl
  · rw [pieces_of_run hWidget, run_visit hWidget]
    simp only [List.map_append, List.map_singleton, roots_piecesAll job children]

theorem roots_piecesAll (job : Job) (es : List Element) (parentElement : Element)
    (parent : NodeId) (st : Stage) :
    (job.piecesAll es parentElement parent st).map (fun p => p.widget.root) =
      (job.visitAll es parentElement parent st).1 := by
  cases es with
  | nil => rfl
  | cons e es =>
    rw [Job.piecesAll, run_visitAll_cons]
    simp only [List.map_append, roots_pieces job e, roots_piecesAll job es]

end

mutual

/-- What is recorded as a building is one. -/
theorem built_of_mem_pieces {job : Job} {e : Element} {parentElement : Option Element}
    {parent : NodeId} {st : Stage} {p : Piece} (h : p ∈ job.pieces e parentElement parent st) :
    job.widgetOf p.element p.parent p.before = (some p.widget, p.after) := by
  obtain ⟨tag, space, attributes, children, text⟩ := e
  rcases hWidget : job.widgetOf (.mk tag space attributes children text) parent st with
    ⟨_ | w, st₁⟩
  · rw [pieces_of_skipped hWidget] at h
    cases h
  · rw [pieces_of_run hWidget] at h
    rcases List.mem_append.mp h with h | h
    · exact built_of_mem_piecesAll h
    · rw [List.mem_singleton.mp h]
      exact hWidget

theorem built_of_mem_piecesAll {job : Job} {es : List Element} {parentElement : Element}
    {parent : NodeId} {st : Stage} {p : Piece} (h : p ∈ job.piecesAll es parentElement parent st) :
    job.widgetOf p.element p.parent p.before = (some p.widget, p.after) := by
  cases es with
  | nil => cases h
  | cons e es =>
    rw [Job.piecesAll] at h
    rcases List.mem_append.mp h with h | h
    · exact built_of_mem_pieces h
    · exact built_of_mem_piecesAll h

end

/-! ## Wired widgets -/

/-- The nodes of a widget refer to nodes of the widget only, and its content is one of them, at its
root or below it. -/
structure Piece.Wired (p : Piece) (t : Scene) : Prop where
  live : ∀ id, p.Makes id → t.contains id = true
  leads : ∀ id, p.Makes id → ∀ r ∈ t.references id, t.Leads p.Makes id r
  content_below : p.Makes p.widget.content ∧ t.Below p.widget.root p.widget.content

theorem Piece.Wired.carries {p : Piece} {s t : Scene} (h : p.Wired s)
    (hCarries : Scene.Carries s t) : p.Wired t := by
  obtain ⟨hContent, hBelow⟩ := h.content_below
  refine ⟨fun id hId => ?_, fun id hId r hr => ?_, hContent, hBelow.stays hCarries.stays⟩
  · exact hCarries.stays.contains id (h.live id hId)
  · rw [hCarries.references_eq id (h.live id hId)] at hr
    exact (h.leads id hId r hr).carries hCarries

/-- Building leaves all nodes with their references. -/
theorem Job.Builds.carries {job : Job} {e : Element} {u : NodeId} {st st₁ : Stage} {w : Built}
    (h : job.Builds e u st w st₁) : Scene.Carries st.host.scene st₁.host.scene := by
  obtain ⟨nodes, hLaid, -⟩ := h.tree
  exact (Scene.Stays.of_grown hLaid.grown).carries fun _ hId => h.components_eq hId

theorem Job.Builds.wired {job : Job} {e : Element} {u : NodeId} {st st₁ : Stage} {w : Built}
    (h : job.Builds e u st w st₁) : Piece.Wired ⟨e, u, w, st, st₁⟩ st₁.host.scene :=
  ⟨fun _ hId => hId.live, fun _ hId _ hr => h.leads hId hr, h.content_below⟩

/-! ## Visits -/

/-- From one stage to another one, the widgets of some elements were built, nothing else was made,
and all these widgets are wired. -/
structure Assembled (es : List Element) (pieces : List Piece) (st st' : Stage) : Prop where
  elements : (pieces.map Piece.element).Perm es
  carries : Scene.Carries st.host.scene st'.host.scene
  made : ∀ id, Scene.New st.host.scene st'.host.scene id → ∃ p ∈ pieces, p.Makes id
  wired : ∀ p ∈ pieces, p.Wired st'.host.scene

theorem Assembled.append {es fs : List Element} {pieces more : List Piece} {st st' st'' : Stage}
    (h : Assembled es pieces st st') (hMore : Assembled fs more st' st'') :
    Assembled (es ++ fs) (pieces ++ more) st st'' := by
  refine ⟨?_, h.carries.trans hMore.carries, fun id hNew => ?_, fun p hp => ?_⟩
  · rw [List.map_append]
    exact h.elements.append hMore.elements
  · -- a new node was made in the first part or in the second one
    cases hMiddle : st'.host.scene.contains id with
    | true =>
      obtain ⟨p, hp, hMakes⟩ := h.made id ⟨hMiddle, hNew.fresh⟩
      exact ⟨p, List.mem_append_left _ hp, hMakes⟩
    | false =>
      obtain ⟨p, hp, hMakes⟩ := hMore.made id ⟨hNew.live, hMiddle⟩
      exact ⟨p, List.mem_append_right _ hp, hMakes⟩
  · rcases List.mem_append.mp hp with hp | hp
    · exact (h.wired p hp).carries hMore.carries
    · exact hMore.wired p hp

/-- A widget that is built and styled. -/
theorem assembled_dressed {job : Job} {e : Element} {u : NodeId} {st st₁ : Stage} {w : Built}
    (h : job.Builds e u st w st₁) (x : Subject) :
    Assembled [e] [⟨e, u, w, st, st₁⟩] st (x.cascade st₁).2 := by
  obtain ⟨nodes, hLaid, -⟩ := h.tree
  have hStyled := x.carries_cascade hLaid.grown.forest
  refine ⟨.refl _, h.carries.trans hStyled, fun id hNew => ?_, fun p hp => ?_⟩
  · have hLive : st₁.host.scene.contains id = true := by
      rw [← Scene.contains_of_place? (x.place?_cascade st₁ id)]
      exact hNew.live
    exact ⟨_, List.mem_singleton_self _, hLive, hNew.fresh⟩
  · rw [List.mem_singleton.mp hp]
    exact h.wired.carries hStyled

mutual

theorem assembled_visit (job : Job) (e : Element) (parentElement : Option Element) {u : NodeId}
    {st : Stage} (hw : st.host.Willing) (hs : st.host.scene.Forest)
    (hLive : st.host.scene.contains u = true) :
    Assembled e.elements (job.pieces e parentElement u st) st
      (job.visit e parentElement u st).2 := by
  obtain ⟨tag, space, attributes, children, text⟩ := e
  obtain ⟨w, st₁, st₂, hWidget, hStyled, hBuilds, hOwner, hDressed⟩ :=
    exists_dressed job (.mk tag space attributes children text) parentElement hw hs hLive
  have hFirst := assembled_dressed hBuilds
    (job.subject (.mk tag space attributes children text) parentElement w.root u)
  have hBelow := assembled_visitAll job children (.mk tag space attributes children text)
    (hOwner.willing hw) hDressed.grown.forest hDressed.content_live
  rw [hStyled] at hFirst
  rw [pieces_of_run hWidget, run_visit hWidget]
  simp only [hStyled]
  -- the widget of the element is built first and recorded last
  have hBoth := hFirst.append hBelow
  refine ⟨?_, hBoth.carries, fun id hNew => ?_, fun p hp => ?_⟩
  · rw [Element.elements, List.map_append]
    exact List.perm_append_comm.trans hBoth.elements
  · obtain ⟨p, hp, hMakes⟩ := hBoth.made id hNew
    exact ⟨p, List.perm_append_comm.mem_iff.mp hp, hMakes⟩
  · exact hBoth.wired p (List.perm_append_comm.mem_iff.mp hp)

theorem assembled_visitAll (job : Job) (es : List Element) (parentElement : Element) {u : NodeId}
    {st : Stage} (hw : st.host.Willing) (hs : st.host.scene.Forest)
    (hLive : st.host.scene.contains u = true) :
    Assembled (Element.elementsOf es) (job.piecesAll es parentElement u st) st
      (job.visitAll es parentElement u st).2 := by
  cases es with
  | nil =>
    refine ⟨.refl _, .refl hs, fun id hNew => ?_, fun p hp => ?_⟩
    · cases hNew.fresh.symm.trans hNew.live
    · cases hp
  | cons e es =>
    obtain ⟨node, first, st₁, hFirst, hOwner, hVisited⟩ :=
      exists_visit job e (some parentElement) hw hs hLive
    have hAssembled := assembled_visit job e (some parentElement) hw hs hLive
    have hOthers := assembled_visitAll job es parentElement (hOwner.willing hw)
      hVisited.placed.grown.forest (hVisited.placed.grown.contains hLive)
    rw [hFirst] at hAssembled
    rw [run_visitAll_cons, Job.piecesAll, hFirst, Element.elementsOf]
    exact hAssembled.append hOthers

end

/-! ## Documents -/

/-- Each element of a document gets a widget, and nothing else is made. The nodes of a widget refer
to nodes of the same widget only: each reference is to the same node or to one below it, which is
there and carries what the reference is for. The content of a widget is its root or below it. -/
theorem wired_convert (c : Converter) (root : Element) (sheet : Sheet) (canvas : Size Single)
    {s : Scene} {parent : NodeId} (hs : s.Reachable) (hLive : s.contains parent = true) :
    let job : Job := ⟨c.settings.lettering, c.rules, sheet, canvas⟩
    let pieces := job.pieces root none parent ⟨Host.ofScene s, c.finder, []⟩
    let run := Workshop.convert ⟨c, Host.ofScene s⟩ root sheet parent canvas
    let t := run.2.host.scene
    (pieces.map Piece.element).Perm root.elements ∧
      run.1.created = pieces.map (fun p => p.widget.root) ∧
      (∀ p ∈ pieces, job.widgetOf p.element p.parent p.before = (some p.widget, p.after)) ∧
      (∀ id, Scene.New s t id → ∃ p ∈ pieces, p.Makes id) ∧ ∀ p ∈ pieces, p.Wired t := by
  intro job pieces run t
  have hw : (Stage.mk (Host.ofScene s) c.finder []).host.Willing := Host.willing_ofScene s
  obtain ⟨node, created, st, hVisit, -, hVisited⟩ :=
    exists_visit job root none hw hs.forest hLive
  have hRun : run = _ := run_convert (w := ⟨c, Host.ofScene s⟩) hVisit hVisited.last_eq
  have hAssembled := assembled_visit job root none hw hs.forest hLive
  have hRoots := roots_pieces job root none parent ⟨Host.ofScene s, c.finder, []⟩
  rw [hVisit] at hAssembled hRoots
  have hEnd : t = (Host.rebuild node st.host).2.scene := by
    simp only [t, hRun]
  -- arranging groups changes rectangles only
  have hCarries : Scene.Carries st.host.scene t := by
    rw [hEnd]
    exact (stays_rebuild node hAssembled.carries.stays.forest).carries fun id _ =>
      components_rebuild node st.host id
  refine ⟨hAssembled.elements, ?_, fun p hp => built_of_mem_pieces hp, fun id hNew => ?_,
    fun p hp => (hAssembled.wired p hp).carries hCarries⟩
  · rw [hRun]
    exact hRoots.symm
  · have hId := hNew.live
    rw [hEnd, Scene.contains_of_place? (place?_rebuild node st.host id)] at hId
    exact hAssembled.made id ⟨hId, hNew.fresh⟩

/-- A slider is converted below a canvas: its root refers to its fill, and twice to its handle. -/
theorem wired_convert_slider :
    let s := Scene.withCanvas 800 600
    let canvas := Scene.empty.nodes.nextKey
    let c := Converter.ofFinder default (.ofSource Asset.Shelf.empty.source)
    let root := Element.bare "Slider"
    let job : Job := ⟨c.settings.lettering, c.rules, Catalog.empty, ⟨800, 600⟩⟩
    let pieces := job.pieces root none canvas ⟨Host.ofScene s, c.finder, []⟩
    let run := Workshop.convert ⟨c, Host.ofScene s⟩ root Catalog.empty canvas ⟨800, 600⟩
    let t := run.2.host.scene
    s.Reachable ∧ s.contains canvas = true ∧ (∀ p ∈ pieces, p.Wired t) ∧
      (pieces.flatMap fun p => (t.references p.widget.root).map Reference.needs) =
        [none, none, some .graphic] := by
  intro s canvas c root job pieces run t
  have hs : s.Reachable := ⟨[], Or.inr ⟨800, 600, rfl⟩⟩
  have hLive : s.contains canvas = true := rfl
  obtain ⟨-, -, -, -, hWired⟩ := wired_convert c root Catalog.empty ⟨800, 600⟩ hs hLive
  exact ⟨hs, hLive, hWired, by decide +kernel⟩

end AnchoredUi.Conversion
