import AnchoredUi.Proofs.Conversion.Account
import AnchoredUi.Proofs.Conversion.Early
import AnchoredUi.Proofs.Widget.Outfit

/-!
# What the nodes of a document carry

The nodes of a document get components from the blueprints, from the declarations of their elements,
and from their children, for whose sake they get a layout group. The group comes last and goes to
the node below which the children stand: no element can get it before its first child is there, and
none gets a second one. It lays out as the style of its element declares, since what an element
declares for itself is applied before its group is there.

So in the end all new nodes are tidy, the mark of a root is on the node of the document, and the
layout groups are those that the styles ask for.

* `Composed`: how the nodes of some elements are composed.
* `composed_dressed`: the nodes of one element, with the group for its children.
* `composed_visit`, `composed_visitAll`: whole trees.
* `tidy_convert`, `groups_convert`: a document.
-/

namespace AnchoredUi.SceneGraph

variable {s s' s'' t : Scene} {u : NodeId} {news : List NodeId}

/-- The layout groups on a node in order. -/
def Scene.groupsOn (s : Scene) (id : NodeId) : List LayoutGroup :=
  (s.components id).filterMap ComponentType.unwrap?

theorem Scene.groupsOn_eq_nil {id : NodeId} (h : .layoutGroup ∉ s.kinds id) :
    s.groupsOn id = [] := by
  refine List.filterMap_eq_nil_iff.mpr fun c hc => unwrap?_eq_none fun hKind => h ?_
  exact List.mem_map.mpr ⟨c, hc, hKind⟩

/-- The nodes that are new since `s` have their places and components of `s'` in `t` as well. -/
structure Scene.Lasting (s s' t : Scene) : Prop where
  later : Scene.Later s s' t
  components_eq : ∀ id, s'.contains id = true → s.contains id = false →
    t.components id = s'.components id

theorem Scene.Lasting.first (h : Scene.Lasting s s'' t) (hLive : s.contains u = true)
    (hMore : Scene.Grown u news s' s'') : Scene.Lasting s s' t := by
  refine ⟨h.later.first hLive hMore, fun id hId hNew => ?_⟩
  have hNe : id ≠ u := (Scene.ne_of_contains hLive hNew).symm
  exact (h.components_eq id (hMore.contains hId) hNew).trans (hMore.components_eq hId hNe)

theorem Scene.Lasting.second (h : Scene.Lasting s s'' t) (hGrown : Scene.Grown u news s s') :
    Scene.Lasting s' s'' t :=
  ⟨h.later.second hGrown, fun id hId hNew => h.components_eq id hId (hGrown.not_contains hNew)⟩

end AnchoredUi.SceneGraph

namespace AnchoredUi.Styling

open Number Plane SceneGraph Style

/-- A group as a style declares it, from whichever new group it was made. Its padding is another
matter: it depends on where the group is. -/
def Follows (style : Declarations) (g : LayoutGroup) : Prop :=
  ∀ axis, g = { configure style (.along axis) with padding := g.padding }

theorem follows_groupOf (style : Declarations) (around : Surroundings) :
    Follows style (groupOf style around) := by
  intro axis
  simp only [groupOf, configure]
  generalize (directionOf style).axis = along
  cases along <;> rfl

end AnchoredUi.Styling

namespace AnchoredUi.Conversion

open Number Plane SceneGraph Sprite Markup Style Kind Widget Styling

variable {job : Job} {s s' s'' t : Scene}

/-! ## Single elements -/

/-- The children of an element are to be laid out by a group. -/
def CallsForGroup (sheet : Sheet) (e : Element) : Prop :=
  e.children ≠ [] ∧ asksForGroup (sheet.declared e) = true

/-- What the node below which the children of an element stand gets for their sake. -/
def Job.givenTo (job : Job) (e : Element) (s : Scene) (content : NodeId) :
    List (Component NodeId) :=
  if e.children = [] then [] else job.groupFor (some e) s content

theorem givenTo_of_calls {e : Element} {content : NodeId} (hCalls : CallsForGroup job.sheet e)
    (hNone : .layoutGroup ∉ s.kinds content) :
    ∃ g, job.givenTo e s content = [.layoutGroup g] ∧ Follows (job.sheet.declared e) g := by
  have hNoGroup : s.component? LayoutGroup content = none :=
    Scene.component?_eq_none_iff.mpr hNone
  refine ⟨_, ?_, follows_groupOf _ ⟨s.sizeOf content, job.canvas, job.lettering.size⟩⟩
  simp only [Job.givenTo, if_neg hCalls.1, Job.groupFor, groupAsked, Option.map_some, hCalls.2,
    hNoGroup, Option.isNone_none, Bool.and_self, if_true]

theorem givenTo_of_not_calls {e : Element} (hCalls : ¬CallsForGroup job.sheet e) (s : Scene)
    (content : NodeId) : job.givenTo e s content = [] := by
  unfold Job.givenTo
  by_cases hNone : e.children = []
  · exact if_pos hNone
  · have hAsks : asksForGroup (job.sheet.declared e) = false :=
      Bool.of_not_eq_true fun hAsks => hCalls ⟨hNone, hAsks⟩
    simp only [if_neg hNone, Job.groupFor, groupAsked, Option.map_some, hAsks, Bool.false_and,
      Bool.false_eq_true, if_false]

/-- How the nodes that came from `s` to `s'` are composed in `t`, where they are the nodes of some
elements: they are tidy, the root of a document is marked and nothing else, and of the layout groups
on them each is for an element that calls for one, on the node below which its children stand. -/
structure Composed (job : Job) (pairs : List (Element × NodeId)) (marked : Option NodeId)
    (s s' t : Scene) : Prop where
  tidy : ∀ id, s'.contains id = true → s.contains id = false →
    Tidy (t.kinds id) ∧ (.layoutRoot ∈ t.kinds id ↔ marked = some id)
  grouped : ∀ p ∈ pairs, CallsForGroup job.sheet p.1 →
    ∃ content, IsContent t (kindOf job.rules p.1) p.2 content ∧ s'.contains content = true ∧
      s.contains content = false ∧ ∃ g, t.groupsOn content = [g] ∧
        Follows (job.sheet.declared p.1) g
  only : ∀ id, s'.contains id = true → s.contains id = false → .layoutGroup ∈ t.kinds id →
    ∃ p ∈ pairs, CallsForGroup job.sheet p.1 ∧ IsContent t (kindOf job.rules p.1) p.2 id

theorem composed_nil (job : Job) (s t : Scene) : Composed job [] none s s t := by
  refine ⟨fun id hId hNew => ?_, fun _ hp => (nomatch hp), fun id hId hNew => ?_⟩ <;>
    exact absurd rfl (Scene.ne_of_contains hId hNew)

/-- The nodes of more elements come, none of which is the root of a document. -/
theorem Composed.append {pairs more : List (Element × NodeId)} {marked : Option NodeId}
    {u v : NodeId} {news others : List NodeId} (h : Composed job pairs marked s s' t)
    (hMore : Composed job more none s' s'' t) (hGrown : Scene.Grown u news s s')
    (hGrown' : Scene.Grown v others s' s'')
    (hMarked : ∀ id, marked = some id → s'.contains id = true) :
    Composed job (pairs ++ more) marked s s'' t := by
  refine ⟨fun id hId hNew => ?_, fun p hp hCalls => ?_, fun id hId hNew hGroup => ?_⟩
  · cases hFirst : s'.contains id with
    | true => exact h.tidy id hFirst hNew
    | false =>
      obtain ⟨hTidy, hRoot⟩ := hMore.tidy id hId hFirst
      refine ⟨hTidy, hRoot.trans ⟨nofun, fun hEq => ?_⟩⟩
      rw [hMarked id hEq] at hFirst
      cases hFirst
  · rcases List.mem_append.mp hp with hp | hp
    · obtain ⟨content, hContent, hThere, hNew, hGroups⟩ := h.grouped p hp hCalls
      exact ⟨content, hContent, hGrown'.contains hThere, hNew, hGroups⟩
    · obtain ⟨content, hContent, hThere, hNew, hGroups⟩ := hMore.grouped p hp hCalls
      exact ⟨content, hContent, hThere, hGrown.not_contains hNew, hGroups⟩
  · cases hFirst : s'.contains id with
    | true =>
      obtain ⟨p, hp, hCalls⟩ := h.only id hFirst hNew hGroup
      exact ⟨p, List.mem_append_left _ hp, hCalls⟩
    | false =>
      obtain ⟨p, hp, hCalls⟩ := hMore.only id hId hFirst hGroup
      exact ⟨p, List.mem_append_right _ hp, hCalls⟩

/-- The nodes of one element. They had an outfit in `s'`, and after that only the content got
something: what its children give it. -/
theorem composed_dressed {e : Element} {node content : NodeId} {marked : Option NodeId}
    (hOutfit : ∀ id, s'.contains id = true → s.contains id = false →
      Outfit (marked = some id) (s'.kinds id))
    (hContent : IsContent t (kindOf job.rules e) node content)
    (hLive : s'.contains content = true) (hNew : s.contains content = false)
    (hComponents : ∀ id, s'.contains id = true → s.contains id = false → t.components id =
      s'.components id ++ if id = content then job.givenTo e s' content else []) :
    Composed job [(e, node)] marked s s' t := by
  have hNone := (hOutfit content hLive hNew).not_group
  -- a group is on the content only, and only if the element calls for one
  have hKinds : ∀ id, s'.contains id = true → s.contains id = false →
      t.kinds id = s'.kinds id ∨
        id = content ∧ CallsForGroup job.sheet e ∧ t.kinds id = s'.kinds id ++ [.layoutGroup] := by
    intro id hId hFresh
    have hEq := hComponents id hId hFresh
    by_cases hSelf : id = content ∧ CallsForGroup job.sheet e
    · obtain ⟨g, hGiven, -⟩ := givenTo_of_calls hSelf.2 hNone
      refine Or.inr ⟨hSelf.1, hSelf.2, ?_⟩
      rw [if_pos hSelf.1, hGiven] at hEq
      simp only [Scene.kinds, hEq, List.map_append, List.map_cons, List.map_nil, Component.kind]
    · have hNothing : (if id = content then job.givenTo e s' content else []) = [] := by
        split
        · rename_i hId
          exact givenTo_of_not_calls (fun hCalls => hSelf ⟨hId, hCalls⟩) _ _
        · rfl
      rw [hNothing, List.append_nil] at hEq
      exact Or.inl (by rw [Scene.kinds, hEq, Scene.kinds])
  refine ⟨fun id hId hFresh => ?_, fun p hp hCalls => ?_, fun id hId hFresh hGroup => ?_⟩
  · have hBefore := hOutfit id hId hFresh
    rcases hKinds id hId hFresh with hSame | ⟨-, -, hMore⟩
    · rw [hSame]
      exact ⟨hBefore.tidy, hBefore.root_iff⟩
    · rw [hMore]
      have hTidy := hBefore.tidy.concat hBefore.not_group (by decide) fun hRect => by cases hRect
      refine ⟨hTidy, ?_⟩
      rw [List.mem_append, List.mem_singleton]
      exact ⟨fun hRoot => hBefore.root_iff.mp (hRoot.resolve_right (by decide)),
        fun hMarked => Or.inl (hBefore.root_iff.mpr hMarked)⟩
  · rw [List.mem_singleton.mp hp] at hCalls ⊢
    obtain ⟨g, hGiven, hFollows⟩ := givenTo_of_calls hCalls hNone
    refine ⟨content, hContent, hLive, hNew, g, ?_, hFollows⟩
    have hEq := hComponents content hLive hNew
    rw [if_pos rfl, hGiven] at hEq
    rw [Scene.groupsOn, hEq, List.filterMap_append, ← Scene.groupsOn, Scene.groupsOn_eq_nil hNone]
    rfl
  · have hBefore := hOutfit id hId hFresh
    rcases hKinds id hId hFresh with hSame | ⟨rfl, hCalls, -⟩
    · rw [hSame] at hGroup
      exact absurd hGroup hBefore.not_group
    · exact ⟨_, List.mem_singleton_self _, hCalls, hContent⟩

/-! ## Trees of elements -/

/-- The children of an element give the node above them a layout group, if they are to be laid out
by one, and nothing else. -/
theorem components_visitAll (job : Job) (es : List Element) (parentElement : Element) {u : NodeId}
    {st : Stage} (hw : st.host.Willing) (hs : st.host.scene.Forest)
    (hLive : st.host.scene.contains u = true) :
    (job.visitAll es parentElement u st).2.host.scene.components u = st.host.scene.components u ++
      if es = [] then [] else job.groupFor (some parentElement) st.host.scene u := by
  induction es generalizing st with
  | nil => exact (List.append_nil _).symm
  | cons e es ih =>
    have hFirst := components_visit job e (some parentElement) hw hs hLive
    have hGiven := groupFor_visit job e (some parentElement) hw hs hLive
    obtain ⟨node, created, st', hVisit, hOwner, hVisited⟩ :=
      exists_visit job e (some parentElement) hw hs hLive
    have hOthers := ih (hOwner.willing hw) hVisited.placed.grown.forest
      (hVisited.placed.grown.contains hLive)
    rw [hVisit] at hFirst hGiven
    rw [run_visitAll_cons, hVisit]
    -- the first child was given the group, so the others are given nothing
    rw [hGiven, ite_self, List.append_nil, hFirst] at hOthers
    rw [if_neg (List.cons_ne_nil e es)]
    exact hOthers

/-- The node that is marked by a visit: that of the element, if it has no parent element. -/
def markedBy (parentElement : Option Element) (created : List NodeId) : Option NodeId :=
  match parentElement with
  | none => created.getLast?
  | some _ => none

/-- The nodes of a widget that was built and styled are tidy, and its root is marked if it is that
of a document. -/
theorem Job.Builds.outfit_cascade {e : Element} {u : NodeId} {st st₁ : Stage} {w : Built}
    (h : job.Builds e u st w st₁) (hw : st.host.Willing) (hLive : st.host.scene.contains u = true)
    (parentElement : Option Element) (below : List NodeId) {id : NodeId}
    (hId : ((job.subject e parentElement w.root u).cascade st₁).2.host.scene.contains id = true)
    (hNew : st.host.scene.contains id = false) :
    Outfit (markedBy parentElement (below ++ [w.root]) = some id)
      (((job.subject e parentElement w.root u).cascade st₁).2.host.scene.kinds id) := by
  obtain ⟨nodes, hLaid, -, hRoot, -⟩ := h.tree
  let x := job.subject e parentElement w.root u
  have hRootLive : st₁.host.scene.contains x.node = true := by
    rw [show x.node = w.root from rfl, hRoot]
    exact hLaid.live .root
  have hUp : ∀ {id}, st.host.scene.contains id = false → x.parentNode ≠ some id :=
    fun hNew hEq => Scene.ne_of_contains hLive hNew (Option.some.inj hEq)
  have hRootNew : st.host.scene.contains x.node = false := by
    rw [show x.node = w.root from rfl, hRoot]
    exact hLaid.fresh .root
  have hThere : st₁.host.scene.contains id = true := by
    rw [← Scene.contains_of_place? (x.place?_cascade st₁ id)]
    exact hId
  have hOutfit := Subject.outfit_cascade (h.owner.willing hw) hRootLive (hUp hRootNew) (hUp hNew)
    (h.outfit hThere hNew)
  refine ⟨hOutfit.tidy, hOutfit.not_group, hOutfit.root_iff.trans ?_⟩
  cases parentElement with
  | none => simp [x, Job.subject, markedBy, eq_comm]
  | some _ => simp [x, Job.subject, markedBy]

mutual

theorem composed_visit (job : Job) (e : Element) (parentElement : Option Element) {u : NodeId}
    {st : Stage} (hw : st.host.Willing) (hs : st.host.scene.Forest)
    (hLive : st.host.scene.contains u = true)
    (hLasting : Scene.Lasting st.host.scene (job.visit e parentElement u st).2.host.scene t) :
    Composed job (withNodes e (job.visit e parentElement u st).1)
      (markedBy parentElement (job.visit e parentElement u st).1) st.host.scene
      (job.visit e parentElement u st).2.host.scene t := by
  obtain ⟨tag, space, attributes, children, text⟩ := e
  obtain ⟨w, st₁, st₂, hWidget, hStyled, hBuilds, hOwner, hDressed⟩ :=
    exists_dressed job (.mk tag space attributes children text) parentElement hw hs hLive
  obtain ⟨roots, below, st₃, hBelow, -, hPlaced, -⟩ :=
    exists_visitAll job children (.mk tag space attributes children text) (hOwner.willing hw)
      hDressed.grown.forest hDressed.content_live
  have hGiven := components_visitAll job children (.mk tag space attributes children text)
    (hOwner.willing hw) hDressed.grown.forest hDressed.content_live
  have hChildren := composed_visitAll job children
    (.mk tag space attributes children text) (hOwner.willing hw) hDressed.grown.forest
    hDressed.content_live
  rw [run_visit hWidget] at hLasting ⊢
  simp only [hStyled, hBelow, withNodes_concat] at hLasting hGiven hChildren ⊢
  have hContent := hDressed.isContent.later hs hDressed.grown hPlaced.grown hDressed.root_fresh
    hDressed.root_live hLasting.later
  have hFirst : Composed job [(.mk tag space attributes children text, w.root)]
      (markedBy parentElement (below ++ [w.root])) st.host.scene st₂.host.scene t := by
    refine composed_dressed (fun id hId hNew => ?_) hContent hDressed.content_live
      hDressed.content_fresh fun id hId hNew => ?_
    · rw [← hStyled] at hId ⊢
      exact hBuilds.outfit_cascade hw hLive parentElement below hId hNew
    · rw [hLasting.components_eq id (hPlaced.grown.contains hId) hNew]
      split
      · rename_i hSelf
        rw [hSelf]
        exact hGiven
      · rename_i hSelf
        rw [List.append_nil, hPlaced.grown.components_eq hId hSelf]
  refine hFirst.append (hChildren (hLasting.second hDressed.grown)) hDressed.grown hPlaced.grown
    fun id hMarked => ?_
  cases parentElement with
  | none =>
    rw [markedBy, List.getLast?_concat] at hMarked
    rw [← Option.some.inj hMarked]
    exact hDressed.root_live
  | some _ => cases hMarked

theorem composed_visitAll (job : Job) (es : List Element) (parentElement : Element) {u : NodeId}
    {st : Stage} (hw : st.host.Willing) (hs : st.host.scene.Forest)
    (hLive : st.host.scene.contains u = true)
    (hLasting : Scene.Lasting st.host.scene (job.visitAll es parentElement u st).2.host.scene t) :
    Composed job (allWithNodes es (job.visitAll es parentElement u st).1) none st.host.scene
      (job.visitAll es parentElement u st).2.host.scene t := by
  cases es with
  | nil => exact composed_nil job st.host.scene t
  | cons e es =>
    obtain ⟨node, first, st₁, hFirst, hOwner, hVisited⟩ :=
      exists_visit job e (some parentElement) hw hs hLive
    have hLive₁ := hVisited.placed.grown.contains hLive
    have hForest := hVisited.placed.grown.forest
    obtain ⟨roots, others, st₂, hOthers, -, hPlaced, -⟩ :=
      exists_visitAll job es parentElement (hOwner.willing hw) hForest hLive₁
    have hHead := composed_visit job e (some parentElement) hw hs hLive
    have hTail := composed_visitAll job es parentElement (hOwner.willing hw) hForest hLive₁
    rw [run_visitAll_cons, hFirst] at hLasting ⊢
    rw [hFirst] at hHead
    simp only [hOthers, allWithNodes_cons hVisited.length_eq] at hLasting hTail ⊢
    exact (hHead (hLasting.first hLive hPlaced.grown)).append
      (hTail (hLasting.second hVisited.placed.grown)) hVisited.placed.grown hPlaced.grown nofun

end

/-! ## Documents -/

/-- How the nodes of a converted document are composed, and which of them is marked. -/
theorem composed_convert (c : Converter) (root : Element) (sheet : Sheet) (canvas : Size Single)
    {s : Scene} {parent : NodeId} (hs : s.Reachable) (hLive : s.contains parent = true) :
    let run := Workshop.convert ⟨c, Host.ofScene s⟩ root sheet parent canvas
    let t := run.2.host.scene
    Composed ⟨c.settings.lettering, c.rules, sheet, canvas⟩ (withNodes root run.1.created)
      run.1.root? s t t := by
  have hw : (Stage.mk (Host.ofScene s) c.finder []).host.Willing := Host.willing_ofScene s
  let job : Job := ⟨c.settings.lettering, c.rules, sheet, canvas⟩
  obtain ⟨node, created, st, hVisit, -, hVisited⟩ :=
    exists_visit job root none hw hs.forest hLive
  have hRun := run_convert (w := ⟨c, Host.ofScene s⟩) hVisit hVisited.last_eq
  -- arranging changes no places and no components
  have hContains : ∀ id, (Host.rebuild node st.host).2.scene.contains id =
      st.host.scene.contains id := fun id => Scene.contains_of_place? (place?_rebuild _ _ _)
  have hLasting : Scene.Lasting s st.host.scene (Host.rebuild node st.host).2.scene :=
    ⟨fun id _ _ => place?_rebuild _ _ _, fun id _ _ => components_rebuild _ _ _⟩
  have hComposed := composed_visit (t := (Host.rebuild node st.host).2.scene) job root none hw
    hs.forest hLive
  rw [hVisit] at hComposed
  obtain ⟨hTidy, hGrouped, hOnly⟩ := hComposed hLasting
  simp only [hRun]
  refine ⟨fun id hId => hTidy id ((hContains id).symm.trans hId), fun p hp hCalls => ?_,
    fun id hId => hOnly id ((hContains id).symm.trans hId)⟩
  obtain ⟨content, hContent, hThere, hGroups⟩ := hGrouped p hp hCalls
  exact ⟨content, hContent, (hContains content).trans hThere, hGroups⟩

/-- The layout groups on new nodes are those that the styles ask for: each element with children
whose style asks for one has exactly one, on the node below which its children stand, and it lays
out as the style declares. -/
theorem groups_convert (c : Converter) (root : Element) (sheet : Sheet) (canvas : Size Single)
    {s : Scene} {parent : NodeId} (hs : s.Reachable) (hLive : s.contains parent = true) :
    let run := Workshop.convert ⟨c, Host.ofScene s⟩ root sheet parent canvas
    let t := run.2.host.scene
    let pairs := withNodes root run.1.created
    pairs.map Prod.fst = root.elements ∧ (pairs.map Prod.snd).Perm run.1.created ∧
      (∀ p ∈ pairs, p.1.children ≠ [] → asksForGroup (sheet.declared p.1) = true →
        ∃ content, IsContent t (kindOf c.rules p.1) p.2 content ∧ t.contains content = true ∧
          s.contains content = false ∧ ∃ g, t.groupsOn content = [g] ∧
            Follows (sheet.declared p.1) g) ∧
      ∀ id, t.contains id = true → s.contains id = false → t.has .layoutGroup id = true →
        ∃ p ∈ pairs, p.1.children ≠ [] ∧ asksForGroup (sheet.declared p.1) = true ∧
          IsContent t (kindOf c.rules p.1) p.2 id := by
  intro run t pairs
  obtain ⟨-, hGrouped, hOnly⟩ := composed_convert c root sheet canvas hs hLive
  have hLength : run.1.created.length = root.elementCount := by
    obtain ⟨node, created, st, -, hVisited, hRun⟩ :=
      exists_convert ⟨c, Host.ofScene s⟩ root sheet canvas (Host.willing_ofScene s) hs.forest hLive
    simp only [run, hRun]
    exact hVisited.length_eq
  obtain ⟨hElements, hNodes⟩ := withNodes_spec hLength
  refine ⟨hElements, hNodes, fun p hp hSome hAsks => hGrouped p hp ⟨hSome, hAsks⟩,
    fun id hId hNew hGroup => ?_⟩
  have hKind : .layoutGroup ∈ t.kinds id := by
    by_contra hNone
    rw [Scene.has_eq_false_iff.mpr hNone] at hGroup
    cases hGroup
  obtain ⟨p, hp, hCalls, hContent⟩ := hOnly id hId hNew hKind
  exact ⟨p, hp, hCalls.1, hCalls.2, hContent⟩

/-- A row with a label is converted below a canvas: it gets a group that lays out horizontally. -/
theorem groups_convert_row :
    let s := Scene.withCanvas 800 600
    let canvas := Scene.empty.nodes.nextKey
    let c := Converter.ofFinder default (.ofSource Asset.Shelf.empty.source)
    let attributes : Attributes := Catalog.ofList [⟨"style", "flex-direction: row"⟩]
    let root := Element.mk "VisualElement" none attributes [.bare "Label"] none
    let run := Workshop.convert ⟨c, Host.ofScene s⟩ root Catalog.empty canvas ⟨800, 600⟩
    let t := run.2.host.scene
    s.Reachable ∧ s.contains canvas = true ∧ root.children ≠ [] ∧
      asksForGroup (Sheet.declared Catalog.empty root) = true ∧
      ∃ node content g, (root, node) ∈ withNodes root run.1.created ∧
        IsContent t (kindOf c.rules root) node content ∧ t.groupsOn content = [g] ∧
        g.axis = .horizontal := by
  intro s canvas c attributes root
  have hs : s.Reachable := ⟨[], Or.inr ⟨800, 600, rfl⟩⟩
  have hLive : s.contains canvas = true := rfl
  have hSome : root.children ≠ [] := List.cons_ne_nil _ _
  have hAsks : asksForGroup (Sheet.declared Catalog.empty root) = true := by decide +kernel
  have hRow : (directionOf (Sheet.declared Catalog.empty root)).axis = .horizontal := by
    decide +kernel
  obtain ⟨hElements, -, hGroups, -⟩ :=
    groups_convert c root Catalog.empty ⟨800, 600⟩ hs hLive
  have hMem : root ∈ root.elements := List.mem_cons_self
  rw [← hElements] at hMem
  obtain ⟨⟨e, node⟩, hp, rfl⟩ := List.mem_map.mp hMem
  obtain ⟨content, hContent, -, -, g, hg, hFollows⟩ := hGroups _ hp hSome hAsks
  refine ⟨hs, hLive, hSome, hAsks, node, content, g, hp, hContent, hg, ?_⟩
  rw [hFollows .horizontal]
  exact hRow

end AnchoredUi.Conversion
