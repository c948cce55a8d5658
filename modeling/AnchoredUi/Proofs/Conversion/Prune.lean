import AnchoredUi.Proofs.Conversion.Cut

/-!
# Leaving out a tree of a document

An element with a sibling is left out of a document, with everything below it. The conversion gives
all other elements the same widgets, in the same places and with the same looks, and the same
warnings, as long as the layout groups are not arranged: what an element gets depends on the
elements above it, and on nothing beside it.

The conversions run alike down to the parent of the element that is left out; from there on the
first one has a branch more, and with it the stages go up to the end of the document.

* `Prunes`: a document without one of its trees.
* `cut_visit`: the conversions of the trees around the one that is left out.
* `sameWithout_convert`: the conversions of both documents.
-/

namespace AnchoredUi.Conversion

open Number Plane SceneGraph Sprite Markup Style Kind Widget Styling

/-! ## Documents -/

/-- The second tree is the first one without the tree `x` below one of its elements, which has other
children as well. -/
inductive Prunes (x : Element) : Element → Element → Prop
  | here {tag : String} {space : Option String} {attributes : Attributes}
      {before after : List Element} {text : Option String} (hOthers : before ++ after ≠ []) :
      Prunes x (.mk tag space attributes (before ++ x :: after) text)
        (.mk tag space attributes (before ++ after) text)
  | inside {tag : String} {space : Option String} {attributes : Attributes}
      {before after : List Element} {text : Option String} {c c' : Element}
      (hChild : Prunes x c c') :
      Prunes x (.mk tag space attributes (before ++ c :: after) text)
        (.mk tag space attributes (before ++ c' :: after) text)

theorem Prunes.elementCount_lt {x e e' : Element} (h : Prunes x e e') :
    x.elementCount < e.elementCount := by
  induction h with
  | here _ =>
    simp only [Element.elementCount, Element.countOf_append, Element.countOf]
    omega
  | inside _ ih =>
    simp only [Element.elementCount, Element.countOf_append, Element.countOf]
    omega

/-- Two elements that are the same but for what is below them. -/
structure SameHead (e e' : Element) : Prop where
  tag_eq : e.tag = e'.tag
  space_eq : e.space = e'.space
  attributes_eq : e.attributes = e'.attributes
  text_eq : e.text = e'.text

theorem sameHead_refl (e : Element) : SameHead e e := ⟨rfl, rfl, rfl, rfl⟩

section SameHead

variable {e e' : Element} (h : SameHead e e')
include h

theorem SameHead.attr?_eq (name : String) : e.attr? name = e'.attr? name := by
  unfold Element.attr?
  rw [h.attributes_eq]

theorem SameHead.lookalike : Lookalike e e' :=
  ⟨h.tag_eq, h.space_eq, h.text_eq, fun name _ => h.attr?_eq name⟩

theorem SameHead.akin (sheet : Sheet) : Akin sheet sheet e e' [] :=
  akin_of_same h.lookalike (fun p _ => h.attr?_eq p.1) (h.lookalike.matching_eq sheet)

theorem SameHead.warningsFor_eq (job : Job) (answers : String → Option Sprite)
    (parentSize : Size Single) :
    job.warningsFor answers parentSize e = job.warningsFor answers parentSize e' := by
  have hBlueprint := h.lookalike.blueprint_eq (kindOf job.rules e') job.lettering
  have hPlan : job.plan e = job.plan e' := by
    unfold Job.plan
    rw [h.lookalike.kindOf_eq, hBlueprint]
  have hBuild : job.buildWarnings answers e = job.buildWarnings answers e' := by
    unfold Job.buildWarnings
    rw [h.lookalike.kindOf_eq, hBlueprint, h.lookalike.label_eq]
  have hDeclared : declarationsOf job.sheet e = declarationsOf job.sheet e' := by
    unfold declarationsOf
    simp only [h.lookalike.matching_eq, h.lookalike.inlineStyle_eq, h.attr?_eq]
  unfold Job.warningsFor
  rw [widgetWarnings_eq, widgetWarnings_eq, hBuild, hPlan, hDeclared, h.lookalike.label_eq]

end SameHead

/-! ## Elements with related nodes -/

/-- The same element with related nodes on both sides. -/
structure Kept (R : NodeId → NodeId → Prop) (p q : Element × NodeId) : Prop where
  head : SameHead p.1 q.1
  node : R p.2 q.2

theorem Kept.mono {R R' : NodeId → NodeId → Prop} {p q : Element × NodeId} (h : Kept R p q)
    (hMono : ∀ a b, R a b → R' a b) : Kept R' p q := ⟨h.head, hMono _ _ h.node⟩

mutual

theorem rel_withNodes {R : NodeId → NodeId → Prop} (e : Element) {created created' : List NodeId}
    (h : List.Forall₂ R created created') :
    List.Forall₂ (Kept R) (withNodes e created) (withNodes e created') := by
  obtain ⟨tag, space, attributes, children, text⟩ := e
  have hLast := rel_getLast? h
  have hFront : List.Forall₂ R created.dropLast created'.dropLast := by
    rw [List.dropLast_eq_take, List.dropLast_eq_take, h.length_eq]
    exact List.forall₂_take _ h
  rw [withNodes, withNodes]
  refine List.rel_append ?_ (rel_allWithNodes children hFront)
  generalize created.getLast? = a at hLast ⊢
  generalize created'.getLast? = b at hLast ⊢
  cases hLast with
  | none => exact .nil
  | some hab => exact .cons ⟨sameHead_refl _, hab⟩ .nil

theorem rel_allWithNodes {R : NodeId → NodeId → Prop} (es : List Element)
    {created created' : List NodeId} (h : List.Forall₂ R created created') :
    List.Forall₂ (Kept R) (allWithNodes es created) (allWithNodes es created') := by
  cases es with
  | nil => exact .nil
  | cons e es =>
    rw [allWithNodes, allWithNodes]
    exact List.rel_append (rel_withNodes e (List.forall₂_take _ h))
      (rel_allWithNodes es (List.forall₂_drop _ h))

end

theorem head?_withNodes {e : Element} {created : List NodeId} {node : NodeId}
    (h : created.getLast? = some node) : (withNodes e created).head? = some (e, node) := by
  obtain ⟨tag, space, attributes, children, text⟩ := e
  simp [withNodes, h]

theorem allWithNodes_append {es : List Element} {first : List NodeId}
    (hLength : first.length = Element.countOf es) (ds : List Element) (others : List NodeId) :
    allWithNodes (es ++ ds) (first ++ others) =
      allWithNodes es first ++ allWithNodes ds others := by
  induction es generalizing first with
  | nil =>
    rw [List.eq_nil_of_length_eq_zero hLength]
    rfl
  | cons e es ih =>
    rw [Element.countOf] at hLength
    have hRest : (first.drop e.elementCount).length = Element.countOf es := by
      rw [List.length_drop]
      omega
    have hLe : e.elementCount ≤ first.length := by omega
    rw [List.cons_append, allWithNodes, allWithNodes, List.take_append_of_le_length hLe,
      List.drop_append_of_le_length hLe, ih hRest, List.append_assoc]

theorem run_visitAll_append (job : Job) (es ds : List Element) (pe : Element) (u : NodeId)
    (st : Stage) :
    job.visitAll (es ++ ds) pe u st =
      let first := job.visitAll es pe u st
      let others := job.visitAll ds pe u first.2
      (first.1 ++ others.1, others.2) := by
  induction es generalizing st with
  | nil => rfl
  | cons e es ih =>
    simp only [List.cons_append, run_visitAll_cons, ih, List.append_assoc]

theorem length_visitAll (job : Job) (es : List Element) (pe : Element) {u : NodeId} {st : Stage}
    (hw : st.host.Willing) (hs : st.host.scene.Forest)
    (hLive : st.host.scene.contains u = true) :
    (job.visitAll es pe u st).1.length = Element.countOf es := by
  obtain ⟨roots, created, st', hRun, -, -, hLength, -⟩ := exists_visitAll job es pe hw hs hLive
  rw [hRun]
  exact hLength

/-! ## Around the tree that is left out -/

/-- The stages differ by the branch of a tree. The elements of the tree stand together among those
of the first side; the other ones are the elements of the second side, with related nodes. -/
def CutPairs (G : Grounds) (R : NodeId → NodeId → Prop) (answers : String → Option Sprite)
    (x : Element) (pairs pairs' : List (Element × NodeId)) (st st' : Stage) : Prop :=
  ∃ R' z extra before own after, (∀ a b, R a b → R' a b) ∧ pairs = before ++ own ++ after ∧
    own.map Prod.fst = x.elements ∧ own.head? = some (x, z) ∧
    List.Forall₂ (Kept R') (before ++ after) pairs' ∧ CutStages G R' answers extra z st st'

section Around

variable {G : Grounds} {R : NodeId → NodeId → Prop} {answers : String → Option Sprite}
  {extra : List Warning} {u v : NodeId} {st st' : Stage} {job : Job} {x : Element}

/-- More elements come before. -/
theorem CutPairs.after {R₀ : NodeId → NodeId → Prop} {pairs pairs' first first' :
    List (Element × NodeId)} (h : CutPairs G R answers x pairs pairs' st st')
    (hMono : ∀ a b, R₀ a b → R a b) (hFirst : List.Forall₂ (Kept R) first first') :
    CutPairs G R₀ answers x (first ++ pairs) (first' ++ pairs') st st' := by
  obtain ⟨R', z, extra, before, own, after, hMono', rfl, hOwn, hHead, hKept, hStages⟩ := h
  refine ⟨R', z, extra, first ++ before, own, after, fun a b hab => hMono' a b (hMono a b hab), ?_,
    hOwn, hHead, ?_, hStages⟩
  · simp only [List.append_assoc]
  · rw [List.append_assoc]
    exact List.rel_append (hFirst.imp fun _ _ hpq => hpq.mono hMono') hKept

/-- Both sides go on with the elements that follow. -/
theorem CutPairs.visitAll {pairs pairs' : List (Element × NodeId)}
    (h : CutPairs G R answers x pairs pairs' st st') (hG : G.Level) (huv : G.Under R u v)
    (job : Job) (es : List Element) {pe pe' : Element}
    (hParent : AlikeStyles (job.sheet.declared pe) (job.sheet.declared pe')) :
    CutPairs G R answers x (pairs ++ allWithNodes es (job.visitAll es pe u st).1)
      (pairs' ++ allWithNodes es (job.visitAll es pe' v st').1) (job.visitAll es pe u st).2
      (job.visitAll es pe' v st').2 := by
  obtain ⟨R', z, extra, before, own, after, hMono, rfl, hOwn, hHead, hKept, hStages⟩ := h
  obtain ⟨R₂, hMono₂, hNodes, hAfter⟩ := hStages.visitAll hG (huv.mono hMono) job es hParent
  refine ⟨R₂, z, extra, before, own, _, fun a b hab => hMono₂ a b (hMono a b hab),
    List.append_assoc .., hOwn, hHead, ?_, hAfter⟩
  rw [← List.append_assoc]
  exact List.rel_append (hKept.imp fun _ _ hpq => hpq.mono hMono₂) (rel_allWithNodes es hNodes)

/-- The visits of two trees give stages that differ by a branch, and elements of which the first
ones have the tree more. -/
def CutVisit (G : Grounds) (R : NodeId → NodeId → Prop) (answers : String → Option Sprite)
    (x e e' : Element) (run run' : List NodeId × Stage) : Prop :=
  CutPairs G R answers x (withNodes e run.1) (withNodes e' run'.1) run.2 run'.2

/-- The same for the visits of several trees. -/
def CutVisits (G : Grounds) (R : NodeId → NodeId → Prop) (answers : String → Option Sprite)
    (x : Element) (es es' : List Element) (run run' : List NodeId × Stage) : Prop :=
  CutPairs G R answers x (allWithNodes es run.1) (allWithNodes es' run'.1) run.2 run'.2

/-- Corresponding nodes get the same layout group. -/
theorem groupFor_eq (hG : G.Level) (huv : G.Under R u v)
    (h : TwinStages G R answers extra st st') (job : Job) {pe pe' : Element}
    (hParent : AlikeStyles (job.sheet.declared pe) (job.sheet.declared pe')) :
    job.groupFor (some pe) st.host.scene u = job.groupFor (some pe') st'.host.scene v :=
  groupAsked_eq (.some hParent) (h.scenes.group_eq_under huv) (h.scenes.sizeOf_eq_under hG huv) _ _

section Siblings

variable {pe pe' : Element} (hG : G.Level)
  (hParent : AlikeStyles (job.sheet.declared pe) (job.sheet.declared pe'))
include hG hParent

/-- The same siblings come before on both sides. If there are any, then their parent has the layout
group that is asked for. -/
theorem cut_before (huv : G.Under R u v) (hStages : TwinStages G R answers extra st st')
    (before : List Element) {es es' : List Element}
    (hRest : ∀ {R : NodeId → NodeId → Prop} {extra : List Warning} {st st' : Stage},
      G.Under R u v → TwinStages G R answers extra st st' →
      (before ≠ [] → job.groupFor (some pe) st.host.scene u = []) →
      CutVisits G R answers x es es' (job.visitAll es pe u st) (job.visitAll es' pe' v st')) :
    CutVisits G R answers x (before ++ es) (before ++ es') (job.visitAll (before ++ es) pe u st)
      (job.visitAll (before ++ es') pe' v st') := by
  have hw := hStages.left_willing
  have hs := hStages.scenes.left_forest
  obtain ⟨hu, hv⟩ := hStages.scenes.under_contains hG huv
  obtain ⟨R₁, hMono, hNodes, hBefore⟩ :=
    twins_visitAll hG ⟨rfl, rfl, rfl⟩ huv hStages (akinTrees_refl job.sheet before) hParent
  have hLength := length_visitAll job before pe hw hs hu
  have hEnd := hRest (huv.mono hMono) hBefore fun hSome => groupFor_visitAll job hSome pe hw hs hu
  unfold CutVisits
  simp only [run_visitAll_append, allWithNodes_append hLength,
    allWithNodes_append (hNodes.length_eq.symm.trans hLength)]
  exact hEnd.after hMono (rel_allWithNodes before hNodes)

/-- The tree is left out before its later siblings. -/
theorem cut_here (huv : G.Under R u v) (hStages : TwinStages G R answers extra st st')
    {after : List Element} (hOthers : after ≠ [] ∨ job.groupFor (some pe) st.host.scene u = []) :
    CutVisits G R answers x (x :: after) after (job.visitAll (x :: after) pe u st)
      (job.visitAll after pe' v st') := by
  obtain ⟨hu, hv⟩ := hStages.scenes.under_contains hG huv
  have hGroups := groupFor_eq hG huv hStages job hParent
  obtain ⟨z, created, st₁, ws, hVisit, hVisited, hCut⟩ :=
    cutStages_of_visit hG huv hStages job x (some pe)
  -- the second side has the group of the parent as well, or gets it for the next sibling
  have hGiven : job.visitAll after pe' v
      (st'.given v (job.groupFor (some pe) st.host.scene u)) = job.visitAll after pe' v st' := by
    rcases hOthers with hSome | hNone
    · rw [hGroups]
      exact visitAll_given job hSome pe' hStages.right_willing hStages.scenes.right_forest hv
    · rw [hNone, Stage.given_nil]
  have hOwn : CutPairs G R answers x (withNodes x created) [] st₁
      (st'.given v (job.groupFor (some pe) st.host.scene u)) :=
    ⟨R, z, _, [], withNodes x created, [], fun _ _ => id, (List.append_nil _).symm,
      (withNodes_spec hVisited.length_eq).1, head?_withNodes hVisited.last_eq, .nil, hCut⟩
  have hEnd := hOwn.visitAll hG huv job after hParent
  unfold CutVisits
  simp only [run_visitAll_cons, hVisit, allWithNodes_cons hVisited.length_eq]
  simp only [hGiven, List.nil_append] at hEnd
  exact hEnd

/-- The tree is left out below an element before its later siblings. -/
theorem cut_inside (huv : G.Under R u v) (hStages : TwinStages G R answers extra st st')
    {c c' : Element}
    (hChild : CutVisit G R answers x c c' (job.visit c (some pe) u st)
      (job.visit c' (some pe') v st')) (after : List Element) :
    CutVisits G R answers x (c :: after) (c' :: after) (job.visitAll (c :: after) pe u st)
      (job.visitAll (c' :: after) pe' v st') := by
  obtain ⟨hu, hv⟩ := hStages.scenes.under_contains hG huv
  obtain ⟨_, created, st₁, hVisit, -, hVisited⟩ :=
    exists_visit job c (some pe) hStages.left_willing hStages.scenes.left_forest hu
  obtain ⟨_, created', st₁', hVisit', -, hVisited'⟩ :=
    exists_visit job c' (some pe') hStages.right_willing hStages.scenes.right_forest hv
  have hEnd := hChild.visitAll hG huv job after hParent
  unfold CutVisits
  simp only [run_visitAll_cons, hVisit, hVisit', allWithNodes_cons hVisited.length_eq,
    allWithNodes_cons hVisited'.length_eq] at hEnd ⊢
  exact hEnd

end Siblings

/-- An element around the tree is converted alike on both sides. -/
theorem cut_around (hG : G.Level) (huv : G.Under R u v)
    (hStages : TwinStages G R answers extra st st') {e e' : Element} (hHead : SameHead e e')
    {pe pe' : Option Element}
    (hParent : Option.Rel AlikeStyles (pe.map job.sheet.declared) (pe'.map job.sheet.declared))
    (hChildren : ∀ {R : NodeId → NodeId → Prop} {extra : List Warning} {u v : NodeId}
      {st st' : Stage}, G.Under R u v → TwinStages G R answers extra st st' →
      CutVisits G R answers x e.children e'.children (job.visitAll e.children e u st)
        (job.visitAll e'.children e' v st')) :
    CutVisit G R answers x e e' (job.visit e pe u st) (job.visit e' pe' v st') := by
  have hAkin := hHead.akin job.sheet
  obtain ⟨R₁, w, w', st₁, st₁', hWidget, hWidget', hMono, hRoot, hContent, hBuilt⟩ :=
    twins_widgetOf hG ⟨rfl, rfl, rfl⟩ huv hStages hHead.lookalike
  have hSubject := hAkin.subject ⟨rfl, rfl, rfl⟩ hRoot (huv.mono hMono) hParent
  have hThin := hAkin.thinned (job.subject _ pe w.root u) (job.subject _ pe' w'.root v) ⟨rfl, rfl⟩
    ⟨rfl, rfl⟩
  have hStyled := Subject.twins_cascade hG hSubject hThin hBuilt
  have hBelow := hChildren (Or.inl hContent) hStyled
  obtain ⟨tag, space, attributes, children, text⟩ := e
  obtain ⟨tag', space', attributes', children', text'⟩ := e'
  unfold CutVisit
  rw [run_visit hWidget, run_visit hWidget']
  simp only [withNodes_concat]
  exact hBelow.after hMono (.cons ⟨hHead, hRoot⟩ .nil)

/-- Two documents, of which the second lacks a tree, are converted alike around it. -/
theorem cut_visit {e e' : Element} (hPrunes : Prunes x e e') (hG : G.Level) (huv : G.Under R u v)
    (hStages : TwinStages G R answers extra st st') {pe pe' : Option Element}
    (hParent : Option.Rel AlikeStyles (pe.map job.sheet.declared) (pe'.map job.sheet.declared)) :
    CutVisit G R answers x e e' (job.visit e pe u st) (job.visit e' pe' v st') := by
  induction hPrunes generalizing R extra u v st st' pe pe' with
  | @here tag space attributes before after text hOthers =>
    have hHead : SameHead (.mk tag space attributes (before ++ x :: after) text)
        (.mk tag space attributes (before ++ after) text) := ⟨rfl, rfl, rfl, rfl⟩
    have hStyle := (hHead.akin job.sheet).reads.style
    refine cut_around hG huv hStages hHead hParent fun huv hStages =>
      cut_before hG hStyle huv hStages before fun huv hStages hSettled =>
        cut_here hG hStyle huv hStages ?_
    by_cases hAfter : after = []
    · exact Or.inr (hSettled fun hBefore => hOthers (by rw [hBefore, hAfter]; rfl))
    · exact Or.inl hAfter
  | @inside tag space attributes before after text c c' _ ih =>
    have hHead : SameHead (.mk tag space attributes (before ++ c :: after) text)
        (.mk tag space attributes (before ++ c' :: after) text) := ⟨rfl, rfl, rfl, rfl⟩
    have hStyle := (hHead.akin job.sheet).reads.style
    exact cut_around hG huv hStages hHead hParent fun huv hStages =>
      cut_before hG hStyle huv hStages before fun huv hStages _ =>
        cut_inside hG hStyle huv hStages (ih huv hStages (.some hStyle)) after

end Around

/-! ## Whole documents -/

/-- The warnings of an element, given its node in a scene. -/
def Job.warningsAt (job : Job) (answers : String → Option Sprite) (t : Scene)
    (p : Element × NodeId) : List Warning :=
  job.warningsFor answers (t.parentSize p.2) p.1

/-- The same element in two conversions: its nodes are in corresponding places of the trees, of
which the first lacks the branch `z`, and it gives the same warnings. -/
structure Remains (job : Job) (answers : String → Option Sprite) (t t' : Scene) (z a a' : NodeId)
    (p q : Element × NodeId) : Prop where
  head : SameHead p.1 q.1
  node : Scene.Matched (t.without z) t' a a' p.2 q.2
  warnings_eq : job.warningsAt answers t p = job.warningsAt answers t' q

/-- Two conversions, of which the second lacks the tree `x`. The elements of `x` stand together, the
first of them at the node `z`. Without this node and all nodes below it, the trees of both
conversions are the same up to keys. All other elements remain, and the warnings on both sides are
those of the elements. -/
def SameWithout (job : Job) (answers : String → Option Sprite) (x root root' : Element)
    (run run' : Result × Workshop) : Prop :=
  let t := run.2.host.scene
  let t' := run'.2.host.scene
  let pairs := withNodes root run.1.created
  let pairs' := withNodes root' run'.1.created
  pairs.map Prod.fst = root.elements ∧ pairs'.map Prod.fst = root'.elements ∧
    run.1.warnings = pairs.flatMap (job.warningsAt answers t) ∧
    run'.1.warnings = pairs'.flatMap (job.warningsAt answers t') ∧
    ∃ before own after z a a', pairs = before ++ own ++ after ∧
      own.map Prod.fst = x.elements ∧ own.head? = some (x, z) ∧
      run.1.root? = some a ∧ run'.1.root? = some a' ∧
      Scene.SameTree (t.without z) t' a a' ∧
      List.Forall₂ (Remains job answers t t' z a a') (before ++ after) pairs'

/-- The nodes of the roots are related. -/
theorem related_roots {R : NodeId → NodeId → Prop} {x root root' : Element}
    (hPrunes : Prunes x root root') {before own after pairs' : List (Element × NodeId)}
    {z a a' : NodeId} (hHead : (before ++ own ++ after).head? = some (root, a))
    (hHead' : pairs'.head? = some (root', a')) (hOwn : own.head? = some (x, z))
    (hKept : List.Forall₂ (Kept R) (before ++ after) pairs') : R a a' := by
  cases before with
  | nil =>
    -- the root would be left out
    rw [List.nil_append, List.head?_append, hOwn] at hHead
    cases hHead
    exact absurd hPrunes.elementCount_lt (Nat.lt_irrefl _)
  | cons p before =>
    cases hHead
    cases hKept with
    | cons hFirst _ =>
      cases hHead'
      exact hFirst.node

/-- A host that arranges nothing stays as it is. -/
theorem rebuild_of_plain {h : Host} (hPlain : h.arranges = false) (node : NodeId) :
    (Host.rebuild node h).2 = h := by
  simp only [Host.rebuild, hPlain, Bool.false_eq_true, if_false]

/-- The branch is not one of the nodes right below the top, so these remain without it. -/
theorem CutStages.children_top {G : Grounds} {R : NodeId → NodeId → Prop}
    {answers : String → Option Sprite} {extra : List Warning} {z a a' : NodeId} {st st' : Stage}
    (h : CutStages G R answers extra z st st') (hG : G.Level)
    (hTop : st.host.scene.children G.leftTop = G.left.children G.leftTop ++ [a]) (hab : R a a') :
    (st.host.scene.without z).children G.leftTop = G.left.children G.leftTop ++ [a] := by
  have hTwins : Scene.Twins G R (st.host.scene.without z) st'.host.scene := h.twins.scenes
  obtain ⟨news, hGrown⟩ := hTwins.left_grown
  have hOut := (Scene.outside_of_contains h.forest (hGrown.contains hG.left_live)).1
  rw [Scene.children_without h.forest, if_neg hOut, hTop]
  refine List.filter_eq_self.mpr fun id hId => ?_
  have hThere : (st.host.scene.without z).contains id = true := by
    rcases List.mem_append.mp hId with hOld | hNew
    · exact hGrown.contains (hG.left_forest.contains_child hOld)
    · rw [List.mem_singleton.mp hNew]
      exact hTwins.left_contains hab
  have hNe : id ≠ z := by
    rintro rfl
    exact (Scene.outside_of_contains h.forest hThere).1 (h.forest.branch_below h.live).start_mem
  simpa using hNe

/-- A document and the same document without a tree are converted alike but for this tree, if groups
are not arranged and the element above the tree has other children. -/
theorem sameWithout_convert (c : Converter) {x root root' : Element}
    (hPrunes : Prunes x root root') (sheet : Sheet) (canvas : Size Single) {s : Scene}
    {parent : NodeId} (hs : s.Reachable) (hLive : s.contains parent = true) :
    let job : Job := ⟨c.settings.lettering, c.rules, sheet, canvas⟩
    let host : Host := { Host.ofScene s with arranges := false }
    SameWithout job c.finder.answer x root root'
      (Workshop.convert ⟨c, host⟩ root sheet parent canvas)
      (Workshop.convert ⟨c, host⟩ root' sheet parent canvas) := by
  intro job host
  have hw : (Stage.mk host c.finder []).host.Willing := Host.willing_ofScene s
  have hG : Grounds.Level ⟨s, s, parent, parent⟩ := ⟨hs.forest, hs.forest, hLive, hLive, rfl⟩
  have hStart : TwinStages ⟨s, s, parent, parent⟩ (fun _ _ => False) c.finder.answer []
      ⟨host, c.finder, []⟩ ⟨host, c.finder, []⟩ :=
    ⟨hw, hw, rfl, Scene.twins_start hG rfl, fun _ => rfl, fun _ => rfl, ahead_refl []⟩
  have hNone : Option.Rel AlikeStyles ((none : Option Element).map job.sheet.declared)
      ((none : Option Element).map job.sheet.declared) := .none
  obtain ⟨R, z, extra, before, own, after, -, hPairs, hOwn, hOwnHead, hKept, hCut⟩ :=
    cut_visit hPrunes hG (Or.inr ⟨rfl, rfl⟩) hStart hNone
  obtain ⟨a, created, st, hVisit, hOwner, hVisited⟩ := exists_visit job root none hw hs.forest hLive
  obtain ⟨a', created', st', hVisit', hOwner', hVisited'⟩ :=
    exists_visit job root' none hw hs.forest hLive
  have hAccount := accounts_visit job root none hw hs.forest hLive
  have hAccount' := accounts_visit job root' none hw hs.forest hLive
  rw [hVisit] at hAccount hPairs hCut
  rw [hVisit'] at hAccount' hKept hCut
  -- nothing is arranged, so what the visits leave is what is found in the end
  have hRun := run_convert (w := ⟨c, host⟩) hVisit hVisited.last_eq
  have hRun' := run_convert (w := ⟨c, host⟩) hVisit' hVisited'.last_eq
  rw [rebuild_of_plain hOwner.2] at hRun
  rw [rebuild_of_plain hOwner'.2] at hRun'
  have hTwins : Scene.Twins ⟨s, s, parent, parent⟩ R (st.host.scene.without z) st'.host.scene :=
    hCut.twins.scenes
  have hRemains := hCut.forest.without hCut.live
  have hRoots : R a a' := by
    refine related_roots hPrunes ?_ (head?_withNodes hVisited'.last_eq) hOwnHead hKept
    rw [← hPairs]
    exact head?_withNodes hVisited.last_eq
  have hTop := hCut.children_top hG (hVisited.placed.grown.children_top hLive) hRoots
  have hRenames := hTwins.renames hG hTop hRoots
  obtain ⟨hElements, -⟩ := withNodes_spec hVisited.length_eq
  obtain ⟨hElements', -⟩ := withNodes_spec hVisited'.length_eq
  rw [hRun, hRun']
  refine ⟨hElements, hElements', hAccount.warnings_eq, hAccount'.warnings_eq, before, own, after, z,
    a, a', hPairs, hOwn, hOwnHead, hVisited.last_eq, hVisited'.last_eq,
    hRenames.sameTree hRemains hTwins.right_forest, hKept.imp fun p q hpq => ?_⟩
  have hSizes : st.host.scene.parentSize p.2 = st'.host.scene.parentSize q.2 := by
    rw [← Scene.parentSize_without hCut.forest hCut.live (hTwins.left_contains hpq.node)]
    exact hTwins.parentSize_eq hG hpq.node
  exact ⟨hpq.head, hRenames.matched hRemains hTwins.right_forest hpq.node,
    (hpq.head.warningsFor_eq job _ _).trans (congrArg (job.warningsFor _ · q.1) hSizes)⟩

/-- A row lays out a label and a slider; without the label, the slider is the first of its
children. -/
theorem sameWithout_convert_row :
    let canvas := Scene.empty.nodes.nextKey
    let s := Scene.withCanvas 800 600
    let c := Converter.ofFinder default (.ofSource Asset.Shelf.empty.source)
    let style := Catalog.ofList [⟨"style", "flex-direction: row; padding: 10px"⟩]
    let root := Element.mk "Row" none style [.bare "Label", .bare "Slider"] none
    let root' := Element.mk "Row" none style [.bare "Slider"] none
    let job : Job := ⟨c.settings.lettering, c.rules, Catalog.empty, ⟨800, 600⟩⟩
    let host : Host := { Host.ofScene s with arranges := false }
    Prunes (.bare "Label") root root' ∧ s.Reachable ∧ s.contains canvas = true ∧
      SameWithout job c.finder.answer (.bare "Label") root root'
        (Workshop.convert ⟨c, host⟩ root Catalog.empty canvas ⟨800, 600⟩)
        (Workshop.convert ⟨c, host⟩ root' Catalog.empty canvas ⟨800, 600⟩) := by
  intro canvas s c style root root' job host
  have hPrunes : Prunes (.bare "Label") root root' :=
    @Prunes.here _ _ _ _ [] [.bare "Slider"] _ nofun
  have hs : s.Reachable := ⟨[], Or.inr ⟨800, 600, rfl⟩⟩
  have hLive : s.contains canvas = true := rfl
  exact ⟨hPrunes, hs, hLive, sameWithout_convert c hPrunes Catalog.empty ⟨800, 600⟩ hs hLive⟩

end AnchoredUi.Conversion
