import AnchoredUi.Proofs.Conversion.Lookalike
import AnchoredUi.Proofs.Conversion.Standing
import AnchoredUi.Proofs.SceneGraph.Twin
import AnchoredUi.Proofs.SceneGraph.TwinHost
import AnchoredUi.Proofs.Styling.Reading
import AnchoredUi.Proofs.Styling.TwinCascade

/-!
# Twin conversions

Two documents are converted, each below a node of its own and by a sheet of its own. If a
conversion cannot tell their elements apart, but perhaps by declarations that are rejected, then
the trees of nodes are the same up to keys, and each rejected declaration that is missing on the
second side gives one more warning on the first.

A document that is converted twice is a case of this. The second conversion meets a scene that holds
the nodes of the first one, and a finder that remembers its sprites; neither makes a difference. The
first conversion is compared with the second one as it runs. For this it has to be known what the
first one leaves behind, and that follows from comparing it with itself.

* `Akin`, `AkinTree`: elements, and trees of elements, that are converted alike.
* `twins_visit`, `twins_visitAll`: the conversion of trees.
* `twins_convert`: the conversion of documents, with their groups arranged.
* `sameTree_convert_twice`: the trees of a document that is converted twice.
-/

namespace AnchoredUi.Conversion

open Number Plane SceneGraph Sprite Markup Style Kind Widget Styling

/-! ## Trees of elements -/

/-- Two elements that conversions by two sheets cannot tell apart, but by the faults of some
declarations that are rejected on the first side and missing on the second. -/
structure Akin (sheet sheet' : Sheet) (e e' : Element) (fs : List StyleFault) : Prop where
  look : Lookalike e e'
  reads : ReadsAlike sheet sheet' e e'
  thinned : ∀ x y : Subject, SubjectFor sheet e x → SubjectFor sheet' e' y →
    Subject.Thinned x.declarations y.declarations fs

mutual

/-- Two trees of elements that are akin one by one, with the warnings that the first side gives for
the declarations that are missing on the second. -/
inductive AkinTree (sheet sheet' : Sheet) : Element → Element → List Warning → Prop
  | mk {tag tag' : String} {space space' : Option String} {attributes attributes' : Attributes}
      {children children' : List Element} {text text' : Option String} {fs : List StyleFault}
      {ws : List Warning}
      (hHead : Akin sheet sheet' (.mk tag space attributes children text)
        (.mk tag' space' attributes' children' text') fs)
      (hBelow : AkinTrees sheet sheet' children children' ws) :
      AkinTree sheet sheet' (.mk tag space attributes children text)
        (.mk tag' space' attributes' children' text')
        (fs.map (Subject.styleWarning (.mk tag space attributes children text)) ++ ws)

/-- Trees of elements that are akin tree by tree. -/
inductive AkinTrees (sheet sheet' : Sheet) : List Element → List Element → List Warning → Prop
  | nil : AkinTrees sheet sheet' [] [] []
  | cons {e e' : Element} {es es' : List Element} {ws ws' : List Warning}
      (hFirst : AkinTree sheet sheet' e e' ws) (hOthers : AkinTrees sheet sheet' es es' ws') :
      AkinTrees sheet sheet' (e :: es) (e' :: es') (ws ++ ws')

end

/-! ### Documents that differ in their sheets only -/

theorem lookalike_refl (e : Element) : Lookalike e e := ⟨rfl, rfl, rfl, fun _ _ => rfl⟩

/-- Elements that look alike and have the same size attributes are akin, if the same rules apply to
them. -/
theorem akin_of_same {sheet sheet' : Sheet} {e e' : Element} (hLook : Lookalike e e')
    (hSizes : ∀ p ∈ Subject.sizeAttributes, e.attr? p.1 = e'.attr? p.1)
    (hMatching : sheet.matching e = sheet'.matching e') : Akin sheet sheet' e e' [] where
  look := hLook
  reads := by
    refine ⟨?_, fun x y hx hy p hp => ?_⟩
    · unfold Sheet.declared Sheet.computed
      rw [hMatching, hLook.inlineStyle_eq]
      exact alikeStyles_refl _
    · unfold Subject.readableSize? Subject.declaredSize? Sheet.lookup
      rw [hx.1, hx.2, hy.1, hy.2, hSizes p hp, hLook.inlineStyle_eq, hMatching]
  thinned x y hx hy := by
    have hAttributes : Subject.sizeAttributes.filterMap (fun p =>
        (e.attr? p.1).map fun v => (⟨p.1, v⟩ : Declaration)) =
        Subject.sizeAttributes.filterMap fun p => (e'.attr? p.1).map fun v => ⟨p.1, v⟩ :=
      List.filterMap_congr fun p hp => by rw [hSizes p hp]
    have hEq : x.declarations = y.declarations := by
      unfold Subject.declarations
      rw [hx.1, hx.2, hy.1, hy.2, hLook.inlineStyle_eq, hMatching, hAttributes]
    rw [hEq]
    exact Subject.thinned_refl y.declarations

section Elements

variable {sheet sheet' : Sheet} (fs : Element → List StyleFault)

mutual

/-- A document is akin to itself under another sheet if all of its elements are. -/
theorem akinTree_of_elements {root : Element}
    (h : ∀ e ∈ root.elements, Akin sheet sheet' e e (fs e)) :
    AkinTree sheet sheet' root root
      (root.elements.flatMap fun e => (fs e).map (Subject.styleWarning e)) := by
  obtain ⟨tag, space, attributes, children, text⟩ := root
  rw [Element.elements, List.flatMap_cons]
  exact .mk (h _ List.mem_cons_self)
    (akinTrees_of_elements fun e he => h e (List.mem_cons_of_mem _ he))

theorem akinTrees_of_elements {es : List Element}
    (h : ∀ e ∈ Element.elementsOf es, Akin sheet sheet' e e (fs e)) :
    AkinTrees sheet sheet' es es
      ((Element.elementsOf es).flatMap fun e => (fs e).map (Subject.styleWarning e)) := by
  cases es with
  | nil => exact .nil
  | cons e es =>
    rw [Element.elementsOf, List.flatMap_append]
    exact .cons (akinTree_of_elements fun d hd => h d (List.mem_append_left _ hd))
      (akinTrees_of_elements fun d hd => h d (List.mem_append_right _ hd))

end

end Elements

theorem akin_refl (sheet : Sheet) (e : Element) : Akin sheet sheet e e [] :=
  akin_of_same (lookalike_refl e) (fun _ _ => rfl) rfl

mutual

theorem akinTree_refl (sheet : Sheet) (root : Element) : AkinTree sheet sheet root root [] := by
  obtain ⟨tag, space, attributes, children, text⟩ := root
  exact .mk (akin_refl sheet _) (akinTrees_refl sheet children)

theorem akinTrees_refl (sheet : Sheet) (es : List Element) : AkinTrees sheet sheet es es [] := by
  cases es with
  | nil => exact .nil
  | cons e es => exact .cons (akinTree_refl sheet e) (akinTrees_refl sheet es)

end

/-! ## Visits -/

/-- Two jobs that differ in their sheets only. -/
structure Job.SameBut (job job' : Job) : Prop where
  lettering_eq : job.lettering = job'.lettering
  rules_eq : job.rules = job'.rules
  canvas_eq : job.canvas = job'.canvas

/-- The results of two visits on twin stages: what is new is related, and so is what was related
before; the nodes of the elements are related one by one. -/
def TwinNodes (G : Grounds) (R : NodeId → NodeId → Prop) (answers : String → Option Sprite)
    (extra : List Warning) (run run' : List NodeId × Stage) : Prop :=
  ∃ R', (∀ a b, R a b → R' a b) ∧ List.Forall₂ R' run.1 run'.1 ∧
    TwinStages G R' answers extra run.2 run'.2

section Visits

variable {G : Grounds} {answers : String → Option Sprite} {job job' : Job}

theorem Akin.subject (hJobs : job.SameBut job') {R : NodeId → NodeId → Prop} {u v : NodeId}
    {e e' : Element} {fs : List StyleFault} (h : Akin job.sheet job'.sheet e e' fs) {a b : NodeId}
    (hab : R a b) (huv : G.Under R u v) {pe pe' : Option Element}
    (hParent : Option.Rel AlikeStyles (pe.map job.sheet.declared) (pe'.map job'.sheet.declared)) :
    Subject.Twin G R (job.subject e pe a u) (job'.subject e' pe' b v) where
  node := hab
  label_eq := h.look.label_eq
  canvas_eq := hJobs.canvas_eq
  fontSize_eq := congrArg Lettering.size hJobs.lettering_eq
  isRoot_eq := by
    cases pe <;> cases pe' <;> first | rfl | cases hParent
  parent := ⟨u, v, rfl, rfl, huv⟩
  style := h.reads.style
  parentStyle := hParent
  size_eq := h.reads.size_eq _ _ ⟨rfl, rfl⟩ ⟨rfl, rfl⟩

theorem twins_widgetOf (hG : G.Level) (hJobs : job.SameBut job') {R : NodeId → NodeId → Prop}
    {u v : NodeId} (huv : G.Under R u v) {extra : List Warning} {st st' : Stage}
    (hStages : TwinStages G R answers extra st st') {e e' : Element} (hLook : Lookalike e e') :
    ∃ R' w w' st₁ st₁', job.widgetOf e u st = (some w, st₁) ∧
      job'.widgetOf e' v st' = (some w', st₁') ∧
      (∀ a b, R a b → R' a b) ∧ R' w.root w'.root ∧ R' w.content w'.content ∧
      TwinStages G R' answers extra st₁ st₁' := by
  have hKind : kindOf job.rules e = kindOf job'.rules e' := by
    rw [hLook.kindOf_eq, hJobs.rules_eq]
  have hBlueprints : ∀ kind, blueprint kind job.lettering e = blueprint kind job'.lettering e' :=
    fun kind => by rw [hLook.blueprint_eq, hJobs.lettering_eq]
  cases hBlueprint : blueprint (kindOf job.rules e) job.lettering e with
  | ok b =>
    have hBlueprint' : blueprint (kindOf job'.rules e') job'.lettering e' = .ok b := by
      rw [← hBlueprints, ← hKind, hBlueprint]
    obtain ⟨R', w, w', st₁, st₁', hBuild, hBuild', hMono, hRoot, hContent, hNotes, hAfter⟩ :=
      twins_build hG huv hStages b (nodeName e)
    rw [← build_of_blueprint_ok hBlueprint] at hBuild
    rw [hLook.nodeName_eq, ← build_of_blueprint_ok hBlueprint'] at hBuild'
    have hRun' := run_widgetOf_ok hBuild'
    rw [← hNotes] at hRun'
    exact ⟨R', w, w', _, _, run_widgetOf_ok hBuild, hRun', hMono, hRoot, hContent,
      hAfter.raise _⟩
  | error f =>
    have hBlueprint' : blueprint (kindOf job'.rules e') job'.lettering e' = .error f := by
      rw [← hBlueprints, ← hKind, hBlueprint]
    -- the fault is reported on both sides, and both elements become containers
    have hReported := hStages.raise [⟨some e.label, .notBuilt (kindOf job.rules e) f⟩]
    obtain ⟨R', w, w', st₁, st₁', hBuild, hBuild', hMono, hRoot, hContent, hNotes, hAfter⟩ :=
      twins_build hG huv hReported container (nodeName e)
    rw [← build_of_blueprint_ok (blueprint_container job.lettering e)] at hBuild
    rw [hLook.nodeName_eq, hLook.label_eq, hKind,
      ← build_of_blueprint_ok (blueprint_container job'.lettering e')] at hBuild'
    have hRun' := run_widgetOf_error (build_of_blueprint_error hBlueprint' v st') hBuild'
    rw [← hNotes] at hRun'
    exact ⟨R', w, w', _, _, run_widgetOf_error (build_of_blueprint_error hBlueprint u st) hBuild,
      hRun', hMono, hRoot, hContent, hAfter.raise _⟩

mutual

/-- Akin trees are converted alike below corresponding nodes. -/
theorem twins_visit (hG : G.Level) (hJobs : job.SameBut job') {R : NodeId → NodeId → Prop}
    {u v : NodeId} (huv : G.Under R u v) {extra : List Warning} {st st' : Stage}
    (hStages : TwinStages G R answers extra st st') {e e' : Element} {ws : List Warning}
    (hTree : AkinTree job.sheet job'.sheet e e' ws) {pe pe' : Option Element}
    (hParent : Option.Rel AlikeStyles (pe.map job.sheet.declared) (pe'.map job'.sheet.declared)) :
    TwinNodes G R answers (extra ++ ws) (job.visit e pe u st) (job'.visit e' pe' v st') := by
  obtain ⟨hHead, hBelow⟩ := hTree
  obtain ⟨R₁, w, w', st₁, st₁', hWidget, hWidget', hMono, hRoot, hContent, hBuilt⟩ :=
    twins_widgetOf hG hJobs huv hStages hHead.look
  have hSubject := hHead.subject hJobs hRoot (huv.mono hMono) hParent
  have hThin := hHead.thinned (job.subject _ pe w.root u) (job'.subject _ pe' w'.root v) ⟨rfl, rfl⟩
    ⟨rfl, rfl⟩
  have hStyled := Subject.twins_cascade hG hSubject hThin hBuilt
  obtain ⟨R₂, hMono₂, hNodes, hAfter⟩ :=
    twins_visitAll hG hJobs (Or.inl hContent) hStyled hBelow hHead.reads.style
  rw [run_visit hWidget, run_visit hWidget']
  refine ⟨R₂, fun a b hab => hMono₂ a b (hMono a b hab), ?_, ?_⟩
  · exact List.rel_append hNodes (.cons (hMono₂ _ _ hRoot) .nil)
  · rw [← List.append_assoc]
    exact hAfter

theorem twins_visitAll (hG : G.Level) (hJobs : job.SameBut job') {R : NodeId → NodeId → Prop}
    {u v : NodeId} (huv : G.Under R u v) {extra : List Warning} {st st' : Stage}
    (hStages : TwinStages G R answers extra st st') {es es' : List Element} {ws : List Warning}
    (hTrees : AkinTrees job.sheet job'.sheet es es' ws) {pe pe' : Element}
    (hParent : AlikeStyles (job.sheet.declared pe) (job'.sheet.declared pe')) :
    TwinNodes G R answers (extra ++ ws) (job.visitAll es pe u st)
      (job'.visitAll es' pe' v st') := by
  cases hTrees with
  | nil =>
    rw [List.append_nil]
    exact ⟨R, fun _ _ => id, .nil, hStages⟩
  | cons hFirst hOthers =>
    have hSome : Option.Rel AlikeStyles ((some pe).map job.sheet.declared)
        ((some pe').map job'.sheet.declared) := .some hParent
    obtain ⟨R₁, hMono, hNodes, hStages₁⟩ := twins_visit hG hJobs huv hStages hFirst hSome
    obtain ⟨R₂, hMono₂, hNodes₂, hAfter⟩ :=
      twins_visitAll hG hJobs (huv.mono hMono) hStages₁ hOthers hParent
    rw [run_visitAll_cons, run_visitAll_cons]
    refine ⟨R₂, fun a b hab => hMono₂ a b (hMono a b hab), ?_, ?_⟩
    · exact List.rel_append (hNodes.imp hMono₂) hNodes₂
    · rw [← List.append_assoc]
      exact hAfter

end

end Visits

/-! ## Documents -/

theorem rel_getLast? {α β : Type} {Q : α → β → Prop} {as : List α} {bs : List β}
    (h : List.Forall₂ Q as bs) : Option.Rel Q as.getLast? bs.getLast? := by
  have hReverse := List.rel_reverse h
  rw [← List.head?_reverse, ← List.head?_reverse]
  generalize as.reverse = xs at hReverse ⊢
  generalize bs.reverse = ys at hReverse ⊢
  cases hReverse with
  | nil => exact .none
  | cons hHead _ => exact .some hHead

theorem twins_rebuild {G : Grounds} {R : NodeId → NodeId → Prop} {answers : String → Option Sprite}
    {extra : List Warning} {st st' : Stage} (hG : G.Level)
    (h : TwinStages G R answers extra st st') {a b : NodeId} (hab : R a b) :
    TwinStages G R answers extra { st with host := (Host.rebuild a st.host).2 }
      { st' with host := (Host.rebuild b st'.host).2 } := by
  refine h.of_does (sameOwner_rebuild a st.host) (sameOwner_rebuild b st'.host) ?_
  simp only [Host.rebuild, h.arranges_eq]
  split
  · exact Flow.twins_arrangeAll hG h.scenes hab
  · exact h.scenes

/-- What a conversion leaves behind. -/
def stageAfter (run : Result × Workshop) : Stage :=
  ⟨run.2.host, run.2.converter.finder, run.1.warnings⟩

/-- Akin documents are converted alike below nodes of the same size with the same layout group. -/
theorem twins_convert {w w' : Workshop} (hw : w.host.Willing) (hw' : w'.host.Willing)
    (hArranges : w.host.arranges = w'.host.arranges)
    (hLettering : w.converter.settings.lettering = w'.converter.settings.lettering)
    (hRules : w.converter.rules = w'.converter.rules)
    (hAnswers : ∀ address, w.converter.finder.answer address = w'.converter.finder.answer address)
    {p q : NodeId} (hG : Grounds.Level ⟨w.host.scene, w'.host.scene, p, q⟩)
    (hGroup : w.host.scene.component? LayoutGroup p = w'.host.scene.component? LayoutGroup q)
    {sheet sheet' : Sheet} {root root' : Element} {ws : List Warning}
    (hTree : AkinTree sheet sheet' root root' ws) (canvas : Size Single) :
    let run := w.convert root sheet p canvas
    let run' := w'.convert root' sheet' q canvas
    ∃ R a b, R a b ∧ run.1.root? = some a ∧ run'.1.root? = some b ∧
      run.2.host.scene.children p = w.host.scene.children p ++ [a] ∧
      List.Forall₂ R run.1.created run'.1.created ∧
      TwinStages ⟨w.host.scene, w'.host.scene, p, q⟩ R w'.converter.finder.answer ws
        (stageAfter run) (stageAfter run') := by
  have hStages : TwinStages ⟨w.host.scene, w'.host.scene, p, q⟩ (fun _ _ => False)
      w'.converter.finder.answer [] ⟨w.host, w.converter.finder, []⟩
      ⟨w'.host, w'.converter.finder, []⟩ :=
    ⟨hw, hw', hArranges, Scene.twins_start hG hGroup, hAnswers, fun _ => rfl, ahead_refl []⟩
  let job : Job := ⟨w.converter.settings.lettering, w.converter.rules, sheet, canvas⟩
  let job' : Job := ⟨w'.converter.settings.lettering, w'.converter.rules, sheet', canvas⟩
  have hJobs : job.SameBut job' := ⟨hLettering, hRules, rfl⟩
  have hNone : Option.Rel AlikeStyles ((none : Option Element).map job.sheet.declared)
      ((none : Option Element).map job'.sheet.declared) := .none
  obtain ⟨R, -, hNodes, hAfter⟩ := twins_visit hG hJobs (Or.inr ⟨rfl, rfl⟩) hStages hTree hNone
  obtain ⟨a, created, st, hVisit, -, hVisited⟩ :=
    exists_visit job root none hStages.left_willing hG.left_forest hG.left_live
  rcases hVisit' : job'.visit root' none q ⟨w'.host, w'.converter.finder, []⟩ with ⟨created', st'⟩
  rw [hVisit, hVisit'] at hNodes hAfter
  have hLasts := rel_getLast? hNodes
  rw [hVisited.last_eq] at hLasts
  cases hLast' : created'.getLast? with
  | none =>
    rw [hLast'] at hLasts
    cases hLasts
  | some b =>
    rw [hLast'] at hLasts
    obtain ⟨hab⟩ := hLasts
    rw [run_convert hVisit hVisited.last_eq, run_convert hVisit' hLast']
    refine ⟨R, a, b, hab, hVisited.last_eq, hLast', ?_, hNodes, twins_rebuild hG hAfter hab⟩
    rw [Scene.children_of_place? (place?_rebuild _ _ _)]
    exact hVisited.placed.grown.children_top hG.left_live

end AnchoredUi.Conversion

/-! ## One document, converted twice -/

namespace AnchoredUi.Conversion

open Number Plane SceneGraph Sprite Markup Style Kind Widget Styling

/-- What is left behind by a conversion on a host that refuses nothing. -/
structure LeftBehind (w w' : Workshop) (p : NodeId) : Prop where
  grown : ∃ news, Scene.Grown p news w.host.scene w'.host.scene
  willing : w'.host.Willing
  arranges_eq : w'.host.arranges = w.host.arranges
  lettering_eq : w'.converter.settings.lettering = w.converter.settings.lettering
  rules_eq : w'.converter.rules = w.converter.rules
  answer_eq : ∀ address, w'.converter.finder.answer address = w.converter.finder.answer address

theorem leftBehind_convert {w : Workshop} (hw : w.host.Willing) (hs : w.host.scene.Forest)
    {p : NodeId} (hLive : w.host.scene.contains p = true) (root : Element) (sheet : Sheet)
    (canvas : Size Single) : LeftBehind w (w.convert root sheet p canvas).2 p := by
  have hG : Grounds.Level ⟨w.host.scene, w.host.scene, p, p⟩ := ⟨hs, hs, hLive, hLive, rfl⟩
  obtain ⟨R, a, b, -, -, -, -, -, hStages⟩ :=
    twins_convert hw hw rfl rfl rfl (fun _ => rfl) hG rfl (akinTree_refl sheet root) canvas
  obtain ⟨node, created, st, hOwner, -, hRun⟩ := exists_convert w root sheet canvas hw hs hLive
  have hOwner' := hOwner.trans (sameOwner_rebuild node st.host)
  refine ⟨hStages.scenes.left_grown, hStages.left_willing, ?_, rfl, rfl, hStages.left_answer⟩
  rw [hRun]
  exact hOwner'.2

/-- Converting a document below two nodes of the same size and with the same layout group, one
after the other, gives the same warnings, and trees that are the same up to keys. -/
theorem sameTree_convert_twice (c : Converter) (root : Element) (sheet : Sheet)
    (canvas : Size Single) {s : Scene} {p q : NodeId} (hs : s.Reachable)
    (hp : s.contains p = true) (hq : s.contains q = true) (hNe : p ≠ q)
    (hSize : s.sizeOf p = s.sizeOf q)
    (hGroup : s.component? LayoutGroup p = s.component? LayoutGroup q) :
    let first := Workshop.convert ⟨c, Host.ofScene s⟩ root sheet p canvas
    let second := Workshop.convert first.2 root sheet q canvas
    let t := second.2.host.scene
    first.1.warnings = second.1.warnings ∧ first.1.count = second.1.count ∧
      ∃ a b, first.1.root? = some a ∧ second.1.root? = some b ∧ Scene.SameTree t t a b := by
  intro first second t
  have hFirst : LeftBehind ⟨c, Host.ofScene s⟩ first.2 p :=
    leftBehind_convert (Host.willing_ofScene s) hs.forest hp root sheet canvas
  obtain ⟨news, hGrown⟩ : ∃ news, Scene.Grown p news s first.2.host.scene := hFirst.grown
  have hG : Grounds.Level ⟨s, first.2.host.scene, p, q⟩ :=
    ⟨hs.forest, hGrown.forest, hp, hGrown.contains hq, by rw [hSize, hGrown.sizeOf hs.forest hq]⟩
  have hGroups : s.component? LayoutGroup p = first.2.host.scene.component? LayoutGroup q := by
    obtain ⟨e, he⟩ := Scene.find?_of_contains hq
    rw [hGroup]
    simp only [Scene.component?, Scene.components, Scene.node?, he, hGrown.kept q e he hNe.symm]
  obtain ⟨R, a, b, hab, hRoot, hRoot', hTop, hNodes, hStages⟩ :=
    twins_convert (Host.willing_ofScene s) hFirst.willing hFirst.arranges_eq.symm
      hFirst.lettering_eq.symm hFirst.rules_eq.symm (fun address => (hFirst.answer_eq address).symm)
      hG hGroups (akinTree_refl sheet root) canvas
  refine ⟨hStages.ahead.eq, hNodes.length_eq, a, b, hRoot, hRoot', ?_⟩
  -- the nodes of the first tree are still as they were when the second one was compared with them
  have hRenames := hStages.scenes.renames hG hTop hab
  obtain ⟨news', hMore⟩ := hStages.scenes.right_grown
  have hSame : ∀ {x y}, R x y → t.nodes.find? x = first.2.host.scene.nodes.find? x := by
    intro x y hxy
    obtain ⟨e, -, he, -⟩ := hStages.scenes.entry hxy
    have hNew : s.contains x = false := hStages.scenes.left_fresh hxy
    have hId : x ≠ q := by
      rintro rfl
      rw [hNew] at hq
      cases hq
    exact (hMore.kept x e he hId).trans he.symm
  exact (hRenames.later hSame).sameTree hMore.forest hMore.forest

/-- A label is converted below two new children of a canvas. -/
theorem sameTree_convert_twice_label :
    let canvas := Scene.empty.nodes.nextKey
    let s₁ := Operation.runAll [.create "Left" canvas] (Scene.withCanvas 800 600)
    let s := Operation.runAll [.create "Left" canvas, .create "Right" canvas]
      (Scene.withCanvas 800 600)
    let p := (Scene.withCanvas 800 600).nodes.nextKey
    let q := s₁.nodes.nextKey
    let c := Converter.ofFinder default (.ofSource Asset.Shelf.empty.source)
    s.Reachable ∧ s.contains p = true ∧ s.contains q = true ∧ p ≠ q ∧ s.sizeOf p = s.sizeOf q ∧
      s.component? LayoutGroup p = s.component? LayoutGroup q ∧
      let first := Workshop.convert ⟨c, Host.ofScene s⟩ (.bare "Label") Catalog.empty p ⟨800, 600⟩
      let second := Workshop.convert first.2 (.bare "Label") Catalog.empty q ⟨800, 600⟩
      let t := second.2.host.scene
      first.1.warnings = second.1.warnings ∧ first.1.count = second.1.count ∧
        ∃ a b, first.1.root? = some a ∧ second.1.root? = some b ∧ Scene.SameTree t t a b := by
  intro canvas s₁ s p q c
  have hs : s.Reachable :=
    ⟨[.create "Left" canvas, .create "Right" canvas], Or.inr ⟨800, 600, rfl⟩⟩
  have hp : s.contains p = true := rfl
  have hq : s.contains q = true := rfl
  have hNe : p ≠ q := by decide
  have hSize : s.sizeOf p = s.sizeOf q := rfl
  have hGroup : s.component? LayoutGroup p = s.component? LayoutGroup q := rfl
  exact ⟨hs, hp, hq, hNe, hSize, hGroup,
    sameTree_convert_twice c (.bare "Label") Catalog.empty ⟨800, 600⟩ hs hp hq hNe hSize hGroup⟩

end AnchoredUi.Conversion
