import AnchoredUi.Proofs.Conversion.Standing
import AnchoredUi.Proofs.Styling.Complaint
import AnchoredUi.Proofs.Widget.Text

/-!
# The account of warnings

The warnings of a conversion, in their order, are those of the elements of the document, parents
before their children: what is reported about the widget of the element, and then what is reported
of its declarations, the weakest first. What an element gives depends on the element, on the rules
and on the size of its parent; so no warning is lost, repeated or made up elsewhere.

The nodes come from the conversion with children before their parents, and the account has parents
first; `withNodes` brings the two together.

* `Job.warningsFor`: the warnings of one element.
* `accounts_visit`, `accounts_visitAll`: the warnings of trees.
* `warnings_convert`: the warnings of a document.
-/

namespace AnchoredUi.Conversion

open Number Plane SceneGraph Sprite Markup Style Kind Widget Styling

/-! ## The warnings of one element -/

/-- What is reported about the widget of an element: an attribute that makes no sense, else an
element of no known kind, or a picture that is missing or a placeholder. -/
def Job.widgetWarnings (job : Job) (answers : String → Option Sprite) (e : Element) :
    List Warning :=
  match blueprint (kindOf job.rules e) job.lettering e with
  | .error f => [⟨some e.label, .notBuilt (kindOf job.rules e) f⟩]
  | .ok _ =>
    match kindOf job.rules e with
    | .unrecognized => [⟨none, .unrecognized e.tag⟩]
    | .image =>
      match pictureOf? e with
      | some address => (pictureNotes address (answers address)).map fun n => ⟨none, n⟩
      | none => []
    | _ => []

theorem widgetWarnings_eq (job : Job) (answers : String → Option Sprite) (e : Element) :
    job.widgetWarnings answers e = job.buildWarnings answers e := by
  unfold Job.widgetWarnings Job.buildWarnings
  cases hKind : kindOf job.rules e with
  | image =>
    simp only [blueprint, Blueprint.notesFor, image, addressNotes, List.nil_append]
    cases pictureOf? e <;> rfl
  | slider =>
    simp only [blueprint, slider]
    cases sliderOf e <;> rfl
  | dropdown =>
    simp only [blueprint, dropdown]
    cases chosen e (options e) <;> rfl
  | _ => rfl

/-- The declarations of an element: those of the matching rules, of the `style` attribute, and the
attributes `width` and `height`. -/
def declarationsOf (sheet : Sheet) (e : Element) : List Declaration :=
  (sheet.matching e).flatMap (fun r => r.declarations.entries) ++ (Sheet.inlineStyle e).entries ++
    ["width", "height"].filterMap fun name => (e.attr? name).map fun v => ⟨name, v⟩

/-- The warnings of an element whose parent has the given size. -/
def Job.warningsFor (job : Job) (answers : String → Option Sprite) (parentSize : Size Single)
    (e : Element) : List Warning :=
  let around : Surroundings := ⟨parentSize, job.canvas, job.lettering.size⟩
  let font := (widgetText? ((job.plan e).stepsFor answers)).map TextBlock.fontSize
  job.widgetWarnings answers e ++
    (complaints answers around font (declarationsOf job.sheet e)).map fun c => ⟨some e.label, c⟩

/-- A widget that is built and styled gives the warnings of its element. -/
theorem tells_dressed {job : Job} {e : Element} {u : NodeId} {st st₁ : Stage} {w : Built}
    (hw : st.host.Willing) (hLive : st.host.scene.contains u = true)
    (hBuilds : job.Builds e u st w st₁) (parentElement : Option Element) :
    let st₂ := ((job.subject e parentElement w.root u).cascade st₁).2
    st₂.warnings = st.warnings ++
        job.warningsFor st.finder.answer (st₂.host.scene.parentSize w.root) e ∧
      ∀ a, st₂.finder.answer a = st.finder.answer a := by
  obtain ⟨nodes, hLaid, hFurnished, hRoot, -⟩ := hBuilds.tree
  let x := job.subject e parentElement w.root u
  have hAnswers := funext hBuilds.answer_eq
  have hRootLive : st₁.host.scene.contains x.node = true := by
    rw [show x.node = w.root from rfl, hRoot]
    exact hLaid.live .root
  have hFont : x.font? st₁.host.scene =
      (widgetText? ((job.plan e).stepsFor st.finder.answer)).map TextBlock.fontSize := by
    rw [← textOf?_furnished hLaid hFurnished, ← hRoot]
    rfl
  have hTells := Subject.tells_cascade (hBuilds.owner.willing hw) hLaid.grown.forest hRootLive
    (x := x) rfl (hLaid.grown.contains hLive)
  have hParent : (x.cascade st₁).2.host.scene.parentSize w.root =
      st₁.host.scene.parentSize w.root :=
    Subject.parentSize_of_touches (Subject.keeps_cascade x st₁).touches hLaid.grown.forest
  rw [hAnswers, hFont] at hTells
  refine ⟨?_, fun a => (hTells.answer_eq a).trans (hBuilds.answer_eq a)⟩
  have hOutside : x.outside st₁.host.scene =
      ⟨(x.cascade st₁).2.host.scene.parentSize w.root, job.canvas, job.lettering.size⟩ := by
    rw [hParent]
    rfl
  rw [hTells.warnings_eq, hBuilds.warnings_eq, ← widgetWarnings_eq, List.append_assoc, hOutside]
  rfl

/-! ## Elements with their nodes -/

mutual

/-- The elements of a tree with their nodes, parents first, given the nodes with children first. -/
def withNodes : Element → List NodeId → List (Element × NodeId)
  | e@(.mk _ _ _ children _), created =>
    created.getLast?.toList.map (e, ·) ++ allWithNodes children created.dropLast

/-- The elements of several trees with their nodes. -/
def allWithNodes : List Element → List NodeId → List (Element × NodeId)
  | [], _ => []
  | e :: es, created =>
    withNodes e (created.take e.elementCount) ++ allWithNodes es (created.drop e.elementCount)

end

theorem withNodes_concat (tag : String) (space : Option String) (attributes : Attributes)
    (children : List Element) (text : Option String) (below : List NodeId) (node : NodeId) :
    withNodes (.mk tag space attributes children text) (below ++ [node]) =
      (.mk tag space attributes children text, node) :: allWithNodes children below := by
  simp [withNodes]

theorem allWithNodes_cons {e : Element} {first : List NodeId}
    (hLength : first.length = e.elementCount) (es : List Element) (others : List NodeId) :
    allWithNodes (e :: es) (first ++ others) = withNodes e first ++ allWithNodes es others := by
  rw [allWithNodes, ← hLength, List.take_left, List.drop_left]

mutual

theorem mem_of_withNodes {e : Element} {created : List NodeId} {p : Element × NodeId}
    (h : p ∈ withNodes e created) : p.2 ∈ created := by
  obtain ⟨tag, space, attributes, children, text⟩ := e
  rw [withNodes] at h
  rcases List.mem_append.mp h with h | h
  · obtain ⟨node, hNode, rfl⟩ := List.mem_map.mp h
    exact List.mem_of_getLast? (Option.mem_toList.mp hNode)
  · exact (List.dropLast_sublist created).subset (mem_of_allWithNodes h)

theorem mem_of_allWithNodes {es : List Element} {created : List NodeId} {p : Element × NodeId}
    (h : p ∈ allWithNodes es created) : p.2 ∈ created := by
  cases es with
  | nil => cases h
  | cons e es =>
    rw [allWithNodes] at h
    rcases List.mem_append.mp h with h | h
    · exact List.mem_of_mem_take (mem_of_withNodes h)
    · exact List.mem_of_mem_drop (mem_of_allWithNodes h)

end

mutual

/-- The elements come in the order of the document, and the nodes are all nodes of the tree. -/
theorem withNodes_spec {e : Element} {created : List NodeId}
    (hLength : created.length = e.elementCount) :
    (withNodes e created).map Prod.fst = e.elements ∧
      ((withNodes e created).map Prod.snd).Perm created := by
  obtain ⟨tag, space, attributes, children, text⟩ := e
  rw [Element.elementCount] at hLength
  rcases List.eq_nil_or_concat created with rfl | ⟨below, node, rfl⟩
  · rw [List.length_nil] at hLength
    omega
  · rw [List.concat_eq_append] at hLength ⊢
    rw [List.length_append, List.length_singleton] at hLength
    have hBelow : below.length = Element.countOf children := by omega
    obtain ⟨hElements, hNodes⟩ := allWithNodes_spec hBelow
    rw [withNodes_concat, List.map_cons, List.map_cons, hElements, Element.elements]
    exact ⟨rfl, (hNodes.cons node).trans (List.perm_append_singleton node below).symm⟩

theorem allWithNodes_spec {es : List Element} {created : List NodeId}
    (hLength : created.length = Element.countOf es) :
    (allWithNodes es created).map Prod.fst = Element.elementsOf es ∧
      ((allWithNodes es created).map Prod.snd).Perm created := by
  cases es with
  | nil =>
    rw [List.eq_nil_of_length_eq_zero hLength]
    exact ⟨rfl, .refl _⟩
  | cons e es =>
    rw [Element.countOf] at hLength
    have hFirst : (created.take e.elementCount).length = e.elementCount := by
      rw [List.length_take]
      omega
    have hOthers : (created.drop e.elementCount).length = Element.countOf es := by
      rw [List.length_drop]
      omega
    obtain ⟨hElements, hNodes⟩ := withNodes_spec hFirst
    obtain ⟨hElements', hNodes'⟩ := allWithNodes_spec hOthers
    rw [allWithNodes, List.map_append, List.map_append, hElements, hElements', Element.elementsOf]
    have hPerm := hNodes.append hNodes'
    rw [List.take_append_drop] at hPerm
    exact ⟨rfl, hPerm⟩

end

/-! ## Trees and documents -/

/-- From `st` to `st'`, the warnings of the given elements were raised, and the finder gives the
same answers. -/
structure Accounts (job : Job) (pairs : List (Element × NodeId)) (st st' : Stage) : Prop where
  warnings_eq : st'.warnings = st.warnings ++ pairs.flatMap fun p =>
    job.warningsFor st.finder.answer (st'.host.scene.parentSize p.2) p.1
  answer_eq : st'.finder.answer = st.finder.answer

/-- The account of more elements is added, where the parents of the first ones keep their sizes. -/
theorem Accounts.append {job : Job} {pairs more : List (Element × NodeId)} {st st' st'' : Stage}
    (h : Accounts job pairs st st') (hMore : Accounts job more st' st'')
    (hSizes : ∀ p ∈ pairs, st''.host.scene.parentSize p.2 = st'.host.scene.parentSize p.2) :
    Accounts job (pairs ++ more) st st'' := by
  refine ⟨?_, hMore.answer_eq.trans h.answer_eq⟩
  have hFirst : (pairs.flatMap fun p =>
      job.warningsFor st.finder.answer (st''.host.scene.parentSize p.2) p.1) =
      pairs.flatMap fun p =>
        job.warningsFor st.finder.answer (st'.host.scene.parentSize p.2) p.1 :=
    List.flatMap_congr fun p hp => by rw [hSizes p hp]
  rw [hMore.warnings_eq, h.warnings_eq, h.answer_eq, List.flatMap_append, hFirst, List.append_assoc]

mutual

theorem accounts_visit (job : Job) (e : Element) (parentElement : Option Element) {u : NodeId}
    {st : Stage} (hw : st.host.Willing) (hs : st.host.scene.Forest)
    (hLive : st.host.scene.contains u = true) :
    Accounts job (withNodes e (job.visit e parentElement u st).1) st
      (job.visit e parentElement u st).2 := by
  obtain ⟨tag, space, attributes, children, text⟩ := e
  obtain ⟨w, st₁, st₂, hWidget, hStyled, hBuilds, hOwner, hDressed⟩ :=
    exists_dressed job (.mk tag space attributes children text) parentElement hw hs hLive
  obtain ⟨roots, below, st₃, hBelow, -, hPlaced, -⟩ :=
    exists_visitAll job children (.mk tag space attributes children text) (hOwner.willing hw)
      hDressed.grown.forest hDressed.content_live
  have hChildren := accounts_visitAll job children (.mk tag space attributes children text)
    (hOwner.willing hw) hDressed.grown.forest hDressed.content_live
  obtain ⟨hWarnings, hAnswers⟩ := tells_dressed hw hLive hBuilds parentElement
  rw [hStyled] at hWarnings hAnswers
  have hFirst : Accounts job [(.mk tag space attributes children text, w.root)] st st₂ :=
    ⟨by simpa using hWarnings, funext hAnswers⟩
  rw [run_visit hWidget]
  simp only [hStyled, hBelow, withNodes_concat] at hChildren ⊢
  refine hFirst.append hChildren fun p hp => ?_
  rw [List.mem_singleton.mp hp]
  exact hPlaced.grown.parentSize hDressed.grown.forest hDressed.root_live

theorem accounts_visitAll (job : Job) (es : List Element) (parentElement : Element) {u : NodeId}
    {st : Stage} (hw : st.host.Willing) (hs : st.host.scene.Forest)
    (hLive : st.host.scene.contains u = true) :
    Accounts job (allWithNodes es (job.visitAll es parentElement u st).1) st
      (job.visitAll es parentElement u st).2 := by
  cases es with
  | nil => exact ⟨(List.append_nil _).symm, rfl⟩
  | cons e es =>
    obtain ⟨node, first, st₁, hFirst, hOwner, hVisited⟩ :=
      exists_visit job e (some parentElement) hw hs hLive
    have hLive₁ := hVisited.placed.grown.contains hLive
    have hForest := hVisited.placed.grown.forest
    obtain ⟨roots, others, st₂, hOthers, -, hPlaced, -⟩ :=
      exists_visitAll job es parentElement (hOwner.willing hw) hForest hLive₁
    have hAccount := accounts_visit job e (some parentElement) hw hs hLive
    have hAccounts := accounts_visitAll job es parentElement (hOwner.willing hw) hForest hLive₁
    rw [run_visitAll_cons, hFirst]
    rw [hFirst] at hAccount
    simp only [hOthers, allWithNodes_cons hVisited.length_eq] at hAccounts ⊢
    exact hAccount.append hAccounts fun p hp =>
      hPlaced.grown.parentSize hForest (hVisited.placed.live p.2 (mem_of_withNodes hp))

end

/-- The warnings of a conversion are those of the elements of the document, in its order. The sizes
of parents are those before the layout groups are arranged. -/
theorem warnings_convert (c : Converter) (root : Element) (sheet : Sheet) (canvas : Size Single)
    {s : Scene} {parent : NodeId} (hs : s.Reachable) (hLive : s.contains parent = true) :
    let job : Job := ⟨c.settings.lettering, c.rules, sheet, canvas⟩
    let t := (job.visit root none parent ⟨Host.ofScene s, c.finder, []⟩).2.host.scene
    let result := (Workshop.convert ⟨c, Host.ofScene s⟩ root sheet parent canvas).1
    let pairs := withNodes root result.created
    pairs.map Prod.fst = root.elements ∧ (pairs.map Prod.snd).Perm result.created ∧
      result.warnings = pairs.flatMap fun p =>
        job.warningsFor c.finder.answer (t.parentSize p.2) p.1 := by
  have hw : (Stage.mk (Host.ofScene s) c.finder []).host.Willing := Host.willing_ofScene s
  let job : Job := ⟨c.settings.lettering, c.rules, sheet, canvas⟩
  obtain ⟨node, created, st, hVisit, -, hVisited⟩ :=
    exists_visit job root none hw hs.forest hLive
  have hAccounts := accounts_visit job root none hw hs.forest hLive
  have hRun := run_convert (w := ⟨c, Host.ofScene s⟩) hVisit hVisited.last_eq
  obtain ⟨hElements, hNodes⟩ := withNodes_spec hVisited.length_eq
  rw [hVisit] at hAccounts
  intro job' t result pairs
  have hResult : result = ⟨created.length, created, st.warnings⟩ := congrArg Prod.fst hRun
  have hEnd : t = st.host.scene := by
    simp only [t, job', job] at hVisit ⊢
    rw [hVisit]
  simp only [pairs, hResult, hEnd]
  exact ⟨hElements, hNodes, hAccounts.warnings_eq⟩

/-- A label with a height that cannot be read holds a slider whose range is no number. -/
theorem warnings_convert_label :
    let s := Scene.withCanvas 800 600
    let canvas := Scene.empty.nodes.nextKey
    let c := Converter.ofFinder default (.ofSource Asset.Shelf.empty.source)
    let slider := Element.mk "Slider" none (Catalog.ofList [⟨"low-value", "none"⟩]) [] none
    let root := Element.mk "Label" none (Catalog.ofList [⟨"height", "tall"⟩]) [slider] none
    let job : Job := ⟨c.settings.lettering, c.rules, Catalog.empty, ⟨800, 600⟩⟩
    let t := (job.visit root none canvas ⟨Host.ofScene s, c.finder, []⟩).2.host.scene
    let result := (Workshop.convert ⟨c, Host.ofScene s⟩ root Catalog.empty canvas ⟨800, 600⟩).1
    s.Reachable ∧ s.contains canvas = true ∧
      (result.warnings = (withNodes root result.created).flatMap fun p =>
        job.warningsFor c.finder.answer (t.parentSize p.2) p.1) ∧
      result.warnings = [
        ⟨some "<Label>", .style (.invalidValue "height" (.notALength "tall"))⟩,
        ⟨some "<Slider>", .notBuilt .slider (.badAttribute "low-value" "none")⟩] := by
  intro s canvas c slider root
  have hs : s.Reachable := ⟨[], Or.inr ⟨800, 600, rfl⟩⟩
  have hLive : s.contains canvas = true := rfl
  have hAccount := warnings_convert c root Catalog.empty ⟨800, 600⟩ hs hLive
  exact ⟨hs, hLive, hAccount.2.2, by decide +kernel⟩

end AnchoredUi.Conversion
