import Mathlib.Algebra.GroupWithZero.Nat
import AnchoredUi.Proofs.Conversion.Standing
import AnchoredUi.Proofs.Styling.Wiring
import AnchoredUi.Proofs.Widget.Attempt

/-!
# What a host that refuses calls leaves of a document

Whatever calls a host refuses, a conversion goes on. An element that gets no node is skipped with
everything below it, and the elements that get nodes stand in the scene as they do in the document.
So these are closed under parents, they are listed in post-order, and together with the trees of
the skipped elements they are the whole document. Each skipped element is reported once.

The walk through the document leaves behind what was built in vain. That does no harm, since nodes
that are there stay below their parents: the induction speaks of all later scenes in which they do.

* `Remnant`: what is left of the tree of an element.
* `exists_remnant`, `exists_remnants`: what the conversion of trees leaves.
* `remnant_convert`: what the conversion of a document leaves.
-/

namespace AnchoredUi.Conversion

open Number Plane SceneGraph Sprite Markup Style Kind Widget Styling

mutual

/-- What is left of the tree of an element below the node `under`: nothing, if the element was
skipped; else it has a node, and the trees of its children are left at this node or below it. The
nodes are listed in post-order, and with them the skipped elements nothing above which was
skipped. -/
inductive Remnant (t : Scene) : Element → (under : NodeId) → (created : List NodeId) →
    (skips : List Element) → Prop
  | skipped {e : Element} {under : NodeId} : Remnant t e under [] [e]
  | built {tag : String} {space : Option String} {attributes : Attributes}
      {children : List Element} {text : Option String} {under node content : NodeId}
      {below : List NodeId} {skips : List Element}
      (hName : t.name? node = some (nodeName (.mk tag space attributes children text)))
      (hUnder : t.parent? node = some under) (hContent : t.Below node content)
      (hBelow : Remnants t children content below skips) :
      Remnant t (.mk tag space attributes children text) under (below ++ [node]) skips

/-- What is left of the trees of elements below the node `under`. -/
inductive Remnants (t : Scene) : List Element → (under : NodeId) → (created : List NodeId) →
    (skips : List Element) → Prop
  | nil {under : NodeId} : Remnants t [] under [] []
  | cons {e : Element} {es : List Element} {under : NodeId} {first others : List NodeId}
      {skips more : List Element} (hFirst : Remnant t e under first skips)
      (hOthers : Remnants t es under others more) :
      Remnants t (e :: es) under (first ++ others) (skips ++ more)

end

/-! ## Nothing gets lost -/

theorem countOf_eq_sum (es : List Element) :
    Element.countOf es = (es.map Element.elementCount).sum := by
  induction es with
  | nil => rfl
  | cons e es ih => rw [Element.countOf, ih, List.map_cons, List.sum_cons]

section Counts

variable {t : Scene}

mutual

/-- Each element has a node or is in the tree of a skipped one. -/
theorem Remnant.count_eq {e : Element} {under : NodeId} {created : List NodeId}
    {skips : List Element} (h : Remnant t e under created skips) :
    created.length + Element.countOf skips = e.elementCount := by
  cases h with
  | skipped => simp [Element.countOf]
  | built _ _ _ hBelow =>
    have hCount := hBelow.count_eq
    simp only [List.length_append, List.length_singleton, Element.elementCount]
    omega

theorem Remnants.count_eq {es : List Element} {under : NodeId} {created : List NodeId}
    {skips : List Element} (h : Remnants t es under created skips) :
    created.length + Element.countOf skips = Element.countOf es := by
  cases h with
  | nil => rfl
  | cons hFirst hOthers =>
    have hCount := hFirst.count_eq
    have hCount' := hOthers.count_eq
    rw [List.length_append, Element.countOf_append, Element.countOf]
    omega

end

end Counts

/-! ## Visits -/

/-- From one stage to another one, the nodes `created` have arrived, and the elements `skips` were
reported as skipped. -/
structure Gathered (st : Stage) (created : List NodeId) (skips : List Element) (st' : Stage) :
    Prop where
  stays : Scene.Stays st.host.scene st'.host.scene
  nodup : created.Nodup
  fresh : ∀ id ∈ created, st.host.scene.contains id = false
  live : ∀ id ∈ created, st'.host.scene.contains id = true
  labels : skipLabels st'.warnings = skipLabels st.warnings ++ skips.map fun e => some e.label

section Gathered

variable {st st' st'' : Stage} {created more : List NodeId} {skips others : List Element}

theorem gathered_nil (hs : st.host.scene.Forest) : Gathered st [] [] st := by
  refine ⟨.refl hs, List.nodup_nil, ?_, ?_, (List.append_nil _).symm⟩
  · intro id hId
    cases hId
  · intro id hId
    cases hId

theorem Gathered.append (h : Gathered st created skips st')
    (hMore : Gathered st' more others st'') :
    Gathered st (created ++ more) (skips ++ others) st'' := by
  refine ⟨h.stays.trans hMore.stays, ?_, ?_, ?_, ?_⟩
  · refine List.nodup_append.mpr ⟨h.nodup, hMore.nodup, fun a ha b hb => ?_⟩
    exact Scene.ne_of_contains (h.live a ha) (hMore.fresh b hb)
  · intro id hId
    rcases List.mem_append.mp hId with hId | hId
    · exact h.fresh id hId
    · exact h.stays.not_contains (hMore.fresh id hId)
  · intro id hId
    rcases List.mem_append.mp hId with hId | hId
    · exact hMore.stays.contains id (h.live id hId)
    · exact hMore.live id hId
  · rw [hMore.labels, h.labels, List.map_append, List.append_assoc]

/-- The node of an element was there before those of the elements below it, and is listed after
them. -/
theorem Gathered.concat (h : Gathered st' created skips st'') {name : String}
    {parent node : NodeId} (hArrived : st.host.scene.Arrived name parent node st'.host.scene)
    (hLabels : skipLabels st'.warnings = skipLabels st.warnings) :
    Gathered st (created ++ [node]) skips st'' := by
  refine ⟨hArrived.stays.trans h.stays, ?_, ?_, ?_, ?_⟩
  · refine List.nodup_append.mpr ⟨h.nodup, List.nodup_singleton _, fun a ha b hb => ?_⟩
    rw [List.mem_singleton.mp hb]
    exact (Scene.ne_of_contains hArrived.live (h.fresh a ha)).symm
  · intro id hId
    rcases List.mem_append.mp hId with hId | hId
    · exact hArrived.stays.not_contains (h.fresh id hId)
    · rw [List.mem_singleton.mp hId]
      exact hArrived.fresh
  · intro id hId
    rcases List.mem_append.mp hId with hId | hId
    · exact h.live id hId
    · rw [List.mem_singleton.mp hId]
      exact h.stays.contains node hArrived.live
  · rw [h.labels, hLabels]

end Gathered

mutual

theorem exists_remnant (job : Job) (e : Element) (parentElement : Option Element)
    (parent : NodeId) {st : Stage} (hs : st.host.scene.Forest) :
    ∃ created skips st', job.visit e parentElement parent st = (created, st') ∧
      Gathered st created skips st' ∧
      ∀ t, Scene.Stays st'.host.scene t → Remnant t e parent created skips := by
  obtain ⟨tag, space, attributes, children, text⟩ := e
  rcases widgetOf_cases job (.mk tag space attributes children text) parent hs with
    ⟨st', hSkipped⟩ | ⟨w, st₁, hGot⟩
  · refine ⟨[], [_], st', visit_skipped hSkipped.run_eq parentElement, ?_, fun t _ => .skipped⟩
    refine ⟨hSkipped.stays, List.nodup_nil, ?_, ?_, hSkipped.labels⟩
    · intro id hId
      cases hId
    · intro id hId
      cases hId
  · let x := job.subject (.mk tag space attributes children text) parentElement w.root parent
    -- styling may fail in parts, but it takes no node away
    have hStyled := (x.carries_cascade hGot.arrived.stays.forest).stays
    have hArrived := hGot.arrived.trans hStyled
    have hLabels := (x.skipFree_cascade st₁).trans hGot.labels
    obtain ⟨below, skips, st₃, hVisit, hGathered, hRemnants⟩ :=
      exists_remnants job children (.mk tag space attributes children text) w.content
        hStyled.forest
    refine ⟨below ++ [w.root], skips, st₃, ?_, hGathered.concat hArrived hLabels,
      fun t hStays => ?_⟩
    · rw [run_visit hGot.run_eq]
      show (_ ++ [w.root], _) = _
      rw [hVisit]
    · -- whatever is done later, the node is where it arrived
      have hEnd := hArrived.trans (hGathered.stays.trans hStays)
      have hBelow := (hGot.below.stays hStyled).stays (hGathered.stays.trans hStays)
      exact .built hEnd.name_eq hEnd.parent_eq hBelow (hRemnants t hStays)

theorem exists_remnants (job : Job) (es : List Element) (parentElement : Element)
    (parent : NodeId) {st : Stage} (hs : st.host.scene.Forest) :
    ∃ created skips st', job.visitAll es parentElement parent st = (created, st') ∧
      Gathered st created skips st' ∧
      ∀ t, Scene.Stays st'.host.scene t → Remnants t es parent created skips := by
  cases es with
  | nil => exact ⟨[], [], st, rfl, gathered_nil hs, fun t _ => .nil⟩
  | cons e es =>
    obtain ⟨first, skips, st₁, hFirst, hGathered, hRemnant⟩ :=
      exists_remnant job e (some parentElement) parent hs
    obtain ⟨others, more, st₂, hOthers, hMore, hRemnants⟩ :=
      exists_remnants job es parentElement parent hGathered.stays.forest
    refine ⟨first ++ others, skips ++ more, st₂, ?_, hGathered.append hMore, fun t hStays => ?_⟩
    · rw [run_visitAll_cons, hFirst]
      simp only [hOthers]
    · exact .cons (hRemnant t (hMore.stays.trans hStays)) (hRemnants t hStays)

end

/-! ## Documents -/

/-- The node of an element is listed last, if there is one. -/
theorem getLast?_visit (job : Job) (e : Element) (parentElement : Option Element)
    (parent : NodeId) (st : Stage) :
    (job.visit e parentElement parent st).1.getLast? =
      (job.widgetOf e parent st).1.map Built.root := by
  obtain ⟨tag, space, attributes, children, text⟩ := e
  rcases hWidget : job.widgetOf (.mk tag space attributes children text) parent st with
    ⟨_ | w, st₁⟩
  · rw [visit_skipped hWidget]
    rfl
  · rw [run_visit hWidget]
    exact List.getLast?_concat

theorem stays_rebuild (node : NodeId) {h : Host} (hs : h.scene.Forest) :
    Scene.Stays h.scene (Host.rebuild node h).2.scene := by
  refine .of_place ?_ (place?_rebuild node h)
  unfold Host.rebuild
  cases h.arranges with
  | false => exact hs
  | true => exact hs.arrangeAll node

/-- A conversion is a walk through the document, after which no node is lost. -/
theorem stays_convert {w : Workshop} {root : Element} {sheet : Sheet} {parent : NodeId}
    {canvas : Size Single} {created : List NodeId} {st : Stage} (hs : st.host.scene.Forest)
    (hVisit : Job.visit ⟨w.converter.settings.lettering, w.converter.rules, sheet, canvas⟩ root
      none parent ⟨w.host, w.converter.finder, []⟩ = (created, st)) :
    (w.convert root sheet parent canvas).1 = ⟨created.length, created, st.warnings⟩ ∧
      Scene.Stays st.host.scene (w.convert root sheet parent canvas).2.host.scene := by
  simp only [Workshop.convert, hVisit, true_and]
  cases created.getLast? with
  | none => exact .refl hs
  | some node => exact stays_rebuild node hs

/-- Whatever calls a host refuses, the elements that get nodes are closed under parents and listed
in post-order, the other elements are those of the skipped trees, each skipped tree is reported
once, and the root of the result is that of the widget of the document, if this was built. -/
theorem remnant_convert (w : Workshop) (root : Element) (sheet : Sheet) (parent : NodeId)
    (canvas : Size Single) (hs : w.host.scene.Reachable) :
    let run := w.convert root sheet parent canvas
    let t := run.2.host.scene
    let job : Job := ⟨w.converter.settings.lettering, w.converter.rules, sheet, canvas⟩
    ∃ skips, Remnant t root parent run.1.created skips ∧ run.1.created.Nodup ∧
      (∀ id ∈ run.1.created, t.contains id = true ∧ w.host.scene.contains id = false) ∧
      run.1.count + (skips.map Element.elementCount).sum = root.elementCount ∧
      skipLabels run.1.warnings = skips.map (fun e => some e.label) ∧
      run.1.root? =
        (job.widgetOf root parent ⟨w.host, w.converter.finder, []⟩).1.map Built.root := by
  intro run t job
  have hForest : (Stage.mk w.host w.converter.finder []).host.scene.Forest := hs.forest
  obtain ⟨created, skips, st, hVisit, hGathered, hRemnant⟩ :=
    exists_remnant job root none parent hForest
  obtain ⟨hResult, hStays⟩ := stays_convert hGathered.stays.forest hVisit
  have hLeft := hRemnant t hStays
  have hCount := hLeft.count_eq
  rw [countOf_eq_sum] at hCount
  have hLast := getLast?_visit job root none parent ⟨w.host, w.converter.finder, []⟩
  rw [hVisit] at hLast
  simp only [run, hResult]
  refine ⟨skips, hLeft, hGathered.nodup, fun id hId => ?_, hCount, hGathered.labels, hLast⟩
  exact ⟨hStays.contains id (hGathered.live id hId), hGathered.fresh id hId⟩

/-- A host refuses to create a node for a label, both times; the button next to it is built. -/
theorem remnant_convert_label :
    let s := Scene.withCanvas 800 600
    let canvas := Scene.empty.nodes.nextKey
    let c := Converter.ofFinder default (.ofSource Asset.Shelf.empty.source)
    let h : Host :=
      { Host.ofScene s with refuses := fun call n => call = .create ∧ (n = 1 ∨ n = 2) }
    let root := Element.mk "VisualElement" none Catalog.empty [.bare "Label", .bare "Button"] none
    let run := Workshop.convert ⟨c, h⟩ root Catalog.empty canvas ⟨800, 600⟩
    s.Reachable ∧ run.1.created.length = 2 ∧ ∃ skips,
      Remnant run.2.host.scene root canvas run.1.created skips ∧
        skips.map (fun e => some e.label) = [some "<Label>"] := by
  intro s canvas c h root run
  have hs : s.Reachable := ⟨[], Or.inr ⟨800, 600, rfl⟩⟩
  have hRun : run.1.created.length = 2 ∧ skipLabels run.1.warnings = [some "<Label>"] := by
    decide +kernel
  obtain ⟨skips, hRemnant, -, -, -, hSkips, -⟩ :=
    remnant_convert ⟨c, h⟩ root Catalog.empty canvas ⟨800, 600⟩ hs
  exact ⟨hs, hRun.1, skips, hRemnant, hSkips.symm.trans hRun.2⟩

end AnchoredUi.Conversion
