import AnchoredUi.Proofs.Conversion.Account
import AnchoredUi.Proofs.Flow.Bounded
import AnchoredUi.Proofs.Styling.Bounded
import AnchoredUi.Proofs.Widget.Bounded

/-!
# Documents within bounds

A declared length is refused if its pixels are not finite, but what is computed with lengths is
not looked at: a margin adds two of them, a text is as wide as its font times its letters, and each
percentage is one of a parent that was computed as well. So rectangles can overflow, although each
declared length is a finite number of pixels.

They cannot if a document is not too large for its numbers. Where these are at most `2 ^ b`, an
element that was styled is at most as many times as large as its parent as it has declarations,
times a constant. So the bound on sizes is multiplied by a power of two at each level of the
document, and it stays below the largest numbers if there are not too many levels. Arranging the
groups in the end makes sizes larger by some units only.

* `Job.Modest`: what an element may declare.
* `offspring_visit`, `offspring_visitAll`: the nodes of whole trees.
* `isFinite_convert`: the rectangles of all nodes of a document.
* `not_isFinite_convert`: margins that are finite, and a position that is not.
-/

namespace AnchoredUi.Markup.Element

mutual

/-- The number of levels of the tree. -/
def height : Element → ℕ
  | mk _ _ _ cs _ => heightOf cs + 1

/-- The number of levels of several trees. -/
def heightOf : List Element → ℕ
  | [] => 0
  | e :: es => max (height e) (heightOf es)

end

end AnchoredUi.Markup.Element

namespace AnchoredUi.SceneGraph.Scene

open Number Plane Binary

variable {s t : Scene} {u v id p : NodeId} {news : List NodeId} {e m n : ℕ}

/-- What is below a new node is new. -/
theorem Grown.new_of_isAbove (h : Grown u news s t) (hs : s.Forest) (hNew : s.contains v = false)
    (hAbove : t.IsAbove v id) : New s t id := by
  induction hAbove using Relation.TransGen.head_induction_on with
  | single hParent => exact ⟨contains_of_parent? hParent, h.not_contains_child hs hNew hParent⟩
  | head hParent _ ih =>
    exact ⟨contains_of_parent? hParent, h.not_contains_child hs ih.fresh hParent⟩

theorem Forest.sizeOf_within (ht : t.Forest) (he : e ≤ topScale) (hParent : t.parent? id = some p)
    (hSize : (t.sizeOf p).Within e m) {r : Rect Single} (hr : t.rect? id = some r)
    (hWithin : r.Within e n) (hTop : m + n ≤ topCount) : (t.sizeOf id).Within e (m + n) := by
  rw [ht.sizeOf_eq hr, parentSize, hParent]
  exact hWithin.size he hSize hTop

end AnchoredUi.SceneGraph.Scene

namespace AnchoredUi.Conversion

open Number Plane SceneGraph Scene Sprite Markup Style Kind Widget Styling Binary

variable {job : Job} {b g few s top : ℕ}

/-! ## Single elements -/

/-- The canvas and the font that a document starts with are within bounds. -/
structure Job.Framed (job : Job) (b : ℕ) : Prop where
  least : 3 ≤ b
  canvas : job.canvas.Within b 1
  font : job.lettering.size.Within (b + 4) 1

/-- An element has numbers of at most `2 ^ b` and texts of as many letters, less than `2 ^ g`
declarations, and no more than `few` children. -/
structure Job.Modest (job : Job) (b g few : ℕ) (e : Element) : Prop where
  brief : e.Brief (2 ^ b)
  declared : ∀ d ∈ declarationsOf job.sheet e, d.Moderate b
  count : (declarationsOf job.sheet e).length < 2 ^ g
  few : e.children.length ≤ few

instance (job : Job) (b g few : ℕ) (e : Element) : Decidable (job.Modest b g few e) :=
  decidable_of_iff (e.Brief (2 ^ b) ∧ (∀ d ∈ declarationsOf job.sheet e, d.Moderate b) ∧
      (declarationsOf job.sheet e).length < 2 ^ g ∧ e.children.length ≤ few)
    ⟨fun ⟨hBrief, hDeclared, hCount, hFew⟩ => ⟨hBrief, hDeclared, hCount, hFew⟩,
      fun h => ⟨h.brief, h.declared, h.count, h.few⟩⟩

/-- The content of a widget is at most two levels below its root. -/
theorem content_within {t : Scene} (ht : t.Forest) (hs : s ≤ topScale) {kind : WidgetKind}
    {root content u : NodeId} (hContent : IsContent t kind root content)
    (hUp : t.parent? root = some u) {n : ℕ} (hSize : (t.sizeOf root).Within s n)
    (hInner : ∀ id r, t.IsAbove root id → t.rect? id = some r → r.Within s 1)
    (hn : n + 2 ≤ topCount) :
    (t.sizeOf content).Within s (n + 2) ∧ t.depth content ≤ t.depth u + 3 := by
  have hDepth := ht.depth_of_parent? hUp
  by_cases hKind : kind = .scrollView
  · obtain ⟨viewport, hView, -, hBelow, -⟩ := hContent.of_scrollView hKind
    have hViewUp := (ht.mem_children_iff root viewport).mp (by simp [hView])
    have hContentUp := (ht.mem_children_iff viewport content).mp (by simp [hBelow])
    have hViewDepth := ht.depth_of_parent? hViewUp
    have hContentDepth := ht.depth_of_parent? hContentUp
    obtain ⟨q, hq⟩ := rect?_of_contains (contains_of_parent? hViewUp)
    obtain ⟨r, hr⟩ := rect?_of_contains (contains_of_parent? hContentUp)
    have hAbove : t.IsAbove root viewport := .single hViewUp
    have hViewSize := ht.sizeOf_within hs hViewUp hSize hq (hInner viewport q hAbove hq) (by omega)
    have hRect := hInner content r (.head hContentUp hAbove) hr
    have hContentSize := ht.sizeOf_within hs hContentUp hViewSize hr hRect (by omega)
    exact ⟨hContentSize, by omega⟩
  · rw [hContent.of_other hKind]
    exact ⟨hSize.mono (by omega), by omega⟩

section Dressed

variable {e : Element} {parentElement : Option Element} {u : NodeId} {st st₁ : Stage} {w : Built}
  {t : Scene}

/-- The nodes that count when an element is styled: those of its widget, and the node above if it is
within bounds. -/
def Owned (st st₁ : Stage) (u : NodeId) (b s : ℕ) (id : NodeId) : Prop :=
  New st.host.scene st₁.host.scene id ∨ id = u ∧ st.host.scene.Moderate (b + 4) b s u

variable (hFramed : job.Framed b) (hModest : job.Modest b g few e) (hg : g ≤ 19)
  (hStyle : ∀ p ∈ parentElement, ∀ d ∈ (job.sheet.declared p).entries, d.Moderate b)
  (hs : st.host.scene.Forest) (hLive : st.host.scene.contains u = true)
  (hBuilds : job.Builds e u st w st₁)
  (hOffspring : Offspring (b + 4) b s 17 (st.host.scene.depth u + 18) st.host.scene st₁.host.scene)
  (hStyled : ((job.subject e parentElement w.root u).cascade st₁).2.host.scene = t)
  (hDressed : Dressed job e st.host.scene u w t)
  (hSize : (st.host.scene.sizeOf u).Within s 1) (hRoom : 2 * b + 10 ≤ s) (hTop : s ≤ topScale)

section Held

include hFramed hModest hg hStyle hs hLive hBuilds hOffspring hStyled hSize hRoom hTop

/-- After an element was styled its node is at most as many units large as it has declarations,
times a constant. -/
theorem held_dressed : (job.subject e parentElement w.root u).Held (Owned st st₁ u b s) b s
    (8 * (declarationsOf job.sheet e).length + 5) t := by
  obtain ⟨nodes, hLaid, hFurnished, hRoot, -⟩ := hBuilds.tree
  have hGrown := hLaid.grown
  have hNew : New st.host.scene st₁.host.scene w.root := by
    rw [hRoot]
    exact ⟨hLaid.live .root, hLaid.fresh .root⟩
  have hUp : st₁.host.scene.parent? w.root = some u := by
    rw [hRoot]
    exact hLaid.root_parent
  have hCount : (declarationsOf job.sheet e).length < 2 ^ 19 :=
    hModest.count.trans_le (Nat.pow_le_pow_right (by decide) hg)
  rw [← hStyled]
  refine Subject.held_cascade ⟨hFramed.canvas, hFramed.font, hRoom, hTop⟩
    ⟨hGrown.forest, ?_, ?_, .inl hNew, fun id hId => .inl ?_, fun id hId => ?_⟩ rfl hUp ?_
    hModest.declared ?_
  · obtain ⟨r, hr⟩ := rect?_of_contains hNew.live
    exact ⟨r, hr, hOffspring.rect _ r hNew hr⟩
  · rw [parentSize]
    simp only [Job.subject, hUp]
    rw [hGrown.sizeOf hs hLive]
    exact hSize
  · have hParent := (hGrown.forest.mem_children_iff w.root id).mp hId
    exact hGrown.new_of_isAbove hs hNew.fresh (.single hParent)
  · rcases hId with hId | ⟨rfl, hModerate⟩
    · exact hOffspring.moderate id hId
    · refine hModerate.of_components ?_
      obtain ⟨entry, hEntry⟩ := find?_of_contains hLive
      have hNode := node?_of_find? hEntry
      rw [components, components, hNode, hFurnished.kept id _ hNode]
  · intro style hAsked d hd
    obtain ⟨p, hp, rfl⟩ := Option.map_eq_some_iff.mp hAsked
    exact hStyle p hp d hd
  · show 16 * (declarationsOf job.sheet e).length + 18 ≤ topCount
    unfold topCount
    omega

end Held

include hOffspring hStyled in
/-- The other nodes of the widget keep their rectangles. -/
theorem rect?_dressed {id : NodeId} {r : Rect Single}
    (hNew : New st.host.scene st₁.host.scene id) (hId : id ≠ w.root) (hr : t.rect? id = some r) :
    r.Within s 1 := by
  let x := job.subject e parentElement w.root u
  rw [← hStyled, Subject.rect?_of_touches (x := x) (x.keeps_cascade st₁).touches hId] at hr
  exact hOffspring.rect id r hNew hr

include hModest in
/-- The units of the size of the content: those of the rectangle of the root, and one for the parent
and for each node between the root and the content. -/
theorem units_le : 8 * (declarationsOf job.sheet e).length + 8 ≤ 2 ^ (g + 3) := by
  have hCount := hModest.count
  rw [pow_add]
  omega

include hFramed hModest hg hStyle hs hLive hBuilds hOffspring hStyled hDressed hSize hRoom hTop

/-- The nodes of a widget that was styled, and the node above. -/
theorem offspring_dressed :
    Offspring (b + 4) b (s + (g + 3)) 17 (st.host.scene.depth u + 18) st.host.scene t ∧
      (st.host.scene.Moderate (b + 4) b s u → t.Moderate (b + 4) b s u) := by
  have hHeld :=
    held_dressed hFramed hModest hg hStyle hs hLive hBuilds hOffspring hStyled hSize hRoom hTop
  obtain ⟨nodes, hLaid, -⟩ := hBuilds.tree
  have hPlace : ∀ id, t.place? id = st₁.host.scene.place? id := by
    rw [← hStyled]
    exact (job.subject e parentElement w.root u).place?_cascade st₁
  have hUnits := units_le hModest
  obtain ⟨q, hq, hWithin⟩ := hHeld.rect
  have hMore := Nat.le_add_right s (g + 3)
  refine ⟨hOffspring.of_place hLaid.grown.forest hDressed.grown.forest hPlace
    (fun id r hNew hr => ?_) fun id hNew => (hHeld.moderate id (.inl hNew)).scale_mono hMore,
    fun hModerate => hHeld.moderate u (.inr ⟨rfl, hModerate⟩)⟩
  by_cases hId : id = w.root
  · subst hId
    obtain rfl := Option.some.inj (hq.symm.trans hr)
    exact hWithin.rescale (by omega)
  · exact (rect?_dressed hOffspring hStyled hNew hId hr).scale_mono hMore

/-- The node below which the children of the element come. -/
theorem content_dressed : (t.sizeOf w.content).Within (s + (g + 3)) 1 ∧
    t.depth w.content ≤ st.host.scene.depth u + 3 := by
  have hHeld :=
    held_dressed hFramed hModest hg hStyle hs hLive hBuilds hOffspring hStyled hSize hRoom hTop
  have hGrown := hDressed.grown
  have hUnits := units_le hModest
  have hFew : 2 ^ (g + 3) ≤ 2 ^ 22 := Nat.pow_le_pow_right (by decide) (by omega)
  obtain ⟨q, hq, hWithin⟩ := hHeld.rect
  rw [← hGrown.sizeOf hs hLive] at hSize
  have hRootSize :=
    hGrown.forest.sizeOf_within hTop hDressed.parent_eq hSize hq hWithin (by unfold topCount; omega)
  have hInner : ∀ id r, t.IsAbove w.root id → t.rect? id = some r → r.Within s 1 := by
    intro id r hAbove hr
    have hNew := hGrown.new_of_isAbove hs hDressed.root_fresh hAbove
    refine rect?_dressed hOffspring hStyled ⟨?_, hNew.fresh⟩ (fun hId => ?_) hr
    · have hLive := hNew.live
      rwa [← hStyled, contains_of_place? (Subject.place?_cascade _ st₁ id)] at hLive
    · have hLower := hGrown.forest.depth_lt_of_isAbove hAbove
      rw [hId] at hLower
      omega
  obtain ⟨hContent, hDepth⟩ := content_within hGrown.forest hTop hDressed.isContent
    hDressed.parent_eq hRootSize hInner (by unfold topCount; omega)
  rw [hGrown.depth hs hLive] at hDepth
  exact ⟨fun axis => (hContent axis).rescale (by omega), hDepth⟩

end Dressed

/-! ## Trees of elements -/

mutual

/-- The nodes of a tree are within bounds if these have room for its levels. -/
theorem offspring_visit (hFramed : job.Framed b) (hg : g ≤ 19) (hTop : top ≤ topScale)
    (e : Element) (parentElement : Option Element) {s : ℕ} {u : NodeId} {st : Stage}
    (hModest : ∀ d ∈ e.elements, job.Modest b g few d)
    (hStyle : ∀ p ∈ parentElement, ∀ d ∈ (job.sheet.declared p).entries, d.Moderate b)
    (hw : st.host.Willing) (hs : st.host.scene.Forest) (hLive : st.host.scene.contains u = true)
    (hSize : (st.host.scene.sizeOf u).Within s 1) (hRoom : 2 * b + 10 ≤ s)
    (hFits : s + (g + 3) * e.height ≤ top) :
    let t := (job.visit e parentElement u st).2.host.scene
    Offspring (b + 4) b top (few + 17) (st.host.scene.depth u + 3 * e.height + 15)
        st.host.scene t ∧
      (st.host.scene.Moderate (b + 4) b s u → t.Moderate (b + 4) b s u) := by
  obtain ⟨tag, space, attributes, children, text⟩ := e
  simp only [Element.elements, List.forall_mem_cons, Element.height, Nat.mul_add, Nat.mul_one]
    at hModest hFits ⊢
  obtain ⟨hModest, hBelowModest⟩ := hModest
  obtain ⟨w, st₁, st₂, hWidget, hStyled, hBuilds, hOwner, hDressed⟩ :=
    exists_dressed job (.mk tag space attributes children text) parentElement hw hs hLive
  have hScene := congrArg (fun st : Stage => st.host.scene) hStyled
  have hBuilt := offspring_widgetOf (s := s) hFramed.font hModest.brief hFramed.least (by omega) hw
    hs hLive hWidget
  obtain ⟨hOwn, hKept⟩ := offspring_dressed hFramed hModest hg hStyle hs hLive hBuilds hBuilt hScene
    hDressed hSize hRoom (by omega)
  obtain ⟨hContent, hDepth⟩ := content_dressed hFramed hModest hg hStyle hs hLive hBuilds hBuilt
    hScene hDressed hSize hRoom (by omega)
  have hContentNew : New st.host.scene st₂.host.scene w.content :=
    ⟨hDressed.content_live, hDressed.content_fresh⟩
  have hDeclared : ∀ d ∈ (job.sheet.declared (.mk tag space attributes children text)).entries,
      d.Moderate b := fun d hd => hModest.declared d
    (Subject.mem_declarations_of_mem_style (x := job.subject _ none w.root u) hd)
  -- the children are visited with more room, below the content
  have hBelow := offspring_visitAll hFramed hg hTop children
    (.mk tag space attributes children text) (s := s + (g + 3)) hBelowModest hDeclared
    (hOwner.willing hw) hDressed.grown.forest hDressed.content_live hContent (by omega) (by omega)
  obtain ⟨roots, below, st₃, hRun, -, hPlaced, -, hStands⟩ :=
    exists_visitAll job children (.mk tag space attributes children text) (hOwner.willing hw)
      hDressed.grown.forest hDressed.content_live
  rw [run_visit hWidget]
  simp only [hStyled, hRun] at hBelow ⊢
  have hRoots := (hStands _ fun _ _ _ => rfl).length_eq
  have hFew : children.length ≤ few := hModest.few
  refine ⟨(hOwn.mono (by omega) (by omega) (by omega)).append
    (hBelow.1.mono le_rfl le_rfl (by omega)) hDressed.grown.forest hPlaced.grown (fun _ => ?_)
    fun hNew => ?_, fun hModerate => ?_⟩
  · exact (hBelow.2 (hOwn.moderate _ hContentNew)).scale_mono (by omega)
  · have hHelpers := hOwn.few _ hNew
    omega
  · have hOther := Scene.ne_of_contains hLive hDressed.content_fresh
    have hThere := hDressed.grown.contains hLive
    exact (hKept hModerate).of_components (hPlaced.grown.components_eq hThere hOther)

theorem offspring_visitAll (hFramed : job.Framed b) (hg : g ≤ 19) (hTop : top ≤ topScale)
    (es : List Element) (parentElement : Element) {s : ℕ} {u : NodeId} {st : Stage}
    (hModest : ∀ d ∈ Element.elementsOf es, job.Modest b g few d)
    (hStyle : ∀ d ∈ (job.sheet.declared parentElement).entries, d.Moderate b)
    (hw : st.host.Willing) (hs : st.host.scene.Forest) (hLive : st.host.scene.contains u = true)
    (hSize : (st.host.scene.sizeOf u).Within s 1) (hRoom : 2 * b + 10 ≤ s)
    (hFits : s + (g + 3) * Element.heightOf es ≤ top) :
    let t := (job.visitAll es parentElement u st).2.host.scene
    Offspring (b + 4) b top (few + 17) (st.host.scene.depth u + 3 * Element.heightOf es + 15)
        st.host.scene t ∧
      (st.host.scene.Moderate (b + 4) b s u → t.Moderate (b + 4) b s u) := by
  cases es with
  | nil => exact ⟨.refl _, id⟩
  | cons e es =>
    simp only [Element.elementsOf, List.forall_mem_append] at hModest
    have hFirstDeep : e.height ≤ Element.heightOf (e :: es) := le_max_left _ _
    have hRestDeep : Element.heightOf es ≤ Element.heightOf (e :: es) := le_max_right _ _
    have hFirstFits := Nat.mul_le_mul_left (g + 3) hFirstDeep
    have hRestFits := Nat.mul_le_mul_left (g + 3) hRestDeep
    obtain ⟨node, created, st₁, hRun, hOwner, hVisited⟩ :=
      exists_visit job e (some parentElement) hw hs hLive
    have hGrown := hVisited.placed.grown
    have hThere := hGrown.contains hLive
    have hFirst := offspring_visit hFramed hg hTop e (some parentElement) (s := s) hModest.1
      (fun p hp => Option.some.inj hp ▸ hStyle) hw hs hLive hSize hRoom (by omega)
    rw [← hGrown.sizeOf hs hLive] at hSize
    have hRest := offspring_visitAll hFramed hg hTop es parentElement (s := s) hModest.2 hStyle
      (hOwner.willing hw) hGrown.forest hThere hSize hRoom (by omega)
    obtain ⟨roots, others, st₂, hRunRest, -, hPlaced, -⟩ :=
      exists_visitAll job es parentElement (hOwner.willing hw) hGrown.forest hThere
    rw [hGrown.depth hs hLive] at hRest
    rw [run_visitAll_cons, hRun]
    rw [hRun] at hFirst
    simp only [hRunRest] at hRest ⊢
    have hOld : ¬ New st.host.scene st₁.host.scene u := fun hNew =>
      Scene.ne_of_contains hLive hNew.fresh rfl
    exact ⟨(hFirst.1.mono le_rfl le_rfl (by omega)).append (hRest.1.mono le_rfl le_rfl (by omega))
      hGrown.forest hPlaced.grown (absurd · hOld) (absurd · hOld),
      fun hModerate => hRest.2 (hFirst.2 hModerate)⟩

end

/-! ## Documents -/

/-- Arranging the groups below the new root keeps the rectangles of all new nodes finite. -/
theorem isFinite_arrangeAll {s t : Scene} {node parent : NodeId} {news : List NodeId}
    {f b few deep : ℕ} (hTop : top ≤ topScale) (hs : s.Forest) (hGrown : Grown parent news s t)
    (hOffspring : Offspring f b top few (s.depth parent + deep + 1) s t)
    (hLive : s.contains parent = true) (hUp : t.parent? node = some parent)
    (hFresh : s.contains node = false) (hSize : (s.sizeOf parent).Within top 1)
    (hCount : (2 * few + 5) * (6 * deep + 5) < topCount) {id : NodeId} (hNew : New s t id)
    {r : Rect Single} (hr : (Flow.arrangeAll t node).rect? id = some r) : r.IsFinite := by
  have hForest := hGrown.forest
  have hNode : New s t node := ⟨contains_of_parent? hUp, hFresh⟩
  by_cases hAbove : t.IsAbove node id
  · have hBelow : ∀ a, t.Below node a → New s t a := fun a ha => by
      rcases below_iff.mp ha with rfl | ha
      · exact hNode
      · exact hGrown.new_of_isAbove hs hFresh ha
    have hModerate : Flow.Moderate t node top few :=
      ⟨fun a q ha hq => hOffspring.rect a q (hBelow a (below_iff.mpr (.inr ha))) hq,
        fun a ha => ⟨f, b, hOffspring.moderate a (hBelow a ha)⟩,
        fun a ha => hOffspring.few a (hBelow a ha)⟩
    obtain ⟨q, hq⟩ := rect?_of_contains hNode.live
    have hStart : (t.sizeOf node).Within top 2 := by
      rw [← hGrown.sizeOf hs hLive] at hSize
      exact hForest.sizeOf_within (m := 1) (n := 1) hTop hUp hSize hq
        (hOffspring.rect node q hNode hq) (by decide)
    have hDepth := hForest.depth_of_parent? hUp
    rw [hGrown.depth hs hLive] at hDepth
    have hDeep := hOffspring.depth id hNew
    exact (Flow.rect?_within_arrangeAll hTop hForest hModerate hStart hCount hAbove (by omega)
      hr).isFinite
  · rw [(Flow.settled_arrangeAll hForest node).kept id fun hMovable => hAbove hMovable.below] at hr
    exact (hOffspring.rect id r hNew hr).isFinite

/-- The rectangles of all nodes of a document are finite, if the numbers of the document are at most
`2 ^ b` and the parent is not larger than a product of two of them, if there is room for each level
of the document below the largest scale, and if not too many nodes are arranged together. -/
theorem isFinite_convert (c : Converter) (root : Element) (sheet : Sheet) (canvas : Size Single)
    {s : Scene} {parent : NodeId} (hs : s.Reachable) (hLive : s.contains parent = true)
    {b g few : ℕ} (hParent : (s.sizeOf parent).Within (2 * b + 10) 1)
    (hFramed : Job.Framed ⟨c.settings.lettering, c.rules, sheet, canvas⟩ b)
    (hModest : ∀ e ∈ root.elements,
      Job.Modest ⟨c.settings.lettering, c.rules, sheet, canvas⟩ b g few e)
    (hg : g ≤ 19) (hScale : 2 * b + 10 + (g + 3) * root.height ≤ topScale)
    (hCount : (2 * (few + 17) + 5) * (6 * (3 * root.height + 14) + 5) < topCount) :
    let t := (Workshop.convert ⟨c, Host.ofScene s⟩ root sheet parent canvas).2.host.scene
    ∀ id r, New s t id → t.rect? id = some r → r.IsFinite := by
  have hw : (Stage.mk (Host.ofScene s) c.finder []).host.Willing := Host.willing_ofScene s
  let job : Job := ⟨c.settings.lettering, c.rules, sheet, canvas⟩
  obtain ⟨node, created, st, hVisit, hOwner, hVisited⟩ :=
    exists_visit job root none hw hs.forest hLive
  have hOffspring := offspring_visit hFramed hg hScale root none (s := 2 * b + 10) hModest nofun hw
    hs.forest hLive hParent le_rfl le_rfl
  rw [hVisit] at hOffspring
  have hGrown := hVisited.placed.grown
  have hUp : st.host.scene.parent? node = some parent := by
    refine (hGrown.forest.mem_children_iff parent node).mp ?_
    rw [hGrown.children_top hLive]
    exact List.mem_append_right _ List.mem_cons_self
  have hFresh := hVisited.placed.fresh node (List.mem_of_getLast? hVisited.last_eq)
  have hArranges : st.host.arranges = true := hOwner.2
  intro t id r hNew hr
  have hEnd : t = Flow.arrangeAll st.host.scene node := by
    simp only [t, run_convert (w := ⟨c, Host.ofScene s⟩) hVisit hVisited.last_eq, Host.rebuild,
      hArranges, if_true]
  rw [hEnd] at hNew hr
  have hThere := contains_of_place? (Flow.place?_arrangeAll st.host.scene node id)
  have hRoom : 2 * b + 10 ≤ 2 * b + 10 + (g + 3) * root.height := Nat.le_add_right _ _
  exact isFinite_arrangeAll hScale hs.forest hGrown hOffspring.1 hLive hUp hFresh
    (hParent.scale_mono hRoom) hCount ⟨hThere.symm.trans hNew.live, hNew.fresh⟩ hr

/-- A row with a padding holds a label with a margin, half as wide as the row. -/
theorem isFinite_convert_row :
    let s := Scene.withCanvas 800 600
    let parent := Scene.empty.nodes.nextKey
    let c := Converter.ofFinder default (.ofSource Asset.Shelf.empty.source)
    let label := Element.mk "Label" none
      (Catalog.ofList [⟨"text", "Hello"⟩, ⟨"style", "width: 50%; margin: 4px 8px"⟩]) [] none
    let root := Element.mk "VisualElement" none
      (Catalog.ofList [⟨"style", "flex-direction: row; padding: 8px"⟩]) [label] none
    let job : Job := ⟨c.settings.lettering, c.rules, Catalog.empty, ⟨800, 600⟩⟩
    let t := (Workshop.convert ⟨c, Host.ofScene s⟩ root Catalog.empty parent
      ⟨800, 600⟩).2.host.scene
    s.Reachable ∧ s.contains parent = true ∧ (s.sizeOf parent).Within (2 * 10 + 10) 1 ∧
      job.Framed 10 ∧ (∀ e ∈ root.elements, job.Modest 10 3 1 e) ∧
      2 * 10 + 10 + (3 + 3) * root.height ≤ topScale ∧
      (2 * (1 + 17) + 5) * (6 * (3 * root.height + 14) + 5) < topCount ∧
      ∀ id r, New s t id → t.rect? id = some r → r.IsFinite := by
  intro s parent c label root job t
  have hs : s.Reachable := ⟨[], Or.inr ⟨800, 600, rfl⟩⟩
  have hLive : s.contains parent = true := rfl
  have hParent : (s.sizeOf parent).Within (2 * 10 + 10) 1 := by decide +kernel
  have hFramed : job.Framed 10 := ⟨by decide, by decide +kernel, by decide +kernel⟩
  have hModest : ∀ e ∈ root.elements, job.Modest 10 3 1 e := by decide +kernel
  exact ⟨hs, hLive, hParent, hFramed, hModest, by decide +kernel, by decide +kernel,
    isFinite_convert c root Catalog.empty ⟨800, 600⟩ hs hLive hParent hFramed hModest
      (by decide) (by decide +kernel) (by decide +kernel)⟩

/-- The margins to the left and to the right are finite numbers of pixels, and their difference is
not. -/
theorem not_isFinite_convert :
    ¬ ∀ (c : Converter) (root : Element) (sheet : Sheet) (canvas : Size Single) (s : Scene)
      (parent : NodeId), (∀ axis, (canvas.get axis).isFinite = true) →
      c.settings.lettering.size.isFinite = true → s.Reachable → s.contains parent = true →
      (∀ id r, s.rect? id = some r → r.IsFinite) →
      let run := Workshop.convert ⟨c, Host.ofScene s⟩ root sheet parent canvas
      ∀ id ∈ run.1.created, ∀ r, run.2.host.scene.rect? id = some r → r.IsFinite := by
  intro hFinite
  let s := Scene.withCanvas 800 600
  let c := Converter.ofFinder default (.ofSource Asset.Shelf.empty.source)
  let large := "300000000000000000000000000000000000000px"
  let root := Element.mk "Label" none
    (Catalog.ofList [⟨"style", "margin: 0 -" ++ large ++ " 0 " ++ large⟩]) [] none
  let canvas := Scene.empty.nodes.nextKey
  let created :=
    (Workshop.convert ⟨c, Host.ofScene s⟩ root Catalog.empty canvas ⟨800, 600⟩).1.created
  let t := (Workshop.convert ⟨c, Host.ofScene s⟩ root Catalog.empty canvas ⟨800, 600⟩).2.host.scene
  have hs : s.Reachable := ⟨[], Or.inr ⟨800, 600, rfl⟩⟩
  have hCanvas : ∀ axis, ((⟨800, 600⟩ : Size Single).get axis).isFinite = true := by
    intro axis
    cases axis <;> decide +kernel
  have hRects : ∀ id r, s.rect? id = some r → r.IsFinite := by
    intro id r hr
    rw [rect?_withCanvas hr]
    decide +kernel
  have hBad : (created.any fun id => (t.rect? id).any fun r => !decide r.IsFinite) = true := by
    decide +kernel
  obtain ⟨id, hId, hRect⟩ := List.any_eq_true.mp hBad
  obtain ⟨r, hr, hNot⟩ := (Option.any_eq_true _ _).mp hRect
  rw [Bool.not_eq_true', decide_eq_false_iff_not] at hNot
  exact hNot (hFinite c root Catalog.empty ⟨800, 600⟩ s canvas hCanvas (by decide +kernel) hs rfl
    hRects id hId r hr)

end AnchoredUi.Conversion
