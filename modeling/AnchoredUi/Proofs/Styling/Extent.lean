import AnchoredUi.Asset.Shelf
import AnchoredUi.Proofs.SceneGraph.Operation
import AnchoredUi.Proofs.Styling.ParentGroup

/-!
# Declared sizes are kept

A cascade ends by checking the declared width and height against the rectangle. Whatever the
declarations did to the rectangle before, and whatever the check of the width does, afterwards the
node has each extent that is declared for it, as far as rounding lets it: setting the extent along
one axis changes neither what lengths refer to nor the rectangle along the other axis.

* `strongest_iff`: which of several declared sizes counts.
* `does_reconcile`: the check of one axis.
* `hasExtent_cascade`: both axes after a cascade.
-/

namespace AnchoredUi.Styling

open Number Plane SceneGraph Style Markup Sprite

/-! ## Rectangles set along an axis -/

section SetRect

variable {s : Scene}

theorem rect?_setRect {id : NodeId} (hLive : s.contains id = true) (r : Rect Single) :
    (s.setRect id r).rect? id = some r := by
  obtain ⟨old, hOld⟩ := Scene.rect?_of_contains hLive
  rw [Scene.rect?_setRect, if_pos rfl, hOld]
  rfl

theorem parentSize_setRect (hs : s.Forest) (id : NodeId) (r : Rect Single) :
    (s.setRect id r).parentSize id = s.parentSize id := by
  refine hs.parentSize_eq_of_others (hs.modify id _) (fun a => Scene.parent?_modify ..) ?_
  intro a ha
  simp only [Scene.rect?, Scene.node?_modify, if_neg ha]

theorem textOf?_setRect (s : Scene) (id other : NodeId) (r : Rect Single) :
    textOf? (s.setRect id r) other = textOf? s other := by
  have hPlace : ∀ a, (s.setRect id r).place? a = s.place? a := fun a =>
    Scene.place?_modify s id a fun _ => rfl
  refine textOf?_congr hPlace (fun a => ?_) other
  rw [Scene.component?, Scene.components_setRect, Scene.component?]

end SetRect

/-- Along another axis, a rectangle that is set to an extent is as it was. -/
theorem onAxis_setSize {axis other : Axis} (hOther : other ≠ axis) (r : Rect Single)
    (extent : Single) (parent : Size Single) :
    (r.setSize axis extent parent).onAxis other = r.onAxis other := by
  have hCross : other = axis.cross := by
    cases axis <;> cases other <;> first | rfl | exact absurd rfl hOther
  rw [hCross]
  exact r.setSize_other axis extent parent

namespace Subject

variable {x : Subject} {s t : Scene}

/-! ## The declared size that counts -/

/-- The strongest value that is declared for a size: the attribute of that name, else what the
`style` attribute declares, else what the last of the matching rules that set it declares. -/
inductive Strongest (x : Subject) (name v : String) : Prop
  | attribute (hAttribute : x.element.attr? name = some v)
  | inline (hNoAttribute : x.element.attr? name = none)
      (hInline : (Sheet.inlineStyle x.element).get? name = some v)
  | rule (hNoAttribute : x.element.attr? name = none)
      (hNoInline : (Sheet.inlineStyle x.element).get? name = none) {weaker stronger : List Rule}
      {r : Rule} (hMatching : x.sheet.matching x.element = weaker ++ r :: stronger)
      (hRule : r.declarations.get? name = some v)
      (hLast : ∀ q ∈ stronger, q.declarations.get? name = none)

/-- A list of values found one by one ends in the last value that is found. -/
theorem getLast?_filterMap_eq_some_iff {α β : Type} {f : α → Option β} {as : List α} {b : β} :
    (as.filterMap f).getLast? = some b ↔
      ∃ before a after, as = before ++ a :: after ∧ f a = some b ∧ ∀ c ∈ after, f c = none := by
  rw [← List.head?_reverse, ← List.filterMap_reverse, List.head?_filterMap,
    List.findSome?_eq_some_iff]
  constructor
  · rintro ⟨after, a, before, hReverse, hFound, hNone⟩
    refine ⟨before.reverse, a, after.reverse, ?_, hFound, fun c hc => hNone c (by simpa using hc)⟩
    rw [← List.reverse_reverse as, hReverse]
    simp
  · rintro ⟨before, a, after, rfl, hFound, hNone⟩
    exact ⟨after.reverse, a, before.reverse, by simp, hFound,
      fun c hc => hNone c (by simpa using hc)⟩

theorem strongest_iff {name v : String} : x.Strongest name v ↔ x.declaredSize? name = some v := by
  have hLookup : x.sheet.lookup x.element name = some v ↔ ∃ weaker r stronger,
      x.sheet.matching x.element = weaker ++ r :: stronger ∧
        r.declarations.get? name = some v ∧ ∀ q ∈ stronger, q.declarations.get? name = none :=
    getLast?_filterMap_eq_some_iff
  unfold declaredSize?
  constructor
  · rintro (hAttribute | ⟨hNoAttribute, hInline⟩ |
      ⟨hNoAttribute, hNoInline, hMatching, hRule, hLast⟩)
    · rw [hAttribute]
    · rw [hNoAttribute]
      simp only [hInline]
    · rw [hNoAttribute]
      simp only [hNoInline]
      exact hLookup.mpr ⟨_, _, _, hMatching, hRule, hLast⟩
  · intro h
    cases hAttribute : x.element.attr? name with
    | some w =>
      rw [hAttribute] at h
      obtain rfl : w = v := Option.some.inj h
      exact .attribute hAttribute
    | none =>
      rw [hAttribute] at h
      cases hInline : (Sheet.inlineStyle x.element).get? name with
      | some w =>
        simp only [hInline] at h
        obtain rfl : w = v := Option.some.inj h
        exact .inline hAttribute hInline
      | none =>
        simp only [hInline] at h
        obtain ⟨weaker, r, stronger, hMatching, hRule, hLast⟩ := hLookup.mp h
        exact .rule hAttribute hInline hMatching hRule hLast

theorem declaredExtent?_eq_some {name v : String} {axis : Axis} {l : Scalar} {extent : Single}
    (hStrongest : x.Strongest name v) (hRead : readScalar v = .ok l)
    (hLength : (x.surroundings s).length? l axis = some extent) (hExtent : 0 ≤ extent) :
    x.declaredExtent? s name axis = some extent := by
  have hLe : decide ((0 : Single) ≤ extent) = true := decide_eq_true hExtent
  simp [declaredExtent?, strongest_iff.mp hStrongest, hRead, Except.toOption, hLength, hLe,
    Option.filter]

/-! ## The check of one axis -/

/-- The node has an extent along an axis: its size is not off by more than the tolerance, or its
size beyond the anchors is exactly what the extent leaves of their span. -/
def HasExtent (x : Subject) (s : Scene) (axis : Axis) (extent : Single) : Prop :=
  ∃ r, s.rect? x.node = some r ∧
    (¬ tolerance < ((s.sizeOf x.node).get axis - extent).abs ∨
      r.sizeDelta.get axis = extent - (s.parentSize x.node).get axis *
        (r.anchorMax.get axis - r.anchorMin.get axis))

/-- Nothing is changed, or the node is set to some extent along an axis. -/
def Resized (x : Subject) (axis : Axis) (s t : Scene) : Prop :=
  t = s ∨ ∃ r extent, s.rect? x.node = some r ∧
    t = s.setRect x.node (r.setSize axis extent (s.parentSize x.node))

section Resized

variable {axis other : Axis} (h : x.Resized axis s t)
include h

theorem Resized.forest (hs : s.Forest) : t.Forest := by
  rcases h with rfl | ⟨r, extent, -, rfl⟩
  · exact hs
  · exact hs.modify _ _

theorem Resized.contains (id : NodeId) : t.contains id = s.contains id := by
  rcases h with rfl | ⟨r, extent, -, rfl⟩
  · rfl
  · exact Scene.contains_modify ..

theorem Resized.parentSize_eq (hs : s.Forest) : t.parentSize x.node = s.parentSize x.node := by
  rcases h with rfl | ⟨r, extent, -, rfl⟩
  · rfl
  · exact parentSize_setRect hs _ _

/-- Lengths mean the same before and after. -/
theorem Resized.surroundings_eq (hs : s.Forest) : x.surroundings t = x.surroundings s := by
  have hText : textOf? t x.node = textOf? s x.node := by
    rcases h with rfl | ⟨r, extent, -, rfl⟩
    · rfl
    · exact textOf?_setRect ..
  unfold surroundings surroundingsOf
  rw [h.parentSize_eq hs, hText]

/-- An extent along the other axis is not lost. -/
theorem Resized.hasExtent (hs : s.Forest) (hOther : other ≠ axis) {extent : Single}
    (hHas : x.HasExtent s other extent) : x.HasExtent t other extent := by
  have hParent := h.parentSize_eq hs
  have ht := h.forest hs
  rcases h with rfl | ⟨r, new, hr, rfl⟩
  · exact hHas
  · obtain ⟨q, hq, hExtent⟩ := hHas
    obtain rfl : q = r := Option.some.inj (hq.symm.trans hr)
    have hNew := rect?_setRect (Scene.contains_of_rect? hr)
      (q.setSize axis new (s.parentSize x.node))
    have hSame := onAxis_setSize hOther q new (s.parentSize x.node)
    simp only [Rect.onAxis, List.cons.injEq] at hSame
    obtain ⟨hMin, hMax, -, -, hDelta, -⟩ := hSame
    refine ⟨_, hNew, ?_⟩
    rw [ht.sizeOf_eq hNew, hParent, Rect.get_size, hMin, hMax, hDelta, ← Rect.get_size,
      ← hs.sizeOf_eq hr]
    exact hExtent

end Resized

theorem does_setExtent {h : Host} (hw : h.Willing) {id : NodeId} {r : Rect Single}
    (hr : h.scene.rect? id = some r) (axis : Axis) (extent : Single) :
    Host.Does (setExtent id axis extent) h ()
      (h.scene.setRect id (r.setSize axis extent (h.scene.parentSize id))) := by
  unfold Host.Does setExtent
  rw [Host.run_current_bind]
  exact Host.does_updateRect hw hr _

/-- On a host that refuses nothing, the check of an axis gives the node its declared extent. -/
theorem does_reconcile {h : Host} (hw : h.Willing) (hs : h.scene.Forest)
    (hLive : h.scene.contains x.node = true) (name : String) (axis : Axis) :
    ∃ t, Host.Does (x.reconcile name axis) h () t ∧ x.Resized axis h.scene t ∧
      ∀ extent, x.declaredExtent? h.scene name axis = some extent → x.HasExtent t axis extent := by
  obtain ⟨r, hr⟩ := Scene.rect?_of_contains hLive
  unfold Host.Does reconcile
  rw [Host.run_current_bind]
  cases hDeclared : x.declaredExtent? h.scene name axis with
  | none => exact ⟨h.scene, Host.does_pure () h, Or.inl rfl, fun _ hNone => nomatch hNone⟩
  | some expected =>
    simp only
    by_cases hOff : tolerance < ((h.scene.sizeOf x.node).get axis - expected).abs
    · rw [if_pos hOff]
      refine ⟨_, does_setExtent hw hr axis expected, Or.inr ⟨r, expected, hr, rfl⟩,
        fun extent hExtent => ?_⟩
      obtain rfl : expected = extent := Option.some.inj hExtent
      refine ⟨_, rect?_setRect hLive _, Or.inr ?_⟩
      rw [parentSize_setRect hs]
      simp [Rect.setSize]
    · rw [if_neg hOff]
      refine ⟨h.scene, Host.does_pure () h, Or.inl rfl, fun extent hExtent => ?_⟩
      obtain rfl : expected = extent := Option.some.inj hExtent
      exact ⟨r, hr, Or.inl hOff⟩

/-! ## Both axes -/

/-- After the checks of several axes the node has the declared extent along each of them. -/
theorem hasExtent_reconcileAll {sizes : List (String × Axis)} (hAxes : (sizes.map Prod.snd).Nodup)
    {st : Stage} (hw : st.host.Willing) (hs : st.host.scene.Forest)
    (hLive : st.host.scene.contains x.node = true) :
    let t := (sizes.forM (fun p => x.tryHost (x.reconcile p.1 p.2)) st).2.host.scene
    x.surroundings t = x.surroundings st.host.scene ∧
      (∀ axis extent, axis ∉ sizes.map Prod.snd → x.HasExtent st.host.scene axis extent →
        x.HasExtent t axis extent) ∧
      ∀ p ∈ sizes, ∀ extent, x.declaredExtent? st.host.scene p.1 p.2 = some extent →
        x.HasExtent t p.2 extent := by
  induction sizes generalizing st with
  | nil => exact ⟨rfl, fun _ _ _ hHas => hHas, by simp⟩
  | cons p sizes ih =>
    obtain ⟨t, hDoes, hResized, hFirst⟩ := does_reconcile hw hs hLive p.1 p.2
    obtain ⟨hScene, hOwner⟩ := host_tryHost (x := x) hDoes
    rw [List.map_cons, List.nodup_cons] at hAxes
    have hForest := hResized.forest hs
    have hContains := (hResized.contains x.node).trans hLive
    have hSurroundings := hResized.surroundings_eq hs
    rw [← hScene] at hForest hContains hSurroundings hFirst hResized
    obtain ⟨hSame, hKept, hOthers⟩ := ih hAxes.2 (hOwner.willing hw) hForest hContains
    simp only [run_forM_cons]
    refine ⟨hSame.trans hSurroundings, fun axis extent hAxis hHas => ?_, fun q hq extent hq' => ?_⟩
    · rw [List.map_cons, List.mem_cons, not_or] at hAxis
      exact hKept axis extent hAxis.2 (hResized.hasExtent hs hAxis.1 hHas)
    · rcases List.mem_cons.mp hq with rfl | hMem
      · exact hKept q.2 extent hAxes.1 (hFirst extent hq')
      · refine hOthers q hMem extent ?_
        unfold declaredExtent?
        rw [hSurroundings]
        exact hq'

/-- The strongest declared size wins: after a cascade the node has the extent that it gives in the
end, along both axes, whatever else is declared. -/
theorem hasExtent_cascade (x : Subject) (hs : s.Reachable) (hLive : s.contains x.node = true)
    (f : Finder) (ws : List Warning) :
    let t := (x.cascade ⟨Host.ofScene s, f, ws⟩).2.host.scene
    ∀ p ∈ sizeAttributes, ∀ v l extent, x.Strongest p.1 v → readScalar v = .ok l →
      (x.surroundings t).length? l p.2 = some extent → 0 ≤ extent → x.HasExtent t p.2 extent := by
  -- everything before the checks only touches nodes
  let before : StateM Stage Unit := do
    x.tryHost x.ensureParentGroup
    x.tryHost x.markRoot
    x.declarations.forM x.apply
  have hBefore : x.Keeps before := keeps_then (keeps_tryHost handled_ensureParentGroup) <|
    keeps_then (keeps_tryHost handled_markRoot) (keeps_forM keeps_apply _)
  have hHandled := hBefore ⟨Host.ofScene s, f, ws⟩
  have hw := hHandled.owner.willing (Host.willing_ofScene s)
  have hForest := forest_of_touches hHandled.touches hs.forest
  have hContains := (contains_of_touches hHandled.touches x.node).trans hLive
  have hNodup : (sizeAttributes.map Prod.snd).Nodup := by decide
  obtain ⟨hSame, -, hAxes⟩ := hasExtent_reconcileAll (x := x) hNodup hw hForest hContains
  intro t p hp v l extent hStrongest hRead hLength hExtent
  refine hAxes p hp extent (declaredExtent?_eq_some hStrongest hRead ?_ hExtent)
  rw [← hSame]
  exact hLength

/-- A button on a canvas is 80 pixels wide, by its attribute and not by its `style` attribute, and
20 pixels high, by a rule. It is also stretched over its parent, but that does not count. -/
theorem hasExtent_cascade_button :
    let s := Scene.withCanvas 800 600
    let attributes : Attributes :=
      Catalog.ofList [⟨"width", "80px"⟩, ⟨"style", "width: 70px; position: absolute"⟩]
    let rule : Rule := ⟨"Button", Catalog.ofList [⟨"height", "20px"⟩]⟩
    let x : Subject := ⟨.mk "Button" none attributes [] none, Scene.empty.nodes.nextKey, none, none,
      ⟨800, 600⟩, Catalog.ofList [rule], 14, false⟩
    let t := (x.cascade ⟨Host.ofScene s, .ofSource Asset.Shelf.empty.source, []⟩).2.host.scene
    s.Reachable ∧ s.contains x.node = true ∧
      x.Strongest "width" "80px" ∧ x.HasExtent t .horizontal 80 ∧
      x.Strongest "height" "20px" ∧ x.HasExtent t .vertical 20 := by
  intro s attributes rule x t
  have hs : s.Reachable := ⟨[], Or.inr ⟨800, 600, rfl⟩⟩
  have hLive : s.contains x.node = true := rfl
  have hAxes := hasExtent_cascade x hs hLive (.ofSource Asset.Shelf.empty.source) []
  have hWidth : x.Strongest "width" "80px" := .attribute rfl
  have hMatching : x.sheet.matching x.element = [] ++ rule :: [] := by decide
  have hHeight : x.Strongest "height" "20px" :=
    .rule (by decide) (by decide) hMatching (by decide) (by simp)
  have hRead : readScalar "80px" = .ok (.px 80) := by decide +kernel
  have hRead' : readScalar "20px" = .ok (.px 20) := by decide +kernel
  have hFinite : (some (80 : Single)).filter Binary.isFinite = some 80 := by decide +kernel
  have hFinite' : (some (20 : Single)).filter Binary.isFinite = some 20 := by decide +kernel
  have hLength : (x.surroundings t).length? (.px 80) .horizontal = some 80 := hFinite
  have hLength' : (x.surroundings t).length? (.px 20) .vertical = some 20 := hFinite'
  have hPositive : (0 : Single) ≤ 80 := by decide +kernel
  have hPositive' : (0 : Single) ≤ 20 := by decide +kernel
  refine ⟨hs, hLive, hWidth, ?_, hHeight, ?_⟩
  · exact hAxes ("width", .horizontal) (by decide) "80px" (.px 80) 80 hWidth hRead hLength
      hPositive
  · exact hAxes ("height", .vertical) (by decide) "20px" (.px 20) 20 hHeight hRead' hLength'
      hPositive'

end Subject

end AnchoredUi.Styling
