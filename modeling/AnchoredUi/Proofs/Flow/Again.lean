import AnchoredUi.Proofs.Flow.Exact
import AnchoredUi.Proofs.Flow.Settled

/-!
# Arranging twice

The rectangles that a group gives its children are in pixels, and the sizes of the children are what
it reads when it lays them out again. The rectangles stay the same if the group is steady. On the
axis where a child has no preferred extent, it now starts from its rounded extent, so that whatever
has grown, been stretched or been put aside must come to the same pixels from there. All groups from
a node on being steady, arranging from that node once is enough; for arranging settles every group
at the size that it keeps.

* `forall₂_measured`, `measured_across`: the sizes that a group reads the second time.
* `along_again`, `across_again`, `fitted_again`: a steady group gives the same rectangles again.
* `arrangeAll_arrangeAll`: arranging twice is arranging once.
-/

namespace AnchoredUi.Flow

open Number Plane SceneGraph

variable {s t : Scene} {start node c : NodeId} {g : LayoutGroup} {size : Size Single}

/-! ## Steady groups -/

/-- A child as an item of the line, if the group has the given size. -/
def childItem (s : Scene) (g : LayoutGroup) (size : Size Single) (c : NodeId) : LineItem Single :=
  itemOf g (hintsOf s c) (measured s size c)

/-- What keeps the line along the axis of a group of the given size steady, from a scene to the one
where the group has laid out its children. Children without a preferred extent have whole least
extents; the others are as large as whole numbers, and do not grow beside others. In both scenes,
single precision rounds the line as exact arithmetic does. -/
structure SteadyAlong (s t : Scene) (node : NodeId) (g : LayoutGroup) (size : Size Single) :
    Prop where
  finite : (size.get g.axis).isFinite = true
  whole : (frameOf g size).exact.Whole
    (((inFlow s node).map (childItem s g size)).map LineItem.exact)
  least : ∀ c ∈ inFlow s node, (hintsOf s c).preferred.get g.axis = none →
    ∃ n : ℕ, (childItem s g size c).least.value = n
  preferred : ∀ c ∈ inFlow s node, (hintsOf s c).preferred.get g.axis ≠ none →
    (∃ n : ℕ, (childItem s g size c).exact.hypothetical = n) ∧
      ((childItem s g size c).exact.grow = 0 ∨ (frameOf g size).exact.GrowsAlone
        (((inFlow s node).map (childItem s g size)).map LineItem.exact))
  faithful : (frameOf g size).Faithful ((inFlow s node).map (childItem s g size))
  again : (frameOf g size).Faithful ((inFlow s node).map (childItem t g size))

/-- What keeps a child steady that stands in its own extent across the line of a group of the given
size. -/
structure SteadyAcross (s t : Scene) (g : LayoutGroup) (size : Size Single) (c : NodeId) :
    Prop where
  finite : (size.get g.axis.cross).isFinite = true
  whole : ((frameOf g size).exact.cross (childItem s g size c).exact).Whole
    [(childItem s g size c).exact.alone
      (wantedExtent (hintsOf s c) (measured s size c) g.axis.cross).value]
  least : ∃ n : ℕ, (childItem s g size c).leastAcross.value = n
  faithful : (frameOf g size).FaithfulAcross (childItem s g size c)
  again : (frameOf g size).FaithfulAcross (childItem t g size c)

/-- A group of the given size is steady, from a scene to the one where it has laid out its children:
its children have preferred extents or are kept steady, together along its axis and each for itself
across it. A child that is stretched across the line takes the extent of the line anyway. -/
structure Steady (s t : Scene) (node : NodeId) (g : LayoutGroup) (size : Size Single) :
    Prop where
  along : (∀ c ∈ inFlow s node, (hintsOf s c).preferred.get g.axis ≠ none) ∨
    SteadyAlong s t node g size
  across : ∀ c ∈ inFlow s node,
    (hintsOf s c).alignSelf = some .stretch ∨ g.expands g.axis.cross = true ∨
      (hintsOf s c).preferred.get g.axis.cross ≠ none ∨ SteadyAcross s t g size c

theorem fitted_eq (s : Scene) (node : NodeId) (g : LayoutGroup) (size : Size Single) :
    fitted s node g size = (inFlow s node).zip
      (((frameOf g size).spans ((inFlow s node).map (childItem s g size))).map
        fun (along, across) => rectOf g.axis along across) := rfl

theorem value_notNegative (x : Single) : 0 ≤ (notNegative x).value := by
  show 0 ≤ (x.larger 0).value
  rw [Binary.value_larger_zero]
  exact le_max_right _ _

theorem nonneg_childItem (s : Scene) (g : LayoutGroup) (size : Size Single) (c : NodeId) :
    (childItem s g size c).exact.Nonneg := by
  refine ⟨value_notNegative _, value_notNegative _, ?_⟩
  show 0 ≤ (growOf g (hintsOf s c)).value
  simp only [growOf]
  split
  · decide +kernel
  · exact value_notNegative _

/-! ## What a group measures after it has laid out its children -/

/-- A rectangle that a group gives has its spans in pixels for its size. -/
theorem get_size_rectOf (axis : Axis) (along across : Span Single) (size : Size Single) :
    ((size.get axis).isFinite = true →
      ((rectOf axis along across).size size).get axis = along.rounded.extent) ∧
    ((size.get axis.cross).isFinite = true →
      ((rectOf axis along across).size size).get axis.cross = across.rounded.extent) := by
  have hAdd (x y : Single) (h : x.isFinite = true) : x * (0 - 0) + y = y ∧ x * (1 - 1) + y = y := by
    have hZero : (0 : Single) - 0 = 0 := by decide +kernel
    have hOne : (1 : Single) - 1 = 0 := by decide +kernel
    rw [hZero, hOne, Binary.mul_zero h, Binary.zero_add]
    exact ⟨rfl, rfl⟩
  cases axis with
  | horizontal => exact ⟨fun h => (hAdd _ _ h).1, fun h => (hAdd _ _ h).2⟩
  | vertical => exact ⟨fun h => (hAdd _ _ h).2, fun h => (hAdd _ _ h).1⟩

/-- The children have got what fits the group. -/
theorem forall₂_rect? (hFits : ∀ id r, (id, r) ∈ fitted s node g size → t.rect? id = some r) :
    List.Forall₂ (fun c p => t.rect? c = some (rectOf g.axis p.1 p.2)) (inFlow s node)
      ((frameOf g size).spans ((inFlow s node).map (childItem s g size))) := by
  have hLength : (inFlow s node).length =
      ((frameOf g size).spans ((inFlow s node).map (childItem s g size))).length := by
    rw [Frame.length_spans, List.length_map]
  rw [fitted_eq] at hFits
  rw [List.forall₂_iff_zip]
  refine ⟨hLength, fun {c p} hMem => hFits c _ ?_⟩
  rw [List.zip_map_right]
  exact List.mem_map_of_mem (f := Prod.map id _) hMem

theorem measured_of_rect? {r : Rect Single} (h : t.rect? c = some r) :
    measured t size c = r.size size := by
  rw [measured, h]
  rfl

section Measured

variable (hFits : ∀ id r, (id, r) ∈ fitted s node g size → t.rect? id = some r)
include hFits

theorem forall₂_measured (hFinite : (size.get g.axis).isFinite = true) :
    List.Forall₂ (fun c a => (measured t size c).get g.axis = a.rounded.extent) (inFlow s node)
      ((frameOf g size).spansAlong
        ((frameOf g size).extents ((inFlow s node).map (childItem s g size)))) := by
  have hRects := (forall₂_rect? hFits).imp fun c p hRect =>
    show (measured t size c).get g.axis = p.1.rounded.extent by
      rw [measured_of_rect? hRect, (get_size_rectOf _ _ _ _).1 hFinite]
  have hAlong : List.Forall₂ (fun c a => (measured t size c).get g.axis = a.rounded.extent)
      (inFlow s node) (((frameOf g size).spans
        ((inFlow s node).map (childItem s g size))).map Prod.fst) :=
    List.forall₂_map_right_iff.mpr hRects
  rwa [Frame.spans, List.map_fst_zip (by simp [Frame.length_spansAlong, Frame.length_extents])]
    at hAlong

theorem measured_across (hFinite : (size.get g.axis.cross).isFinite = true)
    (hc : c ∈ inFlow s node) : (measured t size c).get g.axis.cross =
      ((frameOf g size).spanAcross (childItem s g size c)).rounded.extent := by
  have hRects := (forall₂_rect? hFits).imp fun c p hRect =>
    show (measured t size c).get g.axis.cross = p.2.rounded.extent by
      rw [measured_of_rect? hRect, (get_size_rectOf _ _ _ _).2 hFinite]
  have hAcross : List.Forall₂ (fun c a => (measured t size c).get g.axis.cross = a.rounded.extent)
      (inFlow s node) (((frameOf g size).spans
        ((inFlow s node).map (childItem s g size))).map Prod.snd) :=
    List.forall₂_map_right_iff.mpr hRects
  rw [Frame.spans, List.map_snd_zip (by simp [Frame.length_spansAlong, Frame.length_extents]),
    List.map_map, List.forall₂_map_right_iff, List.forall₂_same] at hAcross
  exact hAcross c hc

end Measured

/-! ## The same pixels again -/

theorem mem_walk_of_bare (hs : s.Forest) (h : t.bare = s.bare) :
    node ∈ t.walk start ↔ node ∈ s.walk start := by
  rw [(hs.of_bare h).mem_walk_iff, hs.mem_walk_iff, Scene.contains_of_bare h]
  simp only [Scene.Below, Scene.parent?_of_bare h]

/-- Rectangles are given by spans in pixels. -/
theorem map_rectOf_congr (axis : Axis) {along along' across across' : List (Span Single)}
    (hAlong : along'.map Span.rounded = along.map Span.rounded)
    (hAcross : across'.map Span.rounded = across.map Span.rounded) :
    (along'.zip across').map (fun (a, b) => rectOf axis a b) =
      (along.zip across).map fun (a, b) => rectOf axis a b := by
  obtain ⟨rect, hRect⟩ : ∃ rect : Span Single → Span Single → Rect Single,
      ∀ a b, rectOf axis a b = rect a.rounded b.rounded := by
    let rect (x y : Span Single) : Rect Single :=
      (Rect.topLeft x.extent y.extent).withPosition ⟨x.start, -y.start⟩
    cases axis with
    | horizontal => exact ⟨rect, fun a b => rfl⟩
    | vertical => exact ⟨fun y x => rect x y, fun a b => rfl⟩
  have hZip (as bs : List (Span Single)) : (as.zip bs).map (fun (a, b) => rectOf axis a b) =
      List.zipWith rect (as.map Span.rounded) (bs.map Span.rounded) := by
    rw [List.zipWith_map, List.zip, List.map_zipWith]
    simp only [hRect]
  rw [hZip, hZip, hAlong, hAcross]

section Again

variable (hBare : t.bare = s.bare)
  (hFits : ∀ id r, (id, r) ∈ fitted s node g size → t.rect? id = some r)
include hBare hFits

theorem along_again
    (h : (∀ c ∈ inFlow s node, (hintsOf s c).preferred.get g.axis ≠ none) ∨
      SteadyAlong s t node g size) :
    ((frameOf g size).spansAlong
      ((frameOf g size).extents ((inFlow s node).map (childItem t g size)))).map Span.rounded =
    ((frameOf g size).spansAlong
      ((frameOf g size).extents ((inFlow s node).map (childItem s g size)))).map Span.rounded := by
  have hHints (c : NodeId) : hintsOf t c = hintsOf s c := by
    rw [hintsOf, Scene.component?_of_bare hBare, hintsOf]
  rcases h with hAll | hSteady
  · -- nothing along the line depends on the present sizes
    have hSame : ((inFlow s node).map (childItem t g size)).map LineItem.onlyAlong =
        ((inFlow s node).map (childItem s g size)).map LineItem.onlyAlong := by
      rw [List.map_map, List.map_map]
      refine List.map_congr_left fun c hc => ?_
      obtain ⟨e, he⟩ := Option.ne_none_iff_exists'.mp (hAll c hc)
      simp only [Function.comp, LineItem.onlyAlong, childItem, itemOf, wantedExtent, hHints, he,
        Option.getD_some]
    rw [← Frame.extents_onlyAlong, hSame, Frame.extents_onlyAlong]
  · refine hSteady.faithful.rounded_eq hSteady.again hSteady.whole
      (fun c _ => nonneg_childItem s g size c) (fun c _ => nonneg_childItem t g size c) ?_
    have hMeasured := forall₂_measured hFits hSteady.finite
    have hHinted := fun c hc => And.intro (hSteady.least c hc) (hSteady.preferred c hc)
    refine ((List.forall₂_and_left _ _).mpr ⟨hHinted, hMeasured⟩).imp ?_
    rintro c a ⟨⟨hLeast, hPreferred⟩, hSize⟩
    have hGrow : (childItem t g size c).exact.grow = (childItem s g size c).exact.grow := by
      simp only [LineItem.exact, childItem, itemOf, hHints]
    cases hWanted : (hintsOf s c).preferred.get g.axis with
    | none =>
      refine .measured (hLeast hWanted) ?_ hGrow ?_
      · simp only [LineItem.exact, childItem, itemOf, hHints]
      · simp only [LineItem.exact, childItem, itemOf, wantedExtent, hHints, hWanted, hSize,
          Option.getD_none]
        exact Binary.value_larger_zero _
    | some e =>
      obtain ⟨hWhole, hStill⟩ := hPreferred (by rw [hWanted]; exact Option.some_ne_none e)
      refine .kept hWhole hStill ?_ hGrow
      rw [LineItem.hypothetical_eq, LineItem.hypothetical_eq]
      simp only [LineItem.exact, childItem, itemOf, wantedExtent, hHints, hWanted,
        Option.getD_some]

theorem across_again (hc : c ∈ inFlow s node)
    (h : (hintsOf s c).alignSelf = some .stretch ∨ g.expands g.axis.cross = true ∨
      (hintsOf s c).preferred.get g.axis.cross ≠ none ∨ SteadyAcross s t g size c) :
    ((frameOf g size).spanAcross (childItem t g size c)).rounded =
      ((frameOf g size).spanAcross (childItem s g size c)).rounded := by
  have hHints : hintsOf t c = hintsOf s c := by
    rw [hintsOf, Scene.component?_of_bare hBare, hintsOf]
  have hSame (hExtent : (childItem t g size c).across = (childItem s g size c).across) :
      (frameOf g size).spanAcross (childItem t g size c) =
        (frameOf g size).spanAcross (childItem s g size c) := by
    unfold Frame.spanAcross
    rw [hExtent]
    simp only [childItem, itemOf, hHints]
  by_cases hStretch : (hintsOf s c).alignSelf = some .stretch ∨ g.expands g.axis.cross = true
  · rw [hSame]
    simp only [childItem, itemOf, hHints, if_pos hStretch]
  rcases h with hSelf | hExpands | hPreferred | hSteady
  · exact absurd (.inl hSelf) hStretch
  · exact absurd (.inr hExpands) hStretch
  · obtain ⟨e, he⟩ := Option.ne_none_iff_exists'.mp hPreferred
    rw [hSame]
    simp only [childItem, itemOf, wantedExtent, hHints, he, Option.getD_some]
  · have hAcross (u : Scene) (hu : hintsOf u c = hintsOf s c) : (childItem u g size c).across =
        .fixed (wantedExtent (hintsOf s c) (measured u size c) g.axis.cross) := by
      simp only [childItem, itemOf, hu, if_neg hStretch]
    cases hNone : (hintsOf s c).preferred.get g.axis.cross with
    | none =>
      refine hSteady.faithful.rounded_eq hSteady.again hSteady.whole (hAcross s rfl)
        (hAcross t hHints) ?_ ?_ (value_notNegative _) hSteady.least ?_
      · simp only [childItem, itemOf, hHints]
      · simp only [childItem, itemOf, hHints]
      · rw [← measured_across hFits hSteady.finite hc, wantedExtent, hNone, Option.getD_none]
        exact Binary.value_larger_zero _
    | some e =>
      rw [hSame]
      simp only [childItem, itemOf, wantedExtent, hHints, hNone, Option.getD_some]

/-- A steady group gives its children the same rectangles again. -/
theorem fitted_again (h : Steady s t node g size) :
    fitted t node g size = fitted s node g size := by
  have hAcross : (((inFlow s node).map (childItem t g size)).map
        (frameOf g size).spanAcross).map Span.rounded =
      (((inFlow s node).map (childItem s g size)).map
        (frameOf g size).spanAcross).map Span.rounded := by
    rw [List.map_map, List.map_map, List.map_map, List.map_map]
    exact List.map_congr_left fun c hc => across_again hBare hFits hc (h.across c hc)
  rw [fitted_eq, fitted_eq, inFlow_of_bare hBare, Frame.spans, Frame.spans,
    map_rectOf_congr g.axis (along_again hBare hFits h.along) hAcross]

end Again

/-- If every group from a node on is steady at the size that arranging leaves it, arranging twice is
arranging once. -/
theorem arrangeAll_arrangeAll (h : s.Reachable) (start : NodeId)
    (hSteady : ∀ node g, node ∈ s.walk start → s.isActive node = true →
      s.component? LayoutGroup node = some g →
      Steady s (arrangeAll s start) node g ((arrangeAll s start).sizeOf node)) :
    arrangeAll (arrangeAll s start) start = arrangeAll s start := by
  have hs := h.forest
  have hOnce := settled_arrangeAll hs start
  have ht : (arrangeAll s start).Forest := hs.of_bare hOnce.bare_eq
  have hTwice := settled_arrangeAll ht start
  have hSame : Settled (arrangeAll s start) start (arrangeAll s start) := by
    refine ⟨rfl, fun node g hWalk hActive hGroup id r hMem => ?_, fun _ _ => rfl⟩
    rw [mem_walk_of_bare hs hOnce.bare_eq] at hWalk
    have hFits := hOnce.fits node g hWalk hActive hGroup
    rw [Scene.isActive_of_bare hOnce.bare_eq] at hActive
    rw [Scene.component?_of_bare hOnce.bare_eq] at hGroup
    rw [fitted_again hOnce.bare_eq hFits (hSteady node g hWalk hActive hGroup)] at hMem
    exact hFits id r hMem
  exact Scene.eq_of_bare hTwice.bare_eq (hTwice.rect?_eq ht hSame)

/-! ## Rows on a canvas -/

/-- All numbers of the rectangle are finite. -/
def finiteRect (r : Rect Single) : Bool :=
  [r.anchorMin, r.anchorMax, r.pivot, r.position, r.sizeDelta].all fun v =>
    v.x.isFinite && v.y.isFinite

/-- All numbers of the hints are finite. -/
def finiteHints (h : LayoutHints) : Bool :=
  [h.least, h.preferred, h.flexible].all fun a =>
    a.width.all Binary.isFinite && a.height.all Binary.isFinite

/-- All numbers of the group are finite. -/
def finiteGroup (g : LayoutGroup) : Bool :=
  [g.spacing, g.padding.top, g.padding.right, g.padding.bottom, g.padding.left].all Binary.isFinite

/-- From a node on, all numbers that layout reads are finite. -/
def AllFinite (s : Scene) (start : NodeId) : Prop :=
  ∀ id ∈ s.walk start, (s.rect? id).all finiteRect = true ∧
    (s.component? LayoutHints id).all finiteHints = true ∧
    (s.component? LayoutGroup id).all finiteGroup = true

instance (s : Scene) (start : NodeId) : Decidable (AllFinite s start) :=
  inferInstanceAs (Decidable (∀ id ∈ s.walk start, _ ∧ _))

/-- A canvas with a stretched group, whose children have the given rectangles and hints. -/
def groupScene (width height : Single) (g : LayoutGroup)
    (children : List (Rect Single × LayoutHints)) : Scene :=
  let group : Operation := .insertChild ⟨0, 1⟩ ⟨"Group", .stretched, [.layoutGroup g], true⟩
  let child (c : Rect Single × LayoutHints) : Operation :=
    .insertChild ⟨1, 1⟩ ⟨"Child", c.1, [.layoutHints c.2], true⟩
  Operation.runAll (group :: children.map child) (.withCanvas width height)

theorem reachable_groupScene (width height : Single) (g : LayoutGroup)
    (children : List (Rect Single × LayoutHints)) :
    (groupScene width height g children).Reachable := ⟨_, Or.inr ⟨width, height, rfl⟩⟩

/-- Hints of a child of a row. -/
def rowHints (least preferred flexible : Option Single) : LayoutHints :=
  ⟨⟨least, none⟩, ⟨preferred, none⟩, ⟨flexible, none⟩, none, false⟩

/-- Without a condition of these, arranging twice is not arranging once, although all numbers are
finite. -/
theorem arrangeAll_arrangeAll_ne :
    let canvas : NodeId := ⟨0, 1⟩
    let row : LayoutGroup := .along .horizontal
    let Changes (s : Scene) : Prop := s.Reachable ∧ AllFinite s canvas ∧
      arrangeAll (arrangeAll s canvas) canvas ≠ arrangeAll s canvas
    -- half of the room is shared out, and then half of what is left
    Changes (groupScene 100 100 row [(.topLeft 10 10, rowHints none none (some 0.5))]) ∧
    -- one child starts from its preferred extent again, the other from what it has got
    Changes (groupScene 100 100 row [(.topLeft 10 10, rowHints none (some 10) (some 1)),
      (.topLeft 10 10, rowHints none none (some 1))]) ∧
    -- the first child has lost 0.4, which takes the second one to the other side of a half
    Changes (groupScene 100 100 row [(.topLeft 0.4 10, .none),
      (.topLeft 10 10, rowHints none (some 0.4) none)]) ∧
    -- the same for gaps
    Changes (groupScene 100 100 { row with spacing := 0.4 }
      [(.topLeft 1.3 10, .none), (.topLeft 1.3 10, .none), (.topLeft 1.3 10, .none)]) ∧
    -- a child is rounded below its least extent, and takes that again
    Changes (groupScene 100 100 row [(.topLeft 0 10, rowHints (some 1.3) none none),
      (.topLeft 0 10, rowHints (some 1.3) none none),
      (.topLeft 0 10, rowHints (some 1.3) none none)]) ∧
    -- a child ends in the middle of the pixel before the group
    Changes (groupScene 10 100 { row with spacing := 1, align := .upperRight }
      [(.topLeft 1 10, .none), (.topLeft 9.5 10, .none)]) ∧
    -- the line stands at the end of a room that ends in the middle of a pixel
    Changes (groupScene 99.5 100 { row with reverse := true } [(.topLeft 99.5 10, .none)]) ∧
    -- in single precision, 1 + 0.49999997 is 1.5
    Changes (groupScene 100 100 { row with spacing := 1 }
      [(.topLeft 0.49999997 10, .none), (.topLeft 1 10, .none)]) := by
  intro canvas row Changes
  have hChanges (width height : Single) (g : LayoutGroup)
      (children : List (Rect Single × LayoutHints)) (id : NodeId)
      (hFinite : AllFinite (groupScene width height g children) canvas)
      (hRect :
        (arrangeAll (arrangeAll (groupScene width height g children) canvas) canvas).rect? id ≠
          (arrangeAll (groupScene width height g children) canvas).rect? id) :
      Changes (groupScene width height g children) :=
    ⟨reachable_groupScene width height g children, hFinite,
      fun hSame => hRect (congrArg (fun s => s.rect? id) hSame)⟩
  -- which child is laid out anew in which scene
  refine ⟨hChanges _ _ _ _ ⟨2, 1⟩ ?_ ?_, hChanges _ _ _ _ ⟨2, 1⟩ ?_ ?_,
    hChanges _ _ _ _ ⟨3, 1⟩ ?_ ?_, hChanges _ _ _ _ ⟨3, 1⟩ ?_ ?_, hChanges _ _ _ _ ⟨4, 1⟩ ?_ ?_,
    hChanges _ _ _ _ ⟨2, 1⟩ ?_ ?_, hChanges _ _ _ _ ⟨2, 1⟩ ?_ ?_, hChanges _ _ _ _ ⟨3, 1⟩ ?_ ?_⟩
  all_goals decide +kernel

/-- Two children share what is left beside a third one. They are rounded, and share the half pixel
that is left over then, but stay where they are. -/
theorem arrangeAll_arrangeAll_row :
    let canvas : NodeId := ⟨0, 1⟩
    let g : LayoutGroup :=
      { LayoutGroup.along .horizontal with
        spacing := 2, padding := ⟨0, 0, 0, 1.5⟩, align := .middleLeft }
    let s := groupScene 100 50 g [(.topLeft 10.3 7.5, rowHints (some 5) none (some 1)),
      (.topLeft 10.4 8, rowHints none none (some 1)), (.topLeft 3 3, rowHints none (some 20) none)]
    let t := arrangeAll s canvas
    s.Reachable ∧
      (∀ node g, node ∈ s.walk canvas → s.isActive node = true →
        s.component? LayoutGroup node = some g → Steady s t node g (t.sizeOf node)) ∧
      t.rect? ⟨2, 1⟩ = some ((Rect.topLeft 37 8).withPosition ⟨2, -21⟩) ∧
      t.rect? ⟨3, 1⟩ = some ((Rect.topLeft 37 8).withPosition ⟨41, -21⟩) ∧
      arrangeAll t canvas = t := by
  intro canvas g s t
  let group : NodeId := ⟨1, 1⟩
  have hReachable : s.Reachable := reachable_groupScene _ _ _ _
  have hSize : t.sizeOf group = ⟨100, 50⟩ := by decide +kernel
  have hFlow : inFlow s group = [⟨2, 1⟩, ⟨3, 1⟩, ⟨4, 1⟩] := by decide +kernel
  have hAlong : SteadyAlong s t group g ⟨100, 50⟩ := by
    refine ⟨by decide +kernel, ⟨fun _ => ⟨2, by decide +kernel⟩, ?_, ?_, ?_⟩, ?_, ?_, ?_, ?_⟩
    · decide +kernel
    · decide +kernel
    · decide +kernel
    · rw [hFlow]
      simp only [List.forall_mem_cons]
      exact ⟨fun _ => ⟨5, by decide +kernel⟩, fun _ => ⟨0, by decide +kernel⟩,
        fun _ => ⟨0, by decide +kernel⟩, nofun⟩
    · rw [hFlow]
      simp only [List.forall_mem_cons]
      exact ⟨fun h => absurd (by decide +kernel) h, fun h => absurd (by decide +kernel) h,
        fun _ => ⟨⟨20, by decide +kernel⟩, .inl (by decide +kernel)⟩, nofun⟩
    · exact ⟨by decide +kernel, by decide +kernel⟩
    · exact ⟨by decide +kernel, by decide +kernel⟩
  have hAcross (c : NodeId) (hc : c ∈ [⟨2, 1⟩, ⟨3, 1⟩, ⟨4, 1⟩]) :
      SteadyAcross s t g ⟨100, 50⟩ c := by
    simp only [List.mem_cons, List.not_mem_nil, or_false] at hc
    rcases hc with rfl | rfl | rfl
    all_goals
      refine ⟨by decide +kernel, ⟨fun h => absurd h (by decide +kernel), ?_, ?_, ?_⟩,
        ⟨0, by decide +kernel⟩, ⟨?_, ?_⟩, ⟨?_, ?_⟩⟩ <;> decide +kernel
  have hSteady : ∀ node g, node ∈ s.walk canvas → s.isActive node = true →
      s.component? LayoutGroup node = some g → Steady s t node g (t.sizeOf node) := by
    intro node g' hNode _ hGroup
    have hOnly : ∀ n ∈ s.walk canvas, n = group ∨ s.component? LayoutGroup n = none := by
      decide +kernel
    rcases hOnly node hNode with rfl | hNone
    · have hSame : s.component? LayoutGroup group = some g := by decide +kernel
      cases hSame.symm.trans hGroup
      rw [hSize]
      exact ⟨.inr hAlong, fun c hc => .inr (.inr (.inr (hAcross c (hFlow ▸ hc))))⟩
    · cases hNone.symm.trans hGroup
  exact ⟨hReachable, hSteady, by decide +kernel, by decide +kernel,
    arrangeAll_arrangeAll hReachable canvas hSteady⟩

end AnchoredUi.Flow
