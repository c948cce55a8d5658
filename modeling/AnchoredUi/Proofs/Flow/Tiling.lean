import AnchoredUi.Proofs.Flow.Again
import AnchoredUi.Proofs.Number.Within
import AnchoredUi.Proofs.Plane.Edges

/-!
# Neighbors on a line

Each item of a line is rounded for itself: its start, and its extent as the difference of its
rounded ends. What it starts from is the sum of everything before it, with all fractions that
growth, least extents, paddings and the place of the line have left. Still neighbors neither overlap
nor come apart by it. In exact numbers, one starts where the other one ends and the gap is over;
rounding never changes the order of two numbers, and never tells equal ones apart.

A line may run the other way. Then its items are put down from the last one to the first, and the
later of two neighbors ends where the earlier one starts.

* `isChain_place`, `isChain_spansAlong`: neighbors on a line, before they are rounded.
* `isChain_rounded`: neighbors in pixels.
* `tiles_of_reachable`: neighbors of a group after it is arranged.
-/

namespace AnchoredUi.Plane

open Number

/-- A vector in exact numbers. -/
def Vec2.exact (v : Vec2 Single) : Vec2 ℚ := ⟨v.x.value, v.y.value⟩

/-- A rectangle in exact numbers. -/
def Rect.exact (r : Rect Single) : Rect ℚ where
  anchorMin := r.anchorMin.exact
  anchorMax := r.anchorMax.exact
  pivot := r.pivot.exact
  position := r.position.exact
  sizeDelta := r.sizeDelta.exact

end AnchoredUi.Plane

namespace AnchoredUi.Flow

open Number Plane SceneGraph

/-! ## Neighbors -/

/-- Of two neighbors on a line, the second one lies behind the first one, or before it if the line
runs the other way. If there is no gap, they meet. -/
def Tile (reverse : Bool) (gap : ℚ) (a b : Span ℚ) : Prop :=
  if reverse then b.finish ≤ a.start ∧ (gap = 0 → b.finish = a.start)
  else a.finish ≤ b.start ∧ (gap = 0 → a.finish = b.start)

/-- Spans that are put one behind the other with a gap are apart by that gap. -/
theorem isChain_place (gap start offset : ℚ) (es : List ℚ) :
    (place start ((offset :: List.replicate (es.length - 1) gap).zip es)).IsChain
      fun a b => b.start = a.finish + gap := by
  induction es generalizing start offset with
  | nil => exact .nil
  | cons e es ih =>
    cases es with
    | nil => exact .singleton _
    | cons e' es' =>
      refine (ih (start + (offset + Measure.larger e 0)) gap).cons_cons ?_
      show start + (offset + Measure.larger e 0) + gap = start + offset + Measure.larger e 0 + gap
      rw [add_assoc start offset]

/-- Neighbors on a line are apart by its gap, in the direction of the line. -/
theorem isChain_spansAlong (f : Frame ℚ) (es : List ℚ) : (f.spansAlong es).IsChain fun a b =>
    if f.reverse then a.start = b.finish + f.gap else b.start = a.finish + f.gap := by
  unfold Frame.spansAlong
  cases f.reverse with
  | false => exact isChain_place f.gap f.start _ es
  | true =>
    have hPlaced := isChain_place f.gap f.start
      (f.firstOffset (f.room - (f.gaps es.length + total es))) es.reverse
    rw [List.length_reverse] at hPlaced
    exact List.isChain_reverse.mpr hPlaced

/-- Neighbors that are rounded lie behind each other in the same way. -/
theorem tile_rounded {reverse : Bool} {gap : ℚ} (hGap : 0 ≤ gap) {a b : Span ℚ}
    (h : if reverse then a.start = b.finish + gap else b.start = a.finish + gap) :
    Tile reverse gap a.rounded b.rounded := by
  have hBehind {u v : Span ℚ} (huv : v.start = u.finish + gap) :
      u.rounded.finish ≤ v.rounded.start ∧ (gap = 0 → u.rounded.finish = v.rounded.start) := by
    rw [Span.finish_rounded]
    refine ⟨round_mono (by linarith), fun hZero => ?_⟩
    rw [hZero, add_zero] at huv
    exact congrArg Measure.round huv.symm
  unfold Tile
  cases reverse with
  | false => exact hBehind h
  | true => exact hBehind h

theorem isChain_rounded {f : Frame ℚ} (hGap : 0 ≤ f.gap) (es : List ℚ) :
    ((f.spansAlong es).map Span.rounded).IsChain (Tile f.reverse f.gap) :=
  (List.isChain_map _).mpr ((isChain_spansAlong f es).imp fun _ _ => tile_rounded hGap)

/-! ## Rectangles on a line -/

/-- What a rectangle covers along an axis, from the left or from the top of the parent on. -/
def covered (axis : Axis) (parent : Size ℚ) (r : Rect ℚ) : Span ℚ :=
  match axis with
  | .horizontal => ⟨r.edge parent .left, r.edge parent .right - r.edge parent .left⟩
  | .vertical =>
    ⟨parent.height - r.edge parent .top, r.edge parent .top - r.edge parent .bottom⟩

/-- The rectangle that covers given spans, from the top left corner of the parent on. -/
def corner {α : Type} [Measure α] (x y : Span α) : Rect α :=
  (Rect.topLeft x.extent y.extent).withPosition ⟨x.start, -y.start⟩

theorem covered_corner (x y : Span ℚ) (parent : Size ℚ) :
    covered .horizontal parent (corner x y) = x ∧ covered .vertical parent (corner x y) = y := by
  have hWidth : ((corner x y).size parent).get .horizontal = x.extent := by
    rw [Rect.get_size_exact]
    show parent.width * (0 - 0) + x.extent = _
    ring
  have hHeight : ((corner x y).size parent).get .vertical = y.extent := by
    rw [Rect.get_size_exact]
    show parent.height * (1 - 1) + y.extent = _
    ring
  have hLeft : (corner x y).low parent .horizontal = x.start := by
    rw [Rect.low_eq, Rect.get_offsetMin]
    show parent.width * 0 + (x.start - x.extent * 0) = _
    ring
  have hTop : parent.height - (corner x y).high parent .vertical = y.start := by
    rw [Rect.high_eq, Rect.get_offsetMax]
    show parent.height - (parent.height * 1 + (-y.start + y.extent * (1 - 1))) = _
    ring
  constructor
  · exact congrArg₂ Span.mk hLeft ((Rect.high_sub_low ..).trans hWidth)
  · exact congrArg₂ Span.mk hTop ((Rect.high_sub_low ..).trans hHeight)

theorem exact_corner (x y : Span Single) : (corner x y).exact = corner x.exact y.exact := by
  have hTopLeft : (Vec2.topLeft : Vec2 Single).exact = Vec2.topLeft :=
    congrArg₂ Vec2.mk Binary.value_zero Binary.value_one.2
  have hPosition : (Vec2.mk x.start (-y.start)).exact = ⟨x.start.value, -y.start.value⟩ :=
    congrArg (Vec2.mk x.start.value) (Binary.value_neg y.start)
  show Rect.mk Vec2.topLeft.exact Vec2.topLeft.exact Vec2.topLeft.exact
    (Vec2.mk x.start (-y.start)).exact (Vec2.mk x.extent y.extent).exact = _
  rw [hTopLeft, hPosition]
  rfl

theorem covered_rectOf (axis : Axis) (parent : Size ℚ) (along across : Span ℚ) :
    covered axis parent (rectOf axis along across) = along.rounded := by
  cases axis with
  | horizontal => exact (covered_corner along.rounded across.rounded parent).1
  | vertical => exact (covered_corner across.rounded along.rounded parent).2

theorem covered_exact (axis : Axis) (parent : Size ℚ) (along across : Span Single) :
    covered axis parent (rectOf axis along across).exact = along.rounded.exact := by
  cases axis with
  | horizontal =>
    show covered .horizontal parent (corner along.rounded across.rounded).exact = _
    rw [exact_corner]
    exact (covered_corner _ _ parent).1
  | vertical =>
    show covered .vertical parent (corner across.rounded along.rounded).exact = _
    rw [exact_corner]
    exact (covered_corner _ _ parent).2

/-! ## Children on a line -/

section LaidOut

variable {α : Type} [Measure α] {axis : Axis} {children before after : List NodeId}
  {f : Frame α} {items : List (LineItem α)} {a b : NodeId}

/-- The rectangles of children that are laid out as the items of a line. -/
def laidOut (axis : Axis) (children : List NodeId) (f : Frame α) (items : List (LineItem α)) :
    List (NodeId × Rect α) :=
  children.zip ((f.spans items).map fun (along, across) => rectOf axis along across)

/-- What is read off the rectangles along the axis is read off the spans. -/
theorem map_laidOut {γ : Type} (hLength : items.length = children.length) (look : Rect α → γ)
    {read : Span α → γ} (hLook : ∀ along across, look (rectOf axis along across) = read along) :
    (laidOut axis children f items).map (fun p => look p.2) =
      (f.spansAlong (f.extents items)).map read := by
  have hRects : (laidOut axis children f items).map Prod.snd =
      (f.spans items).map fun (along, across) => rectOf axis along across :=
    List.map_snd_zip (by simp [Frame.length_spans, hLength])
  have hAlong : (f.spans items).map Prod.fst = f.spansAlong (f.extents items) :=
    List.map_fst_zip (by simp [Frame.length_spansAlong, Frame.length_extents])
  have hSplit : (laidOut axis children f items).map (fun p => look p.2) =
      ((laidOut axis children f items).map Prod.snd).map look := (List.map_map ..).symm
  rw [hSplit, hRects, List.map_map, ← hAlong, List.map_map]
  exact List.map_congr_left fun p _ => hLook p.1 p.2

/-- Children that come one after the other get rectangles that are neighbors, if the spans of the
line are. -/
theorem exists_tiles {reverse : Bool} {gap : ℚ} (hLength : items.length = children.length)
    (hChildren : children = before ++ a :: b :: after) (value : Rect α → Rect ℚ)
    {read : Span α → Span ℚ} (hRead : ∀ parent along across,
      covered axis parent (value (rectOf axis along across)) = read along)
    (hChain : ((f.spansAlong (f.extents items)).map read).IsChain (Tile reverse gap)) :
    ∃ ra rb, (a, ra) ∈ laidOut axis children f items ∧ (b, rb) ∈ laidOut axis children f items ∧
      ∀ parent, Tile reverse gap (covered axis parent (value ra))
        (covered axis parent (value rb)) := by
  have hNodes : (laidOut axis children f items).map Prod.fst = before ++ a :: b :: after :=
    hChildren ▸ List.map_fst_zip (by simp [Frame.length_spans, hLength])
  have hLooks := map_laidOut (f := f) hLength (fun r parent => covered axis parent (value r))
    fun along across => funext fun parent => hRead parent along across
  have hSpans : ((f.spansAlong (f.extents items)).map fun s (_ : Size ℚ) => read s).IsChain
      fun u v => ∀ parent, Tile reverse gap (u parent) (v parent) :=
    (List.isChain_map _).mpr (((List.isChain_map _).mp hChain).imp fun _ _ hTile _ => hTile)
  rw [← hLooks] at hSpans
  have hPlaced := (List.isChain_map _).mp hSpans
  generalize laidOut axis children f items = placed at *
  -- the two children and their rectangles stand beside each other in the list
  obtain ⟨front, rest, rfl, -, hRest⟩ := List.map_eq_append_iff.mp hNodes
  obtain ⟨⟨_, ra⟩, rest, rfl, rfl, hLater⟩ := List.map_eq_cons_iff.mp hRest
  obtain ⟨⟨_, rb⟩, rest, rfl, rfl, -⟩ := List.map_eq_cons_iff.mp hLater
  obtain ⟨-, hBoth, -⟩ := List.isChain_append_cons_cons.mp hPlaced
  exact ⟨ra, rb, by simp, by simp, hBoth⟩

end LaidOut

/-! ## Groups -/

section Groups

variable {s : Scene} {node a b : NodeId} {g : LayoutGroup} {before after : List NodeId}
  {f : Frame ℚ} {items : List (LineItem ℚ)}

/-- The children of a group as the items of its line. -/
def groupItems (s : Scene) (node : NodeId) (g : LayoutGroup) : List (LineItem Single) :=
  (inFlow s node).map fun c => itemOf g (hintsOf s c) (s.sizeOf c)

theorem placements_eq_laidOut (s : Scene) (node : NodeId) (g : LayoutGroup) : placements s node g =
    laidOut g.axis (inFlow s node) (frameOf g (s.sizeOf node)) (groupItems s node g) := rfl

/-- A line of exact numbers stands for that of a group: it has the gap and the direction of the
group, and an item for each child that is laid out. Its room and its items may be whatever exact
sizes, paddings and hints come to. -/
structure StandsFor (f : Frame ℚ) (items : List (LineItem ℚ)) (s : Scene) (node : NodeId)
    (g : LayoutGroup) : Prop where
  gap_eq : f.gap = g.spacing.value
  reverse_eq : f.reverse = g.reverse
  length_eq : items.length = (inFlow s node).length

/-- The line of a group, with each number taken exactly. -/
theorem standsFor_exact (s : Scene) (node : NodeId) (g : LayoutGroup) :
    StandsFor (frameOf g (s.sizeOf node)).exact ((groupItems s node g).map LineItem.exact) s node
      g where
  gap_eq := rfl
  reverse_eq := rfl
  length_eq := by rw [groupItems, List.length_map, List.length_map]

theorem StandsFor.isChain (h : StandsFor f items s node g) (hSpacing : 0 ≤ g.spacing.value) :
    ((f.spansAlong (f.extents items)).map Span.rounded).IsChain
      (Tile g.reverse g.spacing.value) := by
  have hRounded := isChain_rounded (f := f) (by rwa [h.gap_eq]) (f.extents items)
  rwa [h.gap_eq, h.reverse_eq] at hRounded

/-- Children of a group that come one after the other tile. In exact numbers they get rectangles
that are neighbors in the direction of the group, and meet if its spacing is zero; and where single
precision puts the line to the same pixels, so do their rectangles once the group is arranged. -/
theorem tiles_of_reachable (hReachable : s.Reachable) (hActive : s.isActive node = true)
    (hGroup : s.component? LayoutGroup node = some g) (hSpacing : 0 ≤ g.spacing.value)
    (hFlow : inFlow s node = before ++ a :: b :: after) (h : StandsFor f items s node g) :
    (∃ ra rb, (a, ra) ∈ laidOut g.axis (inFlow s node) f items ∧
      (b, rb) ∈ laidOut g.axis (inFlow s node) f items ∧ ∀ parent,
        Tile g.reverse g.spacing.value (covered g.axis parent ra) (covered g.axis parent rb)) ∧
    (SamePixels ((frameOf g (s.sizeOf node)).spansAlong
        ((frameOf g (s.sizeOf node)).extents (groupItems s node g)))
        (f.spansAlong (f.extents items)) →
      ∃ ra rb, (arrange s node).rect? a = some ra ∧ (arrange s node).rect? b = some rb ∧
        ∀ parent, Tile g.reverse g.spacing.value (covered g.axis parent ra.exact)
          (covered g.axis parent rb.exact)) := by
  have hChain := h.isChain hSpacing
  refine ⟨exists_tiles h.length_eq hFlow id (covered_rectOf g.axis) hChain, fun hSame => ?_⟩
  have hLength : (groupItems s node g).length = (inFlow s node).length := List.length_map _
  rw [← hSame.eq] at hChain
  obtain ⟨ra, rb, ha, hb, hTile⟩ :=
    exists_tiles hLength hFlow Rect.exact (covered_exact g.axis) hChain
  rw [← placements_eq_laidOut] at ha hb
  exact ⟨ra, rb, rect?_arrange_of_mem hReachable.forest hActive hGroup ha,
    rect?_arrange_of_mem hReachable.forest hActive hGroup hb, hTile⟩

/-- A row that runs the other way, without gaps. Two of its children share what is left beside a
third one, and all of them are put between whole pixels. -/
theorem tiles_of_reachable_reversed :
    let row : NodeId := ⟨1, 1⟩
    let g : LayoutGroup :=
      { LayoutGroup.along .horizontal with reverse := true, padding := ⟨0, 0, 0, 1.5⟩ }
    let s := groupScene 100 50 g [(.topLeft 10.3 7.5, rowHints (some 5) none (some 1)),
      (.topLeft 10.4 8, rowHints none none (some 1)),
      (.topLeft 3 3, rowHints none (some 20.3) none)]
    let t := arrange s row
    s.Reachable ∧ s.isActive row = true ∧ s.component? LayoutGroup row = some g ∧
      0 ≤ g.spacing.value ∧ inFlow s row = [] ++ ⟨2, 1⟩ :: ⟨3, 1⟩ :: [⟨4, 1⟩] ∧
      t.rect? ⟨2, 1⟩ = some ((Rect.topLeft 39 8).withPosition ⟨61, 0⟩) ∧
      t.rect? ⟨3, 1⟩ = some ((Rect.topLeft 39 8).withPosition ⟨22, 0⟩) ∧
      ∃ ra rb, t.rect? ⟨2, 1⟩ = some ra ∧ t.rect? ⟨3, 1⟩ = some rb ∧ ∀ parent,
        Tile true g.spacing.value (covered .horizontal parent ra.exact)
          (covered .horizontal parent rb.exact) := by
  intro row g s t
  have hReachable : s.Reachable := reachable_groupScene _ _ _ _
  have hActive : s.isActive row = true := by decide +kernel
  have hGroup : s.component? LayoutGroup row = some g := by decide +kernel
  have hSpacing : 0 ≤ g.spacing.value := by decide +kernel
  have hFlow : inFlow s row = [] ++ ⟨2, 1⟩ :: ⟨3, 1⟩ :: [⟨4, 1⟩] := by decide +kernel
  refine ⟨hReachable, hActive, hGroup, hSpacing, hFlow, by decide +kernel, by decide +kernel, ?_⟩
  exact (tiles_of_reachable hReachable hActive hGroup hSpacing hFlow
    (standsFor_exact s row g)).2 ⟨by decide +kernel, by decide +kernel⟩

end Groups

end AnchoredUi.Flow
