import AnchoredUi.Proofs.Flow.Settled
import AnchoredUi.Proofs.Flow.Within
import AnchoredUi.Proofs.SceneGraph.Within

/-!
# Arranging within bounds

A group gives its children rectangles that follow from its own final size, from what the children
ask for, and from their own sizes. Each of these exceeds the final size of the group by a few units
only, however much the line is rounded. So going down from the start, final sizes grow by a few
units with every step, and places by as many times that as a group has children.

* `Flow.Moderate`: rectangles and components within bounds, and not too many children.
* `sizeOf_within_arrangeAll`: final sizes.
* `rect?_within_arrangeAll`: final rectangles.
-/

namespace AnchoredUi.Flow

open Number Plane SceneGraph Binary

variable {s n k most : ℕ}

/-! ## From nodes to a line -/

section Line

variable {g : LayoutGroup} {hints : LayoutHints} {size own : Size Single} (hs : s ≤ topScale)
  (hg : g.Within s)
include hs hg

theorem roomAlong_within (hSize : size.Within s n) (hn : 2 ≤ n) (hTop : n + 2 ≤ topCount)
    (axis : Axis) : (roomAlong g size axis).Within s (n + 2) := by
  have hPadding : (paddingAlong g.padding axis).Within s 2 := by
    cases axis
    · exact hg.padding.width hs
    · exact hg.padding.height hs
  have hLarger := (hSize axis).larger hPadding
  rw [max_eq_left hn] at hLarger
  exact hLarger.sub hs hPadding hTop

theorem frameOf_within (hSize : size.Within s n) (hn : 2 ≤ n) (hTop : n + 2 ≤ topCount) :
    (frameOf g size).Within s (n + 2) := by
  have hBefore : ∀ axis, (paddingBefore g.padding axis).Within s 1 := by
    intro axis
    cases axis
    · exact hg.padding.left
    · exact hg.padding.top
  have hRoom := roomAlong_within hs hg hSize hn hTop
  exact ⟨hBefore g.axis, hRoom g.axis, hBefore g.axis.cross, (hRoom g.axis.cross).notNegative,
    hg.spacing⟩

omit hs hg in
theorem itemOf_within (hHints : hints.Within s) (hOwn : own.Within s n) (hn : 1 ≤ n) :
    (itemOf g hints own).Within s n := by
  have hWanted : ∀ axis, (wantedExtent hints own axis).UpTo s n := by
    intro axis
    unfold wantedExtent
    cases hPreferred : hints.preferred.get axis with
    | none => exact (hOwn axis).notNegative
    | some x => exact ((hHints.preferred axis x hPreferred).mono hn).notNegative
  have hLeast : ∀ axis, (notNegative ((hints.least.get axis).getD 0)).UpTo s n := fun axis =>
    ((hHints.least.getD axis).mono hn).notNegative
  refine ⟨hWanted g.axis, hLeast g.axis, ?_, hLeast g.axis.cross, fun e he => ?_⟩
  · unfold itemOf growOf
    dsimp only
    split
    · exact upTo_one
    · exact (hHints.flexible.getD g.axis).notNegative
  · unfold itemOf at he
    dsimp only at he
    split at he
    · split at he <;> cases he
    · cases he
      exact hWanted g.axis.cross

end Line

/-- The rectangle for spans along and across a line. -/
theorem rectOf_within {along across : Span Single} (hs : s ≤ topScale)
    (hAlong : along.Within s n most) (hAcross : across.Within s n most)
    (hn : n + most + 3 < topCount) (axis : Axis) :
    (rectOf axis along across).Within s (n + most + 3) ∧
      (rectOf axis along across).sizeDelta.Within s (most + 3) := by
  obtain ⟨hPlace, hExtent⟩ := hAlong.rounded hs hn
  obtain ⟨hPlace', hExtent'⟩ := hAcross.rounded hs hn
  have hCorner : (Vec2.topLeft : Vec2 Single).Fraction := by
    intro axis
    cases axis
    · exact fraction_zero
    · exact fraction_one
  cases axis
  · have hSize := Vec2.within_mk hExtent hExtent'
    exact ⟨⟨hCorner, hCorner, hCorner, (Vec2.within_mk hPlace hPlace'.neg).mono (by omega),
      hSize.mono (by omega)⟩, hSize⟩
  · have hSize := Vec2.within_mk hExtent' hExtent
    exact ⟨⟨hCorner, hCorner, hCorner, (Vec2.within_mk hPlace' hPlace.neg).mono (by omega),
      hSize.mono (by omega)⟩, hSize⟩

/-! ## Scenes -/

/-- Below the start, and at it, rectangles and components are within one unit, and no node has more
than `few` children. -/
structure Moderate (scene : Scene) (start : NodeId) (s few : ℕ) : Prop where
  rect : ∀ id r, scene.IsAbove start id → scene.rect? id = some r → r.Within s 1
  node : ∀ id, scene.Below start id → ∃ f b, scene.Moderate f b s id
  few : ∀ id, scene.Below start id → (scene.children id).length ≤ few

theorem isAbove_of_mem_children {scene : Scene} {start node id : NodeId} (hScene : scene.Forest)
    (hNode : scene.Below start node) (hChild : id ∈ scene.children node) :
    scene.IsAbove start id :=
  Relation.TransGen.head' ((hScene.mem_children_iff node id).mp hChild) hNode

section Scenes

variable {scene : Scene} {start node id : NodeId} {g : LayoutGroup} {r : Rect Single} {few : ℕ}
  (hs : s ≤ topScale) (hScene : scene.Forest) (h : Moderate scene start s few)
include hs hScene h

/-- What a group of a given size gives its children. -/
theorem fitted_within {size : Size Single} (hNode : scene.Below start node)
    (hGroup : scene.component? LayoutGroup node = some g) (hSize : size.Within s n) (hn : 2 ≤ n)
    (hTop : (2 * few + 5) * (n + 3) < topCount) (hMem : (id, r) ∈ fitted scene node g size) :
    r.Within s ((2 * few + 5) * (n + 3)) ∧ r.sizeDelta.Within s (n + 6) ∧
      r.anchorMin = r.anchorMax := by
  obtain ⟨-, hRect⟩ := List.of_mem_zip hMem
  obtain ⟨⟨along, across⟩, hSpan, rfl⟩ := List.mem_map.mp hRect
  obtain ⟨f, b, hModerate⟩ := h.node node hNode
  have hAll : (2 * few + 5) * (n + 3) = 2 * (few * (n + 3)) + 5 * (n + 3) := by ring
  have hFrame := frameOf_within hs (hModerate.group hGroup) hSize hn (by omega)
  have hItems : ∀ i ∈ (inFlow scene node).map (fun c =>
      itemOf g (hintsOf scene c) (measured scene size c)), i.Within s (n + 1) := by
    intro i hi
    obtain ⟨c, hc, rfl⟩ := List.mem_map.mp hi
    have hChild := (mem_inFlow_iff.mp hc).1
    have hAbove := isAbove_of_mem_children hScene hNode hChild
    obtain ⟨f', b', hModerate'⟩ := h.node c (Scene.below_iff.mpr (.inr hAbove))
    obtain ⟨r, hr⟩ := Scene.rect?_of_contains (hScene.contains_child hChild)
    have hOwn : (measured scene size c).Within s (n + 1) := by
      rw [measured, hr]
      exact (h.rect c r hAbove hr).size hs hSize (by omega)
    refine itemOf_within ?_ hOwn (by omega)
    unfold hintsOf
    cases hHints : scene.component? LayoutHints c with
    | none => exact LayoutHints.within_none
    | some hints => exact hModerate'.hints hHints
  have hLength : ((inFlow scene node).map (fun c =>
      itemOf g (hintsOf scene c) (measured scene size c))).length * (n + 3) ≤ few * (n + 3) := by
    refine Nat.mul_le_mul_right _ ?_
    rw [List.length_map]
    exact (List.length_filter_le _ _).trans (h.few node hNode)
  have hMost : n + 1 ≤ n + 3 := by omega
  obtain ⟨hAlong, hAcross⟩ := spans_within hs hFrame hItems hMost (by omega) (by omega) _ hSpan
  obtain ⟨hWithin, hExtent⟩ := rectOf_within hs hAlong hAcross (by omega) g.axis
  refine ⟨hWithin.mono (by omega), hExtent, ?_⟩
  cases g.axis <;> rfl

/-- The final rectangle of a node in a parent of a given final size, and the final size that
follows. -/
theorem arranged_within {p : NodeId} (hParent : scene.parent? id = some p)
    (hNode : scene.Below start p) (hSize : ((arrangeAll scene start).sizeOf p).Within s n)
    (hn : 2 ≤ n) (hTop : (2 * few + 5) * (n + 3) < topCount)
    (hr : (arrangeAll scene start).rect? id = some r) :
    r.Within s ((2 * few + 5) * (n + 3)) ∧
      ((arrangeAll scene start).sizeOf id).Within s (n + 6) := by
  have hSettled := settled_arrangeAll hScene start
  have hAll : (2 * few + 5) * (n + 3) = 2 * (few * (n + 3)) + 5 * (n + 3) := by ring
  have hSizeOf : (arrangeAll scene start).sizeOf id =
      r.size ((arrangeAll scene start).sizeOf p) := by
    rw [(hScene.of_bare hSettled.bare_eq).sizeOf_eq hr, Scene.parentSize,
      Scene.parent?_of_bare hSettled.bare_eq, hParent]
  rw [hSizeOf]
  by_cases hMovable : Movable scene start id
  · -- the group of the parent lays it out
    obtain ⟨q, g, hIn, -, hGroup, hFlow, hFits⟩ := hMovable.exists_group hScene
    cases hParent.symm.trans hIn
    obtain ⟨r', hMem⟩ := exists_mem_fitted hFlow g ((arrangeAll scene start).sizeOf p)
    obtain rfl := Option.some.inj (hr.symm.trans (hFits _ hSettled r' hMem))
    obtain ⟨hWithin, hExtent, hFixed⟩ := fitted_within hs hScene h hNode hGroup hSize hn hTop hMem
    exact ⟨hWithin, Rect.size_within_of_fixed hs hSize hFixed hWithin.anchorMax hExtent (by omega)⟩
  · rw [hSettled.kept id hMovable] at hr
    have hWithin := h.rect id r (Relation.TransGen.head' hParent hNode) hr
    exact ⟨hWithin.mono (by omega), (hWithin.size hs hSize (by omega)).mono (by omega)⟩

omit hs h in
/-- No group changes the start itself, or a node above it. -/
theorem sizeOf_start : (arrangeAll scene start).sizeOf start = scene.sizeOf start := by
  refine sizeOf_arranges hScene rfl fun n hn hAbove => ?_
  have hDepth := hScene.depth_lt_of_isAbove hAbove
  have hDepth' := hScene.depth_le_of_below (hScene.below_of_mem_walk hn)
  omega

/-- Final sizes grow by a few units from a node to its children. -/
theorem sizeOf_within_arrangeAll (hStart : (scene.sizeOf start).Within s 2)
    (hTop : (2 * few + 5) * (6 * k + 5) < topCount) (hBelow : scene.Below start id)
    (hLive : scene.contains id = true) (hDepth : scene.depth id ≤ scene.depth start + k) :
    ((arrangeAll scene start).sizeOf id).Within s (6 * k + 2) := by
  have hFinal : ∀ m, ((arrangeAll scene start).sizeOf start).Within s (6 * m + 2) := fun m => by
    rw [sizeOf_start hScene]
    exact hStart.mono (by omega)
  induction k generalizing id with
  | zero =>
    obtain rfl := hScene.eq_of_below (by
      have := hScene.depth_le_of_below hBelow
      omega) hBelow (Scene.Below.refl scene id)
    exact hFinal 0
  | succ k ih =>
    rcases Scene.below_iff.mp hBelow with rfl | hAbove
    · exact hFinal (k + 1)
    · obtain ⟨p, hParent, hNode⟩ := Relation.TransGen.head'_iff.mp hAbove
      have hLower := hScene.depth_of_parent? hParent
      have hTop' : (2 * few + 5) * (6 * k + 5) < topCount :=
        (Nat.mul_le_mul_left _ (by omega)).trans_lt hTop
      have hSize := ih hTop' hNode (hScene.contains_parent hParent) (by omega)
      have hLive' : (arrangeAll scene start).contains id = true := by
        rw [Scene.contains_of_bare (settled_arrangeAll hScene start).bare_eq]
        exact hLive
      obtain ⟨r, hr⟩ := Scene.rect?_of_contains hLive'
      exact (arranged_within hs hScene h hParent hNode hSize (by omega) hTop' hr).2

/-- The rectangles of all nodes below the start are within bounds in the end. -/
theorem rect?_within_arrangeAll (hStart : (scene.sizeOf start).Within s 2)
    (hTop : (2 * few + 5) * (6 * k + 5) < topCount) (hAbove : scene.IsAbove start id)
    (hDepth : scene.depth id ≤ scene.depth start + k)
    (hr : (arrangeAll scene start).rect? id = some r) :
    r.Within s ((2 * few + 5) * (6 * k + 5)) := by
  obtain ⟨p, hParent, hNode⟩ := Relation.TransGen.head'_iff.mp hAbove
  have hLower := hScene.depth_of_parent? hParent
  have hSize := sizeOf_within_arrangeAll hs hScene h hStart hTop hNode
    (hScene.contains_parent hParent) (by omega)
  exact (arranged_within hs hScene h hParent hNode hSize (by omega) hTop hr).1

end Scenes

end AnchoredUi.Flow
