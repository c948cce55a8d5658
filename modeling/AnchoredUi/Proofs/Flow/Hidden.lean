import AnchoredUi.Proofs.Flow.Settled

/-!
# Groups below an inactive node

An inactive node is hidden with everything below it. Arranging, though, looks at the flag of each
group on its own. The inactive node has no turn, so its children stay where they are. But a group
further down that is active by itself lays out its children as if it were shown. Only of the nodes
that no such group lays out is it true that they stay.

* `Turn.laidBelow`: a group with a turn about a node below an inactive one is below it as well.
* `rect?_below_inactive`: which rectangles below an inactive node stay, and what the others become.
* `not_kept_below_inactive`: not all of them stay.
-/

namespace AnchoredUi.Flow

open Number Plane SceneGraph

variable {s now : Scene} {start node hidden id : NodeId} {g : LayoutGroup} {r : Rect Single}

/-- The node is in flow in an active group that is itself below the hidden node. -/
structure LaidBelow (s : Scene) (hidden node : NodeId) (g : LayoutGroup) (id : NodeId) : Prop where
  below : s.IsAbove hidden node
  active : s.isActive node = true
  group : s.component? LayoutGroup node = some g
  in_flow : id ∈ inFlow s node

theorem Turn.laidBelow (h : Turn s start node g now) (hs : s.Forest)
    (hHidden : s.isActive hidden = false) (hBelow : s.IsAbove hidden id)
    (hMem : (id, r) ∈ placements now node g) : LaidBelow s hidden node g id := by
  have hActive : s.isActive node = true := by
    rw [← Scene.isActive_of_bare h.bare_eq]
    exact h.active
  have hGroup : s.component? LayoutGroup node = some g := by
    rw [← Scene.component?_of_bare h.bare_eq]
    exact h.group
  have hFlow := mem_inFlow_of_mem_placements hMem
  rw [inFlow_of_bare h.bare_eq] at hFlow
  refine ⟨?_, hActive, hGroup, hFlow⟩
  have hParent := (hs.mem_children_iff node id).mp (mem_inFlow_iff.mp hFlow).1
  obtain ⟨p, hp, hFar⟩ := Relation.TransGen.head'_iff.mp hBelow
  cases hParent.symm.trans hp
  rcases Scene.below_iff.mp hFar with rfl | hAbove
  · -- the inactive node itself has no turn
    rw [hHidden] at hActive
    cases hActive
  · exact hAbove

/-- Below an inactive node, a node keeps its rectangle unless an active group between the two lays
it out. Such a group takes no notice of the inactive node: it gives the node what fits the size
that the group has in the end. -/
theorem rect?_below_inactive (h : s.Reachable) (hMem : hidden ∈ s.walk start)
    (hHidden : s.isActive hidden = false) (hBelow : s.IsAbove hidden id) :
    ((∀ node g, ¬ LaidBelow s hidden node g id) →
        (arrangeAll s start).rect? id = s.rect? id) ∧
      ∀ node g r, LaidBelow s hidden node g id →
        (id, r) ∈ fitted s node g ((arrangeAll s start).sizeOf node) →
        (arrangeAll s start).rect? id = some r := by
  have hs := h.forest
  have hFinal := settled_arrangeAll hs start
  constructor
  · intro hNone
    by_contra hMoved
    obtain ⟨node, g, now, r, hTurn, hPlaced, -⟩ :=
      exists_turn_of_moved (s.walk start).append_nil.symm hMoved
    exact hNone node g (hTurn.laidBelow hs hHidden hBelow hPlaced)
  · intro node g r hLaid hFits
    obtain ⟨hLive, hStart⟩ := hs.mem_walk_iff.mp hMem
    have hWalk : node ∈ s.walk start :=
      hs.mem_walk_iff.mpr ⟨hLive, hStart.trans (Scene.below_iff.mpr (.inr hLaid.below))⟩
    refine hFinal.fits node g hWalk ?_ ?_ id r hFits
    · rw [Scene.isActive_of_bare hFinal.bare_eq]
      exact hLaid.active
    · rw [Scene.component?_of_bare hFinal.bare_eq]
      exact hLaid.group

/-- A hidden panel with a mark and a row, and a leaf in the row. The mark stays, and the row moves
the leaf. -/
theorem rect?_below_inactive_row :
    let canvas : NodeId := ⟨0, 1⟩
    let hidden : NodeId := ⟨1, 1⟩
    let mark : NodeId := ⟨2, 1⟩
    let row : NodeId := ⟨3, 1⟩
    let leaf : NodeId := ⟨4, 1⟩
    let ops : List Operation :=
      [.insertChild canvas ⟨"Hidden", .stretched, [.layoutGroup (.along .vertical)], false⟩,
        .insertChild hidden ⟨"Mark", .centered 50 20, [], true⟩,
        .insertChild hidden ⟨"Row", .stretched, [.layoutGroup (.along .horizontal)], true⟩,
        .insertChild row ⟨"Leaf", .centered 50 20, [], true⟩]
    let s := Operation.runAll ops (.withCanvas 400 200)
    let r : Rect Single := (Rect.topLeft 50 20).withPosition ⟨0, -0⟩
    s.Reachable ∧ hidden ∈ s.walk canvas ∧ s.isActive hidden = false ∧ s.IsAbove hidden mark ∧
      s.IsAbove hidden leaf ∧ (arrangeAll s canvas).rect? mark = s.rect? mark ∧
      LaidBelow s hidden row (.along .horizontal) leaf ∧
      (leaf, r) ∈ fitted s row (.along .horizontal) ((arrangeAll s canvas).sizeOf row) ∧
      (arrangeAll s canvas).rect? leaf = some r ∧ s.rect? leaf ≠ some r := by
  intro canvas hidden mark row leaf ops s r
  have hReachable : s.Reachable := ⟨ops, Or.inr ⟨400, 200, rfl⟩⟩
  have hMem : hidden ∈ s.walk canvas := by decide +kernel
  have hHidden : s.isActive hidden = false := by decide +kernel
  have hMarkParent : s.parent? mark = some hidden := by decide +kernel
  have hRowParent : s.parent? row = some hidden := by decide +kernel
  have hLeafParent : s.parent? leaf = some row := by decide +kernel
  have hMark : s.IsAbove hidden mark := Relation.TransGen.single hMarkParent
  have hRow : s.IsAbove hidden row := Relation.TransGen.single hRowParent
  have hLeaf : s.IsAbove hidden leaf := Relation.TransGen.head hLeafParent hRow
  have hLaid : LaidBelow s hidden row (.along .horizontal) leaf := by
    refine ⟨hRow, ?_, ?_, ?_⟩ <;> decide +kernel
  have hFits : (leaf, r) ∈ fitted s row (.along .horizontal)
      ((arrangeAll s canvas).sizeOf row) := by decide +kernel
  -- a group that lays out the mark would be its parent, which is not below itself
  have hNone : ∀ node g, ¬ LaidBelow s hidden node g mark := by
    intro node g hOther
    have hParent := (hReachable.forest.mem_children_iff node mark).mp
      (mem_inFlow_iff.mp hOther.in_flow).1
    cases hMarkParent.symm.trans hParent
    exact hReachable.forest.not_above_self hidden hOther.below
  exact ⟨hReachable, hMem, hHidden, hMark, hLeaf,
    (rect?_below_inactive hReachable hMem hHidden hMark).1 hNone, hLaid, hFits,
    (rect?_below_inactive hReachable hMem hHidden hLeaf).2 row _ r hLaid hFits, by decide +kernel⟩

/-- A hidden panel around a row: the leaf of the row moves. -/
theorem not_kept_below_inactive :
    ¬ ∀ (s : Scene) (start hidden id : NodeId), s.Reachable → hidden ∈ s.walk start →
      s.isActive hidden = false → s.IsAbove hidden id →
      (arrangeAll s start).rect? id = s.rect? id := by
  intro h
  let ops : List Operation :=
    [.insertChild ⟨0, 1⟩ ⟨"Hidden", .stretched, [], false⟩,
      .insertChild ⟨1, 1⟩ ⟨"Row", .stretched, [.layoutGroup (.along .horizontal)], true⟩,
      .insertChild ⟨2, 1⟩ ⟨"Leaf", .centered 50 20, [], true⟩]
  let s := Operation.runAll ops (.withCanvas 400 200)
  have hRow : s.parent? ⟨2, 1⟩ = some ⟨1, 1⟩ := by decide +kernel
  have hLeaf : s.parent? ⟨3, 1⟩ = some ⟨2, 1⟩ := by decide +kernel
  have hMoved : (arrangeAll s ⟨0, 1⟩).rect? ⟨3, 1⟩ ≠ s.rect? ⟨3, 1⟩ := by decide +kernel
  refine hMoved (h s ⟨0, 1⟩ ⟨1, 1⟩ ⟨3, 1⟩ ⟨ops, Or.inr ⟨400, 200, rfl⟩⟩ ?_ ?_ ?_)
  · decide +kernel
  · decide +kernel
  · exact Relation.TransGen.head hLeaf (Relation.TransGen.single hRow)

end AnchoredUi.Flow
