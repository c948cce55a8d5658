import AnchoredUi.Proofs.Flow.Moved

/-!
# Arranging settles all groups

A group reads its own size, which follows from its rectangle and those of the nodes above it. It
comes before its children in the walk and after everything above it, and a walk meets each node
once. So in the turn of a group all rectangles that its size depends on are final, and the
rectangles that it writes are written by nobody else. What its children measure before its turn
follows from the rectangles that they had at the start.

In the end, then, each group fits its own final size, and there is only one scene like that: going
down from the start, each size decides the next rectangles.

* `Turn.sizeOf_eq`, `Turn.rect?_eq`: what a turn reads and writes is final.
* `settled_arrangeAll`, `Settled.rect?_eq`: the final scene is settled, and no other one is.
* `settled_iff_of_turns`: all of it for reachable scenes.
-/

namespace AnchoredUi.Flow

open Number Plane SceneGraph

variable {s t now : Scene} {start node id : NodeId} {g : LayoutGroup} {r : Rect Single}

/-! ## A group of a given size -/

/-- The size that a node has if its parent has the given one. -/
def measured (s : Scene) (parent : Size Single) (id : NodeId) : Size Single :=
  ((s.rect? id).map fun r => r.size parent).getD .zero

/-- The rectangles that a group gives its children if it has the given size. -/
def fitted (s : Scene) (node : NodeId) (g : LayoutGroup) (size : Size Single) :
    List (NodeId × Rect Single) :=
  let children := inFlow s node
  let items := children.map fun c => itemOf g (hintsOf s c) (measured s size c)
  let spans := (frameOf g size).spans items
  children.zip (spans.map fun (along, across) => rectOf g.axis along across)

/-- The scene `t` differs from `s` in its rectangles only: those of the nodes that can move are
such that each group from `start` on fits the size that it has in `t`, and all others are as
before. -/
structure Settled (s : Scene) (start : NodeId) (t : Scene) : Prop where
  bare_eq : t.bare = s.bare
  fits : ∀ node g, node ∈ s.walk start → t.isActive node = true →
    t.component? LayoutGroup node = some g →
    ∀ id r, (id, r) ∈ fitted s node g (t.sizeOf node) → t.rect? id = some r
  kept : ∀ id, ¬ Movable s start id → t.rect? id = s.rect? id

theorem sizeOf_child (hs : s.Forest) (hChild : id ∈ s.children node) :
    s.sizeOf id = measured s (s.sizeOf node) id := by
  have hParent := (hs.mem_children_iff node id).mp hChild
  obtain ⟨r, hr⟩ := Scene.rect?_of_contains (hs.contains_child hChild)
  rw [hs.sizeOf_eq hr, Scene.parentSize, hParent, measured, hr]
  rfl

theorem placements_eq_fitted (hs : s.Forest) (node : NodeId) (g : LayoutGroup) :
    placements s node g = fitted s node g (s.sizeOf node) := by
  have hItems : (inFlow s node).map (fun c => itemOf g (hintsOf s c) (s.sizeOf c)) =
      (inFlow s node).map fun c => itemOf g (hintsOf s c) (measured s (s.sizeOf node) c) :=
    List.map_congr_left fun c hc => by rw [sizeOf_child hs (mem_inFlow_iff.mp hc).1]
  unfold placements fitted
  simp only [hItems]

/-- What a group gives its children depends on their rectangles, and on no others. -/
theorem fitted_of_bare (h : t.bare = s.bare)
    (hRect : ∀ c ∈ s.children node, t.rect? c = s.rect? c) (size : Size Single) :
    fitted t node g size = fitted s node g size := by
  have hItems : (inFlow s node).map (fun c => itemOf g (hintsOf t c) (measured t size c)) =
      (inFlow s node).map fun c => itemOf g (hintsOf s c) (measured s size c) := by
    refine List.map_congr_left fun c hc => ?_
    rw [hintsOf, Scene.component?_of_bare h, measured, hRect c (mem_inFlow_iff.mp hc).1]
    rfl
  unfold fitted
  simp only [inFlow_of_bare h, hItems]

theorem exists_mem_fitted (h : id ∈ inFlow s node) (g : LayoutGroup) (size : Size Single) :
    ∃ r, (id, r) ∈ fitted s node g size := by
  have hKeys : (fitted s node g size).map Prod.fst = inFlow s node := by
    unfold fitted
    exact List.map_fst_zip (by simp [Frame.length_spans])
  rw [← hKeys] at h
  obtain ⟨⟨_, r⟩, hMem, rfl⟩ := List.mem_map.mp h
  exact ⟨r, hMem⟩

/-! ## What is out of reach of a turn -/

section Later

variable (hs : s.Forest) {nodes : List NodeId}
include hs

/-- Only the turn of its parent is about the rectangle of a node. -/
theorem rect?_arranges (hNow : now.bare = s.bare) (hNot : ∀ n ∈ nodes, s.parent? id ≠ some n) :
    (nodes.foldl arrange now).rect? id = now.rect? id := by
  induction nodes generalizing now with
  | nil => rfl
  | cons n nodes ih =>
    have hNext : (arrange now n).bare = s.bare := (bare_arranges [n] now).trans hNow
    rw [List.foldl_cons, ih hNext fun m hm => hNot m (List.mem_cons_of_mem n hm)]
    rcases rect?_arrange_cases now n id with hOld | ⟨g, r, -, -, hMem, -⟩
    · exact hOld
    · have hChild := (mem_inFlow_iff.mp (mem_inFlow_of_mem_placements hMem)).1
      rw [Scene.children_of_bare hNow] at hChild
      exact absurd ((hs.mem_children_iff n id).mp hChild) (hNot n List.mem_cons_self)

/-- Only the turns of nodes above a node are about its size. -/
theorem sizeOf_arranges (hNow : now.bare = s.bare) (hNot : ∀ n ∈ nodes, ¬ s.IsAbove n id) :
    (nodes.foldl arrange now).sizeOf id = now.sizeOf id := by
  refine hs.sizeOf_of_below ((bare_arranges nodes now).trans hNow) hNow fun a hBelow => ?_
  refine rect?_arranges hs hNow fun n hn hParent => hNot n hn ?_
  exact Relation.TransGen.tail' hBelow hParent

end Later

/-! ## What is final in a turn -/

/-- The turns after the one of a group. None of them is about the group itself or a node above
it. -/
theorem Turn.exists_later (h : Turn s start node g now) (hs : s.Forest) :
    ∃ before after, s.walk start = before ++ node :: after ∧ now = before.foldl arrange s ∧
      arrangeAll s start = after.foldl arrange (arrange now node) ∧ node ∉ before ∧
      ∀ n ∈ after, ¬ s.Below n node := by
  obtain ⟨before, after, hWalk, rfl⟩ := h.reached
  have hOrder := hs.pairwise_walk start
  have hNodup := hs.nodup_walk start
  rw [hWalk] at hOrder hNodup
  obtain ⟨-, hLast, -⟩ := List.pairwise_append.mp hOrder
  refine ⟨before, after, hWalk, rfl, ?_, ?_, (List.pairwise_cons.mp hLast).1⟩
  · rw [arrangeAll, hWalk, List.foldl_append, List.foldl_cons]
  · rw [List.nodup_middle, List.nodup_cons] at hNodup
    exact fun hMem => hNodup.1 (List.mem_append_left after hMem)

section Final

variable (h : Turn s start node g now) (hs : s.Forest)
include h hs

/-- The size that a group reads is the one that its node has in the end. -/
theorem Turn.sizeOf_eq : now.sizeOf node = (arrangeAll s start).sizeOf node := by
  obtain ⟨before, after, -, -, hFinal, -, hLater⟩ := h.exists_later hs
  have hAll : ((node :: after).foldl arrange now).sizeOf node = now.sizeOf node := by
    refine sizeOf_arranges hs h.bare_eq fun n hn hAbove => ?_
    rcases List.mem_cons.mp hn with rfl | hn
    · exact hs.not_above_self n hAbove
    · exact hLater n hn (Scene.below_iff.mpr (.inr hAbove))
  rw [hFinal, ← hAll, List.foldl_cons]

/-- The rectangles that a group writes are the ones that its children have in the end. -/
theorem Turn.rect?_eq (hMem : (id, r) ∈ placements now node g) :
    (arrangeAll s start).rect? id = some r := by
  obtain ⟨before, after, -, -, hFinal, -, hLater⟩ := h.exists_later hs
  have hFlow := mem_inFlow_of_mem_placements hMem
  rw [inFlow_of_bare h.bare_eq] at hFlow
  have hParent := (hs.mem_children_iff node id).mp (mem_inFlow_iff.mp hFlow).1
  have hNext : (arrange now node).bare = s.bare := (bare_arranges [node] now).trans h.bare_eq
  rw [hFinal, rect?_arranges hs hNext fun n hn hOther => ?_]
  · exact rect?_arrange_of_mem (hs.of_bare h.bare_eq) h.active h.group hMem
  · -- the group would have a second turn
    cases hParent.symm.trans hOther
    exact hLater node hn (Scene.Below.refl s node)

/-- A group gives its children what fits its final size. -/
theorem Turn.placements_eq :
    placements now node g = fitted s node g ((arrangeAll s start).sizeOf node) := by
  obtain ⟨before, after, -, hNow, -, hFirst, -⟩ := h.exists_later hs
  rw [placements_eq_fitted (hs.of_bare h.bare_eq), h.sizeOf_eq hs]
  refine fitted_of_bare h.bare_eq (fun c hc => ?_) _
  have hParent := (hs.mem_children_iff node c).mp hc
  -- before the turn, the children have the rectangles that they had at the start
  rw [hNow]
  refine rect?_arranges hs rfl fun n hn hOther => ?_
  cases hParent.symm.trans hOther
  exact hFirst hn

end Final

/-! ## The settled scene -/

theorem settled_arrangeAll (hs : s.Forest) (start : NodeId) :
    Settled s start (arrangeAll s start) where
  bare_eq := bare_arranges (s.walk start) s
  fits node g hWalk hActive hGroup id r hMem := by
    have hBare := bare_arranges (s.walk start) s
    obtain ⟨before, after, hSplit⟩ := List.append_of_mem hWalk
    have hNow := bare_arranges before s
    have hTurn : Turn s start node g (before.foldl arrange s) := by
      refine ⟨⟨before, after, hSplit, rfl⟩, ?_, ?_⟩
      · rw [Scene.isActive_of_bare hNow, ← hActive]
        exact (Scene.isActive_of_bare hBare node).symm
      · rw [Scene.component?_of_bare hNow, ← hGroup]
        exact (Scene.component?_of_bare hBare LayoutGroup node).symm
    rw [← hTurn.placements_eq hs] at hMem
    exact hTurn.rect?_eq hs hMem
  kept id hNot := by
    by_contra hMoved
    obtain ⟨node, g, now, r, hTurn, hMem, -⟩ :=
      exists_turn_of_moved (s.walk start).append_nil.symm hMoved
    exact hNot (hTurn.movable hs hMem)

/-- A node that can move is laid out by the group that it stands in: in each settled scene it has
the rectangle that fits the size of that group there. -/
theorem Movable.exists_group (hs : s.Forest) (h : Movable s start id) :
    ∃ p g, s.parent? id = some p ∧ s.Below start p ∧ s.component? LayoutGroup p = some g ∧
      id ∈ inFlow s p ∧ ∀ t, Settled s start t → ∀ r, (id, r) ∈ fitted s p g (t.sizeOf p) →
        t.rect? id = some r := by
  obtain ⟨p, g, hParent, hActive, hGroup⟩ := h.in_group
  have hFlow : id ∈ inFlow s p := by
    refine mem_inFlow_iff.mpr ⟨(hs.mem_children_iff p id).mpr hParent, h.active, ?_⟩
    rw [hintsOf]
    cases hHints : s.component? LayoutHints id with
    | none => rfl
    | some hints => exact h.not_ignored hints hHints
  obtain ⟨q, hq, hBelow⟩ := Relation.TransGen.head'_iff.mp h.below
  cases hParent.symm.trans hq
  have hWalk : p ∈ s.walk start :=
    hs.mem_walk_iff.mpr ⟨hs.contains_of_below (hs.contains_parent hParent) hBelow, hBelow⟩
  refine ⟨p, g, hParent, hBelow, hGroup, hFlow, fun t ht r hMem => ?_⟩
  exact ht.fits p g hWalk (by rwa [Scene.isActive_of_bare ht.bare_eq])
    (by rwa [Scene.component?_of_bare ht.bare_eq]) id r hMem

/-- Two settled scenes have the same rectangles: what a node gets is decided by the sizes of the
nodes above it. -/
theorem Settled.rect?_eq {u : Scene} (hs : s.Forest) (ht : Settled s start t)
    (hu : Settled s start u) (id : NodeId) : t.rect? id = u.rect? id := by
  induction hn : s.depth id using Nat.strongRecOn generalizing id with
  | ind n ih =>
    by_cases hMovable : Movable s start id
    · obtain ⟨p, g, hParent, -, -, hFlow, hFits⟩ := hMovable.exists_group hs
      have hDepth := hs.depth_of_parent? hParent
      -- the rectangles that the size of the parent depends on are the same
      have hSize : t.sizeOf p = u.sizeOf p := by
        refine hs.sizeOf_of_below ht.bare_eq hu.bare_eq fun a hBelow => ih _ ?_ a rfl
        have hHigh := hs.depth_le_of_below hBelow
        omega
      obtain ⟨r, hMem⟩ := exists_mem_fitted hFlow g (t.sizeOf p)
      have hLeft := hFits t ht r hMem
      rw [hSize] at hMem
      rw [hLeft, hFits u hu r hMem]
    · rw [ht.kept id hMovable, hu.kept id hMovable]

/-- In each turn, the size that the group reads and the rectangles that it writes are those of the
scene at the end. That scene is the one in which all groups fit their own sizes. -/
theorem settled_iff_of_turns (h : s.Reachable) (start : NodeId) :
    (∀ node g now, Turn s start node g now →
      now.sizeOf node = (arrangeAll s start).sizeOf node ∧
        ∀ id r, (id, r) ∈ placements now node g → (arrangeAll s start).rect? id = some r) ∧
      ∀ t, Settled s start t ↔ t = arrangeAll s start := by
  have hs := h.forest
  have hFinal := settled_arrangeAll hs start
  refine ⟨fun node g now hTurn => ⟨hTurn.sizeOf_eq hs, fun id r => hTurn.rect?_eq hs⟩, fun t => ?_⟩
  constructor
  · intro ht
    exact Scene.eq_of_bare (ht.bare_eq.trans hFinal.bare_eq.symm) (ht.rect?_eq hs hFinal)
  · rintro rfl
    exact hFinal

/-- A column inside a row. The row makes the column as large as itself, and the column, which has
its turn after that, measures its child by the new size. -/
theorem settled_iff_of_turns_nested :
    let canvas : NodeId := ⟨0, 1⟩
    let row : NodeId := ⟨1, 1⟩
    let column : NodeId := ⟨2, 1⟩
    let leaf : NodeId := ⟨3, 1⟩
    let greedy : LayoutHints := ⟨.none, .none, ⟨some 1, none⟩, some .stretch, false⟩
    let ops : List Operation :=
      [.insertChild canvas ⟨"Row", .stretched, [.layoutGroup (.along .horizontal)], true⟩,
        .insertChild row ⟨"Column", .topLeft 50 20,
          [.layoutHints greedy, .layoutGroup (.along .vertical)], true⟩,
        .insertChild column ⟨"Leaf", .stretched, [], true⟩]
    let s := Operation.runAll ops (.withCanvas 400 200)
    let t := arrangeAll s canvas
    let now := [canvas, row].foldl arrange s
    let r : Rect Single := (Rect.topLeft 400 200).withPosition ⟨0, -0⟩
    s.Reachable ∧ s.sizeOf column = ⟨50, 20⟩ ∧ Turn s canvas column (.along .vertical) now ∧
      t.sizeOf column = ⟨400, 200⟩ ∧ now.sizeOf column = t.sizeOf column ∧
      (leaf, r) ∈ placements now column (.along .vertical) ∧ t.rect? leaf = some r ∧
      Settled s canvas t := by
  intro canvas row column leaf greedy ops s t now r
  have hReachable : s.Reachable := ⟨ops, Or.inr ⟨400, 200, rfl⟩⟩
  have hTurn : Turn s canvas column (.along .vertical) now := by
    refine ⟨⟨[canvas, row], [leaf], ?_, rfl⟩, ?_, ?_⟩ <;> decide +kernel
  have hMem : (leaf, r) ∈ placements now column (.along .vertical) := by decide +kernel
  obtain ⟨hTurns, hSettled⟩ := settled_iff_of_turns hReachable canvas
  obtain ⟨hSize, hRects⟩ := hTurns column _ now hTurn
  exact ⟨hReachable, by decide +kernel, hTurn, by decide +kernel, hSize, hMem, hRects leaf r hMem,
    (hSettled t).mpr rfl⟩

end AnchoredUi.Flow
