import Mathlib.Data.List.Induction
import AnchoredUi.Flow.Arrange
import AnchoredUi.Proofs.SceneGraph.Bare
import AnchoredUi.Proofs.SceneGraph.Growth

/-!
# What arranging moves

Arranging the children of groups only sets rectangles, so all nodes keep their places and
components.

Each node of a walk has its turn, and only one that is active and has a group does something then:
it gives rectangles to its children in flow. Which children these are can be read off the scene
before all turns, since no turn changes anything but rectangles. So a node that has moved is a child
of such a group; and what it has got is the rectangle of the last turn that was about it.

* `look_arrangeAll`: what does not depend on rectangles is the same after arranging.
* `rect?_arrange_cases`: what one turn does to one rectangle.
* `exists_turn_of_moved`: a rectangle that has changed was written in a turn.
* `movable_of_moved`: which nodes can move, and to where.
-/

namespace AnchoredUi.Flow

open Number Plane SceneGraph

variable {β : Type} (look : Scene → β)

theorem look_setRects (h : ∀ s id r, look (s.setRect id r) = look s)
    (ps : List (NodeId × Rect Single)) (s : Scene) :
    look (ps.foldl (fun s p => s.setRect p.1 p.2) s) = look s := by
  induction ps generalizing s with
  | nil => rfl
  | cons p ps ih => rw [List.foldl_cons, ih, h]

theorem look_arrange (h : ∀ s id r, look (s.setRect id r) = look s) (s : Scene) (node : NodeId) :
    look (arrange s node) = look s := by
  rcases arrange_cases s node with hSame | ⟨g, -, -, hSet⟩
  · rw [hSame]
  · rw [hSet, look_setRects look h]

theorem look_arranges (h : ∀ s id r, look (s.setRect id r) = look s) (nodes : List NodeId)
    (s : Scene) : look (nodes.foldl arrange s) = look s := by
  induction nodes generalizing s with
  | nil => rfl
  | cons n nodes ih => rw [List.foldl_cons, ih, look_arrange look h]

/-- What is seen of a scene is the same after arranging, if it does not depend on rectangles. -/
theorem look_arrangeAll (h : ∀ s id r, look (s.setRect id r) = look s) (s : Scene)
    (node : NodeId) : look (arrangeAll s node) = look s := look_arranges look h (s.walk node) s

theorem place?_arrangeAll (s : Scene) (node id : NodeId) :
    (arrangeAll s node).place? id = s.place? id :=
  look_arrangeAll (fun s => s.place? id)
    (fun s other _ => Scene.place?_modify s other id fun _ => rfl) s node

theorem components_arrangeAll (s : Scene) (node id : NodeId) :
    (arrangeAll s node).components id = s.components id :=
  look_arrangeAll (fun s => s.components id)
    (fun s other r => Scene.components_setRect s other id r) s node

end AnchoredUi.Flow

/-! ## Turns -/

namespace AnchoredUi.Flow

open Number Plane SceneGraph

variable {s now : Scene} {start node id : NodeId} {g : LayoutGroup} {r : Rect Single}

/-- Both anchors and the pivot are in the top left corner. -/
def InCorner (r : Rect Single) : Prop :=
  r.anchorMin = Vec2.topLeft ∧ r.anchorMax = Vec2.topLeft ∧ r.pivot = Vec2.topLeft

/-- The node is below the start, active, and not to be ignored by its first hints; and it stands
in a group, whose node is active. -/
structure Movable (s : Scene) (start id : NodeId) : Prop where
  below : s.IsAbove start id
  active : s.isActive id = true
  not_ignored : ∀ hints, s.component? LayoutHints id = some hints → hints.ignored = false
  in_group : ∃ p g, s.parent? id = some p ∧ s.isActive p = true ∧
    s.component? LayoutGroup p = some g

/-- When all groups from `start` on are laid out, the group of a node has its turn in the scene
`now`. -/
structure Turn (s : Scene) (start node : NodeId) (g : LayoutGroup) (now : Scene) : Prop where
  reached : ∃ before after, s.walk start = before ++ node :: after ∧ now = before.foldl arrange s
  active : now.isActive node = true
  group : now.component? LayoutGroup node = some g

/-! ## The rectangles of one group -/

theorem mem_inFlow_iff : id ∈ inFlow s node ↔
    id ∈ s.children node ∧ s.isActive id = true ∧ (hintsOf s id).ignored = false := by
  simp [inFlow]

theorem map_fst_placements (s : Scene) (node : NodeId) (g : LayoutGroup) :
    (placements s node g).map Prod.fst = inFlow s node := by
  unfold placements
  exact List.map_fst_zip (by simp [Frame.length_spans])

theorem mem_inFlow_of_mem_placements (h : (id, r) ∈ placements s node g) : id ∈ inFlow s node := by
  rw [← map_fst_placements s node g]
  exact List.mem_map_of_mem h

theorem inCorner_of_mem_placements (h : (id, r) ∈ placements s node g) : InCorner r := by
  obtain ⟨span, -, rfl⟩ := List.mem_map.mp (List.of_mem_zip h).2
  cases hAxis : g.axis <;> exact ⟨rfl, rfl, rfl⟩

/-! ## Setting rectangles -/

theorem rect?_setRects_cases (ps : List (NodeId × Rect Single)) (s : Scene) (id : NodeId) :
    (ps.foldl (fun s p => s.setRect p.1 p.2) s).rect? id = s.rect? id ∨
      ∃ r, (id, r) ∈ ps ∧ (ps.foldl (fun s p => s.setRect p.1 p.2) s).rect? id = some r := by
  induction ps generalizing s with
  | nil => exact Or.inl rfl
  | cons p ps ih =>
    rw [List.foldl_cons]
    rcases ih (s.setRect p.1 p.2) with hOld | ⟨r, hMem, hNew⟩
    · rw [hOld, Scene.rect?_setRect]
      split
      · rename_i hId
        cases hr : s.rect? id with
        | none => exact Or.inl rfl
        | some old => exact Or.inr ⟨p.2, by simp [hId], rfl⟩
      · exact Or.inl rfl
    · exact Or.inr ⟨r, List.mem_cons_of_mem p hMem, hNew⟩

theorem rect?_setRects_of_mem {ps : List (NodeId × Rect Single)} (hLive : s.contains id = true)
    (hNodup : (ps.map Prod.fst).Nodup) (h : (id, r) ∈ ps) :
    (ps.foldl (fun s p => s.setRect p.1 p.2) s).rect? id = some r := by
  induction ps generalizing s with
  | nil => cases h
  | cons p ps ih =>
    rw [List.map_cons, List.nodup_cons] at hNodup
    rw [List.foldl_cons]
    rcases List.mem_cons.mp h with rfl | h
    · obtain ⟨old, hOld⟩ := Scene.rect?_of_contains hLive
      rcases rect?_setRects_cases ps (s.setRect id r) id with hSame | ⟨r', hMem, -⟩
      · rw [hSame, Scene.rect?_setRect, if_pos rfl, hOld]
        rfl
      · exact absurd (List.mem_map_of_mem hMem) hNodup.1
    · exact ih (by rwa [Scene.setRect, Scene.contains_modify]) hNodup.2 h

/-! ## One turn -/

/-- In the turn of a node, a rectangle stays, or the group of the node writes it. -/
theorem rect?_arrange_cases (s : Scene) (node id : NodeId) :
    (arrange s node).rect? id = s.rect? id ∨
      ∃ g r, s.isActive node = true ∧ s.component? LayoutGroup node = some g ∧
        (id, r) ∈ placements s node g ∧ (arrange s node).rect? id = some r := by
  rcases arrange_cases s node with hSame | ⟨g, hActive, hGroup, hSet⟩
  · exact Or.inl (by rw [hSame])
  rw [hSet]
  rcases rect?_setRects_cases (placements s node g) s id with hOld | ⟨r, hMem, hNew⟩
  · exact Or.inl hOld
  · exact Or.inr ⟨g, r, hActive, hGroup, hMem, hNew⟩

/-- In the turn of a group, the rectangles that it writes are those of its children then. -/
theorem rect?_arrange_of_mem (hs : s.Forest) (hActive : s.isActive node = true)
    (hGroup : s.component? LayoutGroup node = some g) (h : (id, r) ∈ placements s node g) :
    (arrange s node).rect? id = some r := by
  have hChild := (mem_inFlow_iff.mp (mem_inFlow_of_mem_placements h)).1
  have hNodup : ((placements s node g).map Prod.fst).Nodup := by
    rw [map_fst_placements]
    exact (hs.children_nodup node).filter _
  rw [arrange, if_pos hActive, hGroup]
  exact rect?_setRects_of_mem (hs.contains_child hChild) hNodup h

theorem bare_arranges (nodes : List NodeId) (s : Scene) :
    (nodes.foldl arrange s).bare = s.bare := look_arranges Scene.bare Scene.bare_setRect nodes s

/-! ## All turns -/

theorem Turn.bare_eq (h : Turn s start node g now) : now.bare = s.bare := by
  obtain ⟨before, -, -, rfl⟩ := h.reached
  exact bare_arranges before s

theorem Turn.mem_walk (h : Turn s start node g now) : node ∈ s.walk start := by
  obtain ⟨before, after, hWalk, -⟩ := h.reached
  simp [hWalk]

/-- The activity of nodes and their hints are the same in all turns. -/
theorem inFlow_of_bare {t : Scene} (h : t.bare = s.bare) (node : NodeId) :
    inFlow t node = inFlow s node := by
  unfold inFlow hintsOf
  rw [Scene.children_of_bare h]
  simp only [Scene.isActive_of_bare h, Scene.component?_of_bare h]

/-- What is written in a turn is the rectangle of a node that can move. -/
theorem Turn.movable (h : Turn s start node g now) (hs : s.Forest)
    (hMem : (id, r) ∈ placements now node g) : Movable s start id := by
  have hFlow := mem_inFlow_of_mem_placements hMem
  rw [inFlow_of_bare h.bare_eq] at hFlow
  obtain ⟨hChild, hActive, hHints⟩ := mem_inFlow_iff.mp hFlow
  have hParent := (hs.mem_children_iff node id).mp hChild
  refine ⟨Relation.TransGen.head' hParent (hs.below_of_mem_walk h.mem_walk), hActive, ?_, ?_⟩
  · intro hints hFirst
    rwa [hintsOf, hFirst] at hHints
  · refine ⟨node, g, hParent, ?_, ?_⟩
    · rw [← Scene.isActive_of_bare h.bare_eq]
      exact h.active
    · rw [← Scene.component?_of_bare h.bare_eq]
      exact h.group

/-- A rectangle that has changed after some of the turns was written in one of them. -/
theorem exists_turn_of_moved {before after : List NodeId} (hWalk : s.walk start = before ++ after)
    (hMoved : (before.foldl arrange s).rect? id ≠ s.rect? id) :
    ∃ node g now r, Turn s start node g now ∧ (id, r) ∈ placements now node g ∧
      (before.foldl arrange s).rect? id = some r := by
  -- from the last turn back: it wrote the rectangle, or the turns before it are left to look at
  induction before using List.reverseRecOn generalizing after with
  | nil => exact absurd rfl hMoved
  | append_singleton before node ih =>
    rw [List.append_assoc] at hWalk
    rw [List.foldl_append, List.foldl_cons, List.foldl_nil] at hMoved ⊢
    rcases rect?_arrange_cases (before.foldl arrange s) node id with
      hOld | ⟨g, r, hActive, hGroup, hMem, hNew⟩
    · rw [hOld] at hMoved ⊢
      exact ih hWalk hMoved
    · exact ⟨node, g, _, r, ⟨⟨before, after, hWalk, rfl⟩, hActive, hGroup⟩, hMem, hNew⟩

/-- Arranging changes nothing but rectangles, and those only of nodes that can move. Each rectangle
that a turn writes is that of such a node, and stands in the top left corner. -/
theorem movable_of_moved (h : s.Reachable) (start : NodeId) :
    (arrangeAll s start).bare = s.bare ∧
      (∀ id, (arrangeAll s start).rect? id ≠ s.rect? id →
        Movable s start id ∧ ∃ r, (arrangeAll s start).rect? id = some r ∧ InCorner r) ∧
      ∀ node g now, Turn s start node g now → ∀ id r, (id, r) ∈ placements now node g →
        (arrange now node).rect? id = some r ∧ Movable s start id ∧ InCorner r := by
  have hs := h.forest
  refine ⟨bare_arranges (s.walk start) s, fun id hMoved => ?_, ?_⟩
  · obtain ⟨node, g, now, r, hTurn, hMem, hNew⟩ :=
      exists_turn_of_moved (s.walk start).append_nil.symm hMoved
    exact ⟨hTurn.movable hs hMem, r, hNew, inCorner_of_mem_placements hMem⟩
  · intro node g now hTurn id r hMem
    have hNow := hs.of_bare hTurn.bare_eq
    exact ⟨rect?_arrange_of_mem hNow hTurn.active hTurn.group hMem, hTurn.movable hs hMem,
      inCorner_of_mem_placements hMem⟩

/-- A row of three, of which one is inactive and one is to be ignored. The first one moves. -/
theorem movable_of_moved_row :
    let canvas : NodeId := ⟨0, 1⟩
    let row : NodeId := ⟨1, 1⟩
    let first : NodeId := ⟨2, 1⟩
    let ignored : LayoutHints := ⟨.none, .none, .none, .none, true⟩
    let ops : List Operation :=
      [.insertChild canvas ⟨"Row", .stretched, [.layoutGroup (.along .horizontal)], true⟩,
        .insertChild row ⟨"First", .centered 50 20, [], true⟩,
        .insertChild row ⟨"Off", .centered 50 20, [], false⟩,
        .insertChild row ⟨"Aside", .centered 50 20, [.layoutHints ignored], true⟩]
    let s := Operation.runAll ops (.withCanvas 400 200)
    let now := [canvas].foldl arrange s
    let r : Rect Single := (Rect.topLeft 50 20).withPosition ⟨0, -0⟩
    s.Reachable ∧ (arrangeAll s canvas).rect? first ≠ s.rect? first ∧ Movable s canvas first ∧
      (∃ r, (arrangeAll s canvas).rect? first = some r ∧ InCorner r) ∧
      Turn s canvas row (.along .horizontal) now ∧
      (first, r) ∈ placements now row (.along .horizontal) ∧
      (arrange now row).rect? first = some r ∧ InCorner r ∧
      (arrangeAll s canvas).rect? ⟨3, 1⟩ = s.rect? ⟨3, 1⟩ ∧
      (arrangeAll s canvas).rect? ⟨4, 1⟩ = s.rect? ⟨4, 1⟩ := by
  intro canvas row first ignored ops s now r
  have hReachable : s.Reachable := ⟨ops, Or.inr ⟨400, 200, rfl⟩⟩
  have hMoved : (arrangeAll s canvas).rect? first ≠ s.rect? first := by decide +kernel
  have hTurn : Turn s canvas row (.along .horizontal) now := by
    refine ⟨⟨[canvas], [first, ⟨3, 1⟩, ⟨4, 1⟩], ?_, rfl⟩, ?_, ?_⟩ <;> decide +kernel
  have hMem : (first, r) ∈ placements now row (.along .horizontal) := by decide +kernel
  have hOff : (arrangeAll s canvas).rect? ⟨3, 1⟩ = s.rect? ⟨3, 1⟩ := by decide +kernel
  have hAside : (arrangeAll s canvas).rect? ⟨4, 1⟩ = s.rect? ⟨4, 1⟩ := by decide +kernel
  obtain ⟨-, hOnly, hWritten⟩ := movable_of_moved hReachable canvas
  obtain ⟨hMovable, hCorner⟩ := hOnly first hMoved
  obtain ⟨hNew, -, hNewCorner⟩ := hWritten row (.along .horizontal) now hTurn first r hMem
  exact ⟨hReachable, hMoved, hMovable, hCorner, hTurn, hMem, hNew, hNewCorner, hOff, hAside⟩

end AnchoredUi.Flow
