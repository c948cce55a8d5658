import AnchoredUi.Proofs.SceneGraph.Forest
import AnchoredUi.SceneGraph.Walk

/-!
# Walks through forests

The walks of a scene are bounded by its number of nodes. In a forest the bound is never reached,
since the nodes above a node are distinct; so ancestors, sizes and the nodes below a node obey the
equations without a bound.

* `Forest.ancestors_eq`, `Forest.sizeOf_eq`, `Forest.walk_eq`: the three equations.
* `Forest.induction_down`: induction along the children.
* `Forest.parentSize_eq_of_others`: what the size of a parent does not depend on.
-/

namespace AnchoredUi.SceneGraph.Scene

open Number Plane

variable {s : Scene}

/-! ## The nodes above a node -/

section Ranked

variable {rank : NodeId → Nat} (hRank : ∀ c p, s.parent? c = some p → rank p < rank c)
include hRank

theorem rank_lt_of_mem_ancestorsWithin {n : Nat} {id a : NodeId}
    (h : a ∈ s.ancestorsWithin n id) : rank a < rank id := by
  induction n generalizing id with
  | zero => simp [ancestorsWithin] at h
  | succ n ih =>
    unfold ancestorsWithin at h
    split at h
    · rename_i p hp
      have hLt := hRank id p hp
      rcases List.mem_cons.mp h with rfl | h
      · exact hLt
      · exact Nat.lt_trans (ih h) hLt
    · simp at h

theorem nodup_ancestorsWithin (n : Nat) (id : NodeId) : (id :: s.ancestorsWithin n id).Nodup := by
  induction n generalizing id with
  | zero => simp [ancestorsWithin]
  | succ n ih =>
    refine List.nodup_cons.mpr ⟨fun h => ?_, ?_⟩
    · exact Nat.lt_irrefl _ (rank_lt_of_mem_ancestorsWithin hRank h)
    · unfold ancestorsWithin
      split
      · exact ih _
      · exact List.nodup_nil

end Ranked

theorem ancestorsWithin_of_length_le {n : Nat} {id : NodeId}
    (h : (s.ancestorsWithin (n + 1) id).length ≤ n) :
    s.ancestorsWithin (n + 1) id = s.ancestorsWithin n id := by
  induction n generalizing id with
  | zero => exact List.length_eq_zero_iff.mp (Nat.le_zero.mp h)
  | succ n ih =>
    rw [ancestorsWithin] at h ⊢
    rw [ancestorsWithin]
    cases hp : s.parent? id with
    | none => rfl
    | some p =>
      rw [hp] at h
      exact congrArg (p :: ·) (ih (Nat.le_of_succ_le_succ h))

theorem Forest.contains_ancestor (h : s.Forest) {n : Nat} {id a : NodeId}
    (ha : a ∈ s.ancestorsWithin n id) : s.contains a = true := by
  induction n generalizing id with
  | zero => simp [ancestorsWithin] at ha
  | succ n ih =>
    unfold ancestorsWithin at ha
    split at ha
    · rename_i p hp
      rcases List.mem_cons.mp ha with rfl | ha
      · exact h.contains_parent hp
      · exact ih ha
    · simp at ha

theorem Forest.length_ancestorsWithin (h : s.Forest) {id : NodeId} (hId : s.contains id = true)
    (n : Nat) : (s.ancestorsWithin n id).length < s.size := by
  obtain ⟨rank, hRank⟩ := h.ranked
  have hLe := Arena.length_le_size (a := s.nodes) (nodup_ancestorsWithin hRank n id) (by
    intro a ha
    rcases List.mem_cons.mp ha with rfl | ha
    · exact hId
    · exact h.contains_ancestor ha)
  exact hLe

theorem ancestors_of_not_contains {id : NodeId} (hId : s.contains id = false) :
    s.ancestors id = [] := by
  have hNone : s.parent? id = none := Option.eq_none_iff_forall_ne_some.mpr fun p hp => by
    simp [contains_of_parent? hp] at hId
  unfold ancestors
  cases s.size <;> simp [ancestorsWithin, hNone]

/-- The nodes above a node are its parent and the nodes above that. -/
theorem Forest.ancestors_eq (h : s.Forest) (id : NodeId) :
    s.ancestors id = match s.parent? id with
      | some p => p :: s.ancestors p
      | none => [] := by
  cases hId : s.contains id with
  | false =>
    have hNone : s.parent? id = none := Option.eq_none_iff_forall_ne_some.mpr fun p hp => by
      simp [contains_of_parent? hp] at hId
    rw [ancestors_of_not_contains hId, hNone]
  | true =>
    have hEnough : s.ancestorsWithin (s.size + 1) id = s.ancestors id :=
      ancestorsWithin_of_length_le (Nat.le_of_lt (h.length_ancestorsWithin hId _))
    rw [← hEnough, ancestorsWithin]
    rfl

/-- The number of nodes above a node. -/
def depth (s : Scene) (id : NodeId) : Nat := (s.ancestors id).length

theorem Forest.depth_lt_size (h : s.Forest) {id : NodeId} (hId : s.contains id = true) :
    s.depth id < s.size := h.length_ancestorsWithin hId _

theorem Forest.depth_of_parent? (h : s.Forest) {c p : NodeId} (hp : s.parent? c = some p) :
    s.depth c = s.depth p + 1 := by
  unfold depth
  rw [h.ancestors_eq c, hp]
  rfl

theorem Forest.depth_of_mem_children (h : s.Forest) {c p : NodeId} (hc : c ∈ s.children p) :
    s.depth c = s.depth p + 1 := h.depth_of_parent? ((h.mem_children_iff p c).mp hc)

/-- What holds of each node of whose children it holds, holds of all nodes. -/
theorem Forest.induction_down (h : s.Forest) {motive : NodeId → Prop}
    (step : ∀ x, (∀ c ∈ s.children x, motive c) → motive x) (x : NodeId) : motive x := by
  induction hn : s.size - s.depth x using Nat.strongRecOn generalizing x with
  | ind n ih =>
    refine step x fun c hc => ih (s.size - s.depth c) ?_ c rfl
    have hDepth := h.depth_of_mem_children hc
    have hLess := h.depth_lt_size (contains_of_mem_children hc)
    omega

theorem Forest.ne_child (h : s.Forest) {a b : NodeId} (hb : b ∈ s.children a) :
    b ≠ a := by
  have hDepth := h.depth_of_mem_children hb
  rintro rfl
  omega

theorem Forest.ne_grandchild (h : s.Forest) {a b c : NodeId} (hb : b ∈ s.children a)
    (hc : c ∈ s.children b) : c ≠ a := by
  have hDepth := h.depth_of_mem_children hb
  have hDepth' := h.depth_of_mem_children hc
  rintro rfl
  omega

/-! ## Sizes -/

theorem rect?_of_contains {id : NodeId} (h : s.contains id = true) : ∃ r, s.rect? id = some r := by
  obtain ⟨e, he⟩ := find?_of_contains h
  exact ⟨e.node.rect, by simp [rect?, node?, he]⟩

theorem contains_of_rect? {id : NodeId} {r : Rect Single} (h : s.rect? id = some r) :
    s.contains id = true := by
  cases he : s.nodes.find? id with
  | none => simp [rect?, node?, he] at h
  | some e => exact contains_of_find? he

/-- A change of nodes that is not about their rectangles. -/
theorem rect?_modify {f : Node → Node} (hRect : ∀ n, (f n).rect = n.rect) (s : Scene)
    (id other : NodeId) : (s.modify id f).rect? other = s.rect? other := by
  simp only [rect?, node?_modify]
  split
  · cases s.node? other with
    | none => rfl
    | some n => exact congrArg some (hRect n)
  · rfl

theorem rect?_modifyComponents (s : Scene) (id other : NodeId)
    (f : List (Component NodeId) → List (Component NodeId)) :
    (s.modifyComponents id f).rect? other = s.rect? other :=
  rect?_modify (f := fun n => { n with components := f n.components }) (fun _ => rfl) s id other

theorem rect?_setRect (s : Scene) (id other : NodeId) (r : Rect Single) :
    (s.setRect id r).rect? other =
      if other = id then (s.rect? other).map fun _ => r else s.rect? other := by
  simp only [rect?, setRect, node?_modify]
  split <;> simp [Function.comp_def]

theorem Forest.sizeWithin_succ (h : s.Forest) {n : Nat} {id : NodeId} (hn : s.depth id < n) :
    s.sizeWithin (n + 1) id = s.sizeWithin n id := by
  induction n generalizing id with
  | zero => omega
  | succ n ih =>
    rw [sizeWithin, sizeWithin]
    cases hr : s.rect? id with
    | none => rfl
    | some r =>
      cases hp : s.parent? id with
      | none => rfl
      | some p =>
        have := h.depth_of_parent? hp
        exact congrArg r.size (ih (by omega))

/-- The size of a node follows from its rectangle and the size of its parent. -/
theorem Forest.sizeOf_eq (h : s.Forest) {id : NodeId} {r : Rect Single}
    (hr : s.rect? id = some r) : s.sizeOf id = r.size (s.parentSize id) := by
  have hDepth := h.depth_lt_size (contains_of_rect? hr)
  unfold sizeOf
  rw [← h.sizeWithin_succ hDepth, sizeWithin, hr]
  simp only [parentSize]
  cases hp : s.parent? id with
  | none => rfl
  | some p => rfl

/-- Sizes depend on rectangles and parents only. -/
theorem Forest.sizeOf_congr {t : Scene} (hs : s.Forest) (ht : t.Forest)
    (hSame : ∀ id, s.contains id = true → t.rect? id = s.rect? id ∧ t.parent? id = s.parent? id)
    {id : NodeId} (hId : s.contains id = true) : t.sizeOf id = s.sizeOf id := by
  induction id using hs.induction_up with
  | step id ih =>
    obtain ⟨hRect, hParent⟩ := hSame id hId
    obtain ⟨r, hr⟩ := rect?_of_contains hId
    rw [hs.sizeOf_eq hr, ht.sizeOf_eq (hRect.trans hr)]
    simp only [parentSize, hParent]
    cases hp : s.parent? id with
    | none => rfl
    | some p =>
      simp only
      rw [ih p hp (hs.contains_parent hp)]

/-- The size of the parent of a node does not depend on the rectangle of the node itself. -/
theorem Forest.parentSize_eq_of_others {t : Scene} (hs : s.Forest) (ht : t.Forest) {id : NodeId}
    (hParent : ∀ a, t.parent? a = s.parent? a) (hRect : ∀ a, a ≠ id → t.rect? a = s.rect? a) :
    t.parentSize id = s.parentSize id := by
  -- the ancestors lie above the node, so it is none of them
  suffices hAll : ∀ a, s.depth a < s.depth id → t.sizeOf a = s.sizeOf a by
    unfold parentSize
    rw [hParent]
    cases hp : s.parent? id with
    | none => rfl
    | some p =>
      have hDepth := hs.depth_of_parent? hp
      exact hAll p (by omega)
  intro a
  induction a using hs.induction_up with
  | step a ih =>
    intro hLt
    have hSame := hRect a (by rintro rfl; omega)
    cases hr : s.rect? a with
    | none => rw [size_eq_zero hr, size_eq_zero (hSame.trans hr)]
    | some r =>
      rw [hs.sizeOf_eq hr, ht.sizeOf_eq (hSame.trans hr)]
      unfold parentSize
      rw [hParent]
      cases hp : s.parent? a with
      | none => rfl
      | some p =>
        have hDepth := hs.depth_of_parent? hp
        simp only
        rw [ih p hp (by omega)]

/-! ## The nodes below a node -/

theorem walk_of_not_contains {id : NodeId} (h : s.contains id = false) : s.walk id = [] := by
  unfold walk
  cases s.size <;> simp [walkWithin, h]

theorem Forest.walkWithin_succ (h : s.Forest) {n : Nat} {id : NodeId}
    (hn : s.size ≤ s.depth id + n) : s.walkWithin (n + 1) id = s.walkWithin n id := by
  induction n generalizing id with
  | zero =>
    have hDead : s.contains id = false := by
      by_contra hLive
      have := h.depth_lt_size (Bool.of_not_eq_false hLive)
      omega
    simp [walkWithin, hDead]
  | succ n ih =>
    rw [walkWithin, walkWithin]
    have hChildren : (s.children id).flatMap (s.walkWithin (n + 1)) =
        (s.children id).flatMap (s.walkWithin n) :=
      List.flatMap_congr fun c hc => ih (by
        have := h.depth_of_mem_children hc
        omega)
    rw [hChildren]

/-- A walk is the node and then the walks from its children. -/
theorem Forest.walk_eq (h : s.Forest) {id : NodeId} (hId : s.contains id = true) :
    s.walk id = id :: (s.children id).flatMap s.walk := by
  have hSucc : s.walkWithin (s.size + 1) id = s.walk id := h.walkWithin_succ (by omega)
  rw [← hSucc, walkWithin, if_pos hId]
  rfl

/-- A walk meets the children of each node that it meets. -/
theorem Forest.mem_walk_of_parent? (hs : s.Forest) {a u x : NodeId} (hu : u ∈ s.walk a)
    (hx : s.parent? x = some u) : x ∈ s.walk a := by
  induction a using hs.induction_down with
  | step a ih =>
    cases hLive : s.contains a with
    | false => simp [walk_of_not_contains hLive] at hu
    | true =>
      rw [hs.walk_eq hLive] at hu ⊢
      refine List.mem_cons_of_mem a (List.mem_flatMap.mpr ?_)
      rcases List.mem_cons.mp hu with rfl | hu
      · have hChild := (hs.mem_children_iff u x).mpr hx
        refine ⟨x, hChild, ?_⟩
        rw [hs.walk_eq (hs.contains_child hChild)]
        exact List.mem_cons_self
      · obtain ⟨c, hc, hu⟩ := List.mem_flatMap.mp hu
        exact ⟨c, hc, ih c hc hu⟩

end AnchoredUi.SceneGraph.Scene
