import AnchoredUi.Proofs.SceneGraph.Cut
import AnchoredUi.Proofs.SceneGraph.Walk

/-!
# What is left when a node is taken out

Taking a node out removes the nodes that a walk from it meets, each once, and nothing else. The
list of what is erased is made level by level, the walk goes depth first; both are the one branch
of the node. The list is complete before the first node is erased. To erase each node as soon as
its turn comes, and to read its children from what is left then, makes no difference, since no
node above a node that waits is ever erased after it.

* `Forest.nodes_without`: erasing while listing.
* `uprooted_remove`: what removing a key does, whether its node is there or not.
-/

namespace AnchoredUi.SceneGraph.Scene

variable {s : Scene} {id : NodeId}

/-! ## The branch of a node -/

/-- What is erased with a node is what a walk from it meets, in another order. -/
theorem Forest.walk_perm_below (h : s.Forest) (hId : s.contains id = true) :
    (s.walk id).Perm (s.below id) := by
  have hListed := h.branch_below hId
  have hWalked : s.Branch id (s.walk id) := by
    refine ⟨h.mem_walk_iff.mpr ⟨hId, Below.refl s id⟩, fun x hx c hc => ?_, fun x hx => ?_⟩
    · exact h.mem_walk_of_parent? hx ((h.mem_children_iff x c).mp hc)
    · rcases Relation.ReflTransGen.cases_head (h.below_of_mem_walk hx) with rfl | ⟨p, hp, hBelow⟩
      · exact Or.inl rfl
      · exact Or.inr ⟨p, h.mem_walk_iff.mpr ⟨hId, hBelow⟩, hp⟩
  have hNodup : (s.below id).Nodup := by simpa using (h.listing_below hId).nodup
  refine (List.perm_ext_iff_of_nodup (h.nodup_walk id) hNodup).mpr fun x => ⟨fun hx => ?_, ?_⟩
  · exact hWalked.subset h hListed hx
  · exact fun hx => hListed.subset h hWalked hx

theorem Forest.mem_below_iff (h : s.Forest) (hId : s.contains id = true) {x : NodeId} :
    x ∈ s.below id ↔ x ∈ s.walk id := (h.walk_perm_below hId).mem_iff.symm

theorem size_unlink (s : Scene) (id : NodeId) : (s.unlink id).size = s.size := by
  unfold unlink
  split
  · exact Arena.size_modify _ _ _
  · rfl

theorem Forest.size_without (h : s.Forest) (hId : s.contains id = true) :
    (s.without id).size + (s.walk id).length = s.size := by
  have hListing := h.listing_below hId
  have hErased := Arena.size_foldl_erase (a := s.unlink id) (by simpa using hListing.nodup)
    fun x hx => by
      have hLive := hListing.live x (by simpa using hx)
      obtain ⟨e, he⟩ := find?_of_contains hLive
      rw [Arena.contains, find?_unlink h, he]
      rfl
  rw [size_unlink] at hErased
  rw [(h.walk_perm_below hId).length_eq]
  exact hErased

/-! ## Erasing while listing -/

/-- Erases at most `count` nodes of a queue, one by one; the children that a node has when its
turn comes are put at the end of the queue. -/
def drain : (count : Nat) → (queue : List NodeId) → Arena Entry → Arena Entry
  | 0, _, a => a
  | _ + 1, [], a => a
  | count + 1, x :: queue, a =>
    drain count (queue ++ ((a.find? x).map Entry.children).getD []) (a.erase x)

/-- A node that waits still has all its children. -/
theorem Listing.children_kept (h : s.Forest) {x : NodeId} {seen queue : List NodeId}
    (hs : s.Listing id seen (x :: queue)) :
    (((seen.foldl Arena.erase (s.unlink id)).find? x).map Entry.children).getD [] =
      s.children x := by
  obtain ⟨rank, hRank⟩ := h.ranked
  have hx : x ∉ seen := by
    have hNodup := hs.nodup
    rw [List.nodup_append] at hNodup
    exact fun hx => hNodup.2.2 x hx x (by simp) rfl
  obtain ⟨e, he⟩ := find?_of_contains (hs.live x (by simp))
  -- only the parent of the start loses a child, and that one is never listed
  have hOther : ∀ c ∈ e.children, c ≠ id := by
    rintro c hc rfl
    have hParent := (h.mem_children_iff x c).mp (mem_children_iff_find?.mpr ⟨e, he, hc⟩)
    exact hs.parent_not_mem hRank hParent (by simp)
  rw [Arena.find?_foldl_erase, if_neg hx, find?_unlink h, he, children_of_find? he]
  simpa using hOther

theorem Listing.drain_eq (h : s.Forest) {n : Nat} {seen queue : List NodeId}
    (hs : s.Listing id seen queue) :
    drain n queue (seen.foldl Arena.erase (s.unlink id)) =
      (s.levelOrder n queue).foldl Arena.erase (seen.foldl Arena.erase (s.unlink id)) := by
  obtain ⟨rank, hRank⟩ := h.ranked
  induction n generalizing seen queue with
  | zero => rfl
  | succ n ih =>
    cases queue with
    | nil => rfl
    | cons x queue =>
      have hStep := ih (hs.step h fun p hp => hs.parent_not_mem hRank hp)
      rw [List.foldl_append, List.foldl_cons, List.foldl_nil] at hStep
      rw [drain, hs.children_kept h, hStep, levelOrder, List.foldl_cons]

/-- To erase each node of a branch as soon as it is listed gives the same. -/
theorem Forest.nodes_without (h : s.Forest) (hId : s.contains id = true) :
    (s.without id).nodes = drain s.size [id] (s.unlink id) :=
  ((listing_start hId).drain_eq h).symm

/-! ## What is left -/

/-- From `s` to `t`, a node was taken out with everything below it. The nodes that are gone are
those that a walk from the node met; all others have kept what they had, but for the one list of
children that held the node. -/
structure Uprooted (s : Scene) (id : NodeId) (t : Scene) : Prop where
  gone_iff : ∀ x, s.contains x = true ∧ t.contains x = false ↔ x ∈ s.walk id
  no_news : ∀ x, t.contains x = true → s.contains x = true
  node?_eq : ∀ x, t.contains x = true → t.node? x = s.node? x
  parent?_eq : ∀ x, t.contains x = true → t.parent? x = s.parent? x
  children_eq : ∀ x, t.contains x = true → s.parent? id ≠ some x → t.children x = s.children x
  siblings : ∀ p, s.parent? id = some p → t.contains p = true ∧
    ∃ before after, s.children p = before ++ id :: after ∧ t.children p = before ++ after
  walk_nodup : (s.walk id).Nodup
  size_add : t.size + (s.walk id).length = s.size
  root_of_root : s.root = some id → t.root = none
  root_of_other : s.root ≠ some id → t.root = s.root

/-- The parent of the node stays, and loses one child. -/
theorem Forest.siblings_without (h : s.Forest) (hId : s.contains id = true) {p : NodeId}
    (hp : s.parent? id = some p) : (s.without id).contains p = true ∧
      ∃ before after, s.children p = before ++ id :: after ∧
        (s.without id).children p = before ++ after := by
  have hOut : p ∉ s.below id := fun hMem => by
    have hLow := h.depth_le_of_below (h.below_of_mem_walk ((h.mem_below_iff hId).mp hMem))
    have hHigh := h.depth_of_parent? hp
    omega
  obtain ⟨before, after, hSplit⟩ := List.append_of_mem ((h.mem_children_iff p id).mpr hp)
  -- the node is in the list once
  have hNodup := h.children_nodup p
  rw [hSplit, List.nodup_middle, List.nodup_cons] at hNodup
  have hKept : (before ++ after).filter (· ≠ id) = before ++ after :=
    List.filter_eq_self.mpr fun c hc => by
      simpa using fun hEq : c = id => hNodup.1 (hEq ▸ hc)
  refine ⟨by simp [contains_without h, hOut, h.contains_parent hp], before, after, hSplit, ?_⟩
  rw [children_without h, if_neg hOut, hSplit, ← hKept]
  simp

theorem Forest.uprooted_without (h : s.Forest) (hId : s.contains id = true) :
    s.Uprooted id (s.without id) where
  gone_iff x := by
    have hMem := h.mem_below_iff hId (x := x)
    rw [contains_without h, ← hMem]
    by_cases hx : x ∈ s.below id
    · simp [hx, h.contains_of_mem_walk (hMem.mp hx)]
    · simp [hx]
  no_news x hx := (outside_of_contains h hx).2
  node?_eq x hx := node?_without h (outside_of_contains h hx).1
  parent?_eq x hx := by rw [parent?_without h, if_neg (outside_of_contains h hx).1]
  children_eq x hx hNot := by
    rw [children_without h, if_neg (outside_of_contains h hx).1, List.filter_eq_self]
    intro c hc
    have hNe : c ≠ id := fun hEq => hNot ((h.mem_children_iff x id).mp (hEq ▸ hc))
    simpa using hNe
  siblings p hp := h.siblings_without hId hp
  walk_nodup := h.nodup_walk id
  size_add := h.size_without hId
  root_of_root hRoot := if_pos hRoot
  root_of_other hRoot := if_neg hRoot

/-- Removing a key of which there is no node answers nothing and changes nothing. If there is a
node, it is the answer, and it is taken out with everything below it. -/
theorem uprooted_remove (h : s.Reachable) (id : NodeId) :
    (s.contains id = false → s.remove id = (none, s)) ∧
      (s.contains id = true → ∃ n t, s.node? id = some n ∧ s.remove id = (some n, t) ∧
        s.Uprooted id t) := by
  refine ⟨remove_of_not_contains, fun hLive => ?_⟩
  obtain ⟨e, he⟩ := find?_of_contains hLive
  have hNode := node?_of_find? he
  refine ⟨e.node, s.without id, hNode, ?_, h.forest.uprooted_without hLive⟩
  rw [remove, hNode]

/-- A node with two children is taken out. Its key answers nothing then, nor does that of a child
whose slot has got a new node. -/
theorem uprooted_remove_refilled :
    let canvas : NodeId := ⟨0, 1⟩
    let panel : NodeId := ⟨1, 1⟩
    let label : NodeId := ⟨3, 1⟩
    let ops : List Operation := [.create "Panel" canvas, .create "Icon" panel,
      .create "Label" panel, .create "Footer" canvas]
    let more : List Operation := [.destroy panel, .create "Header" canvas]
    let s := Operation.runAll ops (withCanvas 800 600)
    let t := Operation.runAll (ops ++ more) (withCanvas 800 600)
    s.Reachable ∧ s.contains panel = true ∧
      (∃ n u, s.node? panel = some n ∧ s.remove panel = (some n, u) ∧ s.Uprooted panel u) ∧
      t.Reachable ∧ t.contains label = false ∧ t.contains ⟨3, 3⟩ = true ∧
      t.remove label = (none, t) := by
  intro canvas panel label ops more s t
  have hs : s.Reachable := ⟨ops, Or.inr ⟨800, 600, rfl⟩⟩
  have ht : t.Reachable := ⟨ops ++ more, Or.inr ⟨800, 600, rfl⟩⟩
  have hLive : s.contains panel = true := by decide +kernel
  have hDead : t.contains label = false := by decide +kernel
  have hRefilled : t.contains ⟨3, 3⟩ = true := by decide +kernel
  exact ⟨hs, hLive, (uprooted_remove hs panel).2 hLive, ht, hDead, hRefilled,
    (uprooted_remove ht label).1 hDead⟩

end AnchoredUi.SceneGraph.Scene
