import AnchoredUi.Proofs.SceneGraph.Forest

/-!
# Removing nodes

The nodes below a node are listed level by level before they are erased. The list is complete: it
holds the node, and with each node its children; and it holds nothing else. So the erased nodes
leave no trace in what remains.

* `Forest.branch_below`: what is in the list.
* `Forest.without`: removing a node keeps a forest a forest.
-/

namespace AnchoredUi.SceneGraph.Scene

variable {s : Scene}

/-- A list of nodes holds a node and everything below it, and nothing else. -/
structure Branch (s : Scene) (id : NodeId) (ids : List NodeId) : Prop where
  start_mem : id ∈ ids
  child_mem : ∀ x ∈ ids, ∀ c ∈ s.children x, c ∈ ids
  parent_mem : ∀ x ∈ ids, x = id ∨ ∃ p ∈ ids, s.parent? x = some p

/-- What holds while the list is made: `seen` is the list so far, and `queue` waits. -/
structure Listing (s : Scene) (id : NodeId) (seen queue : List NodeId) : Prop where
  nodup : (seen ++ queue).Nodup
  live : ∀ x ∈ seen ++ queue, s.contains x = true
  start_mem : id ∈ seen ++ queue
  child_mem : ∀ x ∈ seen, ∀ c ∈ s.children x, c ∈ seen ++ queue
  parent_mem : ∀ x ∈ seen ++ queue, x = id ∨ ∃ p ∈ seen, s.parent? x = some p

/-- One step: the first node of the queue is listed, and its children wait. -/
theorem Listing.step (h : s.Forest) {id x : NodeId} {seen queue : List NodeId}
    (hTop : ∀ p, s.parent? id = some p → p ∉ seen ++ x :: queue)
    (hs : s.Listing id seen (x :: queue)) :
    s.Listing id (seen ++ [x]) (queue ++ s.children x) := by
  have hList : seen ++ x :: queue = seen ++ [x] ++ queue := by simp
  have hNodup := hs.nodup
  have hx : x ∉ seen := by
    rw [List.nodup_append] at hNodup
    exact fun hx => hNodup.2.2 x hx x (by simp) rfl
  -- a child of `x` cannot be listed yet: its parent would have been listed before
  have hFresh : ∀ c ∈ s.children x, c ∉ seen ++ x :: queue := by
    intro c hc hMem
    have hp := (h.mem_children_iff x c).mp hc
    rcases hs.parent_mem c hMem with rfl | ⟨p, hpSeen, hp'⟩
    · exact hTop x hp (by simp)
    · rw [hp] at hp'
      cases hp'
      exact hx hpSeen
  refine ⟨?_, ?_, ?_, ?_, ?_⟩
  · rw [← List.append_assoc, ← hList]
    exact List.nodup_append.mpr ⟨hNodup, h.children_nodup x, fun a ha b hb hab =>
      hFresh b hb (hab ▸ ha)⟩
  · intro y hy
    rw [← List.append_assoc, ← hList] at hy
    rcases List.mem_append.mp hy with hy | hy
    · exact hs.live y hy
    · exact h.contains_child hy
  · rw [← List.append_assoc, ← hList]
    exact List.mem_append_left _ hs.start_mem
  · intro y hy c hc
    rw [← List.append_assoc, ← hList]
    rcases List.mem_append.mp hy with hy | hy
    · exact List.mem_append_left _ (hs.child_mem y hy c hc)
    · rw [List.mem_singleton.mp hy] at hc
      exact List.mem_append_right _ hc
  · intro y hy
    rw [← List.append_assoc, ← hList] at hy
    rcases List.mem_append.mp hy with hy | hy
    · rcases hs.parent_mem y hy with rfl | ⟨p, hpSeen, hp⟩
      · exact Or.inl rfl
      · exact Or.inr ⟨p, List.mem_append_left _ hpSeen, hp⟩
    · exact Or.inr ⟨x, by simp, (h.mem_children_iff x y).mp hy⟩

theorem Listing.branch {id : NodeId} {ids : List NodeId} (h : s.Listing id ids []) :
    s.Branch id ids where
  start_mem := by simpa using h.start_mem
  child_mem x hx c hc := by simpa using h.child_mem x hx c hc
  parent_mem x hx := h.parent_mem x (by simpa using hx)

/-- No node above the start is ever listed. -/
theorem Listing.parent_not_mem {rank : NodeId → Nat}
    (hRank : ∀ c p, s.parent? c = some p → rank p < rank c) {id : NodeId} {seen queue : List NodeId}
    (h : s.Listing id seen queue) {p : NodeId} (hp : s.parent? id = some p) :
    p ∉ seen ++ queue := by
  suffices hAll : ∀ n x, rank x = n → x ∈ seen ++ queue → rank id ≤ n by
    intro hMem
    have := hAll _ p rfl hMem
    have := hRank id p hp
    omega
  intro n
  induction n using Nat.strongRecOn with
  | ind n ih =>
    intro x hx hMem
    rcases h.parent_mem x hMem with rfl | ⟨q, hqSeen, hq⟩
    · omega
    · have hLt := hRank x q hq
      have := ih (rank q) (by omega) q rfl (List.mem_append_left _ hqSeen)
      omega

theorem Listing.complete (h : s.Forest) {id : NodeId} {n : Nat} {seen queue : List NodeId}
    (hs : s.Listing id seen queue) (hn : s.size ≤ seen.length + n) :
    s.Listing id (seen ++ s.levelOrder n queue) [] := by
  obtain ⟨rank, hRank⟩ := h.ranked
  induction n generalizing seen queue with
  | zero =>
    -- all nodes are listed, so none waits
    have hLe := Arena.length_le_size (a := s.nodes) hs.nodup hs.live
    have hSize : s.nodes.size = s.size := rfl
    rw [List.length_append] at hLe
    have hEmpty : queue = [] := List.length_eq_zero_iff.mp (by omega)
    subst hEmpty
    simpa [levelOrder] using hs
  | succ n ih =>
    cases queue with
    | nil => simpa [levelOrder] using hs
    | cons x queue =>
      have hStep := hs.step h fun p hp => hs.parent_not_mem hRank hp
      simpa [levelOrder] using ih hStep (by simp; omega)

theorem listing_start {id : NodeId} (hId : s.contains id = true) : s.Listing id [] [id] :=
  ⟨List.nodup_singleton id, by simpa using hId, by simp, by simp, by simp⟩

theorem Forest.listing_below (h : s.Forest) {id : NodeId} (hId : s.contains id = true) :
    s.Listing id (s.below id) [] := (listing_start hId).complete h (by simp)

theorem Forest.branch_below (h : s.Forest) {id : NodeId} (hId : s.contains id = true) :
    s.Branch id (s.below id) := (h.listing_below hId).branch

/-- All nodes of a branch are there. -/
theorem Branch.contains {id x : NodeId} {ids : List NodeId} (h : s.Branch id ids)
    (hId : s.contains id = true) (hx : x ∈ ids) : s.contains x = true := by
  rcases h.parent_mem x hx with rfl | ⟨p, -, hp⟩
  · exact hId
  · exact contains_of_parent? hp

/-- There is only one branch. -/
theorem Branch.subset (hs : s.Forest) {id : NodeId} {ids others : List NodeId}
    (h : s.Branch id ids) (h' : s.Branch id others) : ids ⊆ others := by
  intro x hx
  induction x using hs.induction_up with
  | step x ih =>
    rcases h.parent_mem x hx with rfl | ⟨p, hp, hParent⟩
    · exact h'.start_mem
    · exact h'.child_mem p (ih p hParent hp) x ((hs.mem_children_iff p x).mpr hParent)

/-! ## What remains -/

/-- What the children of a node become when a node is taken out. -/
theorem find?_unlink (h : s.Forest) (id other : NodeId) :
    (s.unlink id).find? other =
      (s.nodes.find? other).map fun e => { e with children := e.children.filter (· ≠ id) } := by
  have hSame : s.parent? id ≠ some other → s.nodes.find? other =
      (s.nodes.find? other).map fun e => { e with children := e.children.filter (· ≠ id) } := by
    intro hp
    cases he : s.nodes.find? other with
    | none => rfl
    | some e =>
      have hNot : id ∉ e.children := fun hMem =>
        hp ((h.mem_children_iff other id).mp (mem_children_iff_find?.mpr ⟨e, he, hMem⟩))
      have hFilter : e.children.filter (· ≠ id) = e.children :=
        List.filter_eq_self.mpr fun c hc => by
          simpa using fun hEq : c = id => hNot (hEq ▸ hc)
      rw [Option.map_some, hFilter]
  unfold unlink
  cases hp : s.parent? id with
  | none => exact hSame (by simp [hp])
  | some p =>
    simp only [Arena.find?_modify]
    by_cases hOther : other = p
    · rw [if_pos hOther]
    · rw [if_neg hOther]
      exact hSame (by simp [hp, Ne.symm hOther])

theorem find?_without (h : s.Forest) (id other : NodeId) :
    (s.without id).nodes.find? other =
      if other ∈ s.below id then none
      else (s.nodes.find? other).map fun e =>
        { e with children := e.children.filter (· ≠ id) } := by
  simp only [without, Arena.find?_foldl_erase, find?_unlink h]

theorem parent?_without (h : s.Forest) (id other : NodeId) :
    (s.without id).parent? other = if other ∈ s.below id then none else s.parent? other := by
  simp only [parent?, find?_without h]
  split
  · rfl
  · cases s.nodes.find? other <;> rfl

theorem children_without (h : s.Forest) (id other : NodeId) :
    (s.without id).children other =
      if other ∈ s.below id then [] else (s.children other).filter (· ≠ id) := by
  simp only [children, find?_without h]
  split
  · rfl
  · cases s.nodes.find? other <;> rfl

theorem contains_without (h : s.Forest) (id other : NodeId) :
    (s.without id).contains other = (!decide (other ∈ s.below id) && s.contains other) := by
  simp only [contains, Arena.contains, find?_without h]
  split <;> simp_all

theorem Forest.without (h : s.Forest) {id : NodeId} (hId : s.contains id = true) :
    (s.without id).Forest := by
  have hBranch := h.branch_below hId
  have hUp := parent?_without h id
  have hDown := children_without h id
  have hSound : (s.unlink id).Sound := by
    unfold unlink
    split
    · exact h.sound.modify _ _
    · exact h.sound
  refine ⟨hSound.foldl_erase _, ?_, ?_, ?_, ?_⟩
  · intro p c
    rw [hUp, hDown]
    by_cases hp : p ∈ s.below id
    · have hNot : ¬ (c ∉ s.below id ∧ s.parent? c = some p) := fun ⟨hc, hParent⟩ =>
        hc (hBranch.child_mem p hp c ((h.mem_children_iff p c).mpr hParent))
      by_cases hc : c ∈ s.below id
      · simp [hp, hc]
      · simpa [hp, hc] using hNot
    · rw [if_neg hp, List.mem_filter, h.mem_children_iff]
      by_cases hc : c ∈ s.below id
      · rcases hBranch.parent_mem c hc with rfl | ⟨q, hq, hqParent⟩
        · simp [hc]
        · have hNe : s.parent? c ≠ some p := by
            rw [hqParent]
            exact fun hEq => hp (Option.some.inj hEq ▸ hq)
          simp [hc, hNe]
      · have hNe : c ≠ id := fun hEq => hc (hEq ▸ hBranch.start_mem)
        simp [hc, hNe]
  · intro p
    rw [hDown]
    split
    · exact List.nodup_nil
    · exact (h.children_nodup p).filter _
  · obtain ⟨rank, hRank⟩ := h.ranked
    refine ⟨rank, fun c p hp => hRank c p ?_⟩
    rw [hUp] at hp
    split at hp
    · cases hp
    · exact hp
  · intro r hr
    have hRoot : s.root = some r ∧ r ≠ id := by
      have hr' : (if s.root = some id then none else s.root) = some r := hr
      split at hr'
      · cases hr'
      · rename_i hNe
        exact ⟨hr', fun hEq => hNe (hEq ▸ hr')⟩
    obtain ⟨hLive, hTop⟩ := h.root_top r hRoot.1
    have hNot : r ∉ s.below id := fun hMem => by
      rcases hBranch.parent_mem r hMem with hEq | ⟨p, -, hp⟩
      · exact hRoot.2 hEq
      · rw [hTop] at hp
        cases hp
    rw [contains_without h, hUp, if_neg hNot]
    exact ⟨by simp [hNot, hLive], hTop⟩

end AnchoredUi.SceneGraph.Scene
