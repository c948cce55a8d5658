import AnchoredUi.Proofs.SceneGraph.Arena
import AnchoredUi.SceneGraph.Basic

/-!
# Forests

The parents and the lists of children of a scene say the same: a node is in the list of its
parent, once, and in no other. Ranks that rise from parents to children keep a node from being
above itself.

* `Forest.induction_up`: induction along the parents.
* `Forest.insert`, `Forest.withChild`, `Forest.modify`: adding and changing nodes keeps a forest
  a forest.
* `find?_insert`, `find?_withChild`: what adding a node does to the entries of all nodes.
-/

namespace AnchoredUi.SceneGraph.Scene

/-! ## Entries of nodes -/

variable {s : Scene}

theorem find?_of_contains {id : NodeId} (h : s.contains id = true) :
    ∃ e, s.nodes.find? id = some e := Arena.contains_iff.mp h

theorem contains_of_find? {id : NodeId} {e : Entry} (h : s.nodes.find? id = some e) :
    s.contains id = true := Arena.contains_of_find? h

/-- A node that is there is none of those that are not. -/
theorem ne_of_contains {a b : NodeId} (ha : s.contains a = true) (hb : s.contains b = false) :
    a ≠ b := by
  rintro rfl
  rw [ha] at hb
  cases hb

theorem parent?_eq_some_iff {c p : NodeId} :
    s.parent? c = some p ↔ ∃ e, s.nodes.find? c = some e ∧ e.parent = some p := by
  simp [parent?, Option.bind_eq_some_iff]

theorem contains_of_parent? {c p : NodeId} (h : s.parent? c = some p) : s.contains c = true := by
  obtain ⟨e, he, -⟩ := parent?_eq_some_iff.mp h
  exact contains_of_find? he

theorem mem_children_iff_find? {p c : NodeId} :
    c ∈ s.children p ↔ ∃ e, s.nodes.find? p = some e ∧ c ∈ e.children := by
  unfold children
  cases s.nodes.find? p <;> simp

theorem contains_of_mem_children {p c : NodeId} (h : c ∈ s.children p) : s.contains p = true := by
  obtain ⟨e, he, -⟩ := mem_children_iff_find?.mp h
  exact contains_of_find? he

theorem parent?_of_find? {id : NodeId} {e : Entry} (h : s.nodes.find? id = some e) :
    s.parent? id = e.parent := by simp [parent?, h]

theorem children_of_find? {id : NodeId} {e : Entry} (h : s.nodes.find? id = some e) :
    s.children id = e.children := by simp [children, h]

theorem node?_of_find? {id : NodeId} {e : Entry} (h : s.nodes.find? id = some e) :
    s.node? id = some e.node := by simp [node?, h]

theorem components_of_find? {id : NodeId} {e : Entry} (h : s.nodes.find? id = some e) :
    s.components id = e.node.components := by simp [components, node?_of_find? h]

theorem contains_of_node? {id : NodeId} {n : Node} (h : s.node? id = some n) :
    s.contains id = true := by
  cases he : s.nodes.find? id with
  | none => simp [node?, he] at h
  | some e => exact contains_of_find? he

/-! ## The invariant -/

/-- Children and parents fit together, without cycles, and the root of the scene is at the top. -/
structure Forest (s : Scene) : Prop where
  sound : s.nodes.Sound
  mem_children_iff : ∀ p c, c ∈ s.children p ↔ s.parent? c = some p
  children_nodup : ∀ p, (s.children p).Nodup
  ranked : ∃ rank : NodeId → Nat, ∀ c p, s.parent? c = some p → rank p < rank c
  root_top : ∀ r, s.root = some r → s.contains r = true ∧ s.parent? r = none

/-- The parent of a node is there. -/
theorem Forest.contains_parent (h : s.Forest) {c p : NodeId} (hp : s.parent? c = some p) :
    s.contains p = true := contains_of_mem_children ((h.mem_children_iff p c).mpr hp)

/-- The children of a node are there. -/
theorem Forest.contains_child (h : s.Forest) {c p : NodeId} (hc : c ∈ s.children p) :
    s.contains c = true := contains_of_parent? ((h.mem_children_iff p c).mp hc)

/-- What holds of each node whose parent it holds of, and of those without a parent, holds of all
nodes. -/
theorem Forest.induction_up (h : s.Forest) {motive : NodeId → Prop}
    (step : ∀ x, (∀ p, s.parent? x = some p → motive p) → motive x) (x : NodeId) : motive x := by
  obtain ⟨rank, hRank⟩ := h.ranked
  induction hn : rank x using Nat.strongRecOn generalizing x with
  | ind n ih => exact step x fun p hp => ih (rank p) (hn ▸ hRank x p hp) p rfl

theorem forest_empty : Scene.empty.Forest where
  sound := Arena.sound_empty
  mem_children_iff p c := by
    simp [Scene.empty, children, parent?, Arena.empty, Arena.find?]
  children_nodup p := by simp [Scene.empty, children, Arena.empty, Arena.find?]
  ranked := ⟨fun _ => 0, fun c p h => by
    simp [Scene.empty, parent?, Arena.empty, Arena.find?] at h⟩
  root_top r h := by cases h

/-- A scene with the same nodes in the same places is a forest as well. -/
theorem Forest.of_same {t : Scene} (h : s.Forest) (hSound : t.nodes.Sound)
    (hContains : ∀ id, t.contains id = s.contains id)
    (hParent : ∀ id, t.parent? id = s.parent? id)
    (hChildren : ∀ id, t.children id = s.children id) (hRoot : t.root = s.root) : t.Forest where
  sound := hSound
  mem_children_iff p c := by rw [hChildren, hParent]; exact h.mem_children_iff p c
  children_nodup p := by rw [hChildren]; exact h.children_nodup p
  ranked := by
    obtain ⟨rank, hRank⟩ := h.ranked
    exact ⟨rank, fun c p hp => hRank c p (by rw [← hParent]; exact hp)⟩
  root_top r hr := by rw [hContains, hParent]; exact h.root_top r (by rw [← hRoot]; exact hr)

/-! ## Changing a node -/

theorem find?_modify (s : Scene) (id other : NodeId) (f : Node → Node) :
    (s.modify id f).nodes.find? other =
      if other = id then (s.nodes.find? other).map fun e => { e with node := f e.node }
      else s.nodes.find? other := by
  simp only [modify, Arena.find?_modify]

theorem contains_modify (s : Scene) (id other : NodeId) (f : Node → Node) :
    (s.modify id f).contains other = s.contains other := by
  simp only [contains, Arena.contains, find?_modify]
  split <;> simp

theorem components_attach {id : NodeId} (hLive : s.contains id = true)
    (c : Component NodeId) :
    (s.modifyComponents id (· ++ [c])).components id = s.components id ++ [c] := by
  obtain ⟨e, he⟩ := find?_of_contains hLive
  have hNode := node?_of_find? he
  simp [components, modifyComponents, node?_modify, hNode]

theorem modifyComponents_nil (s : Scene) (id : NodeId) :
    s.modifyComponents id (· ++ []) = s := by
  unfold modifyComponents modify
  rw [Arena.modify_eq_self]
  intro e _
  simp only [List.append_nil]

theorem components_setRect (s : Scene) (id other : NodeId) (r : Plane.Rect Number.Single) :
    (s.setRect id r).components other = s.components other := by
  simp only [components, setRect, node?_modify]
  split <;> simp [Function.comp_def]

theorem Forest.modify (h : s.Forest) (id : NodeId) (f : Node → Node) : (s.modify id f).Forest :=
  h.of_same (h.sound.modify _ _) (fun _ => contains_modify ..) (fun _ => parent?_modify ..)
    (fun _ => children_modify ..) rfl

/-! ## A new node at the top -/

theorem find?_insert (h : s.nodes.Sound) (n : Node) (id : NodeId) :
    (s.insert n).2.nodes.find? id =
      if id = s.nodes.nextKey then some ⟨n, none, []⟩ else s.nodes.find? id := by
  simp only [Scene.insert]
  exact h.find?_add _ id

theorem Forest.insert (h : s.Forest) (n : Node) : (s.insert n).2.Forest := by
  have hFind := find?_insert h.sound n
  have hParent : ∀ id, (s.insert n).2.parent? id = s.parent? id := by
    intro id
    simp only [parent?, hFind]
    split
    · rename_i hId
      simp [hId, h.sound.find?_nextKey]
    · rfl
  have hChildren : ∀ id, (s.insert n).2.children id = s.children id := by
    intro id
    simp only [children, hFind]
    split
    · rename_i hId
      simp [hId, h.sound.find?_nextKey]
    · rfl
  refine ⟨h.sound.add _, ?_, ?_, ?_, ?_⟩
  · intro p c
    rw [hParent, hChildren]
    exact h.mem_children_iff p c
  · intro p
    rw [hChildren]
    exact h.children_nodup p
  · obtain ⟨rank, hRank⟩ := h.ranked
    exact ⟨rank, fun c p hp => hRank c p (by rw [← hParent]; exact hp)⟩
  · intro r hr
    rw [hParent]
    have hRoot : some (s.root.getD s.nodes.nextKey) = some r := hr
    cases hs : s.root with
    | none =>
      -- the new node is the root
      simp only [hs, Option.getD_none, Option.some.injEq] at hRoot
      subst hRoot
      exact ⟨contains_of_find? (by rw [hFind, if_pos rfl]),
        by simp [parent?, h.sound.find?_nextKey]⟩
    | some old =>
      simp only [hs, Option.getD_some, Option.some.injEq] at hRoot
      subst hRoot
      obtain ⟨hLive, hTop⟩ := h.root_top old hs
      obtain ⟨e, he⟩ := find?_of_contains hLive
      refine ⟨contains_of_find? (e := e) ?_, hTop⟩
      rw [hFind, if_neg (h.sound.nextKey_ne hLive), he]

/-! ## A new child -/

/-- The scene with a new last child of a node. -/
def withChild (s : Scene) (parent : NodeId) (n : Node) : Scene :=
  { s with
    nodes := (s.nodes.add ⟨n, some parent, []⟩).modify parent fun e =>
      { e with children := e.children ++ [s.nodes.nextKey] } }

theorem insertChild_eq (s : Scene) (parent : NodeId) (n : Node) :
    s.insertChild parent n =
      if s.contains parent then .ok (s.nodes.nextKey, s.withChild parent n)
      else .error (.missingParent parent) := rfl

section WithChild

variable {parent : NodeId} (h : s.nodes.Sound) (hParent : s.contains parent = true) (n : Node)
include h hParent

theorem find?_withChild (id : NodeId) :
    (s.withChild parent n).nodes.find? id =
      if id = s.nodes.nextKey then some ⟨n, some parent, []⟩
      else if id = parent then
        (s.nodes.find? id).map fun e => { e with children := e.children ++ [s.nodes.nextKey] }
      else s.nodes.find? id := by
  have hNe := h.nextKey_ne hParent
  simp only [withChild, Arena.find?_modify, h.find?_add]
  by_cases hId : id = s.nodes.nextKey
  · simp [hId, hNe.symm]
  · simp only [if_neg hId]

theorem find?_withChild_self :
    (s.withChild parent n).nodes.find? s.nodes.nextKey = some ⟨n, some parent, []⟩ := by
  rw [find?_withChild h hParent, if_pos rfl]

theorem find?_withChild_other {id : NodeId} {e : Entry} (he : s.nodes.find? id = some e)
    (hId : id ≠ parent) : (s.withChild parent n).nodes.find? id = some e := by
  rw [find?_withChild h hParent, if_neg (h.nextKey_ne (contains_of_find? he)), if_neg hId, he]

theorem find?_withChild_parent {e : Entry} (he : s.nodes.find? parent = some e) :
    (s.withChild parent n).nodes.find? parent =
      some { e with children := e.children ++ [s.nodes.nextKey] } := by
  rw [find?_withChild h hParent, if_neg (h.nextKey_ne hParent), if_pos rfl, he]
  rfl

theorem contains_withChild (id : NodeId) :
    (s.withChild parent n).contains id =
      (decide (id = s.nodes.nextKey) || s.contains id) := by
  simp only [contains, Arena.contains, find?_withChild h hParent]
  split
  · simp_all
  · split <;> simp_all

theorem contains_withChild_of_contains {id : NodeId} (hId : s.contains id = true) :
    (s.withChild parent n).contains id = true := by simp [contains_withChild h hParent, hId]

theorem node?_withChild_of_contains {id : NodeId} (hId : s.contains id = true) :
    (s.withChild parent n).node? id = s.node? id := by
  simp only [node?, find?_withChild h hParent, if_neg (h.nextKey_ne hId)]
  split <;> simp [Function.comp_def]

theorem parent?_withChild (id : NodeId) :
    (s.withChild parent n).parent? id =
      if id = s.nodes.nextKey then some parent else s.parent? id := by
  simp only [parent?, find?_withChild h hParent]
  split
  · rfl
  · split
    · cases s.nodes.find? id <;> rfl
    · rfl

theorem children_withChild (id : NodeId) :
    (s.withChild parent n).children id =
      if id = parent then s.children id ++ [s.nodes.nextKey] else s.children id := by
  simp only [children, find?_withChild h hParent]
  obtain ⟨e, he⟩ := find?_of_contains hParent
  by_cases hId : id = s.nodes.nextKey
  · have hNe : id ≠ parent := fun hEq => h.nextKey_ne hParent (hEq.symm.trans hId)
    rw [if_pos hId, if_neg hNe, hId]
    simp [h.find?_nextKey]
  · rw [if_neg hId]
    split
    · rename_i hEq
      rw [hEq, he]
      rfl
    · rfl

end WithChild

theorem Forest.withChild (h : s.Forest) {parent : NodeId} (hParent : s.contains parent = true)
    (n : Node) : (s.withChild parent n).Forest := by
  have hUp := parent?_withChild h.sound hParent n
  have hDown := children_withChild h.sound hParent n
  have hFresh : ∀ p, s.nodes.nextKey ∉ s.children p := fun p hp =>
    h.sound.nextKey_ne (h.contains_child hp) rfl
  have hNew : s.parent? s.nodes.nextKey = none := by simp [parent?, h.sound.find?_nextKey]
  refine ⟨(h.sound.add _).modify _ _, ?_, ?_, ?_, ?_⟩
  · intro p c
    rw [hUp, hDown]
    by_cases hc : c = s.nodes.nextKey
    · subst hc
      by_cases hp : p = parent
      · simp [hp]
      · simp [hp, Ne.symm hp, hFresh p]
    · by_cases hp : p = parent <;> simp [hp, hc, h.mem_children_iff]
  · intro p
    rw [hDown]
    split
    · exact List.nodup_append.mpr ⟨h.children_nodup p, List.nodup_singleton _, fun a ha b hb => by
        rw [List.mem_singleton.mp hb]
        exact fun hEq => hFresh p (hEq ▸ ha)⟩
    · exact h.children_nodup p
  · -- the new node is ranked above its parent
    obtain ⟨rank, hRank⟩ := h.ranked
    refine ⟨fun id => if id = s.nodes.nextKey then rank parent + 1 else rank id, fun c p hp => ?_⟩
    rw [hUp] at hp
    have hpNe : p ≠ s.nodes.nextKey := by
      split at hp
      · cases hp
        exact h.sound.nextKey_ne hParent
      · exact h.sound.nextKey_ne (h.contains_parent hp)
    by_cases hc : c = s.nodes.nextKey
    · rw [if_pos hc] at hp
      cases hp
      simp [hc, hpNe]
    · rw [if_neg hc] at hp
      simpa [hc, hpNe] using hRank c p hp
  · intro r hr
    obtain ⟨hLive, hTop⟩ := h.root_top r hr
    rw [hUp, if_neg (h.sound.nextKey_ne hLive)]
    exact ⟨contains_withChild_of_contains h.sound hParent n hLive, hTop⟩

end AnchoredUi.SceneGraph.Scene
