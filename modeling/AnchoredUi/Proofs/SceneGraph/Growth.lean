import AnchoredUi.Proofs.SceneGraph.Depth

/-!
# Growing scenes

While a document is converted, the scene grows below one of its nodes: that node gets new children
at the end of its list, and perhaps components at the end of theirs. Everything else that was there
before stays as it was, whatever happens to the nodes that are new.

* `Grown.trans`, `Grown.inside`: growth below the same node, or below a new one, goes on.
* `Grown.modify`, `grown_withChild`, `grown_attach`: the single steps.
-/

namespace AnchoredUi.SceneGraph

/-- The node with more components and children. -/
def Entry.extended (e : Entry) (cs : List (Component NodeId)) (news : List NodeId) : Entry where
  node := { e.node with components := e.node.components ++ cs }
  parent := e.parent
  children := e.children ++ news

namespace Scene

variable {s t r : Scene} {u : NodeId} {news : List NodeId}

/-- From one forest to another one, only the node `u` of the first was changed: it got the new
children `news`, and perhaps components. -/
structure Grown (u : NodeId) (news : List NodeId) (s t : Scene) : Prop where
  forest : t.Forest
  root_eq : t.root = s.root
  kept : ∀ id e, s.nodes.find? id = some e → id ≠ u → t.nodes.find? id = some e
  top : ∀ e, s.nodes.find? u = some e → ∃ cs, t.nodes.find? u = some (e.extended cs news)

theorem Grown.refl (u : NodeId) (hs : s.Forest) : Grown u [] s s := by
  refine ⟨hs, rfl, fun _ _ he _ => he, fun e he => ⟨[], ?_⟩⟩
  rw [he]
  simp [Entry.extended]

theorem Grown.trans {more : List NodeId} (h : Grown u news s t) (hMore : Grown u more t r) :
    Grown u (news ++ more) s r := by
  refine ⟨hMore.forest, hMore.root_eq.trans h.root_eq, fun id e he hId => ?_, fun e he => ?_⟩
  · exact hMore.kept id e (h.kept id e he hId) hId
  · obtain ⟨cs, ht⟩ := h.top e he
    obtain ⟨ds, hr⟩ := hMore.top _ ht
    refine ⟨cs ++ ds, ?_⟩
    rw [hr]
    simp [Entry.extended]

/-- Growth below a node that is new changes nothing about the nodes that were there before. -/
theorem Grown.inside {v : NodeId} {more : List NodeId} (h : Grown u news s t)
    (hNew : s.contains v = false) (hMore : Grown v more t r) : Grown u news s r := by
  have hNe : ∀ id e, s.nodes.find? id = some e → id ≠ v := fun _ _ he =>
    ne_of_contains (contains_of_find? he) hNew
  refine ⟨hMore.forest, hMore.root_eq.trans h.root_eq, fun id e he hId => ?_, fun e he => ?_⟩
  · exact hMore.kept id e (h.kept id e he hId) (hNe id e he)
  · obtain ⟨cs, ht⟩ := h.top e he
    exact ⟨cs, hMore.kept u _ ht (hNe u e he)⟩

theorem Grown.modify {v : NodeId} (h : Grown u news s t) (hNew : s.contains v = false)
    (f : Node → Node) : Grown u news s (t.modify v f) := by
  have hSame : ∀ id e, s.nodes.find? id = some e →
      (t.modify v f).nodes.find? id = t.nodes.find? id := by
    intro id e he
    rw [find?_modify, if_neg (ne_of_contains (contains_of_find? he) hNew)]
  refine ⟨h.forest.modify v f, h.root_eq, fun id e he hId => ?_, fun e he => ?_⟩
  · rw [hSame id e he]
    exact h.kept id e he hId
  · rw [hSame u e he]
    exact h.top e he

theorem grown_withChild (hs : s.Forest) (hLive : s.contains u = true) (n : Node) :
    Grown u [s.nodes.nextKey] s (s.withChild u n) := by
  refine ⟨hs.withChild hLive n, rfl, fun id e he hId => ?_, fun e he => ⟨[], ?_⟩⟩
  · exact find?_withChild_other hs.sound hLive n he hId
  · rw [find?_withChild_parent hs.sound hLive n he]
    simp [Entry.extended]

theorem grown_attach (hs : s.Forest) (u : NodeId) (c : Component NodeId) :
    Grown u [] s (s.modifyComponents u (· ++ [c])) := by
  refine ⟨hs.modify u _, rfl, fun id e he hId => ?_, fun e he => ⟨[c], ?_⟩⟩
  · rw [modifyComponents, find?_modify, if_neg hId, he]
  · rw [modifyComponents, find?_modify, if_pos rfl, he]
    simp [Entry.extended]

/-! ## What stays -/

section Stays

variable (h : Grown u news s t)
include h

theorem Grown.exists_entry {id : NodeId} {e : Entry} (he : s.nodes.find? id = some e) :
    ∃ f, t.nodes.find? id = some f ∧ f.parent = e.parent ∧ f.node.name = e.node.name ∧
      f.node.rect = e.node.rect := by
  by_cases hId : id = u
  · subst hId
    obtain ⟨cs, ht⟩ := h.top e he
    exact ⟨_, ht, rfl, rfl, rfl⟩
  · exact ⟨e, h.kept id e he hId, rfl, rfl, rfl⟩

theorem Grown.contains {id : NodeId} (hId : s.contains id = true) : t.contains id = true := by
  obtain ⟨e, he⟩ := find?_of_contains hId
  obtain ⟨f, hf, -⟩ := h.exists_entry he
  exact contains_of_find? hf

theorem Grown.not_contains {id : NodeId} (hId : t.contains id = false) :
    s.contains id = false := by
  by_contra hLive
  rw [h.contains (Bool.of_not_eq_false hLive)] at hId
  cases hId

theorem Grown.parent? {id : NodeId} (hId : s.contains id = true) :
    t.parent? id = s.parent? id := by
  obtain ⟨e, he⟩ := find?_of_contains hId
  obtain ⟨f, hf, hParent, -⟩ := h.exists_entry he
  rw [parent?_of_find? hf, parent?_of_find? he, hParent]

theorem Grown.name? {id : NodeId} (hId : s.contains id = true) : t.name? id = s.name? id := by
  obtain ⟨e, he⟩ := find?_of_contains hId
  obtain ⟨f, hf, -, hName, -⟩ := h.exists_entry he
  simp [Scene.name?, Scene.node?, hf, he, hName]

theorem Grown.children_top (hLive : s.contains u = true) :
    t.children u = s.children u ++ news := by
  obtain ⟨e, he⟩ := find?_of_contains hLive
  obtain ⟨cs, ht⟩ := h.top e he
  rw [children_of_find? ht, children_of_find? he]
  rfl

/-- The other nodes have the components that they had. -/
theorem Grown.components_eq {id : NodeId} (hId : s.contains id = true) (hNe : id ≠ u) :
    t.components id = s.components id := by
  obtain ⟨e, he⟩ := find?_of_contains hId
  rw [components_of_find? (h.kept id e he hNe), components_of_find? he]

theorem Grown.rect? {id : NodeId} (hId : s.contains id = true) : t.rect? id = s.rect? id := by
  obtain ⟨e, he⟩ := find?_of_contains hId
  obtain ⟨f, hf, -, -, hRect⟩ := h.exists_entry he
  simp [Scene.rect?, Scene.node?, hf, he, hRect]

/-- Growth changes no size. -/
theorem Grown.sizeOf (hs : s.Forest) {id : NodeId} (hId : s.contains id = true) :
    t.sizeOf id = s.sizeOf id :=
  hs.sizeOf_congr h.forest (fun _ hLive => ⟨h.rect? hLive, h.parent? hLive⟩) hId

theorem Grown.parentSize (hs : s.Forest) {id : NodeId} (hId : s.contains id = true) :
    t.parentSize id = s.parentSize id := by
  unfold Scene.parentSize
  rw [h.parent? hId]
  cases hp : s.parent? id with
  | none => rfl
  | some p => exact h.sizeOf hs (hs.contains_parent hp)

/-- What is below a new node is new. -/
theorem Grown.not_contains_child (hs : s.Forest) {v c : NodeId} (hNew : s.contains v = false)
    (hc : t.parent? c = some v) : s.contains c = false := by
  by_contra hLive
  rw [h.parent? (Bool.of_not_eq_false hLive)] at hc
  rw [hs.contains_parent hc] at hNew
  cases hNew

end Stays

/-! ## Places -/

/-- The name of a node, and where it stands. -/
structure Place where
  name : String
  parent : Option NodeId
  children : List NodeId

/-- The place of a node. -/
def place? (s : Scene) (id : NodeId) : Option Place :=
  (s.nodes.find? id).map fun e => ⟨e.node.name, e.parent, e.children⟩

theorem name?_eq_place? (s : Scene) (id : NodeId) : s.name? id = (s.place? id).map Place.name := by
  simp [name?, node?, place?, Function.comp_def]

theorem parent?_eq_place? (s : Scene) (id : NodeId) :
    s.parent? id = (s.place? id).bind Place.parent := by
  simp [parent?, place?, Option.bind_map, Function.comp_def]

theorem children_eq_place? (s : Scene) (id : NodeId) :
    s.children id = ((s.place? id).map Place.children).getD [] := by
  simp [children, place?, Function.comp_def]

theorem contains_eq_place? (s : Scene) (id : NodeId) : s.contains id = (s.place? id).isSome := by
  simp [contains, Arena.contains, place?]

section SamePlace

variable {id : NodeId} (hPlace : t.place? id = s.place? id)
include hPlace

theorem name?_of_place? : t.name? id = s.name? id := by
  rw [name?_eq_place?, hPlace, ← name?_eq_place?]

theorem parent?_of_place? : t.parent? id = s.parent? id := by
  rw [parent?_eq_place?, hPlace, ← parent?_eq_place?]

theorem children_of_place? : t.children id = s.children id := by
  rw [children_eq_place?, hPlace, ← children_eq_place?]

theorem contains_of_place? : t.contains id = s.contains id := by
  rw [contains_eq_place?, hPlace, ← contains_eq_place?]

end SamePlace

theorem place?_modify (s : Scene) (id other : NodeId) {f : Node → Node}
    (hName : ∀ n, (f n).name = n.name) : (s.modify id f).place? other = s.place? other := by
  simp only [place?, find?_modify]
  split <;> simp [Function.comp_def, hName]

theorem place?_modifyComponents (s : Scene) (id other : NodeId)
    (f : List (Component NodeId) → List (Component NodeId)) :
    (s.modifyComponents id f).place? other = s.place? other :=
  place?_modify s id other fun _ => rfl

theorem Grown.place? (h : Grown u news s t) {id : NodeId} (hLive : s.contains id = true)
    (hId : id ≠ u) : t.place? id = s.place? id := by
  obtain ⟨e, he⟩ := find?_of_contains hLive
  simp only [Scene.place?, he, h.kept id e he hId]

/-- The nodes that are new since `s` have their places of `s'` in `t` as well. -/
def Later (s s' t : Scene) : Prop :=
  ∀ id, s'.contains id = true → s.contains id = false → t.place? id = s'.place? id

theorem Later.first {s s' s'' t : Scene} {u : NodeId} {roots : List NodeId}
    (hLater : Later s s'' t) (hLive : s.contains u = true) (hMore : Grown u roots s' s'') :
    Later s s' t := by
  intro id hId hNew
  have hNe : id ≠ u := (ne_of_contains hLive hNew).symm
  exact (hLater id (hMore.contains hId) hNew).trans (hMore.place? hId hNe)

theorem Later.second {s s' s'' t : Scene} {u : NodeId} {roots : List NodeId}
    (hLater : Later s s'' t) (hGrown : Grown u roots s s') : Later s' s'' t :=
  fun id hId hNew => hLater id hId (hGrown.not_contains hNew)

end Scene

end AnchoredUi.SceneGraph
