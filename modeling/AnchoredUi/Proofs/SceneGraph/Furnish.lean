import AnchoredUi.Proofs.SceneGraph.Host

/-!
# Changing a node twice

Two changes of a node are one change of it, and what a change does depends only on the node that is
there. So it is with the first component of a type, also where the first change has to attach it.

* `Scene.modify_modify`, `Scene.modifyComponent_modifyComponent`: two changes as one.
* `Host.furnished`: the component is attached if there is none, and then changed.
* `Host.furnished_furnished`: the second change finds what the first one attached.
-/

namespace AnchoredUi.SceneGraph

/-! ## Values of an arena -/

theorem Arena.modify_modify {α : Type} (a : Arena α) (id : NodeId) (f g : α → α) :
    (a.modify id f).modify id g = a.modify id (g ∘ f) := by
  cases hValue : a.find? id with
  | none => simp [modify, hValue]
  | some value =>
    have hFirst : (a.modify id f).find? id = some (f value) := by simp [find?_modify, hValue]
    rw [modify, hFirst]
    simp [modify, hValue, List.set_set]

theorem Arena.modify_congr {α : Type} {a : Arena α} {id : NodeId} {f g : α → α}
    (h : ∀ value, a.find? id = some value → f value = g value) : a.modify id f = a.modify id g := by
  cases hValue : a.find? id with
  | none => simp [modify, hValue]
  | some value => simp [modify, hValue, h value hValue]

/-! ## Lists of components -/

section Components

variable {α : Type} [ComponentType α] {f g : α → α} {cs : List (Component NodeId)}

theorem unwrap?_wrap (a : α) : ComponentType.unwrap? (ComponentType.wrap a) = some a :=
  (ComponentType.unwrap?_eq_some_iff _ _).mpr rfl

theorem modifyFirst_modifyFirst (f g : α → α) (cs : List (Component NodeId)) :
    modifyFirst g (modifyFirst f cs) = modifyFirst (g ∘ f) cs := by
  induction cs with
  | nil => rfl
  | cons c cs ih =>
    cases hc : (ComponentType.unwrap? c : Option α) with
    | none => simp [modifyFirst, hc, ih]
    | some a => simp [modifyFirst, hc, unwrap?_wrap]

theorem modifyFirst_self (cs : List (Component NodeId)) :
    modifyFirst (fun a : α => a) cs = cs := by
  induction cs with
  | nil => rfl
  | cons c cs ih =>
    rw [modifyFirst]
    cases hc : (ComponentType.unwrap? c : Option α) with
    | none => simp only [ih]
    | some a => simp only [(ComponentType.unwrap?_eq_some_iff c a).mp hc]

theorem modifyFirst_congr (h : ∀ a, firstOf? α cs = some a → f a = g a) :
    modifyFirst f cs = modifyFirst g cs := by
  induction cs with
  | nil => rfl
  | cons c cs ih =>
    cases hc : (ComponentType.unwrap? c : Option α) with
    | none =>
      have hRest : ∀ a, firstOf? α cs = some a → f a = g a := fun a ha =>
        h a (by simpa [firstOf?, hc] using ha)
      simp [modifyFirst, hc, ih hRest]
    | some a => simp [modifyFirst, hc, h a (by simp [firstOf?, hc])]

/-- The first component of a type is the one that is added to components of other types. -/
theorem modifyFirst_append (h : firstOf? α cs = none) (f : α → α) (a : α) :
    modifyFirst f (cs ++ [ComponentType.wrap a]) = cs ++ [ComponentType.wrap (f a)] := by
  induction cs with
  | nil => simp [modifyFirst, unwrap?_wrap]
  | cons c cs ih =>
    have hc : (ComponentType.unwrap? c : Option α) = none := List.findSome?_eq_none_iff.mp h c
      List.mem_cons_self
    have hRest : firstOf? α cs = none := by simpa [firstOf?, hc] using h
    simp [modifyFirst, hc, ih hRest]

/-- Components of other types behind the list are not changed. -/
theorem modifyFirst_append_other {ds : List (Component NodeId)}
    (h : ∀ d ∈ ds, d.kind ≠ ComponentType.kind α) (f : α → α) (cs : List (Component NodeId)) :
    modifyFirst f (cs ++ ds) = modifyFirst f cs ++ ds := by
  have hOthers {ds : List (Component NodeId)} (h : ∀ d ∈ ds, d.kind ≠ ComponentType.kind α) :
      modifyFirst f ds = ds := by
    induction ds with
    | nil => rfl
    | cons d ds ih =>
      obtain ⟨hd, hds⟩ := List.forall_mem_cons.mp h
      rw [modifyFirst, unwrap?_eq_none hd]
      simp only [ih hds]
  induction cs with
  | nil => exact hOthers h
  | cons c cs ih =>
    rw [List.cons_append, modifyFirst, modifyFirst]
    cases (ComponentType.unwrap? c : Option α) with
    | none => simp only [ih, List.cons_append]
    | some a => rfl

end Components

/-! ## Nodes -/

namespace Scene

variable {α β : Type} [ComponentType α] [ComponentType β] {s : Scene} {id : NodeId}

theorem modify_modify (s : Scene) (id : NodeId) (f g : Node → Node) :
    (s.modify id f).modify id g = s.modify id (g ∘ f) := by
  simp only [modify, Arena.modify_modify]
  rfl

theorem modify_congr {f g : Node → Node} (h : ∀ n, s.node? id = some n → f n = g n) :
    s.modify id f = s.modify id g := by
  unfold modify
  congr 1
  refine Arena.modify_congr fun e he => ?_
  rw [h e.node (node?_of_find? he)]

theorem modifyComponent_modifyComponent (s : Scene) (id : NodeId) (f g : α → α) :
    (s.modifyComponent id f).modifyComponent id g = s.modifyComponent id (g ∘ f) := by
  simp only [modifyComponent, modifyComponents, modify_modify, ← modifyFirst_modifyFirst]
  rfl

theorem modifyComponent_congr {f g : α → α} (h : ∀ a, s.component? α id = some a → f a = g a) :
    s.modifyComponent id f = s.modifyComponent id g := by
  unfold modifyComponent modifyComponents
  refine modify_congr fun n hn => ?_
  have hFirst : modifyFirst f n.components = modifyFirst g n.components :=
    modifyFirst_congr fun a ha => h a (by simpa [component?, components, hn] using ha)
  rw [hFirst]

/-- A change of a node that leaves the first component of a type alone. -/
theorem component?_modify_of {f : Node → Node}
    (h : ∀ n, firstOf? α (f n).components = firstOf? α n.components) (s : Scene)
    (id other : NodeId) : (s.modify id f).component? α other = s.component? α other := by
  simp only [component?, components, node?_modify]
  split
  · cases s.node? other with
    | none => rfl
    | some n => exact h n
  · rfl

theorem component?_modifyComponent_of_ne (h : ComponentType.kind β ≠ ComponentType.kind α)
    (s : Scene) (id other : NodeId) (f : β → β) :
    (s.modifyComponent id f).component? α other = s.component? α other :=
  component?_modify_of (f := fun n => { n with components := modifyFirst f n.components })
    (fun n => firstOf?_modifyFirst_other h f n.components) s id other

end Scene

/-! ## Components that may be missing -/

namespace Host

variable {α β : Type} [ComponentType α] [ComponentType β] {s : Scene} {id : NodeId} {new : α}

/-- The scene in which the first component of a type on a node is changed; if there is none, a given
one is attached before. -/
def furnished (s : Scene) (id : NodeId) (new : α) (f : α → α) : Scene :=
  (supplied s id new).modifyComponent id f

theorem component?_furnished (hLive : s.contains id = true) (f : α → α) :
    (furnished s id new f).component? α id = some (f ((s.component? α id).getD new)) := by
  rw [furnished, component?_modifyComponent, if_pos rfl, supplied, has_eq_component?]
  cases hFound : s.component? α id with
  | none =>
    rw [if_neg (by simp), component?_attach hLive hFound]
    rfl
  | some a =>
    rw [if_pos (Option.isSome_some), hFound]
    rfl

theorem has_furnished (hLive : s.contains id = true) (f : α → α) :
    (furnished s id new f).has (ComponentType.kind α) id = true := by
  rw [has_eq_component?, component?_furnished hLive]
  rfl

theorem furnished_furnished (hLive : s.contains id = true) (f g : α → α) :
    furnished (furnished s id new f) id new g = furnished s id new (g ∘ f) := by
  have hSupplied : supplied (furnished s id new f) id new = furnished s id new f :=
    if_pos (has_furnished hLive f)
  rw [furnished, hSupplied, furnished, Scene.modifyComponent_modifyComponent, furnished]

theorem furnished_of_component? {a : α} (ha : s.component? α id = some a) (f : α → α) :
    furnished s id new f = s.modifyComponent id f := by
  have hHas : s.has (ComponentType.kind α) id = true := by
    rw [has_eq_component?, ha]
    rfl
  rw [furnished, supplied, if_pos hHas]

/-- A component that is attached and changed at once is the changed one, attached. -/
theorem furnished_of_none (hNone : s.component? α id = none) (f : α → α) :
    furnished s id new f = s.modifyComponents id (· ++ [ComponentType.wrap (f new)]) := by
  have hHas : s.has (ComponentType.kind α) id = false := by
    rw [has_eq_component?, hNone]
    rfl
  rw [furnished, supplied, hHas, if_neg Bool.false_ne_true, Scene.modifyComponent,
    Scene.modifyComponents, Scene.modifyComponents, Scene.modifyComponents, Scene.modify_modify]
  refine Scene.modify_congr fun n hn => ?_
  have hFirst : firstOf? α n.components = none := by
    simpa [Scene.component?, Scene.components, hn] using hNone
  simp only [Function.comp_apply, modifyFirst_append hFirst]

theorem component?_furnished_of_ne (h : ComponentType.kind β ≠ ComponentType.kind α)
    (s : Scene) (id other : NodeId) (new : β) (f : β → β) :
    (furnished s id new f).component? α other = s.component? α other := by
  rw [furnished, Scene.component?_modifyComponent_of_ne h, supplied]
  split
  · rfl
  · refine Scene.component?_modify_of
      (f := fun n => { n with components := n.components ++ [ComponentType.wrap new] })
      (fun n => firstOf?_append_other ?_ n.components) s id other
    rwa [kind_wrap]

end Host

end AnchoredUi.SceneGraph
