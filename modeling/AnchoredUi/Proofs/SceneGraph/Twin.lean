import Mathlib.Data.List.Forall2
import AnchoredUi.Proofs.SceneGraph.Depth
import AnchoredUi.Proofs.SceneGraph.Growth
import AnchoredUi.SceneGraph.Basic

/-!
# Twin scenes

Two scenes grow, each below a node of its own, and what is new in one of them is related one to
one to what is new in the other: related nodes are alike, and so are the nodes below them. The
nodes above may be quite different; the growth only sees the size and the layout group of the node
that it starts from.

The relation cannot be fixed beforehand, since the keys of new nodes are not known; it grows with
the scenes. Components of related nodes differ in their references only, and these are related one
by one. In the end, the trees that have grown are the same up to keys: the walks through them meet
alike nodes in the same order, with corresponding children.

* `alike_map`: a component of a plan is alike in two places where its parts are related.
* `Unlinked`: the types of components without references, for which being alike is being equal.
* `Twins.sizeOf_eq`, `Twins.walk`: related nodes have the same size, and related nodes below them.
* `Twins.modify`, `Twins.withChild`, `Twins.attachGroup`: the steps that keep scenes twins.
* `SameTree`, `Twins.sameTree`: twin scenes grow trees that are the same up to keys.
-/

namespace AnchoredUi.SceneGraph

/-! ## Components -/

/-- Pairs of related keys. -/
abbrev Linked (R : NodeId → NodeId → Prop) := { p : NodeId × NodeId // R p.1 p.2 }

/-- Two components that differ in their references only, which are related. -/
def Component.Alike (R : NodeId → NodeId → Prop) (c d : Component NodeId) : Prop :=
  ∃ z : Component (Linked R), z.map (fun p => p.1.1) = c ∧ z.map (fun p => p.1.2) = d

variable {R R' : NodeId → NodeId → Prop}

theorem Component.map_map {ρ σ τ : Type} (g : σ → τ) (f : ρ → σ) (c : Component ρ) :
    (c.map f).map g = c.map fun r => g (f r) := by
  cases c <;> simp [Component.map, Function.comp_def]

theorem Component.alike_map {ρ : Type} {f g : ρ → NodeId} (h : ∀ r, R (f r) (g r))
    (c : Component ρ) : Component.Alike R (c.map f) (c.map g) := by
  refine ⟨c.map fun r => ⟨(f r, g r), h r⟩, ?_, ?_⟩
  · rw [Component.map_map]
  · rw [Component.map_map]

theorem Component.Alike.mono {c d : Component NodeId} (h : Component.Alike R c d)
    (hR : ∀ a b, R a b → R' a b) : Component.Alike R' c d := by
  obtain ⟨z, rfl, rfl⟩ := h
  exact Component.alike_map (fun p => hR _ _ p.2) z

theorem Component.Alike.kind_eq {c d : Component NodeId} (h : Component.Alike R c d) :
    c.kind = d.kind := by
  obtain ⟨z, rfl, rfl⟩ := h
  rw [Component.kind_map, Component.kind_map]

/-- A type of components without references: a component of it is the same under every renaming
of references. -/
class Unlinked (α : Type) [ComponentType α] : Prop where
  exists_map_eq : ∀ (ρ : Type) (a : α),
    ∃ z : Component ρ, ∀ f : ρ → NodeId, z.map f = ComponentType.wrap a
  map_eq_iff : ∀ {ρ : Type} (f g : ρ → NodeId) (z : Component ρ) (a : α),
    z.map f = ComponentType.wrap a ↔ z.map g = ComponentType.wrap a

instance : Unlinked Graphic where
  exists_map_eq _ a := ⟨.graphic a, fun _ => rfl⟩
  map_eq_iff _ _ z _ := by cases z <;> simp [Component.map, ComponentType.wrap]

instance : Unlinked TextBlock where
  exists_map_eq _ a := ⟨.text a, fun _ => rfl⟩
  map_eq_iff _ _ z _ := by cases z <;> simp [Component.map, ComponentType.wrap]

instance : Unlinked RectMask where
  exists_map_eq _ a := ⟨.rectMask a, fun _ => rfl⟩
  map_eq_iff _ _ z _ := by cases z <;> simp [Component.map, ComponentType.wrap]

instance : Unlinked LayoutGroup where
  exists_map_eq _ a := ⟨.layoutGroup a, fun _ => rfl⟩
  map_eq_iff _ _ z _ := by cases z <;> simp [Component.map, ComponentType.wrap]

instance : Unlinked LayoutHints where
  exists_map_eq _ a := ⟨.layoutHints a, fun _ => rfl⟩
  map_eq_iff _ _ z _ := by cases z <;> simp [Component.map, ComponentType.wrap]

instance : Unlinked CanvasGroup where
  exists_map_eq _ a := ⟨.canvasGroup a, fun _ => rfl⟩
  map_eq_iff _ _ z _ := by cases z <;> simp [Component.map, ComponentType.wrap]

section Unlinked

variable {α : Type} [ComponentType α] [Unlinked α]

theorem Unlinked.alike_wrap (R : NodeId → NodeId → Prop) (a : α) :
    Component.Alike R (ComponentType.wrap a) (ComponentType.wrap a) := by
  obtain ⟨z, hz⟩ := Unlinked.exists_map_eq (Linked R) a
  exact ⟨z, hz _, hz _⟩

theorem Unlinked.wrap_alike {c d : Component NodeId} (a : α) (h : Component.Alike R c d) :
    c = ComponentType.wrap a ↔ d = ComponentType.wrap a := by
  obtain ⟨z, rfl, rfl⟩ := h
  exact Unlinked.map_eq_iff _ _ z a

end Unlinked

/-! ## Lists of components -/

section Lists

variable {α : Type} [ComponentType α] [Unlinked α]

theorem unwrap?_eq_of_alike {c d : Component NodeId} (h : Component.Alike R c d) :
    (ComponentType.unwrap? c : Option α) = ComponentType.unwrap? d := by
  have hIff : ∀ a : α, ComponentType.unwrap? c = some a ↔ ComponentType.unwrap? d = some a := by
    intro a
    rw [ComponentType.unwrap?_eq_some_iff, ComponentType.unwrap?_eq_some_iff]
    exact Unlinked.wrap_alike a h
  exact Option.ext fun a => hIff a

variable {cs ds : List (Component NodeId)} (h : List.Forall₂ (Component.Alike R) cs ds)
include h

theorem firstOf?_eq_of_alike : firstOf? α cs = firstOf? α ds := by
  unfold firstOf?
  induction h with
  | nil => rfl
  | cons hHead _ ih =>
    rw [List.findSome?_cons, List.findSome?_cons, unwrap?_eq_of_alike hHead, ih]

theorem alike_modifyFirst (f : α → α) :
    List.Forall₂ (Component.Alike R) (modifyFirst f cs) (modifyFirst f ds) := by
  induction h with
  | nil => exact .nil
  | @cons c d _ _ hHead hTail ih =>
    have hUnwrap := unwrap?_eq_of_alike (α := α) hHead
    unfold modifyFirst
    rw [hUnwrap]
    cases ComponentType.unwrap? (α := α) d with
    | none => exact .cons hHead ih
    | some a => exact .cons (Unlinked.alike_wrap R (f a)) hTail

omit [ComponentType α] [Unlinked α] in
theorem any_kind_eq_of_alike (kind : ComponentKind) :
    (cs.any fun c => c.kind == kind) = ds.any fun d => d.kind == kind := by
  induction h with
  | nil => rfl
  | cons hHead _ ih => rw [List.any_cons, List.any_cons, hHead.kind_eq, ih]

end Lists

/-! ## Nodes -/

/-- Two nodes that differ in the references of their components only, which are related. -/
structure Node.Alike (R : NodeId → NodeId → Prop) (n m : Node) : Prop where
  name_eq : n.name = m.name
  rect_eq : n.rect = m.rect
  active_eq : n.active = m.active
  components : List.Forall₂ (Component.Alike R) n.components m.components

theorem Node.Alike.mono {n m : Node} (h : Node.Alike R n m) (hR : ∀ a b, R a b → R' a b) :
    Node.Alike R' n m :=
  ⟨h.name_eq, h.rect_eq, h.active_eq, h.components.imp fun _ _ hc => hc.mono hR⟩

/-- Two new nodes of the same name are alike. -/
theorem Node.alike_fresh (R : NodeId → NodeId → Prop) (name : String) :
    Node.Alike R (.fresh name) (.fresh name) := ⟨rfl, rfl, rfl, .nil⟩

end AnchoredUi.SceneGraph

/-! ## Twins -/

namespace AnchoredUi.SceneGraph

open Number Plane

/-- Two scenes, each with a node below which it grows. -/
structure Grounds where
  left : Scene
  right : Scene
  leftTop : NodeId
  rightTop : NodeId

/-- Two nodes that stand for each other: they are related, or each is the one below which its
scene grows. -/
def Grounds.Under (G : Grounds) (R : NodeId → NodeId → Prop) (a b : NodeId) : Prop :=
  R a b ∨ a = G.leftTop ∧ b = G.rightTop

/-- The nodes below which the scenes grow are there, and of the same size. -/
structure Grounds.Level (G : Grounds) : Prop where
  left_forest : G.left.Forest
  right_forest : G.right.Forest
  left_live : G.left.contains G.leftTop = true
  right_live : G.right.contains G.rightTop = true
  size_eq : G.left.sizeOf G.leftTop = G.right.sizeOf G.rightTop

/-- Two entries of alike nodes in corresponding places. -/
structure Entry.Alike (G : Grounds) (R : NodeId → NodeId → Prop) (e f : Entry) : Prop where
  node : Node.Alike R e.node f.node
  children : List.Forall₂ R e.children f.children
  parent : ∃ x y, e.parent = some x ∧ f.parent = some y ∧ G.Under R x y

variable {G : Grounds} {R R' : NodeId → NodeId → Prop}

theorem Grounds.Under.mono {a b : NodeId} (h : G.Under R a b) (hR : ∀ a b, R a b → R' a b) :
    G.Under R' a b := h.imp (hR a b) id

theorem Entry.Alike.mono {e f : Entry} (h : Entry.Alike G R e f) (hR : ∀ a b, R a b → R' a b) :
    Entry.Alike G R' e f := by
  obtain ⟨x, y, hx, hy, hUnder⟩ := h.parent
  exact ⟨h.node.mono hR, h.children.imp fun a b hab => hR a b hab, x, y, hx, hy, hUnder.mono hR⟩

namespace Scene

/-- Walks from related nodes meet related nodes. -/
theorem rel_walk {s t : Scene} (hs : s.Forest) (ht : t.Forest)
    (hR : ∀ {x y}, R x y → s.contains x = true ∧ t.contains y = true)
    (hChildren : ∀ {x y}, R x y → List.Forall₂ R (s.children x) (t.children y))
    {a b : NodeId} (hab : R a b) :
    List.Forall₂ R (s.walk a) (t.walk b) := by
  induction a using hs.induction_down generalizing b with
  | step a ih =>
    obtain ⟨hLive, hLive'⟩ := hR hab
    have hBelow : List.Forall₂ (fun c d => c ∈ s.children a ∧ R c d) (s.children a)
        (t.children b) := (List.forall₂_and_left _ _).mpr ⟨fun _ hc => hc, hChildren hab⟩
    rw [hs.walk_eq hLive, ht.walk_eq hLive']
    refine .cons hab (List.rel_flatMap hBelow ?_)
    rintro c d ⟨hc, hcd⟩
    exact ih c hc hcd

/-- The scenes grew from their grounds, and the relation is one to one between alike new nodes. -/
structure Twins (G : Grounds) (R : NodeId → NodeId → Prop) (s t : Scene) : Prop where
  left_grown : ∃ news, Grown G.leftTop news G.left s
  right_grown : ∃ news, Grown G.rightTop news G.right t
  left_fresh : ∀ {a b}, R a b → G.left.contains a = false
  right_fresh : ∀ {a b}, R a b → G.right.contains b = false
  left_unique : ∀ {a b b'}, R a b → R a b' → b = b'
  right_unique : ∀ {a a' b}, R a b → R a' b → a = a'
  entry : ∀ {a b}, R a b → ∃ e f, s.nodes.find? a = some e ∧ t.nodes.find? b = some f ∧
    Entry.Alike G R e f
  group_eq : s.component? LayoutGroup G.leftTop = t.component? LayoutGroup G.rightTop

variable {s t : Scene}

/-- Before anything is new, scenes on level grounds are twins. -/
theorem twins_start (hG : G.Level)
    (hGroup : G.left.component? LayoutGroup G.leftTop = G.right.component? LayoutGroup G.rightTop) :
    Twins G (fun _ _ => False) G.left G.right where
  left_grown := ⟨[], .refl _ hG.left_forest⟩
  right_grown := ⟨[], .refl _ hG.right_forest⟩
  left_fresh h := h.elim
  right_fresh h := h.elim
  left_unique h := h.elim
  right_unique h := h.elim
  entry h := h.elim
  group_eq := hGroup

/-! ## What twins have in common -/

section Common

variable (h : Twins G R s t)
include h

theorem Twins.left_forest : s.Forest := by
  obtain ⟨_, hGrown⟩ := h.left_grown
  exact hGrown.forest

theorem Twins.right_forest : t.Forest := by
  obtain ⟨_, hGrown⟩ := h.right_grown
  exact hGrown.forest

section Related

variable {a b : NodeId} (hab : R a b)
include hab

theorem Twins.node : ∃ n m, s.node? a = some n ∧ t.node? b = some m ∧ Node.Alike R n m := by
  obtain ⟨e, f, he, hf, hAlike⟩ := h.entry hab
  exact ⟨e.node, f.node, node?_of_find? he, node?_of_find? hf, hAlike.node⟩

theorem Twins.left_contains : s.contains a = true := by
  obtain ⟨e, f, he, hf, hAlike⟩ := h.entry hab
  exact contains_of_find? he

theorem Twins.right_contains : t.contains b = true := by
  obtain ⟨e, f, he, hf, hAlike⟩ := h.entry hab
  exact contains_of_find? hf

theorem Twins.name?_eq : s.name? a = t.name? b := by
  obtain ⟨n, m, hn, hm, hAlike⟩ := h.node hab
  simp [name?, hn, hm, hAlike.name_eq]

theorem Twins.rect?_eq : s.rect? a = t.rect? b := by
  obtain ⟨n, m, hn, hm, hAlike⟩ := h.node hab
  simp [rect?, hn, hm, hAlike.rect_eq]

theorem Twins.isActive_eq : s.isActive a = t.isActive b := by
  obtain ⟨n, m, hn, hm, hAlike⟩ := h.node hab
  simp [isActive, hn, hm, hAlike.active_eq]

theorem Twins.components : List.Forall₂ (Component.Alike R) (s.components a) (t.components b) := by
  obtain ⟨n, m, hn, hm, hAlike⟩ := h.node hab
  simpa [Scene.components, hn, hm] using hAlike.components

theorem Twins.component?_eq {α : Type} [ComponentType α] [Unlinked α] :
    s.component? α a = t.component? α b := firstOf?_eq_of_alike (h.components hab)

theorem Twins.has_eq (kind : ComponentKind) : s.has kind a = t.has kind b :=
  any_kind_eq_of_alike (h.components hab) kind

theorem Twins.children : List.Forall₂ R (s.children a) (t.children b) := by
  obtain ⟨e, f, he, hf, hAlike⟩ := h.entry hab
  rw [children_of_find? he, children_of_find? hf]
  exact hAlike.children

theorem Twins.parent : ∃ x y, s.parent? a = some x ∧ t.parent? b = some y ∧ G.Under R x y := by
  obtain ⟨e, f, he, hf, hAlike⟩ := h.entry hab
  obtain ⟨x, y, hx, hy, hUnder⟩ := hAlike.parent
  exact ⟨x, y, by rw [parent?_of_find? he, hx], by rw [parent?_of_find? hf, hy], hUnder⟩

end Related

theorem Twins.group_eq_under {a b : NodeId} (hab : G.Under R a b) :
    s.component? LayoutGroup a = t.component? LayoutGroup b := by
  rcases hab with hab | ⟨rfl, rfl⟩
  · exact h.component?_eq hab
  · exact h.group_eq

theorem Twins.under_contains (hG : G.Level) {a b : NodeId} (hab : G.Under R a b) :
    s.contains a = true ∧ t.contains b = true := by
  rcases hab with hab | ⟨rfl, rfl⟩
  · exact ⟨h.left_contains hab, h.right_contains hab⟩
  · obtain ⟨_, hLeft⟩ := h.left_grown
    obtain ⟨_, hRight⟩ := h.right_grown
    exact ⟨hLeft.contains hG.left_live, hRight.contains hG.right_live⟩

/-! ## Sizes -/

theorem Twins.sizeOf_tops (hG : G.Level) : s.sizeOf G.leftTop = t.sizeOf G.rightTop := by
  obtain ⟨_, hLeft⟩ := h.left_grown
  obtain ⟨_, hRight⟩ := h.right_grown
  rw [hLeft.sizeOf hG.left_forest hG.left_live, hRight.sizeOf hG.right_forest hG.right_live,
    hG.size_eq]

/-- Related nodes have the same size, since their ancestors are related up to the nodes that the
scenes grow below. -/
theorem Twins.sizeOf_eq (hG : G.Level) {a b : NodeId} (hab : R a b) : s.sizeOf a = t.sizeOf b := by
  induction a using h.left_forest.induction_up generalizing b with
  | step a ih =>
    obtain ⟨m, m', hm, hm', hAlike⟩ := h.node hab
    have hr : s.rect? a = some m.rect := by simp [rect?, hm]
    have hr' : t.rect? b = some m.rect := by simp [rect?, hm', hAlike.rect_eq]
    obtain ⟨x, y, hx, hy, hUnder⟩ := h.parent hab
    rw [h.left_forest.sizeOf_eq hr, h.right_forest.sizeOf_eq hr']
    simp only [parentSize, hx, hy]
    rcases hUnder with hxy | ⟨rfl, rfl⟩
    · rw [ih x hx hxy]
    · rw [h.sizeOf_tops hG]

theorem Twins.sizeOf_eq_under (hG : G.Level) {a b : NodeId} (hab : G.Under R a b) :
    s.sizeOf a = t.sizeOf b := by
  rcases hab with hab | ⟨rfl, rfl⟩
  · exact h.sizeOf_eq hG hab
  · exact h.sizeOf_tops hG

theorem Twins.parentSize_eq (hG : G.Level) {a b : NodeId} (hab : R a b) :
    s.parentSize a = t.parentSize b := by
  obtain ⟨x, y, hx, hy, hUnder⟩ := h.parent hab
  simp only [parentSize, hx, hy]
  exact h.sizeOf_eq_under hG hUnder

/-! ## Walks -/

theorem Twins.walk {a b : NodeId} (hab : R a b) : List.Forall₂ R (s.walk a) (t.walk b) :=
  rel_walk h.left_forest h.right_forest (fun hxy => ⟨h.left_contains hxy, h.right_contains hxy⟩)
    h.children hab

/-! ## What keeps scenes twins -/

theorem Twins.left_ne_top (hG : G.Level) {a b : NodeId} (hab : R a b) : a ≠ G.leftTop :=
  (ne_of_contains hG.left_live (h.left_fresh hab)).symm

theorem Twins.right_ne_top (hG : G.Level) {a b : NodeId} (hab : R a b) : b ≠ G.rightTop :=
  (ne_of_contains hG.right_live (h.right_fresh hab)).symm

/-- Two related nodes are among two corresponding ones together or not at all. -/
theorem Twins.eq_iff_under (hG : G.Level) {a b u v : NodeId} (hab : R a b) (huv : G.Under R u v) :
    a = u ↔ b = v := by
  rcases huv with huv | ⟨rfl, rfl⟩
  · constructor
    · rintro rfl
      exact h.left_unique hab huv
    · rintro rfl
      exact h.right_unique hab huv
  · exact iff_of_false (h.left_ne_top hG hab) (h.right_ne_top hG hab)

/-- Related nodes are changed in alike ways. -/
theorem Twins.modify (hG : G.Level) {a b : NodeId} (hab : R a b) {f g : Node → Node}
    (hfg : ∀ n m, Node.Alike R n m → Node.Alike R (f n) (g m)) :
    Twins G R (s.modify a f) (t.modify b g) := by
  obtain ⟨news, hLeft⟩ := h.left_grown
  obtain ⟨news', hRight⟩ := h.right_grown
  refine ⟨⟨news, hLeft.modify (h.left_fresh hab) f⟩, ⟨news', hRight.modify (h.right_fresh hab) g⟩,
    h.left_fresh, h.right_fresh, h.left_unique, h.right_unique, fun {x y} hxy => ?_, ?_⟩
  · obtain ⟨e, e', he, he', hAlike⟩ := h.entry hxy
    have hIff := h.eq_iff_under hG hxy (Or.inl hab)
    rw [find?_modify, find?_modify, he, he']
    by_cases hx : x = a
    · rw [if_pos hx, if_pos (hIff.mp hx)]
      exact ⟨_, _, rfl, rfl, hfg _ _ hAlike.node, hAlike.children, hAlike.parent⟩
    · rw [if_neg hx, if_neg fun hy => hx (hIff.mpr hy)]
      exact ⟨e, e', rfl, rfl, hAlike⟩
  · simp only [component?, Scene.components, node?_modify, if_neg (h.left_ne_top hG hab).symm,
      if_neg (h.right_ne_top hG hab).symm]
    exact h.group_eq

theorem Twins.setRect (hG : G.Level) {a b : NodeId} (hab : R a b) (r : Rect Single) :
    Twins G R (s.setRect a r) (t.setRect b r) := h.modify hG hab fun _ _ hAlike =>
  ⟨hAlike.name_eq, rfl, hAlike.active_eq, hAlike.components⟩

/-- The same layout group is attached to corresponding nodes. -/
theorem Twins.attachGroup (hG : G.Level) {u v : NodeId} (huv : G.Under R u v) (g : LayoutGroup) :
    Twins G R (s.modifyComponents u (· ++ [.layoutGroup g]))
      (t.modifyComponents v (· ++ [.layoutGroup g])) := by
  rcases huv with huv | ⟨rfl, rfl⟩
  · refine h.modify hG huv fun n m hAlike =>
      ⟨hAlike.name_eq, hAlike.rect_eq, hAlike.active_eq, ?_⟩
    exact List.rel_append hAlike.components (.cons (Unlinked.alike_wrap R g) .nil)
  · obtain ⟨news, hLeft⟩ := h.left_grown
    obtain ⟨news', hRight⟩ := h.right_grown
    have hLive := h.under_contains hG (Or.inr ⟨rfl, rfl⟩)
    refine ⟨⟨_, hLeft.trans (grown_attach hLeft.forest _ _)⟩,
      ⟨_, hRight.trans (grown_attach hRight.forest _ _)⟩,
      h.left_fresh, h.right_fresh, h.left_unique, h.right_unique, fun {x y} hxy => ?_, ?_⟩
    · obtain ⟨e, e', he, he', hAlike⟩ := h.entry hxy
      refine ⟨e, e', ?_, ?_, hAlike⟩
      · rw [modifyComponents, find?_modify, if_neg (h.left_ne_top hG hxy), he]
      · rw [modifyComponents, find?_modify, if_neg (h.right_ne_top hG hxy), he']
    · have hGroup := h.group_eq
      simp only [component?, firstOf?] at hGroup ⊢
      rw [components_attach hLive.1, components_attach hLive.2, List.findSome?_append,
        List.findSome?_append, hGroup]

/-- The relation with one more pair. -/
def withPair (R : NodeId → NodeId → Prop) (a b : NodeId) (x y : NodeId) : Prop :=
  R x y ∨ x = a ∧ y = b

/-- Below corresponding nodes new children are added, which are related from then on. -/
theorem Twins.withChild (hG : G.Level) {u v : NodeId} (huv : G.Under R u v) (name : String) :
    Twins G (withPair R s.nodes.nextKey t.nodes.nextKey) (s.withChild u (.fresh name))
      (t.withChild v (.fresh name)) := by
  obtain ⟨news, hLeft⟩ := h.left_grown
  obtain ⟨news', hRight⟩ := h.right_grown
  obtain ⟨hu, hv⟩ := h.under_contains hG huv
  have hs := hLeft.forest.sound
  have ht := hRight.forest.sound
  have hMono : ∀ a b, R a b → withPair R s.nodes.nextKey t.nodes.nextKey a b :=
    fun _ _ => Or.inl
  have hKey : ∀ {a b}, R a b → a ≠ s.nodes.nextKey ∧ b ≠ t.nodes.nextKey := fun hab =>
    ⟨hs.nextKey_ne (h.left_contains hab), ht.nextKey_ne (h.right_contains hab)⟩
  have hNew : s.contains s.nodes.nextKey = false ∧ t.contains t.nodes.nextKey = false := by
    simp [contains, Arena.contains, hs.find?_nextKey, ht.find?_nextKey]
  refine ⟨?_, ?_, ?_, ?_, ?_, ?_, ?_, ?_⟩
  · rcases huv with huv | ⟨rfl, -⟩
    · exact ⟨news, hLeft.inside (h.left_fresh huv) (grown_withChild hLeft.forest hu _)⟩
    · exact ⟨_, hLeft.trans (grown_withChild hLeft.forest hu _)⟩
  · rcases huv with huv | ⟨-, rfl⟩
    · exact ⟨news', hRight.inside (h.right_fresh huv) (grown_withChild hRight.forest hv _)⟩
    · exact ⟨_, hRight.trans (grown_withChild hRight.forest hv _)⟩
  · rintro a b (hab | ⟨rfl, rfl⟩)
    · exact h.left_fresh hab
    · exact hLeft.not_contains hNew.1
  · rintro a b (hab | ⟨rfl, rfl⟩)
    · exact h.right_fresh hab
    · exact hRight.not_contains hNew.2
  · rintro a b b' (hab | ⟨rfl, rfl⟩) (hab' | ⟨hEq, rfl⟩)
    · exact h.left_unique hab hab'
    · exact absurd hEq (hKey hab).1
    · exact absurd rfl (hKey hab').1
    · rfl
  · rintro a a' b (hab | ⟨rfl, rfl⟩) (hab' | ⟨rfl, hEq⟩)
    · exact h.right_unique hab hab'
    · exact absurd hEq (hKey hab).2
    · exact absurd rfl (hKey hab').2
    · rfl
  · rintro a b (hab | ⟨rfl, rfl⟩)
    · obtain ⟨e, f, he, hf, hAlike⟩ := h.entry hab
      have hAlike' := hAlike.mono hMono
      have hIff := h.eq_iff_under hG hab huv
      rw [find?_withChild hs hu, find?_withChild ht hv, if_neg (hKey hab).1, if_neg (hKey hab).2,
        he, hf]
      by_cases ha : a = u
      · rw [if_pos ha, if_pos (hIff.mp ha)]
        refine ⟨_, _, rfl, rfl, hAlike'.node, ?_, hAlike'.parent⟩
        exact List.rel_append hAlike'.children (.cons (Or.inr ⟨rfl, rfl⟩) .nil)
      · rw [if_neg ha, if_neg fun hb => ha (hIff.mpr hb)]
        exact ⟨e, f, rfl, rfl, hAlike'⟩
    · exact ⟨_, _, find?_withChild_self hs hu _, find?_withChild_self ht hv _,
        Node.alike_fresh _ name, .nil, u, v, rfl, rfl, huv.mono hMono⟩
  · have hTops := h.under_contains hG (Or.inr ⟨rfl, rfl⟩)
    simp only [component?, Scene.components, node?_withChild_of_contains hs hu _ hTops.1,
      node?_withChild_of_contains ht hv _ hTops.2]
    exact h.group_eq

end Common

end Scene

end AnchoredUi.SceneGraph

/-! ## Trees that are the same up to keys -/

namespace AnchoredUi.SceneGraph.Scene

/-- Two nodes in corresponding places of the trees from `a` and from `b`. -/
def Matched (s t : Scene) (a b : NodeId) (x y : NodeId) : Prop :=
  (x, y) ∈ (s.walk a).zip (t.walk b)

/-- The trees from two nodes are the same up to the keys of their nodes: names, rectangles,
activity, components with their references, and the order of children. -/
structure SameTree (s t : Scene) (a b : NodeId) : Prop where
  tops : Matched s t a b a b
  length_eq : (s.walk a).length = (t.walk b).length
  left_unique : ∀ {x y y'}, Matched s t a b x y → Matched s t a b x y' → y = y'
  right_unique : ∀ {x x' y}, Matched s t a b x y → Matched s t a b x' y → x = x'
  node : ∀ {x y}, Matched s t a b x y → ∃ n m, s.node? x = some n ∧ t.node? y = some m ∧
    Node.Alike (Matched s t a b) n m
  children : ∀ {x y}, Matched s t a b x y →
    List.Forall₂ (Matched s t a b) (s.children x) (t.children y)

/-- A relation that is one to one between alike nodes with related children, and that only relates
nodes whose parents it relates, but for the tops of the two trees. -/
structure Renames (R : NodeId → NodeId → Prop) (s t : Scene) (a b : NodeId) : Prop where
  tops : R a b
  left_unique : ∀ {x y y'}, R x y → R x y' → y = y'
  right_unique : ∀ {x x' y}, R x y → R x' y → x = x'
  node : ∀ {x y}, R x y → ∃ n m, s.node? x = some n ∧ t.node? y = some m ∧ Node.Alike R n m
  children : ∀ {x y}, R x y → List.Forall₂ R (s.children x) (t.children y)
  parent : ∀ {x y}, R x y → x = a ∨ ∃ u v, s.parent? x = some u ∧ R u v

variable {R : NodeId → NodeId → Prop} {s t : Scene} {a b : NodeId}

/-! ## Walks -/

theorem Renames.mem_walk (h : Renames R s t a b) (hs : s.Forest) {x y : NodeId} (hxy : R x y) :
    x ∈ s.walk a := by
  induction x using hs.induction_up generalizing y with
  | step x ih =>
    rcases h.parent hxy with rfl | ⟨u, v, hu, huv⟩
    · obtain ⟨n, m, hNode, -⟩ := h.node hxy
      rw [hs.walk_eq (contains_of_node? hNode)]
      exact List.mem_cons_self
    · exact hs.mem_walk_of_parent? (ih u hu huv) hu

/-! ## Renamed trees -/

theorem mem_zip_of_rel {as bs : List NodeId} (h : List.Forall₂ R as bs)
    (hUnique : ∀ {x y y'}, R x y → R x y' → y = y') {x y : NodeId} (hxy : R x y) (hx : x ∈ as) :
    (x, y) ∈ as.zip bs := by
  induction h with
  | nil => simp at hx
  | @cons c d cs ds hcd _ ih =>
    rw [List.zip_cons_cons]
    rcases List.mem_cons.mp hx with rfl | hx
    · rw [hUnique hxy hcd]
      exact List.mem_cons_self
    · exact List.mem_cons_of_mem _ (ih hx)

section Renamed

variable (h : Renames R s t a b) (hs : s.Forest) (ht : t.Forest)
include h hs ht

theorem Renames.walk : List.Forall₂ R (s.walk a) (t.walk b) := by
  have hLive : ∀ {x y}, R x y → s.contains x = true ∧ t.contains y = true := fun hxy => by
    obtain ⟨n, m, hn, hm, -⟩ := h.node hxy
    exact ⟨contains_of_node? hn, contains_of_node? hm⟩
  exact rel_walk hs ht hLive h.children h.tops

/-- Nodes that are renamed are in corresponding places. -/
theorem Renames.matched {x y : NodeId} (hxy : R x y) : Matched s t a b x y :=
  mem_zip_of_rel (h.walk hs ht) h.left_unique hxy (h.mem_walk hs hxy)

/-- A renaming shows that two trees are the same up to keys. -/
theorem Renames.sameTree : SameTree s t a b := by
  have hWalk := h.walk hs ht
  have hOf : ∀ x y, Matched s t a b x y → R x y := fun _ _ hxy => List.forall₂_zip hWalk hxy
  have hTo : ∀ x y, R x y → Matched s t a b x y := fun _ _ hxy => h.matched hs ht hxy
  refine ⟨hTo a b h.tops, hWalk.length_eq, ?_, ?_, ?_, ?_⟩
  · exact fun hxy hxy' => h.left_unique (hOf _ _ hxy) (hOf _ _ hxy')
  · exact fun hxy hxy' => h.right_unique (hOf _ _ hxy) (hOf _ _ hxy')
  · intro x y hxy
    obtain ⟨n, m, hn, hm, hAlike⟩ := h.node (hOf x y hxy)
    exact ⟨n, m, hn, hm, hAlike.mono hTo⟩
  · exact fun hxy => (h.children (hOf _ _ hxy)).imp hTo

end Renamed

/-! ## Trees of twin scenes -/

variable {G : Grounds}

/-- If the first scene only grew one tree, then the relation of twin scenes renames this tree. -/
theorem Twins.renames (h : Twins G R s t) (hG : G.Level)
    (hTop : s.children G.leftTop = G.left.children G.leftTop ++ [a]) (hab : R a b) :
    Renames R s t a b := by
  refine ⟨hab, h.left_unique, h.right_unique, h.node, h.children, fun {x y} hxy => ?_⟩
  obtain ⟨u, v, hu, -, huv | ⟨rfl, -⟩⟩ := h.parent hxy
  · exact Or.inr ⟨u, v, hu, huv⟩
  · have hChild := (h.left_forest.mem_children_iff _ x).mpr hu
    rw [hTop] at hChild
    rcases List.mem_append.mp hChild with hOld | hNew
    · exact absurd rfl (ne_of_contains (hG.left_forest.contains_child hOld) (h.left_fresh hxy))
    · exact Or.inl (List.mem_singleton.mp hNew)

/-- What the first scene keeps of its new nodes is still renamed to the second tree. -/
theorem Renames.later {r : Scene} (h : Renames R s t a b)
    (hSame : ∀ {x y}, R x y → r.nodes.find? x = s.nodes.find? x) : Renames R r t a b := by
  refine ⟨h.tops, h.left_unique, h.right_unique, fun {x y} hxy => ?_, fun {x y} hxy => ?_,
    fun {x y} hxy => ?_⟩
  · obtain ⟨n, m, hn, hm, hAlike⟩ := h.node hxy
    refine ⟨n, m, ?_, hm, hAlike⟩
    rw [← hn, node?, hSame hxy, node?]
  · have hChildren := h.children hxy
    rw [Scene.children, ← hSame hxy] at hChildren
    exact hChildren
  · have hParent := h.parent hxy
    rw [parent?, ← hSame hxy] at hParent
    exact hParent

end AnchoredUi.SceneGraph.Scene
