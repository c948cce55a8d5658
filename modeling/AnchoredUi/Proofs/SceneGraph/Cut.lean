import AnchoredUi.Proofs.SceneGraph.Removal
import AnchoredUi.Proofs.SceneGraph.Twin

/-!
# Growth around a branch

A scene grows, and a branch is cut off somewhere else: the order makes no difference, since growth
below one node neither changes the branch nor looks at it. So scenes that are twins but for a branch
stay so when both grow at corresponding nodes.

* `Grown.below_iff`, `Grown.without`: growth leaves the branch as it is.
* `Grown.find?_without`: a new branch that is cut off leaves no trace.
* `Twins.without`: the branch may be cut off on the first side.
* `Twins.extend`: twin scenes that grow from twin scenes.
-/

namespace AnchoredUi.SceneGraph.Scene

open Number Plane

variable {s t : Scene} {u z : NodeId} {news : List NodeId}

/-! ## Nodes outside of the branch -/

section Outside

variable (hs : s.Forest) {id : NodeId} (hOut : id ∉ s.below z)
include hs hOut

theorem node?_without : (s.without z).node? id = s.node? id := by
  simp only [node?, find?_without hs, if_neg hOut]
  cases s.nodes.find? id <;> rfl

theorem components_without : (s.without z).components id = s.components id := by
  simp only [components, node?_without hs hOut]

theorem component?_without {α : Type} [ComponentType α] :
    (s.without z).component? α id = s.component? α id := by
  simp only [component?, components_without hs hOut]

end Outside

/-- What remains without the branch is outside of it, and was there. -/
theorem outside_of_contains (hs : s.Forest) {id : NodeId} (h : (s.without z).contains id = true) :
    id ∉ s.below z ∧ s.contains id = true := by
  rw [contains_without hs] at h
  simpa using h

/-- Cutting off a branch changes no size. -/
theorem sizeOf_without (hs : s.Forest) (hz : s.contains z = true) {id : NodeId}
    (hId : (s.without z).contains id = true) : (s.without z).sizeOf id = s.sizeOf id := by
  refine ((hs.without hz).sizeOf_congr hs (fun id hLive => ?_) hId).symm
  have hOut := (outside_of_contains hs hLive).1
  exact ⟨by rw [rect?, rect?, node?_without hs hOut], by rw [parent?_without hs, if_neg hOut]⟩

theorem parentSize_without (hs : s.Forest) (hz : s.contains z = true) {id : NodeId}
    (hId : (s.without z).contains id = true) : (s.without z).parentSize id = s.parentSize id := by
  have hOut := (outside_of_contains hs hId).1
  have hParent : (s.without z).parent? id = s.parent? id := by rw [parent?_without hs, if_neg hOut]
  unfold parentSize
  rw [hParent]
  cases hp : s.parent? id with
  | none => rfl
  | some p => exact sizeOf_without hs hz ((hs.without hz).contains_parent (hParent.trans hp))

/-! ## Growth outside of the branch -/

section Grown

variable (h : Grown u news s t) (hs : s.Forest) (hz : s.contains z = true) (hu : u ∉ s.below z)
include h hs hz hu

/-- Growth elsewhere leaves the branch as it is. -/
theorem Grown.below_iff (x : NodeId) : x ∈ t.below z ↔ x ∈ s.below z := by
  have hOld := hs.branch_below hz
  have hNew := h.forest.branch_below (h.contains hz)
  have hStill : t.Branch z (s.below z) := by
    refine ⟨hOld.start_mem, fun x hx c hc => ?_, fun x hx => ?_⟩
    · obtain ⟨e, he⟩ := find?_of_contains (hOld.contains hz hx)
      have hKept := h.kept x e he fun hEq => hu (hEq ▸ hx)
      rw [children_of_find? hKept, ← children_of_find? he] at hc
      exact hOld.child_mem x hx c hc
    · rw [h.parent? (hOld.contains hz hx)]
      exact hOld.parent_mem x hx
  exact ⟨fun hx => hNew.subset h.forest hStill hx, fun hx => hStill.subset h.forest hNew hx⟩

omit hu in
/-- A node that was there is not among the new children. -/
theorem Grown.not_mem_news (hLive : s.contains u = true) : z ∉ news := by
  intro hMem
  have hTop := h.children_top hLive
  have hChild : z ∈ t.children u := by
    rw [hTop]
    exact List.mem_append_right _ hMem
  have hParent := (h.forest.mem_children_iff u z).mp hChild
  rw [h.parent? hz] at hParent
  have hNodup := h.forest.children_nodup u
  rw [hTop] at hNodup
  have hOld := (hs.mem_children_iff u z).mpr hParent
  exact (List.nodup_append.mp hNodup).2.2 z hOld z hMem rfl

/-- Growth goes on as before if the branch is cut off. -/
theorem Grown.without (hLive : s.contains u = true) :
    Grown u news (s.without z) (t.without z) := by
  have hNews := h.not_mem_news hs hz hLive
  refine ⟨h.forest.without (h.contains hz), ?_, fun id e he hId => ?_, fun e he => ?_⟩
  · have hRoot := h.root_eq
    simp only [Scene.without, hRoot]
  · rw [find?_without hs] at he
    rw [find?_without h.forest]
    simp only [h.below_iff hs hz hu]
    split at he
    · cases he
    · rename_i hOut
      obtain ⟨f, hf, rfl⟩ := Option.map_eq_some_iff.mp he
      rw [if_neg hOut, h.kept id f hf hId]
      rfl
  · rw [find?_without hs, if_neg hu] at he
    obtain ⟨f, hf, rfl⟩ := Option.map_eq_some_iff.mp he
    obtain ⟨cs, ht⟩ := h.top f hf
    have hFilter : news.filter (· ≠ z) = news :=
      List.filter_eq_self.mpr fun c hc => by simpa using fun hEq : c = z => hNews (hEq ▸ hc)
    refine ⟨cs, ?_⟩
    rw [find?_without h.forest, if_neg (fun hMem => hu ((h.below_iff hs hz hu u).mp hMem)), ht]
    simp only [Option.map_some, Entry.extended, List.filter_append, hFilter]

end Grown

/-! ## A new branch -/

section NewBranch

variable (h : Grown u [z] s t) (hs : s.Forest) (hNew : s.contains z = false)
  (hz : t.contains z = true)
include h hs hNew hz

/-- All nodes of a new branch are new. -/
theorem Grown.fresh_of_below {x : NodeId} (hx : x ∈ t.below z) : s.contains x = false := by
  induction x using h.forest.induction_up with
  | step x ih =>
    rcases (h.forest.branch_below hz).parent_mem x hx with rfl | ⟨p, hp, hParent⟩
    · exact hNew
    · exact h.not_contains_child hs (ih p hParent hp) hParent

omit hz in
theorem Grown.root_without : (t.without z).root = s.root := by
  have hRoot : s.root ≠ some z := fun hEq => ne_of_contains (hs.root_top z hEq).1 hNew rfl
  simp only [Scene.without, h.root_eq, if_neg hRoot]

/-- A new branch that is cut off leaves no trace, but for the components that came with it. -/
theorem Grown.find?_without {cs : List (Component NodeId)}
    (hcs : t.components u = s.components u ++ cs) {id : NodeId} {e : Entry}
    (he : (s.modifyComponents u (· ++ cs)).nodes.find? id = some e) :
    (t.without z).nodes.find? id = some e := by
  rw [modifyComponents, find?_modify] at he
  have hOut : ∀ {f}, s.nodes.find? id = some f → id ∉ t.below z := fun hf hMem =>
    ne_of_contains (contains_of_find? hf) (h.fresh_of_below hs hNew hz hMem) rfl
  have hOld : ∀ {f : Entry}, s.nodes.find? id = some f →
      f.children.filter (· ≠ z) = f.children := by
    intro f hf
    refine List.filter_eq_self.mpr fun c hc => ?_
    have hLive := hs.contains_child (mem_children_iff_find?.mpr ⟨f, hf, hc⟩)
    simpa using ne_of_contains hLive hNew
  by_cases hId : id = u
  · subst hId
    rw [if_pos rfl] at he
    obtain ⟨f, hf, rfl⟩ := Option.map_eq_some_iff.mp he
    obtain ⟨ds, hTop⟩ := h.top f hf
    rw [components_of_find? hf, components_of_find? hTop] at hcs
    obtain rfl := List.append_cancel_left hcs
    rw [Scene.find?_without h.forest, if_neg (hOut hf), hTop, Option.map_some, Entry.extended,
      List.filter_append, hOld hf]
    simp
  · rw [if_neg hId] at he
    rw [Scene.find?_without h.forest, if_neg (hOut he), h.kept id e he hId, Option.map_some,
      hOld he]

end NewBranch

/-! ## Twin scenes -/

variable {G : Grounds} {R R₁ : NodeId → NodeId → Prop} {v : NodeId} {s₁ t₁ : Scene}

/-- A branch that the first of two twin scenes had from the start may be cut off. -/
theorem Twins.without (h : Twins ⟨s, t, u, v⟩ R s₁ t₁) (hs : s.Forest) (hz : s.contains z = true)
    (hLive : s.contains u = true) (hu : u ∉ s.below z) :
    Twins ⟨s.without z, t, u, v⟩ R (s₁.without z) t₁ := by
  obtain ⟨news, hLeft⟩ := h.left_grown
  have hBelow := hLeft.below_iff hs hz hu
  have hNotBelow : u ∉ s₁.below z := fun hMem => hu ((hBelow u).mp hMem)
  have hFresh : ∀ {a b}, R a b → s.contains a = false := h.left_fresh
  refine ⟨⟨news, hLeft.without hs hz hu hLive⟩, h.right_grown, fun {a b} hab => ?_, h.right_fresh,
    h.left_unique, h.right_unique, fun {a b} hab => ?_, ?_⟩
  · show (s.without z).contains a = false
    rw [contains_without hs, hFresh hab, Bool.and_false]
  · obtain ⟨e, f, he, hf, hAlike⟩ := h.entry hab
    -- the branch is old, and what is related is new
    have hOut : a ∉ s₁.below z := fun hMem =>
      ne_of_contains ((hs.branch_below hz).contains hz ((hBelow a).mp hMem)) (hFresh hab) rfl
    have hChildren : List.Forall₂ (fun c d => c ≠ z ∧ R c d) e.children f.children :=
      hAlike.children.imp fun c d hcd => ⟨(ne_of_contains hz (hFresh hcd)).symm, hcd⟩
    have hFilter : e.children.filter (· ≠ z) = e.children :=
      List.filter_eq_self.mpr fun c hc => by
        simpa using ((List.forall₂_and_left _ _).mp hChildren).1 c hc
    refine ⟨e, f, ?_, hf, hAlike.node, hAlike.children, hAlike.parent⟩
    rw [find?_without hLeft.forest, if_neg hOut, he, Option.map_some, hFilter]
  · show (s₁.without z).component? LayoutGroup u = t₁.component? LayoutGroup v
    rw [component?_without hLeft.forest hNotBelow]
    exact h.group_eq

/-- What twins have on the first side may be part of a larger scene. -/
theorem Twins.of_kept (h : Twins G R s t) (hs₁ : s₁.Forest) (hRoot : s₁.root = s.root)
    (hKept : ∀ id e, s.nodes.find? id = some e → s₁.nodes.find? id = some e) (hG : G.Level) :
    Twins G R s₁ t := by
  obtain ⟨news, hLeft⟩ := h.left_grown
  refine ⟨⟨news, hs₁, hRoot.trans hLeft.root_eq, fun id e he hId => ?_, fun e he => ?_⟩,
    h.right_grown, h.left_fresh, h.right_fresh, h.left_unique, h.right_unique, fun hab => ?_, ?_⟩
  · exact hKept id e (hLeft.kept id e he hId)
  · obtain ⟨cs, hTop⟩ := hLeft.top e he
    exact ⟨cs, hKept _ _ hTop⟩
  · obtain ⟨e, f, he, hf, hAlike⟩ := h.entry hab
    exact ⟨e, f, hKept _ e he, hf, hAlike⟩
  · obtain ⟨e, he⟩ := find?_of_contains (hLeft.contains hG.left_live)
    rw [← h.group_eq, component?, component?, components_of_find? he,
      components_of_find? (hKept _ e he)]

/-- The relation with the pairs of another one. -/
def joined (R R₁ : NodeId → NodeId → Prop) (a b : NodeId) : Prop := R a b ∨ R₁ a b

section Extend

variable (h : Twins G R s t) (hG : G.Level) (huv : G.Under R u v) {a b : NodeId}
  (hLeft : Grown u [a] s s₁) (hRight : Grown v [b] t t₁)
include h hG huv hLeft hRight

/-- When both scenes grow by a related tree, related nodes stay alike. -/
theorem Twins.entry_grown {R' : NodeId → NodeId → Prop} (hMono : ∀ x y, R x y → R' x y)
    (hab : R' a b) {cs ds : List (Component NodeId)}
    (hcs : s₁.components u = s.components u ++ cs) (hds : t₁.components v = t.components v ++ ds)
    (hAlike : List.Forall₂ (Component.Alike R') cs ds) {x y : NodeId} (hxy : R x y) :
    ∃ e f, s₁.nodes.find? x = some e ∧ t₁.nodes.find? y = some f ∧ Entry.Alike G R' e f := by
  obtain ⟨e, f, he, hf, hEntry⟩ := h.entry hxy
  have hEntry' := hEntry.mono hMono
  have hIff := h.eq_iff_under hG hxy huv
  by_cases hx : x = u
  · -- the node below which both grow
    obtain rfl := hx
    obtain rfl := hIff.mp rfl
    obtain ⟨cs', hTop⟩ := hLeft.top e he
    obtain ⟨ds', hTop'⟩ := hRight.top f hf
    rw [components_of_find? he, components_of_find? hTop] at hcs
    rw [components_of_find? hf, components_of_find? hTop'] at hds
    obtain rfl := List.append_cancel_left hcs
    obtain rfl := List.append_cancel_left hds
    refine ⟨_, _, hTop, hTop', ⟨hEntry'.node.name_eq, hEntry'.node.rect_eq,
      hEntry'.node.active_eq, List.rel_append hEntry'.node.components hAlike⟩, ?_, hEntry'.parent⟩
    exact List.rel_append hEntry'.children (.cons hab .nil)
  · exact ⟨e, f, hLeft.kept x e he hx, hRight.kept y f hf fun hy => hx (hIff.mpr hy), hEntry'⟩

/-- The tops of twin scenes have the same group after the scenes have grown, if they have it where
the scenes grow right below them. -/
theorem Twins.group_grown (hGroup : s₁.component? LayoutGroup u = t₁.component? LayoutGroup v) :
    s₁.component? LayoutGroup G.leftTop = t₁.component? LayoutGroup G.rightTop := by
  rcases huv with huv | ⟨rfl, rfl⟩
  · -- the tops are other nodes
    have hTops := h.under_contains hG (Or.inr ⟨rfl, rfl⟩)
    obtain ⟨e, he⟩ := find?_of_contains hTops.1
    obtain ⟨f, hf⟩ := find?_of_contains hTops.2
    have hKept := hLeft.kept _ e he (h.left_ne_top hG huv).symm
    have hKept' := hRight.kept _ f hf (h.right_ne_top hG huv).symm
    have hOld := h.group_eq
    rwa [component?, component?, components_of_find? he, components_of_find? hf,
      ← components_of_find? hKept, ← components_of_find? hKept'] at hOld
  · exact hGroup

/-- Twin scenes grow at corresponding nodes, each by one tree, and what is new in them is related in
the way of twins again. If the nodes get alike components, then all of it is. -/
theorem Twins.extend (h₁ : Twins ⟨s, t, u, v⟩ R₁ s₁ t₁) (hab : R₁ a b)
    {cs ds : List (Component NodeId)} (hcs : s₁.components u = s.components u ++ cs)
    (hds : t₁.components v = t.components v ++ ds)
    (hAlike : List.Forall₂ (Component.Alike (joined R R₁)) cs ds) :
    Twins G (joined R R₁) s₁ t₁ := by
  obtain ⟨news, hOld⟩ := h.left_grown
  obtain ⟨news', hOld'⟩ := h.right_grown
  have hFresh : ∀ {x y}, R₁ x y → s.contains x = false := h₁.left_fresh
  have hFresh' : ∀ {x y}, R₁ x y → t.contains y = false := h₁.right_fresh
  have hMono : ∀ x y, R x y → joined R R₁ x y := fun _ _ => Or.inl
  have hMono₁ : ∀ x y, R₁ x y → joined R R₁ x y := fun _ _ => Or.inr
  have hApart : ∀ {x y y'}, R x y → ¬ R₁ x y' := fun hxy hxy' =>
    ne_of_contains (h.left_contains hxy) (hFresh hxy') rfl
  have hApart' : ∀ {x x' y}, R x y → ¬ R₁ x' y := fun hxy hxy' =>
    ne_of_contains (h.right_contains hxy) (hFresh' hxy') rfl
  refine ⟨?_, ?_, ?_, ?_, ?_, ?_, ?_, h.group_grown hG huv hLeft hRight h₁.group_eq⟩
  · rcases huv with huv | ⟨rfl, -⟩
    · exact ⟨news, hOld.inside (h.left_fresh huv) hLeft⟩
    · exact ⟨_, hOld.trans hLeft⟩
  · rcases huv with huv | ⟨-, rfl⟩
    · exact ⟨news', hOld'.inside (h.right_fresh huv) hRight⟩
    · exact ⟨_, hOld'.trans hRight⟩
  · rintro x y (hxy | hxy)
    · exact h.left_fresh hxy
    · exact hOld.not_contains (hFresh hxy)
  · rintro x y (hxy | hxy)
    · exact h.right_fresh hxy
    · exact hOld'.not_contains (hFresh' hxy)
  · rintro x y y' (hxy | hxy) (hxy' | hxy')
    · exact h.left_unique hxy hxy'
    · exact absurd hxy' (hApart hxy)
    · exact absurd hxy (hApart hxy')
    · exact h₁.left_unique hxy hxy'
  · rintro x x' y (hxy | hxy) (hxy' | hxy')
    · exact h.right_unique hxy hxy'
    · exact absurd hxy' (hApart' hxy)
    · exact absurd hxy (hApart' hxy')
    · exact h₁.right_unique hxy hxy'
  · rintro x y (hxy | hxy)
    · exact h.entry_grown hG huv hLeft hRight hMono (hMono₁ a b hab) hcs hds hAlike hxy
    · obtain ⟨e, f, he, hf, hEntry⟩ := h₁.entry hxy
      obtain ⟨p, q, hp, hq, hUp⟩ := hEntry.parent
      refine ⟨e, f, he, hf, hEntry.node.mono hMono₁, hEntry.children.imp hMono₁, p, q, hp, hq, ?_⟩
      rcases hUp with hpq | ⟨rfl, rfl⟩
      · exact Or.inl (hMono₁ p q hpq)
      · exact huv.mono hMono

end Extend

end AnchoredUi.SceneGraph.Scene
