import AnchoredUi.Proofs.Plane.Within
import AnchoredUi.Proofs.SceneGraph.Host

/-!
# Components within bounds

The components that a layout reads hold numbers: the paddings of groups, the extents that nodes ask
for, and the sizes of fonts.

* `Scene.Moderate`: the components of a node have numbers within bounds only.
* `Scene.Moderate.attach`, `Scene.Moderate.change`: what keeps it.
-/

namespace AnchoredUi.Plane

open Number Binary

/-- All sides are at most so many units. -/
structure Spacing.Within (p : Spacing Single) (s n : ℕ) : Prop where
  top : p.top.Within s n
  right : p.right.Within s n
  bottom : p.bottom.Within s n
  left : p.left.Within s n

theorem Spacing.within_zero {s n : ℕ} : (Spacing.zero : Spacing Single).Within s n :=
  have h : (0 : Single).Within s n := Binary.within_zero.mono (Nat.zero_le n)
  ⟨h, h, h, h⟩

theorem Spacing.Within.width {p : Spacing Single} {s : ℕ} (hs : s ≤ topScale) (h : p.Within s 1) :
    p.width.Within s 2 := h.left.add hs h.right (by decide)

theorem Spacing.Within.height {p : Spacing Single} {s : ℕ} (hs : s ≤ topScale) (h : p.Within s 1) :
    p.height.Within s 2 := h.top.add hs h.bottom (by decide)

theorem Spacing.Within.scale_mono {p : Spacing Single} {s t n : ℕ} (h : p.Within s n)
    (hst : s ≤ t) : p.Within t n :=
  ⟨h.top.scale_mono hst, h.right.scale_mono hst, h.bottom.scale_mono hst, h.left.scale_mono hst⟩

end AnchoredUi.Plane

namespace AnchoredUi.SceneGraph

open Number Plane Binary

variable {s t b : ℕ}

/-- The paddings of a group are at most one unit, and there are no gaps between its children. -/
structure LayoutGroup.Within (g : LayoutGroup) (s : ℕ) : Prop where
  spacing : g.spacing = 0
  padding : g.padding.Within s 1

/-- The numbers are at most one unit. -/
def AxisHints.Within (h : AxisHints) (s : ℕ) : Prop := ∀ axis x, h.get axis = some x → x.Within s 1

/-- What a node asks for is at most one unit. -/
structure LayoutHints.Within (h : LayoutHints) (s : ℕ) : Prop where
  least : h.least.Within s
  preferred : h.preferred.Within s
  flexible : h.flexible.Within s

/-- The font of a text is at most one unit, and there are not more letters than `2 ^ b`. -/
structure TextBlock.Within (t : TextBlock) (s b : ℕ) : Prop where
  fontSize : t.fontSize.Within s 1
  length : t.text.length ≤ 2 ^ b

theorem AxisHints.within_none : AxisHints.none.Within s := by
  intro axis x hx
  cases axis <;> cases hx

theorem LayoutHints.within_none : LayoutHints.none.Within s :=
  ⟨AxisHints.within_none, AxisHints.within_none, AxisHints.within_none⟩

theorem AxisHints.get_set (h : AxisHints) (axis other : Axis) (x : Option Single) :
    (h.set axis x).get other = if other = axis then x else h.get other := by
  cases axis <;> cases other <;> rfl

theorem AxisHints.Within.set {h : AxisHints} (hh : h.Within s) (axis : Axis) {x : Option Single}
    (hx : ∀ y, x = some y → y.Within s 1) : (h.set axis x).Within s := by
  intro other y hy
  rw [AxisHints.get_set] at hy
  split at hy
  · exact hx y hy
  · exact hh other y hy

theorem AxisHints.Within.scale_mono {h : AxisHints} (hh : h.Within s) (hst : s ≤ t) :
    h.Within t := fun axis x hx => (hh axis x hx).scale_mono hst

theorem AxisHints.Within.getD {h : AxisHints} (hh : h.Within s) (axis : Axis) :
    ((h.get axis).getD 0).Within s 1 := by
  cases hx : h.get axis with
  | none => exact Binary.within_zero.mono (Nat.zero_le 1)
  | some x => exact hh axis x hx

theorem LayoutGroup.Within.scale_mono {g : LayoutGroup} (h : g.Within s) (hst : s ≤ t) :
    g.Within t := ⟨h.spacing, h.padding.scale_mono hst⟩

theorem LayoutHints.Within.scale_mono {h : LayoutHints} (hh : h.Within s) (hst : s ≤ t) :
    h.Within t :=
  ⟨hh.least.scale_mono hst, hh.preferred.scale_mono hst, hh.flexible.scale_mono hst⟩

/-! ## Components of nodes -/

/-- The numbers that a component holds are within bounds: fonts are at most `2 ^ f` pixels, texts
have at most `2 ^ b` letters, and what a layout reads is at most `2 ^ s` pixels. -/
def Component.Moderate {ρ : Type} (f b s : ℕ) : Component ρ → Prop
  | .layoutGroup g => g.Within s
  | .layoutHints h => h.Within s
  | .text t => t.Within f b
  | _ => True

theorem Component.Moderate.map {ρ σ : Type} {f : ℕ} {c : Component ρ} (h : c.Moderate f b s)
    (nodes : ρ → σ) : (c.map nodes).Moderate f b s := by
  cases c <;> exact h

theorem Component.Moderate.scale_mono {ρ : Type} {f : ℕ} {c : Component ρ} (h : c.Moderate f b s)
    (hst : s ≤ t) : c.Moderate f b t := by
  cases c with
  | layoutGroup g => exact LayoutGroup.Within.scale_mono h hst
  | layoutHints hints => exact LayoutHints.Within.scale_mono h hst
  | _ => exact h

/-- The components of a node hold numbers within bounds. -/
def Scene.Moderate (scene : Scene) (f b s : ℕ) (id : NodeId) : Prop :=
  ∀ c ∈ scene.components id, c.Moderate f b s

section Moderate

variable {scene later : Scene} {f : ℕ} {id : NodeId}

theorem Scene.wrap_mem_of_component? {α : Type} [ComponentType α] {a : α}
    (h : scene.component? α id = some a) : ComponentType.wrap a ∈ scene.components id := by
  obtain ⟨c, hMem, hc⟩ := List.exists_of_findSome?_eq_some h
  rwa [← (ComponentType.unwrap?_eq_some_iff c a).mp hc]

theorem Scene.Moderate.group (h : scene.Moderate f b s id) {g : LayoutGroup}
    (hg : scene.component? LayoutGroup id = some g) : g.Within s :=
  h _ (wrap_mem_of_component? hg)

theorem Scene.Moderate.hints (h : scene.Moderate f b s id) {hints : LayoutHints}
    (hh : scene.component? LayoutHints id = some hints) : hints.Within s :=
  h _ (wrap_mem_of_component? hh)

theorem Scene.Moderate.text (h : scene.Moderate f b s id) {t : TextBlock}
    (ht : scene.component? TextBlock id = some t) : t.Within f b :=
  h _ (wrap_mem_of_component? ht)

theorem Scene.Moderate.scale_mono (h : scene.Moderate f b s id) (hst : s ≤ t) :
    scene.Moderate f b t id := fun c hc => (h c hc).scale_mono hst

theorem Scene.Moderate.of_components (h : scene.Moderate f b s id)
    (hSame : later.components id = scene.components id) : later.Moderate f b s id := by
  unfold Scene.Moderate
  rwa [hSame]

/-- A change of the components of some node keeps a node within bounds if it keeps all
lists of components so. -/
theorem Scene.Moderate.modifyComponents (h : scene.Moderate f b s id) (a : NodeId)
    {change : List (Component NodeId) → List (Component NodeId)}
    (hChange : ∀ cs, (∀ c ∈ cs, c.Moderate f b s) → ∀ c ∈ change cs, c.Moderate f b s) :
    (scene.modifyComponents a change).Moderate f b s id := by
  unfold Scene.Moderate Scene.components at h ⊢
  rw [Scene.modifyComponents, Scene.node?_modify]
  split
  · cases hn : scene.node? id with
    | none =>
      intro c hc
      cases hc
    | some n =>
      rw [hn] at h
      exact hChange n.components h
  · exact h

theorem Scene.Moderate.attach (h : scene.Moderate f b s id) (a : NodeId) {c : Component NodeId}
    (hc : c.Moderate f b s) : (scene.modifyComponents a (· ++ [c])).Moderate f b s id := by
  refine h.modifyComponents a fun cs hcs d hd => ?_
  rcases List.mem_append.mp hd with hd | hd
  · exact hcs d hd
  · rwa [List.mem_singleton.mp hd]

theorem Scene.Moderate.change {α : Type} [ComponentType α] (h : scene.Moderate f b s id)
    (a : NodeId) {g : α → α} (hg : ∀ x, (ComponentType.wrap x).Moderate f b s →
      (ComponentType.wrap (g x)).Moderate f b s) :
    (scene.modifyComponent a g).Moderate f b s id := by
  refine h.modifyComponents a fun cs => ?_
  induction cs with
  | nil => exact fun hcs => hcs
  | cons c cs ih =>
    intro hcs d hd
    rw [List.forall_mem_cons] at hcs
    rw [modifyFirst] at hd
    cases hc : (ComponentType.unwrap? c : Option α) with
    | none =>
      rw [hc] at hd
      rcases List.mem_cons.mp hd with rfl | hd
      · exact hcs.1
      · exact ih hcs.2 d hd
    | some x =>
      rw [hc] at hd
      rcases List.mem_cons.mp hd with rfl | hd
      · refine hg x ?_
        rw [← (ComponentType.unwrap?_eq_some_iff c x).mp hc]
        exact hcs.1
      · exact hcs.2 d hd

theorem Scene.Moderate.setActive (h : scene.Moderate f b s id) (a : NodeId) (flag : Bool) :
    (scene.modify a fun n => { n with active := flag }).Moderate f b s id := by
  refine h.of_components ?_
  rw [components, components, node?_modify]
  split
  · cases scene.node? id <;> rfl
  · rfl

end Moderate

end AnchoredUi.SceneGraph
