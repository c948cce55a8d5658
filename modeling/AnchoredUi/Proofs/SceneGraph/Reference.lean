import AnchoredUi.SceneGraph.Component

/-!
# References of components

What reacts refers to other nodes: to the graphic that it tints, to the text that it writes, to the
mark that it shows. Each such place of a component is a reference; where the component reads a
certain component of the other node, the reference says so.

* `Component.references`: all references of a component.
* `map_congr_references`: nothing else in a component depends on nodes.
* `Loose`: the types of components that refer to nothing.
-/

namespace AnchoredUi.SceneGraph

variable {ρ σ : Type}

/-- A place of a component for a node, and the kind of component that the node has to carry, if
the place is for one. -/
structure Reference (ρ : Type) where
  target : Option ρ
  needs : Option ComponentKind
  deriving DecidableEq

/-- The reference with the node replaced. -/
def Reference.map (f : ρ → σ) (r : Reference ρ) : Reference σ := ⟨r.target.map f, r.needs⟩

/-- The places of a component for nodes. -/
def Component.references : Component ρ → List (Reference ρ)
  | .button b => [⟨b.target, some .graphic⟩]
  | .toggle t => [⟨t.target, some .graphic⟩, ⟨t.mark, some .graphic⟩]
  | .slider s => [⟨s.fill, none⟩, ⟨s.handle, none⟩, ⟨s.target, some .graphic⟩]
  | .inputField i =>
    [⟨i.textNode, some .text⟩, ⟨i.placeholder, some .text⟩, ⟨i.target, some .graphic⟩]
  | .dropdown d =>
    [⟨d.target, some .graphic⟩, ⟨d.template, none⟩, ⟨d.caption, some .text⟩,
      ⟨d.item, some .text⟩]
  | .scrollRect r => [⟨r.content, none⟩, ⟨r.viewport, none⟩]
  | .graphic _ | .text _ | .mask _ | .rectMask _ | .layoutGroup _ | .layoutHints _
  | .canvasGroup _ | .layoutRoot _ => []

theorem references_map (f : ρ → σ) (c : Component ρ) :
    (c.map f).references = c.references.map (Reference.map f) := by
  cases c <;> rfl

/-- A component depends on the nodes of its references only. -/
theorem map_congr_references {f g : ρ → σ} {c : Component ρ}
    (h : ∀ r ∈ c.references, r.target.map f = r.target.map g) : c.map f = c.map g := by
  cases c with
  | button _ | toggle _ | slider _ | inputField _ | dropdown _ | scrollRect _ =>
    simp only [Component.references, List.forall_mem_cons, List.not_mem_nil, false_imp_iff,
      implies_true, and_true] at h
    simp only [Component.map, h]
  | _ => rfl

/-! ## Components without references -/

/-- The kinds of components that refer to nothing. -/
def looseKinds : List ComponentKind :=
  [.graphic, .text, .mask, .rectMask, .layoutGroup, .layoutHints, .canvasGroup, .layoutRoot]

theorem references_eq_nil {c : Component ρ} (h : c.kind ∈ looseKinds) : c.references = [] := by
  cases c with
  | button _ | toggle _ | slider _ | inputField _ | dropdown _ | scrollRect _ =>
    exact absurd h (by simp [looseKinds, Component.kind])
  | _ => rfl

/-- A type of components that refer to nothing. -/
class Loose (α : Type) [ComponentType α] : Prop where
  kind_mem : ComponentType.kind α ∈ looseKinds

instance : Loose Graphic := ⟨by decide⟩

instance : Loose TextBlock := ⟨by decide⟩

instance : Loose RectMask := ⟨by decide⟩

instance : Loose LayoutGroup := ⟨by decide⟩

instance : Loose LayoutHints := ⟨by decide⟩

instance : Loose CanvasGroup := ⟨by decide⟩

/-- Changing a component that refers to nothing leaves all references alone. -/
theorem references_modifyFirst {α : Type} [ComponentType α] [Loose α] (f : α → α)
    (cs : List (Component NodeId)) :
    (modifyFirst f cs).flatMap Component.references = cs.flatMap Component.references := by
  have hNone : ∀ a : α, (ComponentType.wrap a).references = [] := by
    intro a
    apply references_eq_nil
    rw [kind_wrap]
    exact Loose.kind_mem
  induction cs with
  | nil => rfl
  | cons c cs ih =>
    unfold modifyFirst
    cases hc : (ComponentType.unwrap? c : Option α) with
    | none => simp only [List.flatMap_cons, ih]
    | some a =>
      rw [(ComponentType.unwrap?_eq_some_iff c a).mp hc]
      simp only [List.flatMap_cons, hNone]

end AnchoredUi.SceneGraph
