import Mathlib.Data.List.Nodup
import AnchoredUi.Proofs.Styling.Outfit
import AnchoredUi.Proofs.Widget.Build

/-!
# New widgets are tidy

No blueprint attaches two components of one kind to a part, and none clips a rectangle, lays out
children or marks a root: that is left to styling. So the nodes of a new widget are tidy, the helper
nodes too.

* `neat_blueprint`: what the steps of all blueprints attach.
* `Job.Builds.outfit`: the nodes of a widget that was built.
-/

namespace AnchoredUi.Widget

open Number Plane SceneGraph Markup Kind Sprite Styling

/-- The part to which a step attaches a component, and the kind of the component. -/
def Step.attachment? : Step → Option (Part × ComponentKind)
  | .attach part component => some (part, component.kind)
  | _ => none

/-- The parts to which steps attach components, with their kinds. -/
def attachments (steps : List Step) : List (Part × ComponentKind) :=
  steps.filterMap Step.attachment?

section Attachments

variable (steps more : List Step)

@[simp]
theorem attachments_nil : attachments [] = [] := rfl

@[simp]
theorem attachments_attach (part : Part) (c : Component Part) :
    attachments (.attach part c :: steps) = (part, c.kind) :: attachments steps := rfl

@[simp]
theorem attachments_node (part under : Part) (name : String) (rect : Rect Single) :
    attachments (.node part name under rect :: steps) = attachments steps := rfl

@[simp]
theorem attachments_hide (part : Part) :
    attachments (.hide part :: steps) = attachments steps := rfl

@[simp]
theorem attachments_append :
    attachments (steps ++ more) = attachments steps ++ attachments more := List.filterMap_append

end Attachments

/-- The kinds of components that are left to styling. -/
def styledKinds : List ComponentKind := [.rectMask, .layoutGroup, .layoutRoot]

/-- No two components of one kind are attached to a part, and none of those for styling. -/
def Neat (steps : List Step) : Prop :=
  (attachments steps).Nodup ∧ ∀ kind ∈ styledKinds, kind ∉ (attachments steps).map Prod.snd

/-! ## Blueprints -/

theorem neat_button (l : Lettering) (e : Element) (sprite : Option Sprite) :
    Neat ((button l e).steps sprite) := by
  unfold button captionSteps
  split
  · simp [Neat, Blueprint.ofSteps, Component.kind, styledKinds]
  · split <;> simp [Neat, Blueprint.ofSteps, Component.kind, styledKinds]

theorem neat_textField (l : Lettering) (e : Element) (sprite : Option Sprite) :
    Neat ((textField l e).steps sprite) := by
  by_cases hEmpty : (e.attr? "value").getD "" = "" <;>
    simp [textField, Blueprint.ofSteps, hEmpty, Neat, Component.kind, styledKinds]

theorem neat_dropdownSteps (l : Lettering) (options : List String) (chosen : Nat) :
    Neat (dropdownSteps l options chosen) := by
  simp [dropdownSteps, templateSteps, Neat, Component.kind, styledKinds]

theorem neat_sliderSteps (s : SceneGraph.Slider Part) : Neat (sliderSteps s) := by
  simp [sliderSteps, Neat, Component.kind, styledKinds]

theorem neat_blueprint {kind : WidgetKind} {l : Lettering} {e : Element} {b : Blueprint}
    (h : blueprint kind l e = .ok b) (sprite : Option Sprite) : Neat (b.steps sprite) := by
  cases kind with
  | button =>
    cases h
    exact neat_button l e sprite
  | textField =>
    cases h
    exact neat_textField l e sprite
  | dropdown =>
    obtain ⟨i, -, rfl⟩ := exists_of_map_eq_ok h
    exact neat_dropdownSteps l (options e) i
  | slider =>
    obtain ⟨v, -, rfl⟩ := exists_of_map_eq_ok h
    exact neat_sliderSteps v
  | toggle =>
    cases h
    simp [toggle, Blueprint.ofSteps, Neat, Component.kind, styledKinds]
  | scrollView =>
    cases h
    simp [scrollView, Neat, Component.kind, styledKinds]
  | label | image | genericField | container | unrecognized =>
    cases h
    simp [label, image, genericField, container, unrecognized, panel, Blueprint.ofSteps, Neat,
      Component.kind, styledKinds]

/-! ## Nodes of parts -/

theorem map_kind_attachedTo (p : Part) (steps : List Step) :
    (attachedTo p steps).map Component.kind =
      (attachments steps).filterMap fun a => if a.1 = p then some a.2 else none := by
  induction steps with
  | nil => rfl
  | cons step steps ih =>
    unfold attachedTo at ih ⊢
    cases step with
    | attach part c =>
      by_cases hPart : part = p <;> simp [Step.attached?, hPart, ih]
    | node _ _ _ _ | hide _ => simpa [List.filterMap_cons, Step.attached?] using ih

theorem map_kind_of_filled {cs : List (Component Part)} {ds : List (Component NodeId)}
    (h : List.Forall₂ Filled cs ds) : ds.map Component.kind = cs.map Component.kind := by
  induction h with
  | nil => rfl
  | cons hHead _ ih =>
    obtain ⟨nodes, rfl⟩ := hHead
    rw [List.map_cons, List.map_cons, Component.kind_map, ih]

theorem Neat.outfit {steps : List Step} (h : Neat steps) (p : Part) :
    Outfit False ((attachedTo p steps).map Component.kind) := by
  have hNone : ∀ kind ∈ styledKinds, kind ∉ (attachedTo p steps).map Component.kind := by
    intro kind hStyled hKind
    rw [map_kind_attachedTo] at hKind
    obtain ⟨a, ha, hEq⟩ := List.mem_filterMap.mp hKind
    rw [Option.ite_none_right_eq_some] at hEq
    exact h.2 kind hStyled (List.mem_map.mpr ⟨a, ha, Option.some.inj hEq.2⟩)
  refine ⟨⟨?_, fun _ => hNone _ (by decide)⟩, hNone _ (by decide),
    iff_false_intro (hNone _ (by decide))⟩
  rw [map_kind_attachedTo]
  refine h.1.filterMap fun a b kind ha hb => ?_
  simp only [Option.mem_def, Option.ite_none_right_eq_some, Option.some.injEq] at ha hb
  exact Prod.ext (ha.1.trans hb.1.symm) (ha.2.trans hb.2.symm)

end AnchoredUi.Widget

namespace AnchoredUi.Conversion

open SceneGraph Sprite Markup Widget Styling

theorem Job.neat_plan (job : Job) (e : Element) (sprite : Option Sprite) :
    Neat ((job.plan e).steps sprite) := by
  unfold Job.plan
  split
  · rename_i hBlueprint
    exact neat_blueprint hBlueprint sprite
  · exact neat_blueprint (blueprint_container job.lettering e) sprite

/-- Each node of a new widget is tidy. -/
theorem Job.Builds.outfit {job : Job} {e : Element} {u id : NodeId} {st st₁ : Stage} {w : Built}
    (h : job.Builds e u st w st₁) (hLive : st₁.host.scene.contains id = true)
    (hNew : st.host.scene.contains id = false) : Outfit False (st₁.host.scene.kinds id) := by
  obtain ⟨nodes, -, hFurnished, -⟩ := h.tree
  obtain ⟨p, hp, rfl⟩ := hFurnished.only id hLive hNew
  rw [Scene.kinds, map_kind_of_filled (hFurnished.carried p hp)]
  exact (job.neat_plan e _).outfit p

end AnchoredUi.Conversion
