import Mathlib.Data.List.Forall2
import AnchoredUi.Proofs.SceneGraph.Reference
import AnchoredUi.Proofs.Widget.Steps

/-!
# What the nodes of a widget carry

The steps of a blueprint attach components to the parts of the widget, and to no other node. So
each part carries the components that were attached to it, in their order and with nodes in place
of parts, whatever was there before carries what it did, and there are no other nodes.

Components refer to parts, and parts get their nodes one by one. Where no step refers to a part that
is made later, what was filled in once stays right.

* `Orderly`: steps that refer only to parts that are there.
* `Furnished`: what holds of the components after some of the steps.
* `furnished_runSteps`: one more step keeps it, and so do all steps.
-/

namespace AnchoredUi.Widget

open Number Plane SceneGraph

/-- The component that a step attaches to a part. -/
def Step.attached? (p : Part) : Step → Option (Component Part)
  | .attach part component => if part = p then some component else none
  | _ => none

/-- The components that steps attach to a part. -/
def attachedTo (p : Part) (steps : List Step) : List (Component Part) :=
  steps.filterMap (Step.attached? p)

/-- A component of a plan, with nodes in place of parts. -/
def Filled (c : Component Part) (d : Component NodeId) : Prop := ∃ nodes, d = c.map nodes

/-- When a component is attached, the parts that it refers to are there already. -/
def Orderly (steps : List Step) : Prop :=
  ∀ done p c, done ++ [Step.attach p c] <+: steps → ∀ r ∈ c.references, ∀ q, r.target = some q →
    q ∈ Part.root :: madeBy done

/-- What holds of the components after some steps that lay out a new tree in the scene `s`. -/
structure Furnished (s : Scene) (nodes : Part → NodeId) (done : List Step) (t : Scene) : Prop where
  kept : ∀ id n, s.node? id = some n → t.node? id = some n
  there : ∀ p c, Step.attach p c ∈ done → p ∈ Part.root :: madeBy done
  carried : ∀ p ∈ Part.root :: madeBy done,
    List.Forall₂ Filled (attachedTo p done) (t.components (nodes p))
  filled_eq : Orderly done → ∀ p ∈ Part.root :: madeBy done,
    t.components (nodes p) = (attachedTo p done).map (Component.map nodes)
  only : ∀ id, t.contains id = true → s.contains id = false →
    ∃ p ∈ Part.root :: madeBy done, nodes p = id

/-! ## References to parts -/

section Orderly

variable {steps : List Step} {p : Part} {c : Component Part}

theorem mem_attachedTo : c ∈ attachedTo p steps ↔ Step.attach p c ∈ steps := by
  constructor
  · intro hc
    obtain ⟨step, hStep, hAttached⟩ := List.mem_filterMap.mp hc
    cases step with
    | attach q d =>
      simp only [Step.attached?, Option.ite_none_right_eq_some, Option.some.injEq] at hAttached
      obtain ⟨rfl, rfl⟩ := hAttached
      exact hStep
    | node _ _ _ _ => cases hAttached
    | hide _ => cases hAttached
  · intro hStep
    exact List.mem_filterMap.mpr ⟨_, hStep, if_pos rfl⟩

theorem Orderly.of_prefix {more : List Step} (h : Orderly more) (hPrefix : steps <+: more) :
    Orderly steps := fun done p c hDone => h done p c (hDone.trans hPrefix)

theorem Orderly.mem (h : Orderly steps) (hc : c ∈ attachedTo p steps) :
    ∀ r ∈ c.references, ∀ q, r.target = some q → q ∈ Part.root :: madeBy steps := by
  intro r hr q hq
  obtain ⟨done, rest, rfl⟩ := List.append_of_mem (mem_attachedTo.mp hc)
  have hPrefix : done ++ [.attach p c] <+: done ++ .attach p c :: rest := ⟨rest, by simp⟩
  have hThere := h done p c hPrefix r hr q hq
  have hMade : madeBy done ⊆ madeBy (done ++ .attach p c :: rest) := by
    unfold madeBy
    rw [List.filterMap_append]
    exact List.subset_append_left _ _
  exact List.cons_subset_cons _ hMade hThere

/-- A part that comes later is not referred to yet. -/
theorem Orderly.map_withPart (h : Orderly steps) {part : Part}
    (hPart : part ∉ Part.root :: madeBy steps) (nodes : Part → NodeId) (id : NodeId) (p : Part) :
    (attachedTo p steps).map (Component.map (withPart nodes part id)) =
      (attachedTo p steps).map (Component.map nodes) := by
  refine List.map_congr_left fun c hc => map_congr_references fun r hr => ?_
  cases hTarget : r.target with
  | none => rfl
  | some q =>
    have hNe : q ≠ part := fun hEq => hPart (hEq ▸ h.mem hc r hr q hTarget)
    exact congrArg some (withPart_other nodes id hNe)

end Orderly

section WithNode

variable {s : Scene} {parent : NodeId} (h : s.nodes.Sound) (hLive : s.contains parent = true)
  (name : String) (rect : Rect Single)
include h hLive

theorem node?_withNode {id : NodeId} (hId : s.contains id = true) :
    (withNode s parent name rect).node? id = s.node? id := by
  rw [withNode, Scene.setRect, Scene.node?_modify, if_neg (h.nextKey_ne hId),
    Scene.node?_withChild_of_contains h hLive _ hId]

theorem components_withNode {id : NodeId} (hId : s.contains id = true) :
    (withNode s parent name rect).components id = s.components id := by
  unfold Scene.components
  rw [node?_withNode h hLive name rect hId]

theorem components_withNode_self :
    (withNode s parent name rect).components s.nodes.nextKey = [] := by
  have hNew := Scene.node?_of_find? (Scene.find?_withChild_self h hLive (.fresh name))
  simp only [Scene.components, withNode, Scene.setRect, Scene.node?_modify, hNew]
  rfl

end WithNode

section Furnished

variable {s t : Scene} {u : NodeId} {name : String} {nodes : Part → NodeId} {done : List Step}

/-- A node that is there is none of the new ones. -/
theorem Laid.ne_of_node? (h : Laid s u name nodes done t) {id : NodeId} {n : Node}
    (hn : s.node? id = some n) (p : Part) : id ≠ nodes p :=
  Scene.ne_of_contains (Scene.contains_of_node? hn) (h.fresh p)

theorem attachedTo_append_other {p : Part} {step : Step} (hStep : step.attached? p = none) :
    attachedTo p (done ++ [step]) = attachedTo p done := by
  simp [attachedTo, hStep]

/-- A new part carries nothing yet. -/
theorem Furnished.node (hLaid : Laid s u name nodes done t) (h : Furnished s nodes done t)
    {part under : Part} (hPart : part ∉ Part.root :: madeBy done) (label : String)
    (rect : Rect Single) :
    Furnished s (withPart nodes part t.nodes.nextKey) (done ++ [.node part label under rect])
      (withNode t (nodes under) label rect) := by
  have hSound := hLaid.grown.forest.sound
  have hLive := hLaid.live under
  have hMem : ∀ p, p ∈ Part.root :: madeBy (done ++ [.node part label under rect]) ↔
      p ∈ Part.root :: madeBy done ∨ p = part := fun p => by
    rw [madeBy_append_node, ← List.cons_append, List.mem_append, List.mem_singleton]
  -- nothing was attached to the part before it was made
  have hNone : attachedTo part done = [] := List.eq_nil_iff_forall_not_mem.mpr fun c hc =>
    hPart (h.there part c (mem_attachedTo.mp hc))
  refine ⟨fun id n hn => ?_, fun p c hStep => ?_, fun p hp => ?_, fun hOrder p hp => ?_,
    fun id hId hNew => ?_⟩
  · have hn' := h.kept id n hn
    rw [node?_withNode hSound hLive label rect (Scene.contains_of_node? hn'), hn']
  · rcases List.mem_append.mp hStep with hStep | hStep
    · exact (hMem p).mpr (Or.inl (h.there p c hStep))
    · cases List.mem_singleton.mp hStep
  · rw [attachedTo_append_other rfl]
    rcases (hMem p).mp hp with hp | rfl
    · have hNe : p ≠ part := fun hEq => hPart (hEq ▸ hp)
      rw [withPart_other nodes _ hNe, components_withNode hSound hLive label rect (hLaid.live p)]
      exact h.carried p hp
    · rw [withPart_self, components_withNode_self hSound hLive, hNone]
      exact .nil
  · have hOrder' := hOrder.of_prefix (List.prefix_append done _)
    rw [attachedTo_append_other rfl, hOrder'.map_withPart hPart]
    rcases (hMem p).mp hp with hp | rfl
    · have hNe : p ≠ part := fun hEq => hPart (hEq ▸ hp)
      rw [withPart_other nodes _ hNe, components_withNode hSound hLive label rect (hLaid.live p)]
      exact h.filled_eq hOrder' p hp
    · rw [withPart_self, components_withNode_self hSound hLive, hNone]
      rfl
  · rw [contains_withNode hSound hLive, Bool.or_eq_true, decide_eq_true_iff] at hId
    rcases hId with rfl | hId
    · exact ⟨part, (hMem part).mpr (Or.inr rfl), withPart_self ..⟩
    · obtain ⟨p, hp, rfl⟩ := h.only id hId hNew
      have hNe : p ≠ part := fun hEq => hPart (hEq ▸ hp)
      exact ⟨p, (hMem p).mpr (Or.inl hp), withPart_other nodes _ hNe⟩

/-- An attached component comes after those that its part carries already. -/
theorem Furnished.attach (hLaid : Laid s u name nodes done t) (h : Furnished s nodes done t)
    {part : Part} (hPart : part ∈ Part.root :: madeBy done) (c : Component Part) :
    Furnished s nodes (done ++ [.attach part c])
      (t.modifyComponents (nodes part) (· ++ [c.map nodes])) := by
  have hMade : madeBy (done ++ [.attach part c]) = madeBy done := by simp [madeBy, Step.made?]
  have hSelf : attachedTo part (done ++ [.attach part c]) = attachedTo part done ++ [c] := by
    simp [attachedTo, Step.attached?]
  have hOther : ∀ p ∈ Part.root :: madeBy done, part ≠ p →
      attachedTo p (done ++ [.attach part c]) = attachedTo p done ∧
        (t.modifyComponents (nodes part) (· ++ [c.map nodes])).components (nodes p) =
          t.components (nodes p) := by
    intro p hp hEq
    have hNe : nodes p ≠ nodes part := fun hNodes =>
      hEq (hLaid.distinct p hp part hPart hNodes).symm
    have hAttached : Step.attached? p (.attach part c) = none := if_neg hEq
    refine ⟨attachedTo_append_other hAttached, ?_⟩
    rw [Scene.components, Scene.modifyComponents, Scene.node?_modify, if_neg hNe, Scene.components]
  refine ⟨fun id n hn => ?_, fun p d hStep => ?_, fun p hp => ?_, fun hOrder p hp => ?_,
    fun id hId hNew => ?_⟩
  · rw [Scene.modifyComponents, Scene.node?_modify, if_neg (hLaid.ne_of_node? hn part)]
    exact h.kept id n hn
  · rw [hMade]
    rcases List.mem_append.mp hStep with hStep | hStep
    · exact h.there p d hStep
    · obtain ⟨rfl, -⟩ := Step.attach.inj (List.mem_singleton.mp hStep)
      exact hPart
  · rw [hMade] at hp
    by_cases hEq : part = p
    · subst hEq
      rw [hSelf, Scene.components_attach (hLaid.live part)]
      exact List.rel_append (h.carried part hp) (.cons ⟨nodes, rfl⟩ .nil)
    · obtain ⟨hSame, hComponents⟩ := hOther p hp hEq
      rw [hSame, hComponents]
      exact h.carried p hp
  · rw [hMade] at hp
    have hBefore := h.filled_eq (hOrder.of_prefix (List.prefix_append done _)) p hp
    by_cases hEq : part = p
    · subst hEq
      rw [hSelf, Scene.components_attach (hLaid.live part), hBefore, List.map_append,
        List.map_singleton]
    · obtain ⟨hSame, hComponents⟩ := hOther p hp hEq
      rw [hSame, hComponents, hBefore]
  · rw [hMade]
    exact h.only id ((Scene.contains_modify ..).symm.trans hId) hNew

/-- Switching a part off changes nothing that nodes carry. -/
theorem Furnished.hide (hLaid : Laid s u name nodes done t) (h : Furnished s nodes done t)
    (part : Part) :
    Furnished s nodes (done ++ [.hide part])
      (t.modify (nodes part) fun n => { n with active := false }) := by
  have hMade : madeBy (done ++ [.hide part]) = madeBy done := by simp [madeBy, Step.made?]
  have hSame : ∀ p, (t.modify (nodes part) fun n => { n with active := false }).components
      (nodes p) = t.components (nodes p) := by
    intro p
    simp only [Scene.components, Scene.node?_modify]
    split <;> simp [Function.comp_def]
  refine ⟨fun id n hn => ?_, fun p d hStep => ?_, fun p hp => ?_, fun hOrder p hp => ?_,
    fun id hId hNew => ?_⟩
  · rw [Scene.node?_modify, if_neg (hLaid.ne_of_node? hn part)]
    exact h.kept id n hn
  · rw [hMade]
    rcases List.mem_append.mp hStep with hStep | hStep
    · exact h.there p d hStep
    · cases List.mem_singleton.mp hStep
  · rw [hMade] at hp
    rw [hSame, attachedTo_append_other rfl]
    exact h.carried p hp
  · rw [hMade] at hp
    rw [hSame, attachedTo_append_other rfl]
    exact h.filled_eq (hOrder.of_prefix (List.prefix_append done _)) p hp
  · rw [hMade]
    exact h.only id ((Scene.contains_modify ..).symm.trans hId) hNew

/-- One more step is carried out. -/
theorem furnished_step {h : Host} (hw : h.Willing) {step : Step}
    (hLaid : Laid s u name nodes done h.scene) (hFurnished : Furnished s nodes done h.scene)
    (hFits : step.Fits (.root :: madeBy done)) {nodes' : Part → NodeId}
    (hDoes : Host.Does (step.run nodes) h nodes' t) : Furnished s nodes' (done ++ [step]) t := by
  cases step with
  | node part label under rect =>
    have hAdd := does_addNode hw (hLaid.live under) hLaid.grown.forest.sound label rect
    obtain ⟨rfl, rfl⟩ := hDoes.unique (hAdd.map _)
    exact hFurnished.node hLaid hFits.1 label rect
  | attach part c =>
    have hAttach := Host.does_attach hw (hLaid.live part) (c.map nodes)
    obtain ⟨rfl, rfl⟩ := hDoes.unique (hAttach.map fun _ => nodes)
    exact hFurnished.attach hLaid hFits c
  | hide part =>
    have hHide := Host.does_setActive hw (hLaid.live part) false
    obtain ⟨rfl, rfl⟩ := hDoes.unique (hHide.map fun _ => nodes)
    exact hFurnished.hide hLaid part

/-- All steps are carried out. -/
theorem furnished_runSteps {h : Host} (hw : h.Willing) {steps : List Step}
    (hLaid : Laid s u name nodes done h.scene) (hFurnished : Furnished s nodes done h.scene)
    (hBuild : Buildable (.root :: madeBy done) steps) {nodes' : Part → NodeId}
    (hDoes : Host.Does (steps.foldlM Step.run nodes) h nodes' t) :
    Furnished s nodes' (done ++ steps) t :=
  kept_runSteps (P := Furnished s) (fun _ hw hLaid hFits hDoes hFurnished =>
    furnished_step hw hLaid hFurnished hFits hDoes) hw hLaid hBuild hDoes hFurnished

end Furnished

end AnchoredUi.Widget
