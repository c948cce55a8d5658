import AnchoredUi.Proofs.SceneGraph.Growth
import AnchoredUi.Proofs.SceneGraph.Host
import AnchoredUi.Widget.Blueprint

/-!
# Carrying out the steps of a blueprint

If every step finds the parts that it needs, and no part is made twice, then on a host that refuses
nothing the steps lay out a new tree: each part has a node of its own, under its name, and below
each node the parts that were made under it, in their order.

* `Laid`: what holds of the scene after some of the steps.
* `laid_runSteps`: one more step keeps it, and so do all steps.
* `kept_runSteps`: whatever else each step keeps, all steps keep.
-/

namespace AnchoredUi.Widget

open Number Plane SceneGraph

/-- The part that a step makes. -/
def Step.made? : Step → Option Part
  | .node part _ _ _ => some part
  | _ => none

/-- The parts that steps make. -/
def madeBy (steps : List Step) : List Part := steps.filterMap Step.made?

/-- The part that a step makes under another one. -/
def Step.madeUnder? (p : Part) : Step → Option Part
  | .node part _ under _ => if under = p then some part else none
  | _ => none

/-- The parts that steps make under another one. -/
def madeUnder (p : Part) (steps : List Step) : List Part := steps.filterMap (Step.madeUnder? p)

/-- A step that can be carried out when the given parts are there. -/
def Step.Fits (there : List Part) : Step → Prop
  | .node part _ under _ => part ∉ there ∧ under ∈ there
  | .attach part _ => part ∈ there
  | .hide part => part ∈ there

/-- Steps that can be carried out one after the other. -/
def Buildable : List Part → List Step → Prop
  | _, [] => True
  | there, step :: steps => step.Fits there ∧ Buildable (there ++ step.made?.toList) steps

/-! ## New nodes -/

/-- The scene with a new last child of a node that has a name and a rectangle. -/
def withNode (s : Scene) (parent : NodeId) (name : String) (rect : Rect Single) : Scene :=
  (s.withChild parent (.fresh name)).setRect s.nodes.nextKey rect

section WithNode

variable {s : Scene} {parent : NodeId} (h : s.nodes.Sound) (hLive : s.contains parent = true)
  (name : String) (rect : Rect Single)

theorem place?_withNode (id : NodeId) :
    (withNode s parent name rect).place? id = (s.withChild parent (.fresh name)).place? id :=
  Scene.place?_modify _ _ id fun _ => rfl

include h hLive

theorem contains_withNode (id : NodeId) : (withNode s parent name rect).contains id =
    (decide (id = s.nodes.nextKey) || s.contains id) := by
  rw [Scene.contains_of_place? (place?_withNode _ _ _), Scene.contains_withChild h hLive]

theorem name?_withNode_self :
    (withNode s parent name rect).name? s.nodes.nextKey = some name := by
  rw [Scene.name?_of_place? (place?_withNode _ _ _)]
  simp [Scene.name?, Scene.node?, Scene.find?_withChild_self h hLive, Node.fresh]

theorem name?_withNode {id : NodeId} (hId : s.contains id = true) :
    (withNode s parent name rect).name? id = s.name? id := by
  rw [Scene.name?_of_place? (place?_withNode _ _ _), Scene.name?,
    Scene.node?_withChild_of_contains h hLive _ hId, Scene.name?]

theorem parent?_withNode (id : NodeId) : (withNode s parent name rect).parent? id =
    if id = s.nodes.nextKey then some parent else s.parent? id := by
  rw [withNode, Scene.setRect, Scene.parent?_modify, Scene.parent?_withChild h hLive]

theorem children_withNode (id : NodeId) : (withNode s parent name rect).children id =
    if id = parent then s.children id ++ [s.nodes.nextKey] else s.children id := by
  rw [withNode, Scene.setRect, Scene.children_modify, Scene.children_withChild h hLive]

end WithNode

theorem grown_withNode {s : Scene} {parent : NodeId} (hs : s.Forest)
    (hLive : s.contains parent = true) (name : String) (rect : Rect Single) :
    Scene.Grown parent [s.nodes.nextKey] s (withNode s parent name rect) := by
  have hNew : s.contains s.nodes.nextKey = false := by
    simp [Scene.contains, Arena.contains, hs.sound.find?_nextKey]
  exact (Scene.grown_withChild hs hLive (.fresh name)).modify hNew fun n => { n with rect := rect }

theorem does_addNode {h : Host} (hw : h.Willing) {parent : NodeId}
    (hLive : h.scene.contains parent = true) (hs : h.scene.nodes.Sound) (name : String)
    (rect : Rect Single) :
    Host.Does (addNode name parent rect) h h.scene.nodes.nextKey
      (withNode h.scene parent name rect) := by
  refine (Host.does_create hw hLive name).bind fun k hk hOwner => ?_
  have hNew : k.scene.contains h.scene.nodes.nextKey = true := by
    rw [hk, Scene.contains_withChild hs hLive]
    simp
  refine (Host.does_setRect (hOwner.willing hw) hNew rect).bind fun l hl _ => ?_
  rw [hk] at hl
  rw [withNode, ← hl]
  exact Host.does_pure _ l

/-! ## Trees of parts -/

/-- What holds after some steps: the forest `s` grew below `u` by one tree, whose root has the
given name, and the parts that were made are its nodes. -/
structure Laid (s : Scene) (u : NodeId) (name : String) (nodes : Part → NodeId)
    (done : List Step) (t : Scene) : Prop where
  grown : Scene.Grown u [nodes .root] s t
  fresh : ∀ p, s.contains (nodes p) = false
  live : ∀ p, t.contains (nodes p) = true
  root_name : t.name? (nodes .root) = some name
  root_parent : t.parent? (nodes .root) = some u
  distinct : ∀ p ∈ Part.root :: madeBy done, ∀ q ∈ Part.root :: madeBy done,
    nodes p = nodes q → p = q
  named : ∀ part label under rect, Step.node part label under rect ∈ done →
    part ≠ .root ∧ under ∈ Part.root :: madeBy done ∧ t.name? (nodes part) = some label
  below : ∀ p ∈ Part.root :: madeBy done, t.children (nodes p) = (madeUnder p done).map nodes

section Laid

variable {s t : Scene} {u : NodeId} {name : String} {nodes : Part → NodeId} {done : List Step}

theorem madeBy_append (steps : List Step) (step : Step) :
    madeBy (steps ++ [step]) = madeBy steps ++ step.made?.toList := by
  rw [madeBy, List.filterMap_append, madeBy]
  cases step <;> rfl

theorem mem_madeBy {part : Part} {steps : List Step} :
    part ∈ madeBy steps ↔ ∃ label under rect, Step.node part label under rect ∈ steps := by
  constructor
  · intro h
    obtain ⟨step, hStep, hMade⟩ := List.mem_filterMap.mp h
    cases step with
    | node q label under rect =>
      obtain rfl : q = part := Option.some.inj hMade
      exact ⟨label, under, rect, hStep⟩
    | attach _ _ => cases hMade
    | hide _ => cases hMade
  · rintro ⟨label, under, rect, hStep⟩
    exact List.mem_filterMap.mpr ⟨_, hStep, rfl⟩

theorem madeBy_of_madeUnder {p part : Part} {steps : List Step} (h : part ∈ madeUnder p steps) :
    part ∈ madeBy steps ∧ ∃ label rect, Step.node part label p rect ∈ steps := by
  obtain ⟨step, hStep, hMade⟩ := List.mem_filterMap.mp h
  cases step with
  | node q label under rect =>
    simp only [Step.madeUnder?, Option.ite_none_right_eq_some, Option.some.injEq] at hMade
    obtain ⟨rfl, rfl⟩ := hMade
    exact ⟨mem_madeBy.mpr ⟨label, under, rect, hStep⟩, label, rect, hStep⟩
  | attach _ _ => cases hMade
  | hide _ => cases hMade

/-- A step that makes no node only changes a node in its place. -/
theorem Laid.modify (h : Laid s u name nodes done t) {step : Step} (hNone : step.made? = none)
    (part : Part) {f : Node → Node} (hName : ∀ n, (f n).name = n.name) :
    Laid s u name nodes (done ++ [step]) (t.modify (nodes part) f) := by
  have hPlace : ∀ id, (t.modify (nodes part) f).place? id = t.place? id := fun id =>
    Scene.place?_modify t (nodes part) id hName
  have hMade : madeBy (done ++ [step]) = madeBy done := by simp [madeBy, hNone]
  have hUnder : ∀ p, madeUnder p (done ++ [step]) = madeUnder p done := by
    intro p
    cases step <;> simp [madeUnder, Step.madeUnder?, Step.made?] at hNone ⊢
  have hNode : ∀ q label under rect, Step.node q label under rect ∈ done ++ [step] →
      Step.node q label under rect ∈ done := by
    intro q label under rect hMem
    rcases List.mem_append.mp hMem with hMem | hMem
    · exact hMem
    · rw [← List.mem_singleton.mp hMem] at hNone
      cases hNone
  refine ⟨h.grown.modify (h.fresh part) f, h.fresh, ?_, ?_, ?_, ?_, ?_, ?_⟩
  · intro p
    rw [Scene.contains_modify]
    exact h.live p
  · rw [Scene.name?_of_place? (hPlace _)]
    exact h.root_name
  · rw [Scene.parent?_modify]
    exact h.root_parent
  · rw [hMade]
    exact h.distinct
  · intro q label under rect hMem
    rw [hMade, Scene.name?_of_place? (hPlace _)]
    exact h.named q label under rect (hNode _ _ _ _ hMem)
  · intro p hp
    rw [hMade] at hp
    rw [Scene.children_modify, hUnder]
    exact h.below p hp

theorem madeBy_append_node (steps : List Step) (part under : Part) (label : String)
    (rect : Rect Single) :
    madeBy (steps ++ [.node part label under rect]) = madeBy steps ++ [part] :=
  madeBy_append ..

theorem madeUnder_append_node (p : Part) (steps : List Step) (part under : Part) (label : String)
    (rect : Rect Single) : madeUnder p (steps ++ [.node part label under rect]) =
      madeUnder p steps ++ if under = p then [part] else [] := by
  simp only [madeUnder, List.filterMap_append, List.filterMap_cons, List.filterMap_nil,
    Step.madeUnder?]
  split <;> simp_all

/-- The nodes after a part was made. -/
def withPart (nodes : Part → NodeId) (part : Part) (id : NodeId) : Part → NodeId :=
  fun p => if p = part then id else nodes p

theorem withPart_self (nodes : Part → NodeId) (part : Part) (id : NodeId) :
    withPart nodes part id part = id := if_pos rfl

theorem withPart_other (nodes : Part → NodeId) {part p : Part} (id : NodeId) (hp : p ≠ part) :
    withPart nodes part id p = nodes p := if_neg hp

/-- A step that makes a node puts it below the node of its part. -/
theorem Laid.node (h : Laid s u name nodes done t) {part under : Part}
    (hPart : part ∉ Part.root :: madeBy done) (hUnder : under ∈ Part.root :: madeBy done)
    (label : String) (rect : Rect Single) :
    Laid s u name (withPart nodes part t.nodes.nextKey) (done ++ [.node part label under rect])
      (withNode t (nodes under) label rect) := by
  have hSound := h.grown.forest.sound
  have hLive := h.live under
  have hKey : ∀ p, nodes p ≠ t.nodes.nextKey := fun p => hSound.nextKey_ne (h.live p)
  have hOld : ∀ p ∈ Part.root :: madeBy done, withPart nodes part t.nodes.nextKey p = nodes p :=
    fun p hp => withPart_other nodes _ fun hEq => hPart (hEq ▸ hp)
  have hRoot := hOld .root List.mem_cons_self
  have hMem : ∀ p, p ∈ Part.root :: madeBy (done ++ [.node part label under rect]) ↔
      p ∈ Part.root :: madeBy done ∨ p = part := by
    intro p
    rw [madeBy_append_node, ← List.cons_append, List.mem_append, List.mem_singleton]
  refine ⟨?_, ?_, ?_, ?_, ?_, ?_, ?_, ?_⟩
  · rw [hRoot]
    exact h.grown.inside (h.fresh under) (grown_withNode h.grown.forest hLive label rect)
  · intro p
    by_cases hp : p = part
    · rw [hp, withPart_self]
      apply h.grown.not_contains
      simp [Scene.contains, Arena.contains, hSound.find?_nextKey]
    · rw [withPart_other nodes _ hp]
      exact h.fresh p
  · intro p
    rw [contains_withNode hSound hLive]
    by_cases hp : p = part
    · simp [hp, withPart_self]
    · simp [withPart_other nodes _ hp, h.live p]
  · rw [hRoot, name?_withNode hSound hLive _ _ (h.live .root)]
    exact h.root_name
  · rw [hRoot, parent?_withNode hSound hLive, if_neg (hKey .root)]
    exact h.root_parent
  · intro p hp q hq hEq
    rcases (hMem p).mp hp with hp | hp <;> rcases (hMem q).mp hq with hq | hq
    · rw [hOld p hp, hOld q hq] at hEq
      exact h.distinct p hp q hq hEq
    · rw [hOld p hp, hq, withPart_self] at hEq
      exact absurd hEq (hKey p)
    · rw [hp, withPart_self, hOld q hq] at hEq
      exact absurd hEq.symm (hKey q)
    · exact hp.trans hq.symm
  · intro q l v r hStep
    rcases List.mem_append.mp hStep with hStep | hStep
    · obtain ⟨hNe, hv, hq⟩ := h.named q l v r hStep
      have hThere : q ∈ Part.root :: madeBy done :=
        List.mem_cons_of_mem _ (mem_madeBy.mpr ⟨l, v, r, hStep⟩)
      refine ⟨hNe, (hMem v).mpr (Or.inl hv), ?_⟩
      rw [hOld q hThere, name?_withNode hSound hLive _ _ (h.live q)]
      exact hq
    · obtain ⟨rfl, rfl, rfl, rfl⟩ := Step.node.inj (List.mem_singleton.mp hStep)
      refine ⟨?_, (hMem v).mpr (Or.inl hUnder), ?_⟩
      · rintro rfl
        exact hPart List.mem_cons_self
      · rw [withPart_self]
        exact name?_withNode_self hSound hLive _ _
  · intro p hp
    have hMap : (madeUnder p done).map (withPart nodes part t.nodes.nextKey) =
        (madeUnder p done).map nodes := List.map_congr_left fun q hq =>
      hOld q (List.mem_cons_of_mem _ (madeBy_of_madeUnder hq).1)
    rw [madeUnder_append_node, List.map_append, hMap, children_withNode hSound hLive]
    rcases (hMem p).mp hp with hp | hp
    · rw [hOld p hp, h.below p hp]
      by_cases hEq : under = p
      · rw [if_pos (congrArg nodes hEq.symm), if_pos hEq, List.map_singleton, withPart_self]
      · rw [if_neg (fun hNodes => hEq (h.distinct p hp under hUnder hNodes).symm), if_neg hEq]
        simp
    · -- nothing was made under the new part yet
      have hNone : madeUnder p done = [] := List.eq_nil_iff_forall_not_mem.mpr fun q hq => by
        obtain ⟨-, l, r, hStep⟩ := madeBy_of_madeUnder hq
        exact hPart (hp ▸ (h.named q l p r hStep).2.1)
      have hNe : under ≠ p := fun hEq => hPart (hp ▸ hEq ▸ hUnder)
      rw [hNone, if_neg hNe, hp, withPart_self, if_neg (hKey under).symm]
      simp [Scene.children, hSound.find?_nextKey]

/-- One more step is carried out. -/
theorem laid_step {h : Host} (hw : h.Willing) {step : Step}
    (hLaid : Laid s u name nodes done h.scene) (hFits : step.Fits (.root :: madeBy done)) :
    ∃ nodes' t, Host.Does (step.run nodes) h nodes' t ∧ nodes' .root = nodes .root ∧
      Laid s u name nodes' (done ++ [step]) t := by
  cases step with
  | node part label under rect =>
    have hAdd := does_addNode hw (hLaid.live under) hLaid.grown.forest.sound label rect
    have hRoot : part ≠ .root := by
      rintro rfl
      exact hFits.1 List.mem_cons_self
    exact ⟨_, _, hAdd.map _, withPart_other nodes _ hRoot.symm,
      hLaid.node hFits.1 hFits.2 label rect⟩
  | attach part c =>
    have hAttach := Host.does_attach hw (hLaid.live part) (c.map nodes)
    have hStep : Laid s u name nodes (done ++ [.attach part c])
        (h.scene.modifyComponents (nodes part) (· ++ [c.map nodes])) :=
      hLaid.modify rfl part fun _ => rfl
    exact ⟨nodes, _, hAttach.map fun _ => nodes, rfl, hStep⟩
  | hide part =>
    have hHide := Host.does_setActive hw (hLaid.live part) false
    have hStep : Laid s u name nodes (done ++ [.hide part])
        (h.scene.modify (nodes part) fun n => { n with active := false }) :=
      hLaid.modify rfl part fun _ => rfl
    exact ⟨nodes, _, hHide.map fun _ => nodes, rfl, hStep⟩

/-- All steps are carried out. -/
theorem laid_runSteps {h : Host} (hw : h.Willing) {steps : List Step}
    (hLaid : Laid s u name nodes done h.scene) (hBuild : Buildable (.root :: madeBy done) steps) :
    ∃ nodes' t, Host.Does (steps.foldlM Step.run nodes) h nodes' t ∧
      nodes' .root = nodes .root ∧ Laid s u name nodes' (done ++ steps) t := by
  induction steps generalizing nodes done h with
  | nil => exact ⟨nodes, h.scene, Host.does_pure nodes h, rfl, by simpa using hLaid⟩
  | cons step steps ih =>
    obtain ⟨hFits, hRest⟩ := hBuild
    obtain ⟨nodes', t, ⟨k, hRun, hk, hOwner⟩, hRoot, hStep⟩ := laid_step hw hLaid hFits
    rw [List.cons_append, ← madeBy_append] at hRest
    rw [← hk] at hStep
    obtain ⟨nodes'', r, ⟨l, hRun', hl, hOwner'⟩, hRoot', hEnd⟩ :=
      ih (hOwner.willing hw) hStep hRest
    refine ⟨nodes'', r, ⟨l, ?_, hl, hOwner.trans hOwner'⟩, hRoot'.trans hRoot, by simpa using hEnd⟩
    rw [List.foldlM_cons, Host.run_bind, hRun]
    exact hRun'

/-- What each of some steps keeps is kept by all of them together. -/
theorem kept_runSteps {P : (Part → NodeId) → List Step → Scene → Prop} {steps : List Step}
    (hStep : ∀ {h : Host} {nodes nodes' : Part → NodeId} {done : List Step} {step : Step}
      {t : Scene}, step ∈ steps → h.Willing → Laid s u name nodes done h.scene →
      step.Fits (.root :: madeBy done) → Host.Does (step.run nodes) h nodes' t →
      P nodes done h.scene → P nodes' (done ++ [step]) t)
    {h : Host} (hw : h.Willing) (hLaid : Laid s u name nodes done h.scene)
    (hBuild : Buildable (.root :: madeBy done) steps) {nodes' : Part → NodeId}
    (hDoes : Host.Does (steps.foldlM Step.run nodes) h nodes' t) (hStart : P nodes done h.scene) :
    P nodes' (done ++ steps) t := by
  induction steps generalizing nodes done h with
  | nil =>
    obtain ⟨rfl, rfl⟩ := hDoes.unique (Host.does_pure nodes h)
    rwa [List.append_nil]
  | cons step steps ih =>
    obtain ⟨hFits, hRest⟩ := hBuild
    obtain ⟨nodes₁, t₁, hFirst, -, hLaid₁⟩ := laid_step hw hLaid hFits
    have hKept := hStep List.mem_cons_self hw hLaid hFits hFirst hStart
    obtain ⟨k, hRun, rfl, hOwner⟩ := hFirst
    rw [List.cons_append, ← madeBy_append] at hRest
    obtain ⟨l, hRunAll, hl, hOwner'⟩ := hDoes
    rw [List.foldlM_cons, Host.run_bind, hRun] at hRunAll
    rw [← List.singleton_append, ← List.append_assoc]
    refine ih (fun hMem => hStep (List.mem_cons_of_mem _ hMem)) (hOwner.willing hw) hLaid₁ hRest
      ⟨l, hRunAll, hl, ?_⟩ hKept
    exact ⟨hOwner'.1.trans hOwner.1.symm, hOwner'.2.trans hOwner.2.symm⟩

end Laid

end AnchoredUi.Widget
