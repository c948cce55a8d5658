import AnchoredUi.Proofs.SceneGraph.Furnish
import AnchoredUi.Proofs.Styling.Outfit
import AnchoredUi.Proofs.Styling.Quiet

/-!
# How far styling reaches

An element is styled with the whole host at hand, and much of what is declared looks at parents,
siblings and children. But only three nodes can be changed. The node of the element may get another
rectangle, other components and another flag. The node with its text may get another text component
in the place of the old one. The parent may get one layout group behind its components, before any
declaration is applied. All other data stays, on every host and for every sequence of declarations.

* `Reaches`: what is the same in two scenes, and what may differ.
* `Stroke.reaches`, `reaches_of_strokes`: single changes, and any number of them.
* `reaches_cascade`: whole cascades and single declarations.
-/

namespace AnchoredUi.Styling

open Number Plane SceneGraph Style

namespace Subject

variable {x : Subject} {s t r : Scene} {groups : List LayoutGroup}

/-- The node with layout groups behind its components, if it is the parent. -/
def withGroups (x : Subject) (groups : List LayoutGroup) (id : NodeId) (n : Node) : Node :=
  if x.parentNode = some id then
    { n with components := n.components ++ groups.map .layoutGroup }
  else n

/-- From one scene to another one, no node comes or goes, and none gets another name or another
place. Texts are neither added nor taken away. Apart from the node of the element, nodes are as they
were, but for the text component of the node with its text, and but for layout groups behind the
components of the parent. -/
structure Reaches (x : Subject) (groups : List LayoutGroup) (s t : Scene) : Prop where
  root_eq : t.root = s.root
  place_eq : ∀ id, t.place? id = s.place? id
  text_iff : ∀ id, (t.component? TextBlock id).isSome = (s.component? TextBlock id).isSome
  node_eq : ∀ id, id ≠ x.node → textNode? s x.node ≠ some id →
    t.node? id = (s.node? id).map (x.withGroups groups id)
  target_eq : ∀ id, id ≠ x.node → textNode? s x.node = some id → ∃ f : TextBlock → TextBlock,
    t.node? id = (s.node? id).map fun n =>
      x.withGroups groups id { n with components := modifyFirst f n.components }

theorem withGroups_nil (id : NodeId) (n : Node) : x.withGroups [] id n = n := by
  unfold withGroups
  split
  · rw [List.map_nil, List.append_nil]
  · rfl

/-- Changing the text does not depend on layout groups behind it. -/
theorem modifyFirst_withGroups (f : TextBlock → TextBlock) (id : NodeId) (n : Node) :
    ({ x.withGroups groups id n with
      components := modifyFirst f (x.withGroups groups id n).components } : Node) =
      x.withGroups groups id { n with components := modifyFirst f n.components } := by
  unfold withGroups
  split
  · have hOthers : ∀ d ∈ groups.map (Component.layoutGroup (ρ := NodeId)),
        d.kind ≠ ComponentType.kind TextBlock := by
      intro d hd
      obtain ⟨g, -, rfl⟩ := List.mem_map.mp hd
      exact nofun
    rw [modifyFirst_append_other hOthers]
  · rfl

/-- Which node has the text is the same in both scenes. -/
theorem Reaches.textNode?_eq (h : x.Reaches groups s t) (id : NodeId) :
    textNode? t id = textNode? s id := textNode?_congr h.place_eq h.text_iff id

/-- Where not even a text is changed. -/
theorem reaches_of_node? (hRoot : t.root = s.root) (hPlace : ∀ id, t.place? id = s.place? id)
    (hText : ∀ id, (t.component? TextBlock id).isSome = (s.component? TextBlock id).isSome)
    (hNode : ∀ id, id ≠ x.node → t.node? id = (s.node? id).map (x.withGroups groups id)) :
    x.Reaches groups s t where
  root_eq := hRoot
  place_eq := hPlace
  text_iff := hText
  node_eq id hNe _ := hNode id hNe
  target_eq id hNe _ := ⟨fun a => a, by simp only [modifyFirst_self, hNode id hNe]⟩

theorem Reaches.refl (x : Subject) (s : Scene) : x.Reaches [] s s :=
  reaches_of_node? rfl (fun _ => rfl) (fun _ => rfl) fun id _ => by
    rw [funext (withGroups_nil id), Option.map_id']

/-- Only the first part of styling gives layout groups. -/
theorem Reaches.trans (h : x.Reaches groups s t) (h' : x.Reaches [] t r) :
    x.Reaches groups s r where
  root_eq := h'.root_eq.trans h.root_eq
  place_eq id := (h'.place_eq id).trans (h.place_eq id)
  text_iff id := (h'.text_iff id).trans (h.text_iff id)
  node_eq id hNe hText := by
    rw [h'.node_eq id hNe (by rwa [h.textNode?_eq]), funext (withGroups_nil id), Option.map_id',
      h.node_eq id hNe hText]
  target_eq id hNe hText := by
    obtain ⟨f, hFirst⟩ := h.target_eq id hNe hText
    obtain ⟨g, hSecond⟩ := h'.target_eq id hNe (by rwa [h.textNode?_eq])
    refine ⟨g ∘ f, ?_⟩
    rw [hSecond, hFirst, Option.map_map]
    refine congrArg (Option.map · _) (funext fun n => ?_)
    rw [Function.comp_apply, withGroups_nil, modifyFirst_withGroups, modifyFirst_modifyFirst]

/-! ## Single changes -/

/-- Changing components leaves alone whether there is one of a type. -/
theorem isSome_component?_modifyFirst {α β : Type} [ComponentType α] [ComponentType β] (s : Scene)
    (id other : NodeId) (f : α → α) :
    ((s.modifyComponents id (modifyFirst f)).component? β other).isSome =
      (s.component? β other).isSome := by
  have hKinds : (s.modifyComponents id (modifyFirst f)).kinds other = s.kinds other :=
    Scene.kinds_modifyComponent f id other
  rw [Bool.eq_iff_iff, Option.isSome_iff_ne_none, Option.isSome_iff_ne_none, Ne, Ne,
    Scene.component?_eq_none_iff, Scene.component?_eq_none_iff, hKinds]

/-- A change of the node of the element that keeps its name and its text. -/
theorem reaches_modify {f : Node → Node} (hName : ∀ n, (f n).name = n.name)
    (hText : ∀ id, ((s.modify x.node f).component? TextBlock id).isSome =
      (s.component? TextBlock id).isSome) : x.Reaches [] s (s.modify x.node f) :=
  reaches_of_node? rfl (fun id => Scene.place?_modify s x.node id hName) hText fun id hNe => by
    rw [Scene.node?_modify, if_neg hNe, funext (withGroups_nil id), Option.map_id']

theorem Stroke.reaches (h : x.Stroke s t) : x.Reaches [] s t := by
  cases h with
  | rect r =>
    refine reaches_modify (fun _ => rfl) fun id => ?_
    rw [Scene.component?_modify_of (f := fun n => { n with rect := r }) fun _ => rfl]
  | active flag =>
    refine reaches_modify (fun _ => rfl) fun id => ?_
    rw [Scene.component?_modify_of (f := fun n => { n with active := flag }) fun _ => rfl]
  | attach c hNew hText =>
    refine reaches_modify (fun _ => rfl) fun id => ?_
    rw [Scene.component?_modify_of (f := fun n => { n with components := n.components ++ [c] })
      fun n => firstOf?_append_other hText n.components]
  | change f =>
    exact reaches_modify (fun _ => rfl) fun id => isSome_component?_modifyFirst s x.node id f
  | @text target hTarget f =>
    refine ⟨rfl, fun id => Scene.place?_modifyComponents s target id _,
      fun id => isSome_component?_modifyFirst s target id f, fun id hNe hNot => ?_,
      fun id hNe hText => ⟨f, ?_⟩⟩
    · have hOther : id ≠ target := by
        rintro rfl
        exact hNot hTarget
      rw [Scene.modifyComponents, Scene.node?_modify, if_neg hOther]
      exact (Reaches.refl x s).node_eq id hNe hNot
    · obtain rfl : target = id := Option.some.inj (hTarget.symm.trans hText)
      rw [Scene.modifyComponents, Scene.node?_modify, if_pos rfl]
      exact congrArg (Option.map · _) (funext fun n => (withGroups_nil target _).symm)

theorem reaches_of_strokes (h : Relation.ReflTransGen x.Stroke s t) : x.Reaches [] s t := by
  induction h with
  | refl => exact .refl x s
  | tail _ hStroke ih => exact ih.trans hStroke.reaches

/-- The layout group that the parent is given is the first change, and the only one of its kind. -/
theorem exists_reaches_ensureParentGroup (x : Subject) (h : Host) :
    ∃ groups : List LayoutGroup, groups.length ≤ 1 ∧
      x.Reaches groups h.scene (x.ensureParentGroup h).2.scene := by
  rcases (x.ensureParentGroup_cases h).2 with hSame | ⟨p, style, around, hParent, -, -, -, hMore⟩
  · exact ⟨[], Nat.zero_le _, hSame ▸ .refl x h.scene⟩
  · refine ⟨[groupOf style around], Nat.le_refl _, hMore ▸ reaches_of_node? rfl
      (fun id => Scene.place?_modifyComponents h.scene p id _) (fun id => ?_) fun id _ => ?_⟩
    · have hSame := sameTexts_attach h.scene p (c := .layoutGroup (groupOf style around)) nofun
      exact congrArg Option.isSome (hSame.text_eq id)
    · rw [Scene.modifyComponents, Scene.node?_modify]
      by_cases hId : id = p
      · rw [if_pos hId]
        refine congrArg (Option.map · _) (funext fun n => ?_)
        rw [withGroups, if_pos (by rw [hParent, hId])]
        rfl
      · have hOther : x.parentNode ≠ some id := by
          rw [hParent]
          exact fun hSame => hId (Option.some.inj hSame).symm
        have hStays : x.withGroups [groupOf style around] id = fun n => n :=
          funext fun n => if_neg hOther
        rw [if_neg hId, hStays, Option.map_id']

/-- A cascade changes the node of the element, its text, and the parent by one layout group at most.
A declaration by itself changes the node and its text. -/
theorem reaches_cascade (x : Subject) (st : Stage) :
    (∃ groups : List LayoutGroup, groups.length ≤ 1 ∧
      x.Reaches groups st.host.scene (x.cascade st).2.host.scene) ∧
    (∀ d, x.Reaches [] st.host.scene (x.apply d st).2.host.scene) ∧
    ∀ id, textNode? st.host.scene x.node = some id → id = x.node ∨
      id ∈ st.host.scene.children x.node ∧
        ∃ name ∈ textNames, st.host.scene.name? id = some name := by
  refine ⟨?_, fun d => reaches_of_strokes (draws_apply d st).strokes, fun id => textNode?_cases⟩
  obtain ⟨groups, hOne, hGroups⟩ := exists_reaches_ensureParentGroup x st.host
  refine ⟨groups, hOne, ?_⟩
  have hMain := draws_mainCascade x (x.tryHost x.ensureParentGroup st).2
  rw [← scene_tryHost] at hGroups
  rw [run_cascade]
  exact hGroups.trans (reaches_of_strokes hMain.strokes)

end Subject

end AnchoredUi.Styling
