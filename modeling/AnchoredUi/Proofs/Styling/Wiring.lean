import AnchoredUi.Proofs.SceneGraph.Staying
import AnchoredUi.Proofs.Styling.Outfit

/-!
# Styling leaves references alone

The references between nodes are made when a widget is built. Styling attaches only components that
refer to nothing, and changes only such components, so all nodes refer to what they did. The nodes
referred to stay where they are, and carry at least what they carried.

* `Scene.references`: the references of a node.
* `Scene.Carries`: from one scene to another one, references and what they need were kept.
* `Touch.carries`, `carries_cascade`: one change, and a whole cascade.
-/

namespace AnchoredUi.SceneGraph

namespace Scene

variable {s t r : Scene} {id : NodeId}

/-- The references of the components of a node. -/
def references (s : Scene) (id : NodeId) : List (Reference NodeId) :=
  (s.components id).flatMap Component.references

/-- A node is in the second scene and not in the first one. -/
structure New (s t : Scene) (id : NodeId) : Prop where
  live : t.contains id = true
  fresh : s.contains id = false

/-- A reference of the node `id` leads to the node itself or to one below it, which is one of the
given nodes and carries what the reference is for. -/
def Leads (s : Scene) (own : NodeId → Prop) (id : NodeId) (r : Reference NodeId) : Prop :=
  ∃ target, r.target = some target ∧ s.contains target = true ∧ own target ∧
    s.Below id target ∧ ∀ kind, r.needs = some kind → kind ∈ s.kinds target

/-- The nodes stay, refer to what they did, and carry components of the kinds that they carried. -/
structure Carries (s t : Scene) : Prop where
  stays : Stays s t
  references_eq : ∀ id, s.contains id = true → t.references id = s.references id
  kinds_kept : ∀ id, s.contains id = true → ∀ kind ∈ s.kinds id, kind ∈ t.kinds id

theorem Carries.refl (hs : s.Forest) : Carries s s := ⟨.refl hs, fun _ _ => rfl, fun _ _ _ h => h⟩

theorem Carries.trans (h : Carries s t) (h' : Carries t r) : Carries s r := by
  refine ⟨h.stays.trans h'.stays, fun id hId => ?_, fun id hId kind hKind => ?_⟩
  · rw [h'.references_eq id (h.stays.contains id hId), h.references_eq id hId]
  · exact h'.kinds_kept id (h.stays.contains id hId) kind (h.kinds_kept id hId kind hKind)

/-- A reference leads where it did. -/
theorem Leads.carries {own : NodeId → Prop} {r : Reference NodeId} (h : s.Leads own id r)
    (hCarries : Carries s t) : t.Leads own id r := by
  obtain ⟨target, hTarget, hLive, hOwn, hBelow, hNeeds⟩ := h
  refine ⟨target, hTarget, hCarries.stays.contains target hLive, hOwn,
    hBelow.stays hCarries.stays, fun kind hKind => ?_⟩
  exact hCarries.kinds_kept target hLive kind (hNeeds kind hKind)

/-- Nodes that keep their components keep all that is said here. -/
theorem Stays.carries (h : Stays s t)
    (hComponents : ∀ id, s.contains id = true → t.components id = s.components id) :
    Carries s t := by
  refine ⟨h, fun id hId => ?_, fun id hId kind hKind => ?_⟩
  · rw [references, hComponents id hId, references]
  · rw [kinds, hComponents id hId]
    exact hKind

/-- A change of a node that keeps its name and references, and components of all its kinds. -/
theorem carries_modify (hs : s.Forest) (id : NodeId) {f : Node → Node}
    (hName : ∀ n, (f n).name = n.name)
    (hReferences : ∀ n, (f n).components.flatMap Component.references =
      n.components.flatMap Component.references)
    (hKinds : ∀ n, ∀ kind ∈ n.components.map Component.kind,
      kind ∈ (f n).components.map Component.kind) :
    Carries s (s.modify id f) := by
  refine ⟨stays_modify hs id hName, fun other _ => ?_, fun other _ kind hKind => ?_⟩
  · simp only [references, components, node?_modify]
    split
    · cases s.node? other with
      | none => rfl
      | some n => exact hReferences n
    · rfl
  · simp only [kinds, components, node?_modify] at hKind ⊢
    split
    · cases hNode : s.node? other with
      | none =>
        rw [hNode] at hKind
        exact hKind
      | some n =>
        rw [hNode] at hKind
        exact hKinds n kind hKind
    · exact hKind

theorem carries_attach (hs : s.Forest) (id : NodeId) {c : Component NodeId}
    (hLoose : c.kind ∈ looseKinds) : Carries s (s.modifyComponents id (· ++ [c])) := by
  refine carries_modify hs id (fun _ => rfl) (fun n => ?_) fun n kind hKind => ?_
  · rw [List.flatMap_append, List.flatMap_singleton, references_eq_nil hLoose, List.append_nil]
  · rw [List.map_append]
    exact List.mem_append_left _ hKind

theorem carries_modifyFirst {α : Type} [ComponentType α] [Loose α] (hs : s.Forest) (id : NodeId)
    (f : α → α) : Carries s (s.modifyComponents id (modifyFirst f)) := by
  refine carries_modify hs id (fun _ => rfl) (fun n => ?_) fun n kind hKind => ?_
  · exact references_modifyFirst f n.components
  · rw [kinds_modifyFirst]
    exact hKind

end Scene

end AnchoredUi.SceneGraph

namespace AnchoredUi.Styling.Subject

open SceneGraph

variable {x : Subject} {s t : Scene}

theorem Touch.carries (h : x.Touch s t) (hs : s.Forest) : Scene.Carries s t := by
  cases h with
  | rect r => exact Scene.carries_modify hs _ (fun _ => rfl) (fun _ => rfl) fun _ _ h => h
  | active flag => exact Scene.carries_modify hs _ (fun _ => rfl) (fun _ => rfl) fun _ _ h => h
  | attach c hNew => exact Scene.carries_attach hs _ hNew.loose
  | change f => exact Scene.carries_modifyFirst hs _ f
  | text _ f => exact Scene.carries_modifyFirst hs _ f
  | group _ _ _ _ around =>
    have hLoose : ComponentKind.layoutGroup ∈ looseKinds := by decide
    exact Scene.carries_attach hs _ hLoose

theorem carries_of_touches (h : Relation.ReflTransGen x.Touch s t) (hs : s.Forest) :
    Scene.Carries s t := by
  induction h with
  | refl => exact .refl hs
  | tail _ hTouch ih => exact ih.trans (hTouch.carries ih.stays.forest)

/-- Whatever the host refuses, styling leaves all references as they are. -/
theorem carries_cascade (x : Subject) {st : Stage} (hs : st.host.scene.Forest) :
    Scene.Carries st.host.scene (x.cascade st).2.host.scene :=
  carries_of_touches (x.keeps_cascade st).touches hs

end AnchoredUi.Styling.Subject
