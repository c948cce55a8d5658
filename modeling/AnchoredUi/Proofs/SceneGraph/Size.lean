import AnchoredUi.Proofs.SceneGraph.Bare
import AnchoredUi.Proofs.SceneGraph.Walk

/-!
# Sizes from the outermost node on

The size of a node is asked for from below: it depends on the size of the parent, which depends on
that of its own parent. Nothing that is asked for gets smaller on the way, so the question has an
answer only because no node is above itself. From above, the answer is made without a question: the
outermost rectangle is measured in an empty parent, and each further one in the size that came out
before. What stands beside this way down does not count.

* `Forest.measures_iff`: the question for a size has one answer.
* `Forest.exists_outer`: the size of the parent is made of the rectangles above the node.
* `kept_runAll`: other rectangles can be changed in any order, and those above a node stay.
* `sized_of_reachable`: all this of each node of a reachable scene.
-/

namespace AnchoredUi.SceneGraph

open Number Plane

/-- The operation gives one node another rectangle, and does nothing else. -/
inductive Operation.Reshapes (m : NodeId) : Operation → Prop
  | setRect (r : Rect Single) : Reshapes m (.setRect m r)
  | updateRect (f : Rect Single → Rect Single) : Reshapes m (.updateRect m f)
  | edit (f : Rect Single → Rect Single) : Reshapes m (.edit m fun n => { n with rect := f n.rect })

namespace Scene

variable {s t : Scene} {id m n : NodeId}

/-! ## The question and its answer -/

/-- What is answered to the question for a size: a node that is not there is empty, one without a
parent is measured in an empty one, and any other one in the size of its parent. A question that
leads round in a circle has no answer. -/
inductive Measures (s : Scene) : NodeId → Size Single → Prop
  | missing {id : NodeId} (hRect : s.rect? id = none) : Measures s id .zero
  | top {id : NodeId} {r : Rect Single} (hRect : s.rect? id = some r)
    (hTop : s.parent? id = none) : Measures s id (r.size .zero)
  | inside {id p : NodeId} {r : Rect Single} {size : Size Single} (hRect : s.rect? id = some r)
    (hParent : s.parent? id = some p) (hSize : Measures s p size) : Measures s id (r.size size)

/-- In a forest each question for a size is answered, by the size of the node and by no other. -/
theorem Forest.measures_iff (h : s.Forest) {size : Size Single} :
    s.Measures id size ↔ size = s.sizeOf id := by
  constructor
  · intro hMeasures
    induction hMeasures with
    | missing hRect => exact (size_eq_zero hRect).symm
    | top hRect hTop => rw [h.sizeOf_eq hRect, parentSize, hTop]
    | inside hRect hParent _ ih => rw [h.sizeOf_eq hRect, parentSize, hParent, ih]
  · rintro rfl
    induction id using h.induction_up with
    | step id ih =>
      cases hRect : s.rect? id with
      | none =>
        rw [size_eq_zero hRect]
        exact .missing hRect
      | some r =>
        rw [h.sizeOf_eq hRect, parentSize]
        cases hParent : s.parent? id with
        | none => exact .top hRect hParent
        | some p => exact .inside hRect hParent (ih p hParent)

/-! ## From the outermost node on -/

/-- The size that rectangles inside one another come to, the outermost one first. -/
def nested (rs : List (Rect Single)) : Size Single := rs.foldl (fun size r => r.size size) .zero

theorem nested_concat (rs : List (Rect Single)) (r : Rect Single) :
    nested (rs ++ [r]) = r.size (nested rs) := List.foldl_concat ..

/-- The nodes above a node have rectangles, and the size of its parent is made of them. -/
theorem Forest.exists_outer (h : s.Forest) (id : NodeId) :
    ∃ outer, List.Forall₂ (fun a r => s.rect? a = some r) (s.ancestors id).reverse outer ∧
      s.parentSize id = nested outer := by
  induction id using h.induction_up with
  | step id ih =>
    rw [h.ancestors_eq, parentSize]
    cases hParent : s.parent? id with
    | none => exact ⟨[], .nil, rfl⟩
    | some p =>
      obtain ⟨outer, hOuter, hSize⟩ := ih p hParent
      obtain ⟨r, hRect⟩ := rect?_of_contains (h.contains_parent hParent)
      refine ⟨outer ++ [r], ?_, ?_⟩
      · rw [List.reverse_cons]
        exact List.rel_append hOuter (.cons hRect .nil)
      · rw [nested_concat, ← hSize]
        exact h.sizeOf_eq hRect

/-! ## Other rectangles -/

/-- A node and the nodes above it have kept their rectangles, and no others need to have. -/
structure Kept (s : Scene) (n : NodeId) (t : Scene) : Prop where
  bare : t.bare = s.bare
  rect : ∀ a ∈ n :: s.ancestors n, t.rect? a = s.rect? a

theorem Kept.refl (s : Scene) (n : NodeId) : s.Kept n s := ⟨rfl, fun _ _ => rfl⟩

/-- An operation that gives a node another rectangle leaves all other rectangles as they are. -/
theorem bare_run_of_reshapes {op : Operation} (h : op.Reshapes m) (t : Scene) :
    (op.run t).bare = t.bare ∧ ∀ a, a ≠ m → (op.run t).rect? a = t.rect? a := by
  have hSet (r : Rect Single) :
      (t.setRect m r).bare = t.bare ∧ ∀ a, a ≠ m → (t.setRect m r).rect? a = t.rect? a :=
    ⟨bare_setRect t m r, fun a hNe => by rw [rect?_setRect, if_neg hNe]⟩
  cases h with
  | setRect r =>
    rcases Host.scene_setRect m r (Host.ofScene t) with hRun | hRun
    · rw [Operation.run, Operation.through, hRun]
      exact ⟨rfl, fun _ _ => rfl⟩
    · rw [Operation.run, Operation.through, hRun]
      exact hSet r
  | updateRect f =>
    rcases Host.scene_updateRect m f (Host.ofScene t) with hRun | ⟨r, hRun⟩
    · rw [Operation.run, Operation.through, hRun]
      exact ⟨rfl, fun _ _ => rfl⟩
    · rw [Operation.run, Operation.through, hRun]
      exact hSet r
  | edit f =>
    refine ⟨?_, fun a hNe => ?_⟩
    · have hNodes := Arena.map_modify (f := Entry.bare)
        (g := fun e => { e with node := { e.node with rect := f e.node.rect } }) (fun _ => rfl)
        t.nodes m
      exact congrArg (mk · t.root) hNodes
    · simp [Operation.run, rect?, node?_modify, hNe]

/-- A node and those above it keep their rectangles while others are given to other nodes. -/
theorem kept_runAll (ops : List Operation)
    (hOps : ∀ op ∈ ops, ∃ m, m ∉ n :: s.ancestors n ∧ op.Reshapes m) (ht : s.Kept n t) :
    s.Kept n (Operation.runAll ops t) := by
  induction ops generalizing t with
  | nil => exact ht
  | cons op ops ih =>
    obtain ⟨hOp, hRest⟩ := List.forall_mem_cons.mp hOps
    obtain ⟨m, hApart, hReshapes⟩ := hOp
    obtain ⟨hBare, hRect⟩ := bare_run_of_reshapes hReshapes t
    refine ih hRest ⟨hBare.trans ht.bare, fun a ha => ?_⟩
    rw [hRect a (by rintro rfl; exact hApart ha), ht.rect a ha]

/-- The size of a node depends on what is kept only. -/
theorem Forest.sizeOf_of_kept (h : s.Forest) (ht : s.Kept n t) : t.sizeOf n = s.sizeOf n := by
  refine h.sizeOf_of_below ht.bare rfl fun a ha => ht.rect a ?_
  rwa [List.mem_cons, h.mem_ancestors_iff, ← below_iff]

/-! ## Sizes in reachable scenes -/

/-- Where the size of a node comes from. The question for it comes to an end with one answer. That
of its parent is made of the rectangles of the nodes above it, the outermost one first, and that of
the node of these and its own. Operations that give other rectangles to other nodes leave it. -/
structure Sized (s : Scene) (n : NodeId) : Prop where
  measures_iff : ∀ size, s.Measures n size ↔ size = s.sizeOf n
  nested : ∃ outer own,
    List.Forall₂ (fun a r => s.rect? a = some r) (s.ancestors n).reverse outer ∧
      s.rect? n = some own ∧ s.parentSize n = nested outer ∧
        s.sizeOf n = nested (outer ++ [own])
  apart : ∀ ops : List Operation,
    (∀ op ∈ ops, ∃ m, m ∉ n :: s.ancestors n ∧ op.Reshapes m) →
      (Operation.runAll ops s).sizeOf n = s.sizeOf n

theorem sized_of_reachable (hReachable : s.Reachable) (hLive : s.contains n = true) :
    s.Sized n := by
  have h := hReachable.forest
  refine ⟨fun size => h.measures_iff, ?_, fun ops hOps => ?_⟩
  · obtain ⟨outer, hOuter, hSize⟩ := h.exists_outer n
    obtain ⟨own, hOwn⟩ := rect?_of_contains hLive
    refine ⟨outer, own, hOuter, hOwn, hSize, ?_⟩
    rw [nested_concat, ← hSize, h.sizeOf_eq hOwn]
  · exact h.sizeOf_of_kept (kept_runAll ops hOps (.refl s n))

/-- A row that spans half of its panel, between another rectangle above it and one below it. -/
theorem sized_of_reachable_row :
    let canvas : NodeId := ⟨0, 1⟩
    let panel : NodeId := ⟨1, 1⟩
    let row : NodeId := ⟨2, 1⟩
    let half : Rect Single :=
      { anchorMin := ⟨0, 0⟩, anchorMax := ⟨1 / 2, 1⟩, pivot := ⟨0, 0⟩, position := ⟨0, 0⟩,
        sizeDelta := ⟨0, 0⟩ }
    let ops : List Operation := [.create "Panel" canvas, .create "Row" panel, .create "Icon" row,
      .setRect panel (.centered 300 40), .setRect row half]
    let s := Operation.runAll ops (withCanvas 800 600)
    s.Reachable ∧ s.contains row = true ∧ s.ancestors row = [panel, canvas] ∧
      s.sizeOf row = ⟨150, 40⟩ ∧ s.Sized row := by
  intro canvas panel row half ops s
  have hReachable : s.Reachable := ⟨ops, Or.inr ⟨800, 600, rfl⟩⟩
  exact ⟨hReachable, by decide +kernel, by decide +kernel, by decide +kernel,
    sized_of_reachable hReachable (by decide +kernel)⟩

end Scene

end AnchoredUi.SceneGraph
