import Mathlib.Logic.Function.Iterate
import AnchoredUi.Proofs.SceneGraph.Staying

/-!
# Walks

A walk from a node meets the node and everything below it, each once, and no node before the nodes
above it. That two nodes of one walk stand apart unless one is above the other is read off their
depths: above a node there is one node of each smaller depth.

A walk can be made with a stack of nodes that wait. The node on top is met, and its children take
its place, the first one on top. The nodes that were met, followed by the walks from all nodes that
wait, are the same list after each step, and each step moves one node across. So the walk is over
after as many steps as it has nodes, and has met them in the order of the recursion. On the way up
from a node, what was passed and the nodes above the last one make up one list in the same way.

Down and up are opposite: a walk from one node meets another one exactly if the first is passed on
the way up from the second. The lists of children and the parents of nodes say the same in a forest
only.

* `Forest.mem_walk_iff`: a walk meets what is below its start.
* `Forest.pairwise_walk`: what comes later in a walk is not above what came before.
* `Forest.iterate_tour`, `Forest.iterate_ascent`: a walk and a way up after any number of steps.
* `Forest.mem_ancestors_iff`: the nodes that are passed on the way up.
* `inOrder_of_reachable`: the order of the nodes in reachable scenes, and what is found first.
-/

namespace AnchoredUi.SceneGraph.Scene

variable {s : Scene} {a b x y : NodeId}

/-! ## Below and above -/

theorem below_iff : s.Below a b ↔ a = b ∨ s.IsAbove a b := Relation.reflTransGen_iff_eq_or_transGen

theorem Below.trans (h : s.Below a b) (h' : s.Below b x) : s.Below a x :=
  Relation.ReflTransGen.trans h' h

/-- What is below one of the children of a node is below the node. -/
theorem Forest.isAbove_of_below_child (h : s.Forest) (hb : b ∈ s.children a) (hx : s.Below b x) :
    s.IsAbove a x :=
  Relation.TransGen.tail' hx ((h.mem_children_iff a b).mp hb)

theorem Forest.depth_lt_of_isAbove (h : s.Forest) (ha : s.IsAbove a x) :
    s.depth a < s.depth x := by
  induction ha with
  | single hp =>
    have := h.depth_of_parent? hp
    omega
  | tail _ hp ih =>
    have := h.depth_of_parent? hp
    omega

theorem Forest.depth_le_of_below (h : s.Forest) (ha : s.Below a x) : s.depth a ≤ s.depth x := by
  rcases below_iff.mp ha with rfl | ha
  · exact Nat.le_refl _
  · exact Nat.le_of_lt (h.depth_lt_of_isAbove ha)

/-- Of two nodes that a node is below, one is below the other. -/
theorem Below.total (ha : s.Below a x) (hb : s.Below b x) : s.Below b a ∨ s.Below a b :=
  Relation.ReflTransGen.total_of_right_unique
    (fun _ _ _ hp hq => Option.some.inj (hp.symm.trans hq)) ha hb

/-- A node is below one node of each depth only. -/
theorem Forest.eq_of_below (h : s.Forest) (hDepth : s.depth a = s.depth b) (ha : s.Below a x)
    (hb : s.Below b x) : a = b := by
  rcases ha.total hb with hBelow | hBelow
  · rcases below_iff.mp hBelow with rfl | hAbove
    · rfl
    · have := h.depth_lt_of_isAbove hAbove
      omega
  · rcases below_iff.mp hBelow with rfl | hAbove
    · rfl
    · have := h.depth_lt_of_isAbove hAbove
      omega

/-! ## Walks -/

/-- Everything that a walk meets is below its start. -/
theorem Forest.below_of_mem_walk (h : s.Forest) (hx : x ∈ s.walk a) : s.Below a x := by
  induction a using h.induction_down with
  | step a ih =>
    cases hLive : s.contains a with
    | false => simp [walk_of_not_contains hLive] at hx
    | true =>
      rw [h.walk_eq hLive] at hx
      rcases List.mem_cons.mp hx with rfl | hx
      · exact Below.refl s x
      · obtain ⟨c, hc, hx⟩ := List.mem_flatMap.mp hx
        exact below_iff.mpr (.inr (h.isAbove_of_below_child hc (ih c hc hx)))

/-- A walk meets its start and everything below it, and nothing else. -/
theorem Forest.mem_walk_iff (h : s.Forest) :
    x ∈ s.walk a ↔ s.contains a = true ∧ s.Below a x := by
  constructor
  · intro hx
    refine ⟨?_, h.below_of_mem_walk hx⟩
    by_contra hDead
    simp [walk_of_not_contains (Bool.eq_false_iff.mpr hDead)] at hx
  · rintro ⟨hLive, hBelow⟩
    induction hBelow using Relation.ReflTransGen.head_induction_on with
    | refl =>
      rw [h.walk_eq hLive]
      exact List.mem_cons_self
    | head hParent _ ih => exact h.mem_walk_of_parent? ih hParent

theorem Forest.contains_of_mem_walk (h : s.Forest) (hx : x ∈ s.walk a) : s.contains x = true := by
  obtain ⟨hLive, hBelow⟩ := h.mem_walk_iff.mp hx
  rcases Relation.ReflTransGen.cases_head hBelow with rfl | ⟨p, hp, -⟩
  · exact hLive
  · exact contains_of_parent? hp

/-- What a node is below is there if the node is. -/
theorem Forest.contains_of_below (h : s.Forest) (hx : s.contains x = true) (ha : s.Below a x) :
    s.contains a = true := by
  rcases Relation.ReflTransGen.cases_tail ha with rfl | ⟨c, -, hc⟩
  · exact hx
  · exact h.contains_parent hc

/-- What comes later in a walk is neither a node that came before nor above one. -/
theorem Forest.pairwise_walk (h : s.Forest) (a : NodeId) :
    (s.walk a).Pairwise fun x y => ¬ s.Below y x := by
  induction a using h.induction_down with
  | step a ih =>
    cases hLive : s.contains a with
    | false => simp [walk_of_not_contains hLive]
    | true =>
      rw [h.walk_eq hLive]
      refine List.pairwise_cons.mpr ⟨fun y hy hBelow => ?_, List.pairwise_flatMap.mpr ⟨ih, ?_⟩⟩
      · -- the start has nothing below it above it
        obtain ⟨c, hc, hy⟩ := List.mem_flatMap.mp hy
        have hChild := h.depth_of_mem_children hc
        have hLow := h.depth_le_of_below (h.below_of_mem_walk hy)
        have hHigh := h.depth_le_of_below hBelow
        omega
      · -- a node below two children of the same node would be below two nodes of one depth
        refine (h.children_nodup a).imp_of_mem fun {c d} hc hd hNe x hx y hy hBelow => hNe ?_
        refine h.eq_of_below ?_ (h.below_of_mem_walk hx) ((h.below_of_mem_walk hy).trans hBelow)
        rw [h.depth_of_mem_children hc, h.depth_of_mem_children hd]

theorem Forest.nodup_walk (h : s.Forest) (a : NodeId) : (s.walk a).Nodup :=
  (h.pairwise_walk a).imp fun {x y} hNot (hEq : x = y) => hNot (hEq ▸ Below.refl s x)

end AnchoredUi.SceneGraph.Scene

namespace AnchoredUi.SceneGraph

/-! ## Walks on their way -/

/-- A walk on its way: the nodes that wait, the next one first, and the nodes that were met. -/
structure Tour where
  waiting : List NodeId
  met : List NodeId

namespace Tour

/-- The walk before its first step. -/
def start (id : NodeId) : Tour := ⟨[id], []⟩

/-- The next node is met. Its children are put in front of the nodes that wait, one by one and the
last one first. A node that is not there is passed over. -/
def step (s : Scene) (t : Tour) : Tour :=
  match t.waiting with
  | [] => t
  | id :: rest =>
    if s.contains id then ⟨(s.children id).foldr List.cons rest, t.met ++ [id]⟩
    else ⟨rest, t.met⟩

/-- What is still to be met. -/
def ahead (s : Scene) (t : Tour) : List NodeId := t.waiting.flatMap s.walk

/-- The nodes that wait are there. -/
def Live (s : Scene) (t : Tour) : Prop := ∀ id ∈ t.waiting, s.contains id = true

end Tour

/-- A way up: the node that was come to, and the nodes that were passed. -/
structure Ascent where
  current : NodeId
  passed : List NodeId

namespace Ascent

/-- The way up before its first step. -/
def start (id : NodeId) : Ascent := ⟨id, []⟩

/-- The parent of the node is passed, if there is one. -/
def step (s : Scene) (a : Ascent) : Ascent :=
  match s.parent? a.current with
  | some p => ⟨p, a.passed ++ [p]⟩
  | none => a

end Ascent

namespace Scene

variable {s : Scene} {a x : NodeId} {t : Tour}

/-! ## Downward -/

/-- A step of a walk moves the first node that is still to be met to those that were met. -/
theorem Forest.step_tour (h : s.Forest) (hLive : t.Live s) :
    (t.step s).Live s ∧ (t.step s).met = t.met ++ (t.ahead s).take 1 ∧
      (t.step s).ahead s = (t.ahead s).drop 1 := by
  obtain ⟨waiting, met⟩ := t
  cases waiting with
  | nil => exact ⟨hLive, (List.append_nil met).symm, rfl⟩
  | cons id rest =>
    obtain ⟨hId, hRest⟩ := List.forall_mem_cons.mp hLive
    have hAhead : Tour.ahead s ⟨id :: rest, met⟩ =
        id :: (s.children id ++ rest).flatMap s.walk := by
      rw [Tour.ahead, List.flatMap_cons, h.walk_eq hId, List.flatMap_append, List.cons_append]
    have hStep : Tour.step s ⟨id :: rest, met⟩ = ⟨s.children id ++ rest, met ++ [id]⟩ := by
      simp only [Tour.step, if_pos hId, List.foldr_cons_eq_append']
    rw [hStep, hAhead]
    refine ⟨fun c hc => ?_, rfl, rfl⟩
    rcases List.mem_append.mp hc with hc | hc
    · exact h.contains_child hc
    · exact hRest c hc

/-- A walk after any number of steps. -/
theorem Forest.iterate_tour (h : s.Forest) (hLive : t.Live s) (n : ℕ) :
    ((Tour.step s)^[n] t).Live s ∧ ((Tour.step s)^[n] t).met = t.met ++ (t.ahead s).take n ∧
      ((Tour.step s)^[n] t).ahead s = (t.ahead s).drop n := by
  induction n with
  | zero => exact ⟨hLive, (List.append_nil t.met).symm, rfl⟩
  | succ n ih =>
    obtain ⟨hNow, hMet, hAhead⟩ := ih
    obtain ⟨hNext, hMet', hAhead'⟩ := h.step_tour hNow
    rw [Function.iterate_succ_apply']
    refine ⟨hNext, ?_, ?_⟩
    · rw [hMet', hMet, hAhead, List.append_assoc, List.take_add]
    · rw [hAhead', hAhead, List.drop_drop]

/-- Something is still to be met as long as nodes wait. -/
theorem Forest.ahead_eq_nil_iff (h : s.Forest) (hLive : t.Live s) :
    t.ahead s = [] ↔ t.waiting = [] := by
  obtain ⟨waiting, met⟩ := t
  cases waiting with
  | nil => exact iff_of_true rfl rfl
  | cons id rest =>
    have hWalk := h.walk_eq (hLive id List.mem_cons_self)
    simp [Tour.ahead, hWalk]

/-! ## Upward -/

/-- A way up after any number of steps. -/
theorem Forest.iterate_ascent (h : s.Forest) (x : NodeId) (n : ℕ) :
    ((Ascent.step s)^[n] (.start x)).passed = (s.ancestors x).take n ∧
      s.ancestors ((Ascent.step s)^[n] (.start x)).current = (s.ancestors x).drop n := by
  induction n with
  | zero => exact ⟨rfl, rfl⟩
  | succ n ih =>
    obtain ⟨hPassed, hAbove⟩ := ih
    rw [Function.iterate_succ_apply', List.take_add, ← List.drop_drop, ← hPassed, ← hAbove,
      h.ancestors_eq ((Ascent.step s)^[n] (.start x)).current, Ascent.step]
    cases hp : s.parent? ((Ascent.step s)^[n] (.start x)).current with
    | none =>
      rw [h.ancestors_eq, hp]
      exact ⟨(List.append_nil _).symm, rfl⟩
    | some p => exact ⟨rfl, rfl⟩

theorem Forest.ancestors_eq_nil_iff (h : s.Forest) : s.ancestors x = [] ↔ s.parent? x = none := by
  rw [h.ancestors_eq]
  cases s.parent? x <;> simp

/-- Each node above a node is the parent of the one before, and the last one has no parent. -/
theorem Forest.upward (h : s.Forest) (x : NodeId) :
    (x :: s.ancestors x).IsChain (fun c p => s.parent? c = some p) ∧
      s.parent? ((x :: s.ancestors x).getLast (List.cons_ne_nil _ _)) = none := by
  induction x using h.induction_up with
  | step x ih =>
    cases hp : s.parent? x with
    | none => simp [h.ancestors_eq_nil_iff.mpr hp, hp]
    | some p =>
      have hAncestors : s.ancestors x = p :: s.ancestors p := by rw [h.ancestors_eq, hp]
      obtain ⟨hChain, hTop⟩ := ih p hp
      simp only [hAncestors, List.getLast_cons_cons]
      exact ⟨hChain.cons_cons hp, hTop⟩

/-- The nodes that are passed on the way up are those above the node. -/
theorem Forest.mem_ancestors_iff (h : s.Forest) : a ∈ s.ancestors x ↔ s.IsAbove a x := by
  induction x using h.induction_up with
  | step x ih =>
    rw [h.ancestors_eq, IsAbove, Relation.TransGen.head'_iff]
    cases hp : s.parent? x with
    | none => simp
    | some p =>
      have hRest : s.Below a p ↔ a = p ∨ a ∈ s.ancestors p := by rw [below_iff, ih p hp]
      simp only [List.mem_cons, Option.some.injEq, exists_eq_left']
      exact hRest.symm

theorem Forest.nodup_ancestors (h : s.Forest) (x : NodeId) : (x :: s.ancestors x).Nodup := by
  obtain ⟨rank, hRank⟩ := h.ranked
  exact nodup_ancestorsWithin hRank s.size x

/-! ## Searches -/

/-- The first node of a name in a list, if there is one. -/
inductive FirstNamed (s : Scene) (name : String) : List NodeId → Option NodeId → Prop
  | nowhere {ids : List NodeId} (hNone : ∀ x ∈ ids, s.name? x ≠ some name) :
    FirstNamed s name ids none
  | behind {before after : List NodeId} {id : NodeId} (hNone : ∀ x ∈ before, s.name? x ≠ some name)
      (hName : s.name? id = some name) : FirstNamed s name (before ++ id :: after) (some id)

theorem firstNamed_find? (s : Scene) (name : String) (ids : List NodeId) :
    s.FirstNamed name ids (ids.find? fun id => s.name? id == some name) := by
  cases hFind : ids.find? fun id => s.name? id == some name with
  | none => exact .nowhere fun x hx => by simpa using List.find?_eq_none.mp hFind x hx
  | some id =>
    obtain ⟨hName, before, after, rfl, hNone⟩ := List.find?_eq_some_iff_append.mp hFind
    exact .behind (fun x hx => by simpa using hNone x hx) (by simpa using hName)

/-! ## The order of the nodes -/

/-- In which order the nodes of a scene are met. A walk is made in as many steps as it has nodes; it
is the node and then the walks from its children, with each node once. The way up leads from each
node to its parent and ends at the top. A walk from `a` meets `x` exactly if it starts there or `a`
is above `x`. What is searched is found where such a walk meets it first; all nodes with a component
are found in the order of the walk. -/
structure InOrder (s : Scene) : Prop where
  tour : ∀ a, s.contains a = true → ∀ n,
    ((Tour.step s)^[n] (.start a)).met = (s.walk a).take n ∧
      (((Tour.step s)^[n] (.start a)).waiting = [] ↔ (s.walk a).length ≤ n)
  walk_eq : ∀ a, s.contains a = true → s.walk a = a :: (s.children a).flatMap s.walk
  walk_nodup : ∀ a, (s.walk a).Nodup
  mem_walk_iff : ∀ a x, s.contains a = true → (x ∈ s.walk a ↔ x = a ∨ a ∈ s.ancestors x)
  ascent : ∀ x n, ((Ascent.step s)^[n] (.start x)).passed = (s.ancestors x).take n ∧
    (s.parent? ((Ascent.step s)^[n] (.start x)).current = none ↔ (s.ancestors x).length ≤ n)
  upward : ∀ x, (x :: s.ancestors x).IsChain (fun c p => s.parent? c = some p) ∧
    s.parent? ((x :: s.ancestors x).getLast (List.cons_ne_nil _ _)) = none
  ancestors_nodup : ∀ x, (x :: s.ancestors x).Nodup
  findByName : ∀ r name, s.root = some r → s.FirstNamed name (s.walk r) (s.findByName? name)
  findIn : ∀ a name, s.contains a = true →
    s.FirstNamed name ((s.children a).flatMap s.walk) (s.findIn? a name)
  withComponent : ∀ r kind, s.root = some r → (s.withComponent kind).Sublist (s.walk r) ∧
    ∀ x, x ∈ s.withComponent kind ↔ x ∈ s.walk r ∧ s.has kind x = true
  rootless : s.root = none → ∀ name kind,
    s.findByName? name = none ∧ s.withComponent kind = []

/-- The nodes of reachable scenes are met in order. -/
theorem inOrder_of_reachable (hReachable : s.Reachable) : s.InOrder := by
  have h := hReachable.forest
  have hFromRoot {r : NodeId} (hRoot : s.root = some r) : s.fromRoot = s.walk r := by
    rw [fromRoot, hRoot]
  refine ⟨fun a hLive n => ?_, fun a => h.walk_eq, h.nodup_walk, fun a x hLive => ?_,
    fun x n => ?_, h.upward, h.nodup_ancestors, fun r name hRoot => ?_, fun a name hLive => ?_,
    fun r kind hRoot => ?_, fun hNone name kind => ?_⟩
  · have hStart : (Tour.start a).Live s := by simpa [Tour.Live, Tour.start] using hLive
    have hAll : (Tour.start a).ahead s = s.walk a := List.flatMap_singleton s.walk a
    obtain ⟨hNow, hMet, hAhead⟩ := h.iterate_tour hStart n
    rw [hAll] at hMet hAhead
    refine ⟨hMet, ?_⟩
    rw [← h.ahead_eq_nil_iff hNow, hAhead, List.drop_eq_nil_iff]
  · rw [h.mem_walk_iff, below_iff, h.mem_ancestors_iff, and_iff_right hLive, eq_comm]
  · obtain ⟨hPassed, hAbove⟩ := h.iterate_ascent x n
    refine ⟨hPassed, ?_⟩
    rw [← h.ancestors_eq_nil_iff, hAbove, List.drop_eq_nil_iff]
  · rw [findByName?, hFromRoot hRoot]
    exact s.firstNamed_find? name _
  · rw [findIn?, descendants, h.walk_eq hLive]
    exact s.firstNamed_find? name _
  · rw [withComponent, hFromRoot hRoot]
    exact ⟨List.filter_sublist, fun x => List.mem_filter⟩
  · simp [findByName?, withComponent, fromRoot, hNone]

/-- A panel was taken out and its slot filled again, so the last node of the scene stands in the
second slot. A walk meets it after the nodes below the first child of the root. -/
theorem inOrder_of_reachable_refilled :
    let canvas : NodeId := ⟨0, 1⟩
    let row : NodeId := ⟨2, 1⟩
    let icon : NodeId := ⟨3, 1⟩
    let footer : NodeId := ⟨1, 3⟩
    let ops : List Operation := [.create "Panel" canvas, .create "Row" canvas,
      .create "Icon" row, .destroy ⟨1, 1⟩, .create "Icon" canvas]
    let s := Operation.runAll ops (withCanvas 800 600)
    s.Reachable ∧ s.walk canvas = [canvas, row, icon, footer] ∧ s.ancestors icon = [row, canvas] ∧
      s.findByName? "Icon" = some icon ∧ s.InOrder := by
  intro canvas row icon footer ops s
  have hReachable : s.Reachable := ⟨ops, Or.inr ⟨800, 600, rfl⟩⟩
  exact ⟨hReachable, by decide +kernel, by decide +kernel, by decide +kernel,
    inOrder_of_reachable hReachable⟩

end Scene

end AnchoredUi.SceneGraph
