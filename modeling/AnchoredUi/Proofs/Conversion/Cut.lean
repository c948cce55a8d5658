import AnchoredUi.Proofs.Conversion.Account
import AnchoredUi.Proofs.Conversion.Early
import AnchoredUi.Proofs.SceneGraph.Cut

/-!
# Conversions that differ by one tree

Two conversions run side by side, and the first one converts a tree more. Its nodes are cut off in
thought: without them the stages are twins. They stay so while both go on with the same elements,
since what these get is decided by the nodes above them. The layout group that the tree gave its
parent is given by its siblings as well.

* `CutStages`: stages that are twins but for a branch.
* `cutStages_of_visit`: a tree is converted on the first side only.
* `CutStages.visit`, `CutStages.visitAll`: both sides go on.
-/

namespace AnchoredUi.Styling

open Number Plane SceneGraph Style Sprite

/-! ## The layout group that is asked for -/

section GroupAsked

variable {s t : Scene} {u v : NodeId}

/-- Alike styles ask for the same group, where the nodes have the same group and size. -/
theorem groupAsked_eq {d d' : Option Declarations} (hStyles : Option.Rel AlikeStyles d d')
    (hGroup : s.component? LayoutGroup u = t.component? LayoutGroup v)
    (hSize : s.sizeOf u = t.sizeOf v) (canvas : Size Single) (fontSize : Single) :
    groupAsked d canvas fontSize s u = groupAsked d' canvas fontSize t v := by
  cases hStyles with
  | none => rfl
  | @some d d' hStyles =>
    simp only [groupAsked, hStyles.asks_eq, hGroup, hSize]
    split
    · rename_i hAsks
      rw [hStyles.groupOf_eq (hStyles.asks_eq.trans (Bool.and_eq_true_iff.mp hAsks).1)]
    · rfl

theorem alike_groupAsked (R : NodeId → NodeId → Prop) (d : Option Declarations)
    (canvas : Size Single) (fontSize : Single) (s : Scene) (u : NodeId) :
    List.Forall₂ (Component.Alike R) (groupAsked d canvas fontSize s u)
      (groupAsked d canvas fontSize s u) := by
  unfold groupAsked
  cases d with
  | none => exact .nil
  | some style =>
    simp only
    split
    · exact .cons (Unlinked.alike_wrap R (groupOf style _)) .nil
    · exact .nil

/-- The group may be attached to corresponding nodes of twin scenes. -/
theorem twins_groupAsked {G : Grounds} {R : NodeId → NodeId → Prop} (hG : G.Level)
    (h : Scene.Twins G R s t) (huv : G.Under R u v) (d : Option Declarations)
    (canvas : Size Single) (fontSize : Single) :
    Scene.Twins G R (s.modifyComponents u (· ++ groupAsked d canvas fontSize s u))
      (t.modifyComponents v (· ++ groupAsked d canvas fontSize s u)) := by
  have hNone :
      Scene.Twins G R (s.modifyComponents u (· ++ [])) (t.modifyComponents v (· ++ [])) := by
    rw [Scene.modifyComponents_nil, Scene.modifyComponents_nil]
    exact h
  unfold groupAsked
  cases d with
  | none => exact hNone
  | some style =>
    simp only
    split
    · exact h.attachGroup hG huv _
    · exact hNone

end GroupAsked

/-- The stage without a branch of its scene. -/
def Stage.without (z : NodeId) (st : Stage) : Stage :=
  { st with host := { st.host with scene := st.host.scene.without z } }

end AnchoredUi.Styling

namespace AnchoredUi.Conversion

open Number Plane SceneGraph Sprite Markup Style Kind Widget Styling

/-! ## Stages that differ by a branch -/

/-- Two stages that are twins without a branch of the first one. -/
structure CutStages (G : Grounds) (R : NodeId → NodeId → Prop) (answers : String → Option Sprite)
    (extra : List Warning) (z : NodeId) (st st' : Stage) : Prop where
  forest : st.host.scene.Forest
  live : st.host.scene.contains z = true
  twins : TwinStages G R answers extra (st.without z) st'

/-- The results of two visits on stages that differ by a branch. -/
def CutNodes (G : Grounds) (R : NodeId → NodeId → Prop) (answers : String → Option Sprite)
    (extra : List Warning) (z : NodeId) (run run' : List NodeId × Stage) : Prop :=
  ∃ R', (∀ a b, R a b → R' a b) ∧ List.Forall₂ R' run.1 run'.1 ∧
    CutStages G R' answers extra z run.2 run'.2

variable {G : Grounds} {R : NodeId → NodeId → Prop} {answers : String → Option Sprite}
  {extra : List Warning} {z u v : NodeId} {st st' : Stage}

/-- A tree is converted on the first side only. Its parent gets the layout group that is asked for,
and is given the same on the second side. -/
theorem cutStages_of_visit (hG : G.Level) (huv : G.Under R u v)
    (h : TwinStages G R answers extra st st') (job : Job) (x : Element) (pe : Option Element) :
    ∃ z created st₁ ws, job.visit x pe u st = (created, st₁) ∧
      Visited job x st.host.scene u z created st₁.host.scene ∧
      CutStages G R answers (extra ++ ws) z st₁
        (st'.given v (job.groupFor pe st.host.scene u)) := by
  have hs := h.scenes.left_forest
  obtain ⟨hu, -⟩ := h.scenes.under_contains hG huv
  obtain ⟨z, created, st₁, hVisit, hOwner, hVisited⟩ := exists_visit job x pe h.left_willing hs hu
  have hAccount := accounts_visit job x pe h.left_willing hs hu
  have hComponents := components_visit job x pe h.left_willing hs hu
  rw [hVisit] at hAccount hComponents
  have hGrown := hVisited.placed.grown
  have hMem : z ∈ created := List.mem_of_getLast? hVisited.last_eq
  have hNew := hVisited.placed.fresh z hMem
  have hLive := hVisited.placed.live z hMem
  obtain ⟨ws, hWarnings⟩ : ∃ ws, st₁.warnings = st.warnings ++ ws := ⟨_, hAccount.warnings_eq⟩
  have hAhead := h.ahead.extra ws
  rw [← hWarnings] at hAhead
  refine ⟨z, created, st₁, ws, hVisit, hVisited, hGrown.forest, hLive,
    hOwner.willing h.left_willing, h.right_willing, hOwner.2.trans h.arranges_eq, ?_,
    fun address => ?_, h.right_answer, hAhead⟩
  · exact (twins_groupAsked hG h.scenes huv _ _ _).of_kept (hGrown.forest.without hLive)
      (hGrown.root_without hs hNew)
      (fun _ _ he => hGrown.find?_without hs hNew hLive hComponents he) hG
  · exact (congrFun hAccount.answer_eq address).trans (h.left_answer address)

/-- The nodes below which both go on are there, and not in the branch. -/
theorem CutStages.outside (h : CutStages G R answers extra z st st') (hG : G.Level)
    (huv : G.Under R u v) :
    (st.host.scene.without z).contains u = true ∧ u ∉ st.host.scene.below z ∧
      st.host.scene.contains u = true ∧ st'.host.scene.contains v = true := by
  obtain ⟨hu, hv⟩ := h.twins.scenes.under_contains hG huv
  obtain ⟨hOut, hLive⟩ := Scene.outside_of_contains h.forest hu
  exact ⟨hu, hOut, hLive, hv⟩

section Visit

variable (h : CutStages G R answers extra z st st') (hG : G.Level) (huv : G.Under R u v)
include h hG huv

theorem CutStages.sizeOf_eq_under : st.host.scene.sizeOf u = st'.host.scene.sizeOf v := by
  rw [← Scene.sizeOf_without h.forest h.live (h.outside hG huv).1]
  exact h.twins.scenes.sizeOf_eq_under hG huv

theorem CutStages.group_eq_under :
    st.host.scene.component? LayoutGroup u = st'.host.scene.component? LayoutGroup v := by
  rw [← Scene.component?_without h.forest (h.outside hG huv).2.1]
  exact h.twins.scenes.group_eq_under huv

/-- With the branch in its place, the stages are level grounds for what is new below corresponding
nodes. -/
theorem CutStages.restart : Grounds.Level ⟨st.host.scene, st'.host.scene, u, v⟩ ∧
    TwinStages ⟨st.host.scene, st'.host.scene, u, v⟩ (fun _ _ => False) answers extra st st' := by
  obtain ⟨-, -, hu, hv⟩ := h.outside hG huv
  have hNewG : Grounds.Level ⟨st.host.scene, st'.host.scene, u, v⟩ :=
    ⟨h.forest, h.twins.scenes.right_forest, hu, hv, h.sizeOf_eq_under hG huv⟩
  exact ⟨hNewG, h.twins.left_willing, h.twins.right_willing, h.twins.arranges_eq,
    Scene.twins_start hNewG (h.group_eq_under hG huv), h.twins.left_answer, h.twins.right_answer,
    h.twins.ahead⟩

/-- Both sides go on with the same element. -/
theorem CutStages.visit (job : Job) (e : Element) {pe pe' : Element}
    (hParent : AlikeStyles (job.sheet.declared pe) (job.sheet.declared pe')) :
    CutNodes G R answers extra z (job.visit e (some pe) u st) (job.visit e (some pe') v st') := by
  obtain ⟨-, hOut, hu, hv⟩ := h.outside hG huv
  have hs := h.forest
  have ht := h.twins.scenes.right_forest
  have hw : st.host.Willing := h.twins.left_willing
  have hw' := h.twins.right_willing
  have hSome : Option.Rel AlikeStyles ((some pe).map job.sheet.declared)
      ((some pe').map job.sheet.declared) := .some hParent
  -- what is new is compared as it runs, with the branch in its place
  obtain ⟨hNewG, hStart⟩ := h.restart hG huv
  obtain ⟨R₁, -, hNodes, hAfter⟩ := twins_visit hNewG ⟨rfl, rfl, rfl⟩ (Or.inr ⟨rfl, rfl⟩) hStart
    (akinTree_refl job.sheet e) hSome
  have hComponents := components_visit job e (some pe) hw hs hu
  have hComponents' := components_visit job e (some pe') hw' ht hv
  have hAsked : job.groupFor (some pe) st.host.scene u = job.groupFor (some pe') st'.host.scene v :=
    groupAsked_eq hSome (h.group_eq_under hG huv) (h.sizeOf_eq_under hG huv) _ _
  rw [← hAsked] at hComponents'
  obtain ⟨a, created, st₁, hVisit, -, hVisited⟩ := exists_visit job e (some pe) hw hs hu
  obtain ⟨b, created', st₁', hVisit', -, hVisited'⟩ := exists_visit job e (some pe') hw' ht hv
  rw [hVisit] at hComponents
  rw [hVisit'] at hComponents'
  rw [hVisit, hVisit'] at hNodes hAfter ⊢
  have hab : R₁ a b := by
    have hLasts := rel_getLast? hNodes
    rw [hVisited.last_eq, hVisited'.last_eq] at hLasts
    cases hLasts with
    | some hab => exact hab
  -- and then the branch is cut off on both ends of the visit
  have hGrown := hVisited.placed.grown
  have hOut₁ : u ∉ st₁.host.scene.below z := fun hMem =>
    hOut ((hGrown.below_iff hs h.live hOut u).mp hMem)
  rw [← Scene.components_without hGrown.forest hOut₁, ← Scene.components_without hs hOut]
    at hComponents
  have hScenes := h.twins.scenes.extend hG huv (hGrown.without hs h.live hOut hu)
    hVisited'.placed.grown (hAfter.scenes.without hs h.live hu hOut) hab hComponents hComponents'
    (alike_groupAsked _ _ _ _ _ _)
  refine ⟨Scene.joined R R₁, fun _ _ => Or.inl, hNodes.imp fun _ _ => Or.inr, hGrown.forest,
    hGrown.contains h.live, hAfter.left_willing, hAfter.right_willing, hAfter.arranges_eq, hScenes,
    hAfter.left_answer, hAfter.right_answer, ?_⟩
  have hAhead := hAfter.ahead
  rw [List.append_nil] at hAhead
  exact hAhead

end Visit

/-- Both sides go on with the same elements. -/
theorem CutStages.visitAll (h : CutStages G R answers extra z st st') (hG : G.Level)
    (huv : G.Under R u v) (job : Job) (es : List Element) {pe pe' : Element}
    (hParent : AlikeStyles (job.sheet.declared pe) (job.sheet.declared pe')) :
    CutNodes G R answers extra z (job.visitAll es pe u st) (job.visitAll es pe' v st') := by
  induction es generalizing R st st' with
  | nil => exact ⟨R, fun _ _ => id, .nil, h⟩
  | cons e es ih =>
    obtain ⟨R₁, hMono, hNodes, hFirst⟩ := h.visit hG huv job e hParent
    obtain ⟨R₂, hMono₂, hNodes₂, hAfter⟩ := ih hFirst (huv.mono hMono)
    rw [run_visitAll_cons, run_visitAll_cons]
    exact ⟨R₂, fun a b hab => hMono₂ a b (hMono a b hab),
      List.rel_append (hNodes.imp hMono₂) hNodes₂, hAfter⟩

end AnchoredUi.Conversion
