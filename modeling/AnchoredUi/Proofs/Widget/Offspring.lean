import AnchoredUi.Proofs.SceneGraph.Within
import AnchoredUi.Proofs.Styling.Wiring
import AnchoredUi.Proofs.Widget.Build

/-!
# New nodes within bounds

What is to be known of the nodes that a conversion makes is kept together: their rectangles and
their components are within bounds, they have few children, and they are not deep down. This is
said of all nodes that are new from one scene to another one, so that it can be put together from
the scenes in between.

* `Offspring`: what holds of the new nodes.
* `Offspring.append`, `Offspring.of_place`: more new nodes, and changes of those that are there.
* `offspring_runSteps`: the nodes that the steps of a blueprint make.
-/

namespace AnchoredUi.SceneGraph.Scene

open Number Plane Widget

variable {s t r : Scene} {id u v : NodeId} {news : List NodeId} {f b e e' few few' deep deep' : ℕ}

/-! ## Depths -/

/-- Depths depend on parents only. -/
theorem Forest.depth_congr (hs : s.Forest) (ht : t.Forest)
    (hSame : ∀ id, s.contains id = true → t.parent? id = s.parent? id)
    (hId : s.contains id = true) : t.depth id = s.depth id := by
  induction id using hs.induction_up with
  | step id ih =>
    have hParent := hSame id hId
    cases hp : s.parent? id with
    | none =>
      rw [hp] at hParent
      rw [depth, depth, ht.ancestors_eq, hs.ancestors_eq, hp, hParent]
    | some p =>
      rw [hp] at hParent
      rw [ht.depth_of_parent? hParent, ih p hp (hs.contains_parent hp), hs.depth_of_parent? hp]

theorem Grown.depth (h : Grown u news s t) (hs : s.Forest) (hId : s.contains id = true) :
    t.depth id = s.depth id := hs.depth_congr h.forest (fun _ hLive => h.parent? hLive) hId

/-! ## New nodes -/

/-- The nodes that are new in `t` have rectangles and components within bounds, at most `few`
children each, and at most `deep` nodes above them. -/
structure Offspring (f b e few deep : ℕ) (s t : Scene) : Prop where
  rect : ∀ id r, New s t id → t.rect? id = some r → r.Within e 1
  moderate : ∀ id, New s t id → t.Moderate f b e id
  few : ∀ id, New s t id → (t.children id).length ≤ few
  depth : ∀ id, New s t id → t.depth id ≤ deep

theorem Offspring.refl (s : Scene) : Offspring f b e few deep s s := by
  have hNone : ∀ id, ¬ New s s id := fun id h => by
    have hLive := h.live
    rw [h.fresh] at hLive
    cases hLive
  exact ⟨fun id _ h => absurd h (hNone id), fun id h => absurd h (hNone id),
    fun id h => absurd h (hNone id), fun id h => absurd h (hNone id)⟩

theorem Offspring.mono (h : Offspring f b e few deep s t) (he : e ≤ e') (hFew : few ≤ few')
    (hDeep : deep ≤ deep') : Offspring f b e' few' deep' s t :=
  ⟨fun id r hNew hr => (h.rect id r hNew hr).scale_mono he,
    fun id hNew => (h.moderate id hNew).scale_mono he, fun id hNew => (h.few id hNew).trans hFew,
    fun id hNew => (h.depth id hNew).trans hDeep⟩

/-- More nodes come below a node that is there. -/
theorem Offspring.append (h : Offspring f b e few deep s t) (hMore : Offspring f b e few deep t r)
    (ht : t.Forest) (hGrown : Grown v news t r)
    (hModerate : New s t v → r.Moderate f b e v)
    (hFew : New s t v → (t.children v).length + news.length ≤ few) :
    Offspring f b e few deep s r := by
  have hCases : ∀ id, New s r id → New t r id ∨ t.contains id = true ∧ New s t id := by
    intro id hNew
    cases hLive : t.contains id with
    | false => exact .inl ⟨hNew.live, hLive⟩
    | true => exact .inr ⟨rfl, hLive, hNew.fresh⟩
  refine ⟨fun id q hNew hq => ?_, fun id hNew => ?_, fun id hNew => ?_, fun id hNew => ?_⟩ <;>
    rcases hCases id hNew with hLater | ⟨hLive, hFirst⟩
  · exact hMore.rect id q hLater hq
  · rw [hGrown.rect? hLive] at hq
    exact h.rect id q hFirst hq
  · exact hMore.moderate id hLater
  · by_cases hId : id = v
    · subst hId
      exact hModerate hFirst
    · exact (h.moderate id hFirst).of_components (hGrown.components_eq hLive hId)
  · exact hMore.few id hLater
  · by_cases hId : id = v
    · subst hId
      rw [hGrown.children_top hLive, List.length_append]
      exact hFew hFirst
    · rw [children_of_place? (hGrown.place? hLive hId)]
      exact h.few id hFirst
  · exact hMore.depth id hLater
  · rw [hGrown.depth ht hLive]
    exact h.depth id hFirst

/-- Nodes are changed in their places. -/
theorem Offspring.of_place (h : Offspring f b e few deep s t) (ht : t.Forest) (hr : r.Forest)
    (hPlace : ∀ id, r.place? id = t.place? id)
    (hRect : ∀ id q, New s t id → r.rect? id = some q → q.Within e' 1)
    (hModerate : ∀ id, New s t id → r.Moderate f b e' id) : Offspring f b e' few deep s r := by
  have hNew : ∀ id, New s r id → New s t id := fun id hId =>
    ⟨(contains_of_place? (hPlace id)).symm.trans hId.live, hId.fresh⟩
  refine ⟨fun id q hId hq => hRect id q (hNew id hId) hq, fun id hId => hModerate id (hNew id hId),
    fun id hId => ?_, fun id hId => ?_⟩
  · rw [children_of_place? (hPlace id)]
    exact h.few id (hNew id hId)
  · rw [ht.depth_congr hr (fun a _ => parent?_of_place? (hPlace a)) (hNew id hId).live]
    exact h.depth id (hNew id hId)

theorem offspring_withNode (hs : s.Forest) {parent : NodeId} (hLive : s.contains parent = true)
    (name : String) {rect : Rect Single} (hRect : rect.Within e 1)
    (hDeep : s.depth parent + 1 ≤ deep) :
    Offspring f b e few deep s (withNode s parent name rect) := by
  have hGrown := grown_withNode hs hLive name rect
  have hOnly : ∀ id, New s (withNode s parent name rect) id → id = s.nodes.nextKey := by
    intro id hNew
    have hThere := hNew.live
    rw [contains_withNode hs.sound hLive, hNew.fresh, Bool.or_false, decide_eq_true_iff] at hThere
    exact hThere
  refine ⟨fun id q hNew hq => ?_, fun id hNew => ?_, fun id hNew => ?_, fun id hNew => ?_⟩ <;>
    have hId := hOnly id hNew <;> subst hId
  · obtain ⟨q', hq'⟩ := rect?_of_contains hNew.live
    rw [withNode, rect?_setRect, if_pos rfl] at hq
    obtain ⟨_, -, rfl⟩ := Option.map_eq_some_iff.mp hq
    exact hRect
  · intro c hc
    rw [components_withNode_self hs.sound hLive] at hc
    cases hc
  · have hNone : s.children s.nodes.nextKey = [] := by simp [children, hs.sound.find?_nextKey]
    rw [children_withNode hs.sound hLive, if_neg (hs.sound.nextKey_ne hLive).symm, hNone]
    exact Nat.zero_le few
  · have hParent : (withNode s parent name rect).parent? s.nodes.nextKey = some parent := by
      rw [parent?_withNode hs.sound hLive, if_pos rfl]
    rw [hGrown.forest.depth_of_parent? hParent, hGrown.depth hs hLive]
    exact hDeep

end AnchoredUi.SceneGraph.Scene

namespace AnchoredUi.Widget

open Number Plane SceneGraph Scene Markup Kind Sprite Styling

variable {s t : Scene} {u : NodeId} {name : String} {nodes nodes' : Part → NodeId}
  {done : List Step} {f b e few deep : ℕ}

/-! ## Steps -/

/-- What a step makes or attaches is within bounds. -/
def Step.Moderate (f b e : ℕ) : Step → Prop
  | .node _ _ _ rect => rect.Within e 1
  | .attach _ c => c.Moderate f b e
  | .hide _ => True

/-- One more step is carried out. -/
theorem offspring_step {h : Host} (hw : h.Willing) {step : Step}
    (hLaid : Laid s u name nodes done h.scene) (hOffspring : Offspring f b e few deep s h.scene)
    (hFits : step.Fits (.root :: madeBy done)) (hStep : step.Moderate f b e)
    (hDoes : Host.Does (step.run nodes) h nodes' t) :
    Offspring f b e (few + step.made?.toList.length) (deep + step.made?.toList.length) s t := by
  have hForest := hLaid.grown.forest
  cases step with
  | node part label under rect =>
    have hLive := hLaid.live under
    have hNew : New s h.scene (nodes under) := ⟨hLive, hLaid.fresh under⟩
    have hAdd := does_addNode hw hLive hForest.sound label rect
    obtain ⟨-, rfl⟩ := hDoes.unique (hAdd.map _)
    have hDeep := hOffspring.depth _ hNew
    have hMore : Offspring f b e (few + 1) (deep + 1) h.scene
        (withNode h.scene (nodes under) label rect) :=
      offspring_withNode hForest hLive label hStep (by omega)
    have hFew := hOffspring.few _ hNew
    have hSame := components_withNode hForest.sound hLive label rect hLive
    exact (hOffspring.mono le_rfl (Nat.le_succ few) (Nat.le_succ deep)).append hMore hForest
      (grown_withNode hForest hLive label rect)
      (fun _ => (hOffspring.moderate _ hNew).of_components hSame) fun _ => Nat.succ_le_succ hFew
  | attach part c =>
    obtain ⟨-, rfl⟩ := hDoes.unique ((Host.does_attach hw (hLaid.live part) (c.map nodes)).map _)
    refine hOffspring.of_place hForest (hForest.modify _ _)
      (fun id => Scene.place?_modifyComponents _ _ id _) (fun id q hNew hq => ?_) fun id hNew => ?_
    · rw [Scene.rect?_modifyComponents] at hq
      exact hOffspring.rect id q hNew hq
    · exact (hOffspring.moderate id hNew).attach _ (Component.Moderate.map hStep nodes)
  | hide part =>
    obtain ⟨-, rfl⟩ := hDoes.unique ((Host.does_setActive hw (hLaid.live part) false).map _)
    refine hOffspring.of_place hForest (hForest.modify _ _)
      (fun id => Scene.place?_modify _ _ id fun _ => rfl) (fun id q hNew hq => ?_) fun id hNew => ?_
    · rw [Scene.rect?_modify (f := fun n => { n with active := false }) fun _ => rfl] at hq
      exact hOffspring.rect id q hNew hq
    · exact (hOffspring.moderate id hNew).setActive _ false

/-- All steps are carried out. -/
theorem offspring_runSteps {h : Host} (hw : h.Willing) {steps : List Step}
    (hLaid : Laid s u name nodes done h.scene) (hOffspring : Offspring f b e few deep s h.scene)
    (hBuild : Buildable (.root :: madeBy done) steps) (hSteps : ∀ step ∈ steps, step.Moderate f b e)
    (hDoes : Host.Does (steps.foldlM Step.run nodes) h nodes' t) :
    Offspring f b e (few + (madeBy steps).length) (deep + (madeBy steps).length) s t := by
  have hKept : ∃ more, done ++ steps = done ++ more ∧
      Offspring f b e (few + (madeBy more).length) (deep + (madeBy more).length) s t := by
    refine kept_runSteps (P := fun _ d t => ∃ more, d = done ++ more ∧
      Offspring f b e (few + (madeBy more).length) (deep + (madeBy more).length) s t)
      (fun {_ _ _ _ step _} hMem hw hLaid hFits hDoes hBefore => ?_) hw hLaid hBuild hDoes
      ⟨[], (List.append_nil done).symm, hOffspring⟩
    obtain ⟨more, rfl, hMore⟩ := hBefore
    have hCount : (madeBy (more ++ [step])).length =
        (madeBy more).length + step.made?.toList.length := by
      rw [madeBy_append, List.length_append]
    have hOne := offspring_step hw hLaid hMore hFits (hSteps step hMem) hDoes
    refine ⟨more ++ [step], List.append_assoc .., ?_⟩
    rwa [hCount, ← Nat.add_assoc, ← Nat.add_assoc]
  obtain ⟨more, hEq, hMore⟩ := hKept
  rwa [List.append_cancel_left hEq]

end AnchoredUi.Widget
