import AnchoredUi.Proofs.SceneGraph.Growth
import AnchoredUi.Proofs.Styling.Touch

/-!
# What styling leaves alone, and what it gives the parent

Styling an element leaves all nodes in their places. If the node of the element is new, then of the
nodes that were there before only the parent is changed, and that by no more than a new component.

A cascade starts by giving the parent the layout group that its style asks for, unless it has one.
From then on the parent has a group if one is asked for, so nothing more is attached to it, and no
other change reaches it.

* `place?_cascade`, `grown_cascade`: nodes stay in their places, and only the parent is changed.
* `groupAsked`: the components that the parent gets.
* `does_ensureParentGroup`: the start of a cascade.
* `node?_of_touches`: after that, the parent is left alone.
* `components_cascade`: both together.
-/

namespace AnchoredUi.Styling

open SceneGraph

/-- The text of a node is its own, or that of a child with a name for it. -/
theorem textNode?_cases {s : Scene} {id c : NodeId} (h : textNode? s id = some c) :
    c = id ∨ c ∈ s.children id ∧ ∃ name ∈ textNames, s.name? c = some name := by
  unfold textNode? at h
  split at h
  · exact Or.inl (Option.some.inj h).symm
  · refine Or.inr ⟨List.mem_of_find?_eq_some h, ?_⟩
    have hFound := List.find?_some h
    simp only [Bool.and_eq_true] at hFound
    have hNamed := hFound.1
    revert hNamed
    cases s.name? c with
    | none => nofun
    | some name => exact fun hNamed => ⟨name, List.contains_iff_mem.mp hNamed, rfl⟩

theorem textNode?_or_child {s : Scene} {id c : NodeId} (h : textNode? s id = some c) :
    c = id ∨ c ∈ s.children id := (textNode?_cases h).imp_right And.left

/-- Which node has the text of a node is read off the places of nodes and off which have texts. -/
theorem textNode?_congr {s t : Scene} (hPlace : ∀ id, t.place? id = s.place? id)
    (hText : ∀ id, (t.component? TextBlock id).isSome = (s.component? TextBlock id).isSome)
    (id : NodeId) :
    textNode? t id = textNode? s id := by
  have hChildren := Scene.children_of_place? (hPlace id)
  have hName := fun c => Scene.name?_of_place? (hPlace c)
  unfold textNode?
  simp only [hText, hChildren, hName]

theorem textOf?_congr {s t : Scene} (hPlace : ∀ id, t.place? id = s.place? id)
    (hText : ∀ id, t.component? TextBlock id = s.component? TextBlock id) (id : NodeId) :
    textOf? t id = textOf? s id := by
  unfold textOf?
  rw [textNode?_congr hPlace fun c => by rw [hText c]]
  exact congrArg (Option.bind _) (funext hText)

namespace Subject

variable {x : Subject} {s t r : Scene} {u : NodeId} {news : List NodeId}

theorem Touch.place? (h : x.Touch s t) (id : NodeId) : t.place? id = s.place? id := by
  cases h <;> exact Scene.place?_modify _ _ _ fun _ => rfl

theorem Touch.grown (h : x.Touch t r) (hGrown : Scene.Grown u news s t) (hs : s.Forest)
    (hNew : s.contains x.node = false) (hParent : x.parentNode = some u) :
    Scene.Grown u news s r := by
  cases h with
  | rect _ | active _ | attach _ _ | change _ => exact hGrown.modify hNew _
  | @text id hText f =>
    have hId : s.contains id = false := by
      rcases textNode?_or_child hText with rfl | hChild
      · exact hNew
      · have hUp := (hGrown.forest.mem_children_iff _ _).mp hChild
        exact hGrown.not_contains_child hs hNew hUp
    exact hGrown.modify hId _
  | @group p style hUp _ _ _ around =>
    obtain rfl : p = u := Option.some.inj (hUp.symm.trans hParent)
    have hMore := hGrown.trans
      (Scene.grown_attach hGrown.forest p (.layoutGroup (groupOf style around)))
    rw [List.append_nil] at hMore
    exact hMore

theorem place?_of_touches (h : Relation.ReflTransGen x.Touch s t) (id : NodeId) :
    t.place? id = s.place? id := by
  induction h with
  | refl => rfl
  | tail _ hTouch ih => exact (hTouch.place? id).trans ih

theorem forest_of_touches (h : Relation.ReflTransGen x.Touch s t) (hs : s.Forest) : t.Forest := by
  induction h with
  | refl => exact hs
  | tail _ hTouch ih => cases hTouch <;> exact ih.modify _ _

theorem contains_of_touches (h : Relation.ReflTransGen x.Touch s t) (id : NodeId) :
    t.contains id = s.contains id := Scene.contains_of_place? (place?_of_touches h id)

theorem grown_of_touches (h : Relation.ReflTransGen x.Touch t r)
    (hGrown : Scene.Grown u news s t) (hs : s.Forest) (hNew : s.contains x.node = false)
    (hParent : x.parentNode = some u) : Scene.Grown u news s r := by
  induction h with
  | refl => exact hGrown
  | tail _ hTouch ih => exact hTouch.grown ih hs hNew hParent

/-- Styling leaves all nodes in their places. -/
theorem place?_cascade (x : Subject) (st : Stage) (id : NodeId) :
    (x.cascade st).2.host.scene.place? id = st.host.scene.place? id :=
  place?_of_touches (keeps_cascade x st).touches id

/-- Styling a new node changes nothing that was there before, but for the parent. -/
theorem grown_cascade {st : Stage} (hGrown : Scene.Grown u news s st.host.scene) (hs : s.Forest)
    (hNew : s.contains x.node = false) (hParent : x.parentNode = some u) :
    Scene.Grown u news s (x.cascade st).2.host.scene :=
  grown_of_touches (keeps_cascade x st).touches hGrown hs hNew hParent

end Subject

end AnchoredUi.Styling

/-! ## What the parent gets -/

namespace AnchoredUi.Styling

open Number Plane SceneGraph Style Sprite

/-- The layout group that a node gets for the sake of its children, if its style asks for one and
it has none. -/
def groupAsked (style? : Option Declarations) (canvas : Size Single) (fontSize : Single)
    (s : Scene) (u : NodeId) : List (Component NodeId) :=
  match style? with
  | some style =>
    if asksForGroup style && (s.component? LayoutGroup u).isNone then
      [.layoutGroup (groupOf style ⟨s.sizeOf u, canvas, fontSize⟩)]
    else []
  | none => []

theorem groupAsked_congr {s t : Scene} {u : NodeId}
    (hComponents : t.components u = s.components u) (hSize : t.sizeOf u = s.sizeOf u)
    (style? : Option Declarations) (canvas : Size Single) (fontSize : Single) :
    groupAsked style? canvas fontSize t u = groupAsked style? canvas fontSize s u := by
  unfold groupAsked Scene.component?
  rw [hComponents, hSize]

/-- A node that was given the group has one, if its style asks for it. -/
theorem exists_groupAsked {s : Scene} {u : NodeId} (hLive : s.contains u = true)
    {style : Declarations} (hAsks : asksForGroup style = true) (canvas : Size Single)
    (fontSize : Single) :
    ∃ g, (s.modifyComponents u (· ++ groupAsked (some style) canvas fontSize s u)).component?
      LayoutGroup u = some g := by
  simp only [groupAsked, hAsks, Bool.true_and]
  cases hGroup : s.component? LayoutGroup u with
  | none => exact ⟨_, Host.component?_attach hLive hGroup _⟩
  | some g =>
    simp only [Option.isNone_some, Bool.false_eq_true, if_false, Scene.modifyComponents_nil]
    exact ⟨g, hGroup⟩

/-- There is no second group. -/
theorem groupAsked_given {s : Scene} {u : NodeId} (hLive : s.contains u = true)
    (style? : Option Declarations) (canvas : Size Single) (fontSize : Single) :
    groupAsked style? canvas fontSize
      (s.modifyComponents u (· ++ groupAsked style? canvas fontSize s u)) u = [] := by
  cases style? with
  | none => rfl
  | some style =>
    cases hAsks : asksForGroup style with
    | false => simp only [groupAsked, hAsks, Bool.false_and, Bool.false_eq_true, if_false]
    | true =>
      obtain ⟨g, hGroup⟩ := exists_groupAsked hLive hAsks canvas fontSize
      generalize s.modifyComponents u _ = t at hGroup ⊢
      simp only [groupAsked, hGroup, Option.isNone_some, Bool.and_false, Bool.false_eq_true,
        if_false]

namespace Subject

variable {x : Subject} {s t : Scene} {u : NodeId}

/-- The components that the parent of the subject gets. -/
def groupFor (x : Subject) (s : Scene) (u : NodeId) : List (Component NodeId) :=
  groupAsked x.parentStyle? x.canvas x.fontSize s u

/-- The parent has a layout group if its style asks for one. -/
def Settled (x : Subject) (s : Scene) (u : NodeId) : Prop :=
  ∀ style, x.parentStyle? = some style → asksForGroup style = true →
    ∃ g, s.component? LayoutGroup u = some g

theorem does_ensureParentGroup {h : Host} (hw : h.Willing) (hUp : x.parentNode = some u)
    (hLive : h.scene.contains u = true) :
    Host.Does x.ensureParentGroup h ()
      (h.scene.modifyComponents u (· ++ x.groupFor h.scene u)) := by
  unfold Host.Does ensureParentGroup groupFor groupAsked
  rw [Host.run_current_bind, hUp]
  cases x.parentStyle? with
  | none =>
    simp only [Scene.modifyComponents_nil]
    exact Host.does_pure () h
  | some style =>
    simp only
    split
    · exact Host.does_attach hw hLive _
    · rw [Scene.modifyComponents_nil]
      exact Host.does_pure () h

theorem settled_ensureParentGroup (x : Subject) (hLive : s.contains u = true) :
    x.Settled (s.modifyComponents u (· ++ x.groupFor s u)) u := by
  intro style hStyle hAsks
  unfold groupFor
  rw [hStyle]
  exact exists_groupAsked hLive hAsks _ _

/-! ## After the start -/

theorem Touch.node?_eq (h : x.Touch s t) (hUp : x.parentNode = some u) (hNe : u ≠ x.node)
    (hNotBelow : u ∉ s.children x.node) (hSettled : x.Settled s u) : t.node? u = s.node? u := by
  cases h with
  | rect _ | active _ | attach _ _ | change _ => exact (Scene.node?_modify ..).trans (if_neg hNe)
  | @text id hText f =>
    have hId : u ≠ id := by
      rintro rfl
      rcases textNode?_or_child hText with hEq | hChild
      · exact hNe hEq
      · exact hNotBelow hChild
    exact (Scene.node?_modify ..).trans (if_neg hId)
  | @group p style hParent hStyle hAsks hNew around =>
    -- there would be a group already
    obtain rfl : p = u := Option.some.inj (hParent.symm.trans hUp)
    obtain ⟨g, hGroup⟩ := hSettled style hStyle hAsks
    rw [hNew] at hGroup
    cases hGroup

theorem node?_of_touches (h : Relation.ReflTransGen x.Touch s t) (hUp : x.parentNode = some u)
    (hNe : u ≠ x.node) (hNotBelow : u ∉ s.children x.node) (hSettled : x.Settled s u) :
    t.node? u = s.node? u := by
  induction h with
  | refl => rfl
  | @tail r t hTouches hTouch ih =>
    have hChildren := Scene.children_of_place? (place?_of_touches hTouches x.node)
    have hGroups : r.component? LayoutGroup u = s.component? LayoutGroup u := by
      unfold Scene.component? Scene.components
      rw [ih]
    have hStill : x.Settled r u := fun style hStyle hAsks => by
      rw [hGroups]
      exact hSettled style hStyle hAsks
    rw [hTouch.node?_eq hUp hNe (by rwa [hChildren]) hStill, ih]

/-! ## Whole cascades -/

theorem scene_tryHost (m : HostM Unit) (st : Stage) :
    (x.tryHost m st).2.host.scene = (m st.host).2.scene := by
  unfold tryHost orWarn onHost
  rcases m st.host with ⟨_ | _, k⟩ <;> rfl

/-- Work that succeeds gives no warning. -/
theorem run_tryHost {m : HostM Unit} {st : Stage} (hm : Host.Does m st.host () t) :
    ∃ k, x.tryHost m st = ((), { st with host := k }) ∧ k.scene = t ∧
      Host.SameOwner st.host k := by
  obtain ⟨k, hRun, hk, hOwner⟩ := hm
  refine ⟨k, ?_, hk, hOwner⟩
  unfold tryHost orWarn
  rw [run_onHost hRun]

theorem host_tryHost {m : HostM Unit} {st : Stage} (hm : Host.Does m st.host () t) :
    (x.tryHost m st).2.host.scene = t ∧ Host.SameOwner st.host (x.tryHost m st).2.host := by
  obtain ⟨k, hRun, hk, hOwner⟩ := run_tryHost (x := x) hm
  rw [hRun]
  exact ⟨hk, hOwner⟩

/-- What a cascade does after its start. -/
def mainCascade (x : Subject) : StateM Stage Unit := do
  x.tryHost x.markRoot
  x.declarations.forM x.apply
  sizeAttributes.forM fun (name, axis) => x.tryHost (x.reconcile name axis)

theorem run_cascade (x : Subject) (st : Stage) :
    x.cascade st = x.mainCascade (x.tryHost x.ensureParentGroup st).2 := by
  unfold cascade mainCascade
  generalize x.tryHost x.ensureParentGroup = first
  rfl

theorem run_mainCascade (x : Subject) (st : Stage) :
    x.mainCascade st =
      (sizeAttributes.forM fun (name, axis) => x.tryHost (x.reconcile name axis) :
        StateM Stage Unit) (x.declarations.forM x.apply (x.tryHost x.markRoot st).2).2 := by
  unfold mainCascade
  generalize x.tryHost x.markRoot = first
  rfl

/-- After its start a cascade only changes the node and its text. -/
theorem draws_mainCascade (x : Subject) : x.Draws x.mainCascade :=
  draws_then (follows_tryHost drawn_markRoot) <|
    draws_then (draws_forM draws_apply _) <|
      draws_forM (fun _ => follows_tryHost (drawn_reconcile _ _)) _

/-- A cascade gives the parent the group that it asks for, and no other component. -/
theorem components_cascade {st : Stage} (hw : st.host.Willing) (hUp : x.parentNode = some u)
    (hLive : st.host.scene.contains u = true) (hNe : u ≠ x.node)
    (hNotBelow : u ∉ st.host.scene.children x.node) :
    (x.cascade st).2.host.scene.components u =
      st.host.scene.components u ++ x.groupFor st.host.scene u := by
  obtain ⟨hScene, -⟩ := host_tryHost (x := x) (does_ensureParentGroup hw hUp hLive)
  have hSettled := settled_ensureParentGroup x hLive
  have hChildren : ∀ id, (x.tryHost x.ensureParentGroup st).2.host.scene.children id =
      st.host.scene.children id := fun id => by
    rw [hScene, Scene.modifyComponents, Scene.children_modify]
  rw [← hScene] at hSettled
  have hDrawn := draws_mainCascade x (x.tryHost x.ensureParentGroup st).2
  have hNode := node?_of_touches hDrawn.handled.touches hUp hNe (by rwa [hChildren]) hSettled
  obtain ⟨e, he⟩ := Scene.find?_of_contains hLive
  rw [run_cascade, Scene.components, hNode, hScene]
  simp [Scene.components, Scene.modifyComponents, Scene.node?_modify, Scene.node?_of_find? he]

end Subject

end AnchoredUi.Styling
