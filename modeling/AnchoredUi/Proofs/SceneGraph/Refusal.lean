import AnchoredUi.Proofs.SceneGraph.Host

/-!
# Calls that are refused

On any host, a call about nodes that are there has one of two answers: the host refuses it and the
scene is as it was, or the call is made. Nothing happens in between, and a refused call always
complains about the same node.

A call about a node that is not there complains about it and leaves the scene alone, whether the
host would have let it through or not.

* `Answered`: the two answers.
* `answered_setRect`, `answered_attach` and so on: one lemma for each call.
* `answered_ensureComponent`: the same for a component that may have to be attached first.
* `Host.fails_create`, `Host.fails_setRect` and so on: one lemma for each call about a missing node.
* `Scene.dead_of_not_contains`: nothing can be read or done with the key of a missing node.
-/

namespace AnchoredUi.SceneGraph.Host

open Number Plane

/-- Work on a host ended in one of two ways: with a fault in the old scene, or with a result in
another one. -/
inductive Answered {β : Type} (h : Host) (f : SceneFault) (b : β) (t : Scene) :
    Except SceneFault β × Host → Prop
  | refused {k : Host} (hScene : k.scene = h.scene) : Answered h f b t (.error f, k)
  | done {k : Host} (hScene : k.scene = t) : Answered h f b t (.ok b, k)

variable {h k : Host} {f : SceneFault} {id : NodeId}

/-- Work that fails was refused. -/
theorem Answered.of_error {β : Type} {b : β} {t : Scene} {g : SceneFault}
    (hRun : Answered h f b t (.error g, k)) : g = f ∧ k.scene = h.scene := by
  cases hRun with
  | refused hScene => exact ⟨rfl, hScene⟩

theorem Answered.of_ok {β : Type} {b c : β} {t : Scene} (hRun : Answered h f b t (.ok c, k)) :
    c = b ∧ k.scene = t := by
  cases hRun with
  | done hScene => exact ⟨rfl, hScene⟩

/-! ## Single calls -/

/-- The next call of a kind is refused. -/
def refusesNext (h : Host) (call : HostCall) : Bool := h.refuses call (h.calls call)

theorem run_counted_of_refused {call : HostCall} (hRefused : h.refusesNext call = true)
    (fault : SceneFault) (change : Scene → Scene) :
    (pass call fault >>= fun _ => Host.change id change) h = (.error fault, h.count call) := by
  unfold refusesNext at hRefused
  rw [run_pass_bind, hRefused]
  rfl

theorem run_counted_of_passed {call : HostCall} (hPassed : h.refusesNext call = false)
    (hLive : h.scene.contains id = true) (fault : SceneFault) (change : Scene → Scene) :
    (pass call fault >>= fun _ => Host.change id change) h =
      (.ok (), { h.count call with scene := change h.scene }) := by
  unfold refusesNext at hPassed
  have hCounted : (h.count call).scene.contains id = true := hLive
  rw [run_pass_bind, hPassed, Host.change, if_pos hCounted]
  rfl

theorem answered_counted (hLive : h.scene.contains id = true) (call : HostCall)
    (fault : SceneFault) (change : Scene → Scene) :
    Answered h fault () (change h.scene)
      ((pass call fault >>= fun _ => Host.change id change) h) := by
  cases hNext : h.refusesNext call with
  | true =>
    rw [run_counted_of_refused hNext]
    exact .refused rfl
  | false =>
    rw [run_counted_of_passed hNext hLive]
    exact .done rfl

theorem answered_setRect (hLive : h.scene.contains id = true) (r : Rect Single) :
    Answered h (.missingNode id) () (h.scene.setRect id r) (setRect id r h) :=
  answered_counted hLive .setRect _ fun s => s.setRect id r

theorem answered_attach (hLive : h.scene.contains id = true) (c : Component NodeId) :
    Answered h (.missingNode id) () (h.scene.modifyComponents id (· ++ [c])) (attach id c h) :=
  answered_counted hLive .attach _ fun s => s.modifyComponents id (· ++ [c])

theorem answered_setActive (hLive : h.scene.contains id = true) (active : Bool) :
    Answered h (.missingNode id) () (h.scene.modify id fun n => { n with active := active })
      (setActive id active h) :=
  answered_counted hLive .setActive _ fun s => s.modify id fun n => { n with active := active }

/-! ## What follows from the calls -/

theorem answered_updateRect {r : Rect Single} (hr : h.scene.rect? id = some r)
    (change : Rect Single → Rect Single) :
    Answered h (.missingNode id) () (h.scene.setRect id (change r)) (updateRect id change h) := by
  unfold updateRect
  rw [run_current_bind, hr]
  exact answered_setRect (Scene.contains_of_rect? hr) (change r)

section Components

variable {α : Type} [ComponentType α]

/-- A component that is there is changed, whatever the host refuses. -/
theorem run_ensureComponent_of_some {a : α} (ha : h.scene.component? α id = some a) (new : α)
    (change : α → α) : ensureComponent id new change h = updateComponent id change h := by
  have hHas := has_eq_component? (α := α) h.scene id
  rw [ha, Option.isSome_some] at hHas
  rw [ensureComponent_eq, run_current_bind, if_pos hHas, run_changeFirst, ha]

theorem answered_ensureComponent (hLive : h.scene.contains id = true) (new : α)
    (change : α → α) :
    Answered h (.missingNode id) () ((supplied h.scene id new).modifyComponent id change)
      (ensureComponent id new change h) := by
  have hHas := has_eq_component? (α := α) h.scene id
  unfold supplied
  cases hSome : h.scene.component? α id with
  | some a =>
    rw [hSome, Option.isSome_some] at hHas
    rw [run_ensureComponent_of_some hSome, if_pos hHas]
    exact .done rfl
  | none =>
    rw [hSome, Option.isSome_none] at hHas
    rw [ensureComponent_eq, run_current_bind, hHas]
    simp only [Bool.false_eq_true, if_false]
    rw [run_bind]
    have hAttach := answered_attach hLive (ComponentType.wrap new)
    generalize attach id (ComponentType.wrap new) h = run at hAttach
    cases hAttach with
    | refused hScene => exact .refused hScene
    | @done k hScene =>
      -- the new component is found again
      have hNew : k.scene.component? α id = some new := by
        rw [hScene]
        exact component?_attach hLive hSome new
      simp only [run_changeFirst, hNew]
      refine .done ?_
      rw [← hScene]

end Components

end AnchoredUi.SceneGraph.Host

/-! ## Missing nodes -/

namespace AnchoredUi.SceneGraph

open Number Plane

namespace Host

/-- Work that ends with a fault and leaves the scene alone. -/
def Fails {β : Type} (m : HostM β) (h : Host) (f : SceneFault) : Prop :=
  (m h).1 = .error f ∧ (m h).2.scene = h.scene

variable {h : Host} {id : NodeId} (hDead : h.scene.contains id = false)
include hDead

theorem fails_change (f : Scene → Scene) : Fails (change id f) h (.missingNode id) := by
  simp [Fails, change, hDead]

theorem fails_counted (call : HostCall) (f : Scene → Scene) :
    Fails (pass call (.missingNode id) >>= fun _ => change id f) h (.missingNode id) := by
  unfold Fails
  rw [run_pass_bind]
  split
  · exact ⟨rfl, rfl⟩
  · exact fails_change (h := h.count call) hDead f

theorem fails_destroy : Fails (destroy id) h (.missingNode id) := fails_change hDead _

theorem fails_setRect (r : Rect Single) : Fails (setRect id r) h (.missingNode id) :=
  fails_counted hDead _ _

theorem fails_attach (c : Component NodeId) : Fails (attach id c) h (.missingNode id) :=
  fails_counted hDead _ _

theorem fails_setActive (active : Bool) : Fails (setActive id active) h (.missingNode id) :=
  fails_counted hDead _ _

theorem fails_create (name : String) : Fails (create name id) h (.missingParent id) := by
  unfold Fails create
  rw [run_pass_bind]
  split
  · exact ⟨rfl, rfl⟩
  · have hCounted : (h.count .create).scene.contains id = false := hDead
    simp only [Scene.insertChild_eq, hCounted, Bool.false_eq_true, if_false, true_and]
    rfl

theorem fails_updateRect (f : Rect Single → Rect Single) :
    Fails (updateRect id f) h (.missingNode id) := by
  have hNone : h.scene.rect? id = none := Option.eq_none_iff_forall_ne_some.mpr fun r hr => by
    simp [Scene.contains_of_rect? hr] at hDead
  unfold Fails updateRect
  rw [run_current_bind, hNone]
  exact ⟨rfl, rfl⟩

end Host

namespace Scene

variable {s : Scene} {id : NodeId}

theorem find?_of_not_contains (h : s.contains id = false) : s.nodes.find? id = none := by
  rwa [contains, Arena.contains, Option.isSome_eq_false_iff, Option.isNone_iff_eq_none] at h

theorem node?_of_not_contains (h : s.contains id = false) : s.node? id = none := by
  rw [node?, find?_of_not_contains h]
  rfl

theorem components_of_not_contains (h : s.contains id = false) : s.components id = [] := by
  rw [components, node?_of_not_contains h]
  rfl

theorem remove_of_not_contains (h : s.contains id = false) : s.remove id = (none, s) := by
  rw [remove, node?_of_not_contains h]

end Scene

theorem Host.fails_ensureComponent {h : Host} {id : NodeId} (hDead : h.scene.contains id = false)
    {α : Type} [ComponentType α] (new : α) (f : α → α) :
    Fails (ensureComponent id new f) h (.missingNode id) := by
  have hHas : h.scene.has (ComponentType.kind α) id = false := by
    rw [Scene.has, Scene.components_of_not_contains hDead]
    rfl
  obtain ⟨hFault, hScene⟩ := fails_attach hDead (ComponentType.wrap new)
  unfold Fails
  rw [ensureComponent_eq, run_current_bind, hHas]
  simp only [Bool.false_eq_true, if_false]
  rw [run_bind]
  -- attaching fails, and nothing comes after it
  rcases hRun : attach id (ComponentType.wrap new) h with ⟨_ | _, k⟩
  · rw [hRun] at hFault hScene
    cases hFault
    exact ⟨rfl, hScene⟩
  · rw [hRun] at hFault
    cases hFault

namespace Scene

/-- Nothing can be read of a key, and whoever calls about it, on whatever host, is told so; the
scene stays as it is. -/
structure Dead (s : Scene) (id : NodeId) : Prop where
  contains : s.contains id = false
  rect? : s.rect? id = none
  name? : s.name? id = none
  parent? : s.parent? id = none
  children : s.children id = []
  components : s.components id = []
  walk : s.walk id = []
  remove : s.remove id = (none, s)
  insertChild : ∀ n, s.insertChild id n = .error (.missingParent id)
  create : ∀ (h : Host) name, h.scene = s → Host.Fails (Host.create name id) h (.missingParent id)
  setRect : ∀ (h : Host) r, h.scene = s → Host.Fails (Host.setRect id r) h (.missingNode id)
  updateRect : ∀ (h : Host) f, h.scene = s → Host.Fails (Host.updateRect id f) h (.missingNode id)
  attach : ∀ (h : Host) c, h.scene = s → Host.Fails (Host.attach id c) h (.missingNode id)
  setActive : ∀ (h : Host) active, h.scene = s →
    Host.Fails (Host.setActive id active) h (.missingNode id)
  destroy : ∀ h : Host, h.scene = s → Host.Fails (Host.destroy id) h (.missingNode id)
  ensureComponent : ∀ (h : Host) {α : Type} [ComponentType α] (new : α) (f : α → α), h.scene = s →
    Host.Fails (Host.ensureComponent id new f) h (.missingNode id)

/-- The key of a node that is not there is dead. -/
theorem dead_of_not_contains {s : Scene} {id : NodeId} (h : s.contains id = false) :
    s.Dead id where
  contains := h
  rect? := by rw [rect?, node?_of_not_contains h]; rfl
  name? := by rw [name?, node?_of_not_contains h]; rfl
  parent? := by rw [parent?, find?_of_not_contains h]; rfl
  children := by rw [children, find?_of_not_contains h]; rfl
  components := components_of_not_contains h
  walk := walk_of_not_contains h
  remove := remove_of_not_contains h
  insertChild n := by rw [insertChild_eq, h]; rfl
  create := by rintro k name rfl; exact Host.fails_create h name
  setRect := by rintro k r rfl; exact Host.fails_setRect h r
  updateRect := by rintro k f rfl; exact Host.fails_updateRect h f
  attach := by rintro k c rfl; exact Host.fails_attach h c
  setActive := by rintro k active rfl; exact Host.fails_setActive h active
  destroy := by rintro k rfl; exact Host.fails_destroy h
  ensureComponent := by rintro k α _ new f rfl; exact Host.fails_ensureComponent h new f

end Scene

end AnchoredUi.SceneGraph
