import AnchoredUi.Proofs.SceneGraph.Depth
import AnchoredUi.SceneGraph.Host

/-!
# What calls do to a scene

Whatever a host refuses, a call either leaves its scene alone or makes one certain change. A host
that refuses nothing makes the change whenever the node is there.

* `scene_create`, `scene_setRect`, `scene_attach`, `scene_setActive`, `scene_destroy`: the changes
  of single calls.
* `scene_ensureComponent`: a component is attached where there was none, and then changed.
* `does_create`, `does_setRect`, `does_ensureComponent`: the calls on a host that refuses nothing.
-/

namespace AnchoredUi.SceneGraph.Host

open Number Plane

/-- The scene is left alone, or changed as given. -/
def Perhaps (s changed t : Scene) : Prop := t = s ∨ t = changed

variable {h : Host}

theorem run_bind {α β : Type} (m : HostM α) (k : α → HostM β) (h : Host) :
    (m >>= k) h = match m h with
      | (.ok a, h') => k a h'
      | (.error f, h') => (.error f, h') := by
  show (match m h with
    | (r, h') => ExceptT.bindCont k r h') = _
  rcases m h with ⟨_ | _, h'⟩ <;> rfl

theorem run_current_bind {β : Type} (k : Scene → HostM β) (h : Host) :
    (current >>= k) h = k h.scene h := rfl

theorem run_pass_bind {α : Type} (call : HostCall) (f : SceneFault) (m : HostM α) (h : Host) :
    (pass call f >>= fun _ => m) h =
      if h.refuses call (h.calls call) then (.error f, h.count call) else m (h.count call) := by
  rw [run_bind]
  simp only [pass]
  cases h.refuses call (h.calls call) <;> rfl

theorem scene_change (id : NodeId) (f : Scene → Scene) (h : Host) :
    Perhaps h.scene (f h.scene) (change id f h).2.scene := by
  unfold change
  split
  · exact Or.inr rfl
  · exact Or.inl rfl

theorem scene_counted (call : HostCall) (fault : SceneFault) (id : NodeId) (f : Scene → Scene)
    (h : Host) :
    Perhaps h.scene (f h.scene) ((pass call fault >>= fun _ => change id f) h).2.scene := by
  rw [run_pass_bind]
  split
  · exact Or.inl rfl
  · exact scene_change id f (h.count call)

/-! ## Single calls -/

theorem scene_setRect (id : NodeId) (r : Rect Single) (h : Host) :
    Perhaps h.scene (h.scene.setRect id r) (setRect id r h).2.scene :=
  scene_counted _ _ id _ h

theorem scene_attach (id : NodeId) (c : Component NodeId) (h : Host) :
    Perhaps h.scene (h.scene.modifyComponents id (· ++ [c])) (attach id c h).2.scene :=
  scene_counted _ _ id _ h

theorem scene_setActive (id : NodeId) (active : Bool) (h : Host) :
    Perhaps h.scene (h.scene.modify id fun n => { n with active := active })
      (setActive id active h).2.scene :=
  scene_counted _ _ id _ h

theorem scene_destroy (id : NodeId) (h : Host) :
    (destroy id h).2.scene = h.scene ∨
      h.scene.contains id = true ∧ (destroy id h).2.scene = h.scene.without id := by
  simp only [destroy, change]
  split
  · rename_i hLive
    exact Or.inr ⟨hLive, rfl⟩
  · exact Or.inl rfl

theorem scene_create (name : String) (parent : NodeId) (h : Host) :
    (create name parent h).2.scene = h.scene ∨
      h.scene.contains parent = true ∧
        (create name parent h).2.scene = h.scene.withChild parent (.fresh name) := by
  unfold create
  rw [run_pass_bind]
  split
  · exact Or.inl rfl
  · simp only [Scene.insertChild_eq]
    have hScene : (h.count .create).scene = h.scene := rfl
    rw [hScene]
    cases hLive : h.scene.contains parent with
    | false => exact Or.inl rfl
    | true => exact Or.inr ⟨rfl, rfl⟩

/-! ## What follows from the calls -/

theorem scene_updateRect (id : NodeId) (f : Rect Single → Rect Single) (h : Host) :
    (updateRect id f h).2.scene = h.scene ∨
      ∃ r, (updateRect id f h).2.scene = h.scene.setRect id r := by
  unfold updateRect
  rw [run_current_bind]
  cases h.scene.rect? id with
  | none => exact Or.inl rfl
  | some r =>
    rcases scene_setRect id (f r) h with hSame | hSet
    · exact Or.inl hSame
    · exact Or.inr ⟨f r, hSet⟩

variable {α : Type} [ComponentType α]

/-- Changes the first component of a type on a node, which has to have one. -/
def changeFirst (id : NodeId) (f : α → α) : HostM Unit := do
  match (← current).component? α id with
  | some _ => updateComponent id f
  | none => throw (.missingNode id)

theorem run_changeFirst (id : NodeId) (f : α → α) (h : Host) :
    changeFirst id f h = match h.scene.component? α id with
      | some _ => updateComponent id f h
      | none => (.error (.missingNode id), h) := by
  unfold changeFirst
  rw [run_current_bind]
  cases h.scene.component? α id <;> rfl

theorem ensureComponent_eq (id : NodeId) (new : α) (f : α → α) :
    ensureComponent id new f = current >>= fun s =>
      if s.has (ComponentType.kind α) id then changeFirst id f
      else attach id (ComponentType.wrap new) >>= fun _ => changeFirst id f := by
  funext h
  unfold ensureComponent
  rw [run_current_bind, run_current_bind]
  cases h.scene.has (ComponentType.kind α) id <;> rfl

theorem scene_changeFirst (id : NodeId) (f : α → α) (h : Host) :
    Perhaps h.scene (h.scene.modifyComponent id f) (changeFirst id f h).2.scene := by
  rw [run_changeFirst]
  cases h.scene.component? α id with
  | none => exact Or.inl rfl
  | some _ => exact Or.inr rfl

/-- A component is attached where there was none of its kind; what is there is changed. -/
theorem scene_ensureComponent (id : NodeId) (new : α) (f : α → α) (h : Host) :
    ∃ s, (s = h.scene ∨ h.scene.has (ComponentType.kind α) id = false ∧
        s = h.scene.modifyComponents id (· ++ [ComponentType.wrap new])) ∧
      Perhaps s (s.modifyComponent id f) (ensureComponent id new f h).2.scene := by
  rw [ensureComponent_eq, run_current_bind]
  cases hHas : h.scene.has (ComponentType.kind α) id with
  | true => exact ⟨h.scene, Or.inl rfl, scene_changeFirst id f h⟩
  | false =>
    simp only [Bool.false_eq_true, if_false]
    rw [run_bind]
    have hAttach := scene_attach id (ComponentType.wrap new) h
    generalize attach id (ComponentType.wrap new) h = run at hAttach
    obtain ⟨r, k⟩ := run
    have hMid : k.scene = h.scene ∨ True ∧
        k.scene = h.scene.modifyComponents id (· ++ [ComponentType.wrap new]) :=
      hAttach.imp_right fun hNew => ⟨trivial, hNew⟩
    cases r with
    | error f => exact ⟨k.scene, hMid, Or.inl rfl⟩
    | ok _ => exact ⟨k.scene, hMid, scene_changeFirst id f k⟩

/-! ## The owner -/

/-- The scene may be another one, but it is treated alike. -/
def SameOwner (h k : Host) : Prop := k.refuses = h.refuses ∧ k.arranges = h.arranges

theorem SameOwner.refl (h : Host) : SameOwner h h := ⟨rfl, rfl⟩

theorem SameOwner.trans {h k l : Host} (hk : SameOwner h k) (hl : SameOwner k l) :
    SameOwner h l := ⟨hl.1.trans hk.1, hl.2.trans hk.2⟩

theorem sameOwner_bind {β γ : Type} {m : HostM β} {next : β → HostM γ}
    (hm : SameOwner h (m h).2) (hNext : ∀ b k, SameOwner k (next b k).2) :
    SameOwner h ((m >>= next) h).2 := by
  rw [run_bind]
  rcases hRun : m h with ⟨_ | b, k⟩
  · simpa [hRun] using hm
  · rw [hRun] at hm
    exact hm.trans (hNext b k)

theorem sameOwner_counted (call : HostCall) (fault : SceneFault) (id : NodeId) (f : Scene → Scene)
    (h : Host) : SameOwner h ((pass call fault >>= fun _ => change id f) h).2 := by
  refine sameOwner_bind ⟨rfl, rfl⟩ fun _ k => ?_
  unfold change
  split
  · exact ⟨rfl, rfl⟩
  · exact SameOwner.refl k

theorem sameOwner_updateRect (id : NodeId) (f : Rect Single → Rect Single) (h : Host) :
    SameOwner h (updateRect id f h).2 := by
  refine sameOwner_bind (SameOwner.refl h) fun s k => ?_
  cases s.rect? id with
  | none => exact SameOwner.refl k
  | some r => exact sameOwner_counted _ _ id _ k

theorem sameOwner_changeFirst (id : NodeId) (f : α → α) (h : Host) :
    SameOwner h (changeFirst id f h).2 := by
  rw [run_changeFirst]
  cases h.scene.component? α id <;> exact ⟨rfl, rfl⟩

theorem sameOwner_ensureComponent (id : NodeId) (new : α) (f : α → α) (h : Host) :
    SameOwner h (ensureComponent id new f h).2 := by
  rw [ensureComponent_eq]
  refine sameOwner_bind (SameOwner.refl h) fun s k => ?_
  cases s.has (ComponentType.kind α) id with
  | true => exact sameOwner_changeFirst id f k
  | false =>
    exact sameOwner_bind (sameOwner_counted _ _ id _ k) fun _ l => sameOwner_changeFirst id f l

/-! ## Hosts that refuse nothing -/

/-- The host lets every call through. -/
def Willing (h : Host) : Prop := ∀ call n, h.refuses call n = false

theorem willing_ofScene (s : Scene) : (ofScene s).Willing := fun _ _ => rfl

theorem SameOwner.willing {h k : Host} (hk : SameOwner h k) (hw : h.Willing) : k.Willing :=
  fun call n => by rw [hk.1]; exact hw call n

/-- Work that succeeds with a result and leaves the given scene. -/
def Does {β : Type} (m : HostM β) (h : Host) (b : β) (t : Scene) : Prop :=
  ∃ k, m h = (.ok b, k) ∧ k.scene = t ∧ SameOwner h k

theorem Does.bind {β γ : Type} {m : HostM β} {next : β → HostM γ} {b : β} {c : γ} {s t : Scene}
    (hm : Does m h b s)
    (hNext : ∀ k, k.scene = s → SameOwner h k → Does (next b) k c t) :
    Does (m >>= next) h c t := by
  obtain ⟨k, hRun, hs, hk⟩ := hm
  obtain ⟨l, hRest, ht, hl⟩ := hNext k hs hk
  refine ⟨l, ?_, ht, hk.trans hl⟩
  rw [run_bind, hRun]
  exact hRest

/-- Work on a host does one thing only. -/
theorem Does.unique {β : Type} {m : HostM β} {b c : β} {s t : Scene} (hm : Does m h b s)
    (hm' : Does m h c t) : b = c ∧ s = t := by
  obtain ⟨k, hRun, rfl, -⟩ := hm
  obtain ⟨l, hRun', rfl, -⟩ := hm'
  rw [hRun] at hRun'
  cases hRun'
  exact ⟨rfl, rfl⟩

theorem does_pure {β : Type} (b : β) (h : Host) : Does (pure b) h b h.scene :=
  ⟨h, rfl, rfl, SameOwner.refl h⟩

/-- Work whose result is put into another form. -/
theorem Does.map {β γ : Type} {m : HostM β} {b : β} {t : Scene} (hm : Does m h b t) (f : β → γ) :
    Does (m >>= fun b => pure (f b)) h (f b) t := by
  refine hm.bind fun k hk _ => ?_
  rw [← hk]
  exact does_pure (f b) k

theorem does_counted (hw : h.Willing) (call : HostCall) (fault : SceneFault) {id : NodeId}
    (hLive : h.scene.contains id = true) (f : Scene → Scene) :
    Does (pass call fault >>= fun _ => change id f) h () (f h.scene) := by
  refine ⟨{ h.count call with scene := f h.scene }, ?_, rfl, rfl, rfl⟩
  have hCounted : (h.count call).scene.contains id = true := hLive
  rw [run_pass_bind, hw, change, if_pos hCounted]
  rfl

theorem does_setRect (hw : h.Willing) {id : NodeId} (hLive : h.scene.contains id = true)
    (r : Rect Single) : Does (setRect id r) h () (h.scene.setRect id r) :=
  does_counted hw _ _ hLive _

theorem does_attach (hw : h.Willing) {id : NodeId} (hLive : h.scene.contains id = true)
    (c : Component NodeId) :
    Does (attach id c) h () (h.scene.modifyComponents id (· ++ [c])) :=
  does_counted hw _ _ hLive _

theorem does_setActive (hw : h.Willing) {id : NodeId} (hLive : h.scene.contains id = true)
    (active : Bool) :
    Does (setActive id active) h () (h.scene.modify id fun n => { n with active := active }) :=
  does_counted hw _ _ hLive _

theorem does_create (hw : h.Willing) {parent : NodeId} (hLive : h.scene.contains parent = true)
    (name : String) :
    Does (create name parent) h h.scene.nodes.nextKey (h.scene.withChild parent (.fresh name)) := by
  refine ⟨{ h.count .create with scene := h.scene.withChild parent (.fresh name) }, ?_, rfl, rfl,
    rfl⟩
  have hCounted : (h.count .create).scene = h.scene := rfl
  rw [create, run_pass_bind, hw]
  simp only [Scene.insertChild_eq, hCounted, hLive, Bool.false_eq_true, if_false, if_true]

theorem does_updateRect (hw : h.Willing) {id : NodeId} {r : Rect Single}
    (hr : h.scene.rect? id = some r) (f : Rect Single → Rect Single) :
    Does (updateRect id f) h () (h.scene.setRect id (f r)) := by
  have hLive : h.scene.contains id = true := Scene.contains_of_rect? hr
  have hRun : updateRect id f h = setRect id (f r) h := by
    rw [updateRect, run_current_bind, hr]
  unfold Does
  rw [hRun]
  exact does_setRect hw hLive (f r)

theorem does_updateComponent (id : NodeId) (f : α → α) (h : Host) :
    Does (updateComponent id f) h () (h.scene.modifyComponent id f) :=
  ⟨_, rfl, rfl, rfl, rfl⟩

theorem has_eq_component? (s : Scene) (id : NodeId) :
    s.has (ComponentType.kind α) id = (s.component? α id).isSome := by
  simp only [Scene.has, Scene.component?, firstOf?]
  generalize s.components id = cs
  induction cs with
  | nil => rfl
  | cons c cs ih =>
    have hKind := ComponentType.kind_of_unwrap? (α := α) c
    cases hc : (ComponentType.unwrap? c : Option α) with
    | none =>
      have hNe : (c.kind == ComponentType.kind α) = false := by simpa [hc] using hKind
      simpa [hc, hNe] using ih
    | some a =>
      have hEq : c.kind = ComponentType.kind α := by simpa [hc] using hKind
      simp [hc, hEq]

theorem component?_attach {s : Scene} {id : NodeId} (hLive : s.contains id = true)
    (hNone : s.component? α id = none) (a : α) :
    (s.modifyComponents id (· ++ [ComponentType.wrap a])).component? α id = some a := by
  have hWrap := (ComponentType.unwrap?_eq_some_iff (ComponentType.wrap a) a).mpr rfl
  simp only [Scene.component?, firstOf?] at hNone ⊢
  rw [Scene.components_attach hLive, List.findSome?_append, hNone]
  simp [hWrap]

theorem component?_modifyComponent (s : Scene) (id a : NodeId) (f : α → α) :
    (s.modifyComponent id f).component? α a =
      if a = id then (s.component? α a).map f else s.component? α a := by
  simp only [Scene.component?, Scene.components, Scene.modifyComponent, Scene.modifyComponents,
    Scene.node?_modify]
  split
  · cases s.node? a with
    | none => rfl
    | some n => exact firstOf?_modifyFirst f n.components
  · rfl

/-- The scene in which a node has a component of a type, the old one or a given one. -/
def supplied (s : Scene) (id : NodeId) (new : α) : Scene :=
  if s.has (ComponentType.kind α) id then s
  else s.modifyComponents id (· ++ [ComponentType.wrap new])

theorem does_changeFirst {id : NodeId} {a : α} (ha : h.scene.component? α id = some a)
    (f : α → α) : Does (changeFirst id f) h () (h.scene.modifyComponent id f) := by
  have hRun : changeFirst id f h = updateComponent id f h := by rw [run_changeFirst, ha]
  unfold Does
  rw [hRun]
  exact does_updateComponent id f h

theorem does_ensureComponent (hw : h.Willing) {id : NodeId} (hLive : h.scene.contains id = true)
    (new : α) (f : α → α) :
    Does (ensureComponent id new f) h () ((supplied h.scene id new).modifyComponent id f) := by
  have hHas := has_eq_component? (α := α) h.scene id
  unfold Does supplied
  rw [ensureComponent_eq, run_current_bind]
  cases hc : h.scene.has (ComponentType.kind α) id with
  | true =>
    obtain ⟨a, ha⟩ := Option.isSome_iff_exists.mp (hHas.symm.trans hc)
    exact does_changeFirst ha f
  | false =>
    have hNone : h.scene.component? α id = none := by simpa [hc] using hHas.symm
    refine (does_attach hw hLive (ComponentType.wrap new)).bind fun k hk _ => ?_
    have hSome := component?_attach hLive hNone new
    rw [← hk] at hSome
    have hDoes := does_changeFirst hSome f
    rw [hk] at hDoes
    exact hDoes

end AnchoredUi.SceneGraph.Host
