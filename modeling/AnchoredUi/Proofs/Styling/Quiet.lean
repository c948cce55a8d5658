import AnchoredUi.Proofs.SceneGraph.Furnish
import AnchoredUi.Proofs.Styling.ParentGroup

/-!
# Changes that succeed

On a host that refuses nothing, most of what styling does cannot fail: the node is there, and so is
every component that is changed. Such work raises no warning, and unless it is about texts it leaves
all texts as they are.

* `Silent`, `Quiet`: such work on a host and on a stage.
* `quiet_setHint`, `quiet_setAlignSelf` and so on: one rule for each operation.
-/

namespace AnchoredUi.Styling

open Number Plane SceneGraph Style Sprite

/-! ## The same texts -/

/-- Nodes are where they were, and texts are as they were. -/
structure SameTexts (s t : Scene) : Prop where
  place_eq : ∀ id, t.place? id = s.place? id
  text_eq : ∀ id, t.component? TextBlock id = s.component? TextBlock id

section SameTexts

variable {s t r : Scene}

theorem SameTexts.refl (s : Scene) : SameTexts s s := ⟨fun _ => rfl, fun _ => rfl⟩

theorem SameTexts.trans (h : SameTexts s t) (h' : SameTexts t r) : SameTexts s r :=
  ⟨fun id => (h'.place_eq id).trans (h.place_eq id), fun id => (h'.text_eq id).trans (h.text_eq id)⟩

theorem SameTexts.contains_eq (h : SameTexts s t) (id : NodeId) :
    t.contains id = s.contains id := Scene.contains_of_place? (h.place_eq id)

theorem SameTexts.textOf?_eq (h : SameTexts s t) (id : NodeId) : textOf? t id = textOf? s id :=
  textOf?_congr h.place_eq h.text_eq id

/-- A change of a node that is not about its name or its texts. -/
theorem sameTexts_modify (s : Scene) (id : NodeId) {f : Node → Node}
    (hName : ∀ n, (f n).name = n.name)
    (hText : ∀ n, firstOf? TextBlock (f n).components = firstOf? TextBlock n.components) :
    SameTexts s (s.modify id f) :=
  ⟨fun other => Scene.place?_modify s id other hName, Scene.component?_modify_of hText s id⟩

theorem sameTexts_attach (s : Scene) (id : NodeId) {c : Component NodeId} (hKind : c.kind ≠ .text) :
    SameTexts s (s.modifyComponents id (· ++ [c])) :=
  sameTexts_modify s id (fun _ => rfl) fun n => firstOf?_append_other hKind n.components

theorem sameTexts_modifyComponent {α : Type} [ComponentType α]
    (hKind : ComponentType.kind α ≠ .text) (s : Scene) (id : NodeId) (f : α → α) :
    SameTexts s (s.modifyComponent id f) :=
  sameTexts_modify s id (f := fun n => { n with components := modifyFirst f n.components })
    (fun _ => rfl) fun n => firstOf?_modifyFirst_other hKind f n.components

theorem sameTexts_setRect (s : Scene) (id : NodeId) (r : Rect Single) :
    SameTexts s (s.setRect id r) :=
  sameTexts_modify s id (fun _ => rfl) fun _ => rfl

theorem sameTexts_supplied {α : Type} [ComponentType α] (hKind : ComponentType.kind α ≠ .text)
    (s : Scene) (id : NodeId) (new : α) : SameTexts s (Host.supplied s id new) := by
  unfold Host.supplied
  split
  · exact .refl s
  · exact sameTexts_attach s id (by rwa [kind_wrap])

end SameTexts

namespace Subject

variable {x : Subject}

/-! ## Work with a host -/

/-- Work with a host that succeeds where the node is there, and changes no text. -/
def Silent (x : Subject) (m : HostM Unit) : Prop :=
  ∀ h, h.Willing → h.scene.contains x.node = true →
    ∃ t, Host.Does m h () t ∧ SameTexts h.scene t

theorem silent_pure : x.Silent (pure ()) := fun h _ _ => ⟨h.scene, Host.does_pure () h, .refl _⟩

/-- What is done may use that it starts from the scene that was looked at. -/
theorem silent_current_bind {next : Scene → HostM Unit} (hNext : ∀ s, x.Silent (next s)) :
    x.Silent (Host.current >>= next) := fun h hw hLive => hNext h.scene h hw hLive

theorem Silent.bind {m next : HostM Unit} (hm : x.Silent m) (hNext : x.Silent next) :
    x.Silent (m >>= fun _ => next) := by
  intro h hw hLive
  obtain ⟨s, ⟨k, hRun, rfl, hOwner⟩, hSame⟩ := hm h hw hLive
  obtain ⟨t, ⟨l, hRun', rfl, hOwner'⟩, hSame'⟩ :=
    hNext k (hOwner.willing hw) ((hSame.contains_eq x.node).trans hLive)
  refine ⟨l.scene, ⟨l, ?_, rfl, hOwner.trans hOwner'⟩, hSame.trans hSame'⟩
  rw [Host.run_bind, hRun]
  exact hRun'

theorem silent_setRect (r : Rect Single) : x.Silent (Host.setRect x.node r) := fun _ hw hLive =>
  ⟨_, Host.does_setRect hw hLive r, sameTexts_setRect _ _ r⟩

theorem silent_setActive (flag : Bool) : x.Silent (Host.setActive x.node flag) :=
  fun _ hw hLive =>
    ⟨_, Host.does_setActive hw hLive flag, sameTexts_modify _ _ (fun _ => rfl) fun _ => rfl⟩

theorem silent_attach {c : Component NodeId} (hKind : c.kind ≠ .text) :
    x.Silent (Host.attach x.node c) := fun _ hw hLive =>
  ⟨_, Host.does_attach hw hLive c, sameTexts_attach _ _ hKind⟩

theorem silent_updateRect (f : Rect Single → Rect Single) :
    x.Silent (Host.updateRect x.node f) := fun _ hw hLive => by
  obtain ⟨r, hr⟩ := Scene.rect?_of_contains hLive
  exact ⟨_, Host.does_updateRect hw hr f, sameTexts_setRect _ _ _⟩

theorem silent_setExtent (axis : Axis) (extent : Single) :
    x.Silent (setExtent x.node axis extent) :=
  silent_current_bind fun _ => silent_updateRect _

section Components

variable {α : Type} [ComponentType α] (hKind : ComponentType.kind α ≠ .text)
include hKind

theorem silent_updateComponent (f : α → α) : x.Silent (Host.updateComponent x.node f) :=
  fun _ _ _ => ⟨_, Host.does_updateComponent _ f _, sameTexts_modifyComponent hKind _ _ f⟩

theorem silent_ensureComponent (new : α) (f : α → α) :
    x.Silent (Host.ensureComponent x.node new f) := fun _ hw hLive =>
  ⟨_, Host.does_ensureComponent hw hLive new f,
    (sameTexts_supplied hKind _ _ new).trans (sameTexts_modifyComponent hKind _ _ f)⟩

end Components

theorem silent_markRoot : x.Silent x.markRoot := by
  unfold markRoot
  split
  · refine (silent_setRect _).bind (silent_current_bind fun s => ?_)
    split
    · exact silent_attach nofun
    · exact silent_pure
  · exact silent_pure

theorem silent_reconcile (name : String) (axis : Axis) : x.Silent (x.reconcile name axis) := by
  refine silent_current_bind fun s => ?_
  cases x.declaredExtent? s name axis with
  | none => exact silent_pure
  | some expected =>
    simp only
    split
    · exact silent_setExtent _ _
    · exact silent_pure

/-! ## Work on a stage -/

/-- Work on a stage that succeeds where the node is there, changes nothing but the scene, and no
text in it. -/
def Quiet (x : Subject) {ε : Type} (m : StageM ε Unit) : Prop :=
  ∀ st : Stage, st.host.Willing → st.host.scene.contains x.node = true →
    ∃ k, m st = (.ok (), { st with host := k }) ∧ Host.SameOwner st.host k ∧
      SameTexts st.host.scene k.scene

section Quiet

variable {ε : Type}

theorem quiet_pure : x.Quiet (pure () : StageM ε Unit) := fun st _ _ =>
  ⟨st.host, rfl, .refl _, .refl _⟩

theorem quiet_current_bind {next : Scene → StageM ε Unit} (hNext : ∀ s, x.Quiet (next s)) :
    x.Quiet (currentScene >>= next) := fun st hw hLive => hNext st.host.scene st hw hLive

theorem Quiet.bind {m next : StageM ε Unit} (hm : x.Quiet m) (hNext : x.Quiet next) :
    x.Quiet (m >>= fun _ => next) := by
  intro st hw hLive
  obtain ⟨k, hRun, hOwner, hSame⟩ := hm st hw hLive
  obtain ⟨l, hRun', hOwner', hSame'⟩ := hNext { st with host := k } (hOwner.willing hw)
    ((hSame.contains_eq x.node).trans hLive)
  exact ⟨l, (run_bind_ok hRun).trans hRun', hOwner.trans hOwner', hSame.trans hSame'⟩

theorem quiet_onHost {fault : SceneFault → ε} {m : HostM Unit} (hm : x.Silent m) :
    x.Quiet (onHost fault m) := by
  intro st hw hLive
  obtain ⟨t, ⟨k, hRun, rfl, hOwner⟩, hSame⟩ := hm st.host hw hLive
  exact ⟨k, run_onHost hRun, hOwner, hSame⟩

end Quiet

theorem quiet_hostWork {m : HostM Unit} (hm : x.Silent m) : x.Quiet (hostWork m) := quiet_onHost hm

theorem quiet_updateHints (f : LayoutHints → LayoutHints) :
    x.Quiet (hostWork (updateHints x.node f)) :=
  quiet_hostWork (silent_ensureComponent (by decide) _ f)

theorem quiet_updateGraphic (f : Graphic → Graphic) :
    x.Quiet (hostWork (updateGraphic x.node f)) :=
  quiet_hostWork (silent_ensureComponent (by decide) _ f)

theorem quiet_updateRect (f : Rect Single → Rect Single) :
    x.Quiet (hostWork (Host.updateRect x.node f)) := quiet_hostWork (silent_updateRect f)

theorem quiet_setHint (axis : Axis) (value : Scalar)
    (f : Option Single → LayoutHints → LayoutHints) : x.Quiet (x.setHint axis value f) :=
  quiet_current_bind fun _ => quiet_updateHints _

theorem quiet_setInset (side : Rect.Side) (distance : Scalar) :
    x.Quiet (x.setInset side distance) := by
  refine quiet_current_bind fun s => ?_
  cases (x.surroundings s).length? distance side.axis with
  | none => exact quiet_pure
  | some d => exact quiet_updateRect _

theorem quiet_setPosition (value : Position) : x.Quiet (x.setPosition value) := by
  cases value with
  | relative => exact quiet_pure
  | absolute => exact (quiet_hostWork (silent_setRect _)).bind (quiet_updateHints _)

theorem quiet_setPadding (sides : Spacing (Option Scalar)) : x.Quiet (x.setPadding sides) := by
  refine quiet_current_bind fun s => ?_
  simp only
  split
  · exact quiet_hostWork (silent_updateComponent (by decide) _)
  · split
    · exact quiet_pure
    · exact quiet_updateRect _

theorem quiet_moveAcross (axis : Axis) (place : Placement) : x.Quiet (x.moveAcross axis place) :=
  quiet_current_bind fun _ => quiet_updateRect _

theorem quiet_setAlignSelf (align : Align) : x.Quiet (x.setAlignSelf align) := by
  refine quiet_current_bind fun s => ?_
  simp only
  split
  · exact quiet_updateHints _
  · cases align with
    | auto => exact quiet_pure
    | start | center | finish => exact quiet_moveAcross _ _
    | stretch => exact (quiet_updateHints _).bind (quiet_updateRect _)

theorem quiet_setOpacity (alpha : Single) : x.Quiet (x.setOpacity alpha) := by
  refine quiet_current_bind fun s => ?_
  split
  · exact quiet_hostWork (silent_updateComponent (by decide) _)
  · exact quiet_hostWork (silent_attach nofun)

theorem quiet_setOverflow (value : Overflow) : x.Quiet (x.setOverflow value) := by
  refine quiet_current_bind fun s => ?_
  simp only
  split
  · exact quiet_hostWork (silent_attach nofun)
  · exact quiet_pure

end Subject

end AnchoredUi.Styling
