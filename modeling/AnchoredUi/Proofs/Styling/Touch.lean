import Mathlib.Logic.Relation
import AnchoredUi.Proofs.SceneGraph.Reference
import AnchoredUi.Proofs.Styling.Stage
import AnchoredUi.Styling.Cascade

/-!
# What styling touches

Styling an element changes nodes in their places. It sets the rectangle and the flag of the node of
the element, changes or attaches components there, changes the text of a child, and may give the
parent a layout group. This holds on every host, whatever it refuses.

* `Touch`: the single changes. A `Stroke` is one of the node or of its text.
* `draws_apply`: declarations are made of strokes.
* `keeps_cascade`: whole cascades are made of touches.
-/

namespace AnchoredUi.Styling.Subject

open Number Plane SceneGraph Style Sprite

variable {x : Subject}

/-- The node may get a component of a kind: it has none yet, and the component is no layout group
and no mask, and refers to nothing. The rectangle is not clipped where there is a mask, and only a
root is marked. -/
structure Admits (x : Subject) (s : Scene) (kind : ComponentKind) : Prop where
  new : s.has kind x.node = false
  loose : kind ∈ looseKinds
  not_group : kind ≠ .layoutGroup
  not_mask : kind ≠ .mask
  unmasked : kind = .rectMask → s.has .mask x.node = false
  isRoot : kind = .layoutRoot → x.isRoot = true

/-- The kinds of components that any node may get. -/
def commonKinds : List ComponentKind := [.graphic, .layoutHints, .canvasGroup]

theorem Admits.of_common {s : Scene} {kind : ComponentKind} (hKind : kind ∈ commonKinds)
    (hNew : s.has kind x.node = false) : x.Admits s kind := by
  have hLoose : ∀ kind ∈ commonKinds, kind ∈ looseKinds := by decide
  refine ⟨hNew, hLoose kind hKind, ?_, ?_, ?_, ?_⟩ <;> rintro rfl <;>
    exact absurd hKind (by decide)

/-- One change that styling makes. A component is attached where there is none of its kind yet. -/
inductive Touch (x : Subject) (s : Scene) : Scene → Prop
  | rect (r : Rect Single) : Touch x s (s.setRect x.node r)
  | active (flag : Bool) : Touch x s (s.modify x.node fun n => { n with active := flag })
  | attach (c : Component NodeId) (hNew : x.Admits s c.kind) :
      Touch x s (s.modifyComponents x.node (· ++ [c]))
  | change {α : Type} [ComponentType α] [Loose α] (f : α → α) :
      Touch x s (s.modifyComponents x.node (modifyFirst f))
  | text {id : NodeId} (hText : textNode? s x.node = some id) (f : TextBlock → TextBlock) :
      Touch x s (s.modifyComponents id (modifyFirst f))
  | group {p : NodeId} {style : Declarations} (hParent : x.parentNode = some p)
      (hStyle : x.parentStyle? = some style) (hAsks : asksForGroup style = true)
      (hNew : s.component? LayoutGroup p = none) (around : Surroundings) :
      Touch x s (s.modifyComponents p (· ++ [.layoutGroup (groupOf style around)]))

/-- One change of the node or of its text. No text is attached. -/
inductive Stroke (x : Subject) (s : Scene) : Scene → Prop
  | rect (r : Rect Single) : Stroke x s (s.setRect x.node r)
  | active (flag : Bool) : Stroke x s (s.modify x.node fun n => { n with active := flag })
  | attach (c : Component NodeId) (hNew : x.Admits s c.kind) (hText : c.kind ≠ .text) :
      Stroke x s (s.modifyComponents x.node (· ++ [c]))
  | change {α : Type} [ComponentType α] [Loose α] (f : α → α) :
      Stroke x s (s.modifyComponents x.node (modifyFirst f))
  | text {id : NodeId} (hText : textNode? s x.node = some id) (f : TextBlock → TextBlock) :
      Stroke x s (s.modifyComponents id (modifyFirst f))

theorem Stroke.touch {s t : Scene} (h : x.Stroke s t) : x.Touch s t := by
  cases h with
  | rect r => exact .rect r
  | active flag => exact .active flag
  | attach c hNew _ => exact .attach c hNew
  | change f => exact .change f
  | text hText f => exact .text hText f

/-- From one host to another one, only single changes were made. -/
structure Handled (x : Subject) (h k : Host) : Prop where
  owner : Host.SameOwner h k
  touches : Relation.ReflTransGen x.Touch h.scene k.scene

theorem Handled.refl (h : Host) : x.Handled h h := ⟨.refl h, .refl⟩

theorem Handled.trans {h k l : Host} (hk : x.Handled h k) (hl : x.Handled k l) : x.Handled h l :=
  ⟨hk.owner.trans hl.owner, hk.touches.trans hl.touches⟩

/-- From one host to another one, only the node and its text were changed. -/
structure Drawn (x : Subject) (h k : Host) : Prop where
  owner : Host.SameOwner h k
  strokes : Relation.ReflTransGen x.Stroke h.scene k.scene

theorem Drawn.refl (h : Host) : x.Drawn h h := ⟨.refl h, .refl⟩

theorem Drawn.trans {h k l : Host} (hk : x.Drawn h k) (hl : x.Drawn k l) : x.Drawn h l :=
  ⟨hk.owner.trans hl.owner, hk.strokes.trans hl.strokes⟩

theorem Drawn.of_perhaps {h k : Host} {s : Scene} (hOwner : Host.SameOwner h k)
    (hScene : Host.Perhaps h.scene s k.scene) (hStroke : x.Stroke h.scene s) : x.Drawn h k := by
  refine ⟨hOwner, ?_⟩
  rcases hScene with hSame | hChanged
  · rw [hSame]
  · rw [hChanged]
    exact .single hStroke

theorem Drawn.handled {h k : Host} (hk : x.Drawn h k) : x.Handled h k :=
  ⟨hk.owner, hk.strokes.lift id fun _ _ => Stroke.touch⟩

/-! ## Calls -/

section Calls

variable (h : Host)

theorem drawn_setRect (r : Rect Single) : x.Drawn h (Host.setRect x.node r h).2 :=
  .of_perhaps (Host.sameOwner_counted _ _ _ _ h) (Host.scene_setRect _ _ h) (.rect r)

theorem drawn_setActive (flag : Bool) : x.Drawn h (Host.setActive x.node flag h).2 :=
  .of_perhaps (Host.sameOwner_counted _ _ _ _ h) (Host.scene_setActive _ _ h) (.active flag)

theorem drawn_attach {c : Component NodeId} (hNew : x.Admits h.scene c.kind)
    (hText : c.kind ≠ .text) : x.Drawn h (Host.attach x.node c h).2 :=
  .of_perhaps (Host.sameOwner_counted _ _ _ _ h) (Host.scene_attach _ _ h) (.attach c hNew hText)

theorem drawn_updateRect (f : Rect Single → Rect Single) :
    x.Drawn h (Host.updateRect x.node f h).2 := by
  refine ⟨Host.sameOwner_updateRect _ _ h, ?_⟩
  rcases Host.scene_updateRect x.node f h with hSame | ⟨r, hSet⟩
  · rw [hSame]
  · rw [hSet]
    exact .single (.rect r)

theorem drawn_setExtent (axis : Axis) (extent : Single) :
    x.Drawn h (setExtent x.node axis extent h).2 := by
  unfold setExtent
  rw [Host.run_current_bind]
  exact drawn_updateRect h _

variable {α : Type} [ComponentType α] [Loose α]

theorem drawn_updateComponent (f : α → α) :
    x.Drawn h (Host.updateComponent x.node f h).2 :=
  ⟨⟨rfl, rfl⟩, .single (.change f)⟩

theorem drawn_ensureComponent (hKind : ComponentType.kind α ∈ commonKinds) (new : α)
    (f : α → α) : x.Drawn h (Host.ensureComponent x.node new f h).2 := by
  refine ⟨Host.sameOwner_ensureComponent _ _ _ h, ?_⟩
  obtain ⟨s, hMid, hEnd⟩ := Host.scene_ensureComponent x.node new f h
  have hFirst : Relation.ReflTransGen x.Stroke h.scene s := by
    rcases hMid with rfl | ⟨hNew, rfl⟩
    · exact .refl
    · have hText : ComponentType.kind α ≠ .text := by
        intro hText
        rw [hText] at hKind
        exact absurd hKind (by decide)
      exact .single (.attach _ (by rw [kind_wrap]; exact .of_common hKind hNew)
        (by rwa [kind_wrap]))
  rcases hEnd with hSame | hChanged
  · rw [hSame]
    exact hFirst
  · rw [hChanged]
    exact hFirst.tail (.change f)

end Calls

/-! ## Work on a stage -/

section Stages

variable {ε β γ : Type} {R : Host → Host → Prop} (hRefl : ∀ h, R h h)
  (hTrans : ∀ h k l, R h k → R k l → R h l)

/-- Work on a stage leads from each host to one that is related to it. -/
def Follows (R : Host → Host → Prop) {β : Type} (m : Stage → β × Stage) : Prop :=
  ∀ st, R st.host (m st).2.host

theorem follows_onHost {fault : SceneFault → ε} {m : HostM β} (hm : ∀ h, R h (m h).2) :
    Follows R (onHost fault m) := fun st => hm st.host

theorem follows_orWarn {m : StageM ε Unit} (hm : Follows R m) (cause : ε → Warning) :
    Follows R (orWarn m cause) := by
  intro st
  have hRun := hm st
  unfold orWarn
  rcases hm' : m st with ⟨_ | _, st'⟩ <;> simpa [hm', raise] using hRun

theorem follows_tryHost {m : HostM Unit} (hm : ∀ h, R h (m h).2) : Follows R (x.tryHost m) :=
  follows_orWarn (follows_onHost hm) _

include hTrans

theorem follows_bind {m : StageM ε β} {next : β → StageM ε γ} (hm : Follows R m)
    (hNext : ∀ b, Follows R (next b)) : Follows R (m >>= next) := by
  intro st
  have hFirst := hm st
  rw [run_bind]
  rcases hRun : m st with ⟨_ | b, st'⟩
  · simpa [hRun] using hFirst
  · rw [hRun] at hFirst
    exact hTrans _ _ _ hFirst (hNext b st')

theorem follows_then {m : StateM Stage Unit} {next : StateM Stage β} (hm : Follows R m)
    (hNext : Follows R next) : Follows R (m >>= fun _ => next) := fun st =>
  hTrans _ _ _ (hm st) (hNext (m st).2)

include hRefl

theorem follows_forM {step : β → StateM Stage Unit} (hStep : ∀ b, Follows R (step b))
    (bs : List β) : Follows R (bs.forM step) := by
  induction bs with
  | nil => exact fun st => hRefl st.host
  | cons b bs ih => exact follows_then hTrans (hStep b) ih

end Stages

/-- Work on a stage only makes single changes. -/
def Keeps (x : Subject) {β : Type} (m : Stage → β × Stage) : Prop :=
  ∀ st, x.Handled st.host (m st).2.host

/-- Work on a stage only changes the node and its text. -/
def Draws (x : Subject) {β : Type} (m : Stage → β × Stage) : Prop := Follows x.Drawn m

theorem Draws.keeps {β : Type} {m : Stage → β × Stage} (hm : x.Draws m) : x.Keeps m :=
  fun st => (hm st).handled

section Draws

variable {ε β γ : Type}

theorem draws_pure (b : β) : x.Draws (pure b : StageM ε β) := fun st => .refl st.host

theorem draws_throw (f : ε) : x.Draws (throw f : StageM ε β) := fun st => .refl st.host

theorem Draws.bind {m : StageM ε β} {next : β → StageM ε γ} (hm : x.Draws m)
    (hNext : ∀ b, x.Draws (next b)) : x.Draws (m >>= next) :=
  follows_bind (R := x.Drawn) (fun _ _ _ => Drawn.trans) hm hNext

theorem draws_then {m : StateM Stage Unit} {next : StateM Stage β} (hm : x.Draws m)
    (hNext : x.Draws next) : x.Draws (m >>= fun _ => next) :=
  follows_then (R := x.Drawn) (fun _ _ _ => Drawn.trans) hm hNext

theorem draws_forM {step : β → StateM Stage Unit} (hStep : ∀ b, x.Draws (step b))
    (bs : List β) : x.Draws (bs.forM step) :=
  follows_forM Drawn.refl (fun _ _ _ => Drawn.trans) hStep bs

/-- What is done next may use that it starts from the scene that was looked at. -/
theorem draws_current_bind {next : Scene → StageM ε γ}
    (hNext : ∀ st, x.Drawn st.host (next st.host.scene st).2.host) :
    x.Draws (currentScene >>= next) := hNext

theorem drawn_onHost {fault : SceneFault → ε} {m : HostM β} {st : Stage}
    (hm : x.Drawn st.host (m st.host).2) : x.Drawn st.host (onHost fault m st).2.host := by
  unfold onHost
  exact hm

theorem draws_warn (label : Option String) (cause : WarningCause) :
    x.Draws (warn label cause : StageM ε Unit) := fun st => .refl st.host

theorem draws_findSprite (address : String) :
    x.Draws (findSprite address : StageM ε (Option Sprite)) := by
  intro st
  rw [run_findSprite]
  exact .refl st.host

end Draws

/-! ## Single properties -/

theorem draws_hostWork {m : HostM Unit} (hm : ∀ h, x.Drawn h (m h).2) :
    x.Draws (hostWork m) := follows_onHost hm

theorem draws_updateHints (f : LayoutHints → LayoutHints) :
    x.Draws (hostWork (updateHints x.node f)) :=
  draws_hostWork fun h => drawn_ensureComponent h (by decide) _ f

theorem draws_updateGraphic (f : Graphic → Graphic) :
    x.Draws (hostWork (updateGraphic x.node f)) :=
  draws_hostWork fun h => drawn_ensureComponent h (by decide) _ f

theorem draws_updateRect (f : Rect Single → Rect Single) :
    x.Draws (hostWork (Host.updateRect x.node f)) :=
  draws_hostWork fun h => drawn_updateRect h f

theorem draws_updateComponent {α : Type} [ComponentType α] [Loose α] (f : α → α) :
    x.Draws (hostWork (Host.updateComponent x.node f)) :=
  draws_hostWork fun h => drawn_updateComponent h f

theorem draws_current {ε : Type} : x.Draws (currentScene : StageM ε Scene) :=
  fun st => .refl st.host

theorem draws_setSize (axis : Axis) (value : Scalar) : x.Draws (x.setSize axis value) := by
  refine draws_current.bind fun s => ?_
  cases (x.surroundings s).length? value axis with
  | none => exact draws_hostWork fun h => drawn_setExtent h _ _
  | some pixels =>
    simp only
    split
    · exact draws_throw _
    · exact draws_hostWork fun h => drawn_setExtent h _ _

theorem draws_setHint (axis : Axis) (value : Scalar)
    (f : Option Single → LayoutHints → LayoutHints) : x.Draws (x.setHint axis value f) :=
  draws_current.bind fun _ => draws_updateHints _

theorem draws_setInset (side : Rect.Side) (distance : Scalar) :
    x.Draws (x.setInset side distance) := by
  refine draws_current.bind fun s => ?_
  cases (x.surroundings s).length? distance side.axis with
  | none => exact draws_pure ()
  | some d => exact draws_updateRect _

theorem draws_setPosition (value : Position) : x.Draws (x.setPosition value) := by
  cases value with
  | relative => exact draws_pure ()
  | absolute =>
    exact (draws_hostWork fun h => drawn_setRect h _).bind fun _ => draws_updateHints _

theorem draws_setPadding (sides : Spacing (Option Scalar)) : x.Draws (x.setPadding sides) := by
  refine draws_current.bind fun s => ?_
  simp only
  split
  · exact draws_updateComponent _
  · split
    · exact draws_pure ()
    · exact draws_updateRect _

theorem draws_moveAcross (axis : Axis) (place : Placement) :
    x.Draws (x.moveAcross axis place) :=
  draws_current.bind fun _ => draws_updateRect _

theorem draws_setAlignSelf (align : Align) : x.Draws (x.setAlignSelf align) := by
  refine draws_current.bind fun s => ?_
  simp only
  split
  · exact draws_updateHints _
  · cases align with
    | auto => exact draws_pure ()
    | start | center | finish => exact draws_moveAcross _ _
    | stretch => exact (draws_updateHints _).bind fun _ => draws_updateRect _

theorem draws_setBackground (address : String) : x.Draws (x.setBackground address) := by
  unfold setBackground
  split
  · exact draws_updateComponent _
  · refine (draws_findSprite address).bind fun found => ?_
    cases found with
    | none => exact draws_warn _ _
    | some sprite =>
      simp only
      split
      · exact (draws_warn _ _).bind fun _ => draws_updateGraphic _
      · exact (draws_pure ()).bind fun _ => draws_updateGraphic _

theorem has_of_component?_isNone {α : Type} [ComponentType α] {s : Scene} {id : NodeId}
    (h : ¬ (s.component? α id).isSome = true) : s.has (ComponentType.kind α) id = false := by
  rw [Host.has_eq_component?]
  simpa using h

theorem draws_setOpacity (alpha : Single) : x.Draws (x.setOpacity alpha) := by
  refine draws_current_bind fun st => ?_
  split
  · exact drawn_onHost (drawn_updateComponent _ _)
  · rename_i hNone
    have hKind : ComponentKind.canvasGroup ∈ commonKinds := by decide
    exact drawn_onHost (drawn_attach _
      (.of_common hKind (has_of_component?_isNone (α := CanvasGroup) hNone)) nofun)

theorem draws_setOverflow (value : Overflow) : x.Draws (x.setOverflow value) := by
  refine draws_current_bind fun st => ?_
  by_cases hClip : value = .hidden ∧
      (!(st.host.scene.has .rectMask x.node || st.host.scene.has .mask x.node)) = true
  · rw [if_pos hClip]
    have hNone := hClip.2
    rw [Bool.not_eq_true', Bool.or_eq_false_iff] at hNone
    exact drawn_onHost (drawn_attach _
      ⟨hNone.1, by decide, nofun, nofun, fun _ => hNone.2, nofun⟩ nofun)
  · rw [if_neg hClip]
    exact draws_pure () st

theorem draws_setText (change : TextChange) : x.Draws (x.setText change) := by
  refine draws_current_bind fun st => ?_
  cases changedText (x.surroundings st.host.scene)
      ((textOf? st.host.scene x.node).getD (.plain "" "" 0)) change with
  | error f => exact draws_throw _ st
  | ok changed =>
    cases hText : textNode? st.host.scene x.node with
    | none => exact draws_pure () st
    | some id => exact drawn_onHost ⟨⟨rfl, rfl⟩, .single (.text hText _)⟩

/-! ## Declarations and cascades -/

theorem draws_perform (change : Change) : x.Draws (x.perform change) := by
  unfold perform
  cases change with
  | size axis value => exact draws_setSize axis value
  | leastSize axis value => exact draws_setHint axis value _
  | preferredSize axis value => exact draws_setHint axis value _
  | basis value => exact draws_current.bind fun _ => draws_setHint _ value _
  | grow factor => exact draws_current.bind fun _ => draws_updateHints _
  | shrink _ => exact draws_pure ()
  | inset side distance => exact draws_setInset side distance
  | position value => exact draws_setPosition value
  | margin sides => exact draws_current.bind fun _ => draws_updateRect _
  | padding sides => exact draws_setPadding sides
  | group => exact draws_updateComponent _
  | alignSelf value => exact draws_setAlignSelf value
  | display value => exact draws_hostWork fun h => drawn_setActive h _
  | graphicColor value => exact draws_updateGraphic _
  | backgroundImage address => exact draws_setBackground address
  | backgroundSize value => exact draws_updateGraphic _
  | backgroundRepeat value => exact draws_updateGraphic _
  | opacity value => exact draws_setOpacity value
  | overflow value => exact draws_setOverflow value
  | text change => exact draws_setText change

theorem draws_apply (d : Declaration) : x.Draws (x.apply d) := by
  unfold apply
  cases Property.named? d.property with
  | none => exact fun st => .refl st.host
  | some p =>
    refine follows_orWarn ?_ _
    cases Change.read p d.value with
    | error f => exact draws_throw _
    | ok change => exact draws_perform change

theorem drawn_markRoot (h : Host) : x.Drawn h (x.markRoot h).2 := by
  unfold markRoot
  split
  · rename_i hRoot
    rw [Host.run_bind]
    have hFirst := drawn_setRect h (x := x) (.centered x.canvas.width x.canvas.height)
    generalize Host.setRect x.node _ h = run at hFirst
    obtain ⟨_ | _, k⟩ := run
    · exact hFirst
    · refine hFirst.trans ?_
      simp only [Host.run_current_bind]
      split
      · rename_i hNew
        rw [Bool.not_eq_true'] at hNew
        have hMark : ComponentKind.layoutRoot ∈ looseKinds := by decide
        exact drawn_attach k ⟨hNew, hMark, nofun, nofun, nofun, fun _ => hRoot⟩ nofun
      · exact .refl k
  · exact .refl h

theorem drawn_reconcile (name : String) (axis : Axis) (h : Host) :
    x.Drawn h (x.reconcile name axis h).2 := by
  unfold reconcile
  rw [Host.run_current_bind]
  cases x.declaredExtent? h.scene name axis with
  | none => exact .refl h
  | some expected =>
    simp only
    split
    · exact drawn_setExtent h _ _
    · exact .refl h

/-- The parent is given the layout group that it asks for, or nothing happens. -/
theorem ensureParentGroup_cases (x : Subject) (h : Host) :
    Host.SameOwner h (x.ensureParentGroup h).2 ∧
      ((x.ensureParentGroup h).2.scene = h.scene ∨ ∃ p style around, x.parentNode = some p ∧
        x.parentStyle? = some style ∧ asksForGroup style = true ∧
        h.scene.component? LayoutGroup p = none ∧ (x.ensureParentGroup h).2.scene =
          h.scene.modifyComponents p (· ++ [.layoutGroup (groupOf style around)])) := by
  unfold ensureParentGroup
  rw [Host.run_current_bind]
  cases x.parentNode with
  | none => exact ⟨.refl h, Or.inl rfl⟩
  | some p =>
    cases x.parentStyle? with
    | none => exact ⟨.refl h, Or.inl rfl⟩
    | some style =>
      simp only
      split
      · rename_i hAsks
        simp only [Bool.and_eq_true, Option.isNone_iff_eq_none] at hAsks
        refine ⟨Host.sameOwner_counted _ _ _ _ h, (Host.scene_attach _ _ h).imp_right ?_⟩
        exact fun hMore => ⟨p, style, _, rfl, rfl, hAsks.1, hAsks.2, hMore⟩
      · exact ⟨.refl h, Or.inl rfl⟩

theorem handled_ensureParentGroup (h : Host) : x.Handled h (x.ensureParentGroup h).2 := by
  obtain ⟨hOwner, hSame | ⟨p, style, around, hParent, hStyle, hAsks, hNew, hMore⟩⟩ :=
    x.ensureParentGroup_cases h
  · exact ⟨hOwner, by rw [hSame]⟩
  · refine ⟨hOwner, ?_⟩
    rw [hMore]
    exact .single (.group hParent hStyle hAsks hNew around)

theorem handled_markRoot (h : Host) : x.Handled h (x.markRoot h).2 := (drawn_markRoot h).handled

theorem handled_reconcile (name : String) (axis : Axis) (h : Host) :
    x.Handled h (x.reconcile name axis h).2 := (drawn_reconcile name axis h).handled

theorem keeps_apply (d : Declaration) : x.Keeps (x.apply d) := (draws_apply d).keeps

theorem keeps_tryHost {m : HostM Unit} (hm : ∀ h, x.Handled h (m h).2) :
    x.Keeps (x.tryHost m) := follows_tryHost hm

theorem keeps_then {β : Type} {m : StateM Stage Unit} {next : StateM Stage β} (hm : x.Keeps m)
    (hNext : x.Keeps next) : x.Keeps (m >>= fun _ => next) :=
  follows_then (R := x.Handled) (fun _ _ _ => Handled.trans) hm hNext

theorem keeps_forM {β : Type} {step : β → StateM Stage Unit} (hStep : ∀ b, x.Keeps (step b))
    (bs : List β) : x.Keeps (bs.forM step) :=
  follows_forM Handled.refl (fun _ _ _ => Handled.trans) hStep bs

/-- A cascade only makes single changes. -/
theorem keeps_cascade (x : Subject) : x.Keeps x.cascade :=
  keeps_then (keeps_tryHost handled_ensureParentGroup) <|
    keeps_then (keeps_tryHost handled_markRoot) <|
      keeps_then (keeps_forM keeps_apply _) <|
        keeps_forM (fun _ => keeps_tryHost (handled_reconcile _ _)) _

end AnchoredUi.Styling.Subject
