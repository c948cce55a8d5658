import AnchoredUi.Proofs.SceneGraph.Refusal
import AnchoredUi.Proofs.Styling.Verdict

/-!
# Declarations that fail

A host may refuse a call after a declaration was read. Most declarations make one call only, and
then a refusal leaves the scene alone. Two declarations make two calls and do not take back the
first one when the second one is refused.

* `Whole`: work that does nothing if it fails.
* `scene_of_carryOut_error`: what a declaration that fails leaves behind.
* `carryOut_absolute`, `not_kept_on_error`: a declaration that is left half done.
-/

namespace AnchoredUi.Styling.Subject

open Number Plane SceneGraph Style Sprite

variable {x : Subject}

/-! ## Work that does nothing if it fails -/

/-- Work on a stage that leaves the scene alone if it fails where the node is there. -/
def Whole (x : Subject) {ε β : Type} (m : StageM ε β) : Prop :=
  ∀ st, st.host.scene.contains x.node = true → ∀ f st', m st = (.error f, st') →
    st'.host.scene = st.host.scene

/-- A call that is made or refused where the node is there. -/
def Answers (x : Subject) (m : HostM Unit) : Prop :=
  ∀ h : Host, h.scene.contains x.node = true →
    ∃ t, Host.Answered h (.missingNode x.node) () t (m h)

section Whole

variable {ε β γ : Type}

theorem whole_pure (b : β) : x.Whole (pure b : StageM ε β) := by
  intro st hLive f st' hRun
  cases hRun

theorem whole_throw (f : ε) : x.Whole (throw f : StageM ε β) := by
  intro st hLive g st' hRun
  cases hRun
  rfl

theorem whole_current_bind {next : Scene → StageM ε γ} (hNext : ∀ s, x.Whole (next s)) :
    x.Whole (currentScene >>= next) := fun st => hNext st.host.scene st

/-- Work after something that cannot fail and does not use the host. -/
theorem whole_after {m : StageM ε β} {next : β → StageM ε γ}
    (hm : ∀ st, ∃ b mid, m st = (.ok b, mid) ∧ mid.host = st.host)
    (hNext : ∀ b, x.Whole (next b)) : x.Whole (m >>= next) := by
  intro st hLive f st' hRun
  obtain ⟨b, mid, hFirst, hHost⟩ := hm st
  rw [run_bind_ok hFirst] at hRun
  rw [← hHost] at hLive ⊢
  exact hNext b mid hLive f st' hRun

theorem hostWork_error {m : HostM Unit} {st st' : Stage} {f : ApplyFault}
    (hRun : hostWork m st = (.error f, st')) :
    ∃ g k, f = .scene g ∧ m st.host = (.error g, k) ∧ st' = { st with host := k } := by
  unfold hostWork onHost at hRun
  rcases hWork : m st.host with ⟨g | _, k⟩
  · rw [hWork] at hRun
    cases hRun
    exact ⟨g, k, rfl, rfl, rfl⟩
  · rw [hWork] at hRun
    cases hRun

theorem hostWork_ok {m : HostM Unit} {st st' : Stage} (hRun : hostWork m st = (.ok (), st')) :
    ∃ k, m st.host = (.ok (), k) ∧ st' = { st with host := k } := by
  unfold hostWork onHost at hRun
  rcases hWork : m st.host with ⟨_ | _, k⟩
  · rw [hWork] at hRun
    cases hRun
  · rw [hWork] at hRun
    cases hRun
    exact ⟨k, rfl, rfl⟩

theorem whole_hostWork {m : HostM Unit} (hm : x.Answers m) : x.Whole (hostWork m) := by
  intro st hLive f st' hRun
  obtain ⟨g, k, rfl, hWork, rfl⟩ := hostWork_error hRun
  obtain ⟨t, hAnswer⟩ := hm st.host hLive
  rw [hWork] at hAnswer
  exact hAnswer.of_error.2

end Whole

theorem answers_setRect (r : Rect Single) : x.Answers (Host.setRect x.node r) :=
  fun _ hLive => ⟨_, Host.answered_setRect hLive r⟩

theorem answers_attach (c : Component NodeId) : x.Answers (Host.attach x.node c) :=
  fun _ hLive => ⟨_, Host.answered_attach hLive c⟩

theorem answers_setActive (flag : Bool) : x.Answers (Host.setActive x.node flag) :=
  fun _ hLive => ⟨_, Host.answered_setActive hLive flag⟩

theorem answers_updateRect (change : Rect Single → Rect Single) :
    x.Answers (Host.updateRect x.node change) := by
  intro h hLive
  obtain ⟨r, hr⟩ := Scene.rect?_of_contains hLive
  exact ⟨_, Host.answered_updateRect hr change⟩

theorem answers_setExtent (axis : Axis) (extent : Single) :
    x.Answers (setExtent x.node axis extent) := by
  intro h hLive
  unfold setExtent
  rw [Host.run_current_bind]
  exact answers_updateRect _ h hLive

theorem answers_ensureComponent {α : Type} [ComponentType α] (new : α) (change : α → α) :
    x.Answers (Host.ensureComponent x.node new change) :=
  fun _ hLive => ⟨_, Host.answered_ensureComponent hLive new change⟩

theorem whole_updateComponent {α : Type} [ComponentType α] (id : NodeId) (change : α → α) :
    x.Whole (hostWork (Host.updateComponent id change)) := by
  intro st hLive f st' hRun
  cases hRun

theorem whole_updateHints (f : LayoutHints → LayoutHints) :
    x.Whole (hostWork (updateHints x.node f)) := whole_hostWork (answers_ensureComponent _ f)

theorem whole_updateGraphic (f : Graphic → Graphic) :
    x.Whole (hostWork (updateGraphic x.node f)) := whole_hostWork (answers_ensureComponent _ f)

theorem whole_updateRect (f : Rect Single → Rect Single) :
    x.Whole (hostWork (Host.updateRect x.node f)) := whole_hostWork (answers_updateRect f)

/-! ## Single properties -/

theorem whole_setSize (axis : Axis) (value : Scalar) : x.Whole (x.setSize axis value) := by
  refine whole_current_bind fun s => ?_
  cases (x.surroundings s).length? value axis with
  | none => exact whole_hostWork (answers_setExtent _ _)
  | some pixels =>
    simp only
    split
    · exact whole_throw _
    · exact whole_hostWork (answers_setExtent _ _)

theorem whole_setHint (axis : Axis) (value : Scalar)
    (f : Option Single → LayoutHints → LayoutHints) : x.Whole (x.setHint axis value f) :=
  whole_current_bind fun _ => whole_updateHints _

theorem whole_setInset (side : Rect.Side) (distance : Scalar) :
    x.Whole (x.setInset side distance) := by
  refine whole_current_bind fun s => ?_
  cases (x.surroundings s).length? distance side.axis with
  | none => exact whole_pure ()
  | some d => exact whole_updateRect _

theorem whole_setPadding (sides : Spacing (Option Scalar)) : x.Whole (x.setPadding sides) := by
  refine whole_current_bind fun s => ?_
  simp only
  split
  · exact whole_updateComponent _ _
  · split
    · exact whole_pure ()
    · exact whole_updateRect _

theorem whole_moveAcross (axis : Axis) (place : Placement) : x.Whole (x.moveAcross axis place) :=
  whole_current_bind fun _ => whole_updateRect _

theorem whole_setBackground (address : String) : x.Whole (x.setBackground address) := by
  unfold setBackground
  split
  · exact whole_updateComponent _ _
  · refine whole_after (fun st => ⟨_, _, run_findSprite address st, rfl⟩) fun found => ?_
    cases found with
    | none =>
      intro st hLive f st' hRun
      cases hRun
    | some sprite =>
      simp only
      split
      · exact whole_after (fun st => ⟨_, _, rfl, rfl⟩) fun _ => whole_updateGraphic _
      · exact whole_updateGraphic _

theorem whole_setOpacity (alpha : Single) : x.Whole (x.setOpacity alpha) := by
  refine whole_current_bind fun s => ?_
  split
  · exact whole_updateComponent _ _
  · exact whole_hostWork (answers_attach _)

theorem whole_setOverflow (value : Overflow) : x.Whole (x.setOverflow value) := by
  refine whole_current_bind fun s => ?_
  simp only
  split
  · exact whole_hostWork (answers_attach _)
  · exact whole_pure ()

theorem whole_setText (change : TextChange) : x.Whole (x.setText change) := by
  refine whole_current_bind fun s => ?_
  simp only
  cases changedText (x.surroundings s) ((textOf? s x.node).getD (.plain "" "" 0)) change with
  | error f => exact whole_throw _
  | ok changed =>
    cases textNode? s x.node with
    | none => exact whole_pure ()
    | some id => exact whole_updateComponent id _

/-! ## Declarations that make two calls -/

/-- A change that was made in half: the first of its two calls was made, and the second one was
refused. -/
inductive Halfway (x : Subject) (s : Scene) : Change → Scene → Prop
  | position (hHints : s.component? LayoutHints x.node = none) :
      Halfway x s (.position .absolute) (s.setRect x.node .stretched)
  | alignSelf (hGroup : x.parentGroup? s = none) :
      Halfway x s (.alignSelf .stretch)
        ((Host.supplied s x.node LayoutHints.none).modifyComponent x.node
          (stretched (x.mainAxis s).cross))

section Halfway

variable {st st' : Stage} {f : ApplyFault} (hLive : st.host.scene.contains x.node = true)
include hLive

/-- Hints can only fail to be changed where there are none. -/
theorem hints_none_of_error {g : LayoutHints → LayoutHints}
    (hRun : hostWork (updateHints x.node g) st = (.error f, st')) :
    st.host.scene.component? LayoutHints x.node = none ∧ st'.host.scene = st.host.scene := by
  refine ⟨?_, whole_updateHints g st hLive f st' hRun⟩
  obtain ⟨fault, k, -, hWork, -⟩ := hostWork_error hRun
  cases hSome : st.host.scene.component? LayoutHints x.node with
  | none => rfl
  | some a =>
    unfold updateHints at hWork
    rw [Host.run_ensureComponent_of_some hSome] at hWork
    cases hWork

theorem setPosition_error {value : Position} (hRun : x.setPosition value st = (.error f, st')) :
    st'.host.scene = st.host.scene ∨
      x.Halfway st.host.scene (.position value) st'.host.scene := by
  cases value with
  | relative => cases hRun
  | absolute =>
    rcases run_bind_error_cases hRun with hFirst | ⟨_, mid, hFirst, hSecond⟩
    · exact Or.inl (whole_hostWork (answers_setRect _) st hLive f st' hFirst)
    · -- the rectangle is set, and no hints could be attached
      obtain ⟨k, hSet, rfl⟩ := hostWork_ok hFirst
      have hAnswer := Host.answered_setRect hLive .stretched
      rw [hSet] at hAnswer
      obtain ⟨-, hScene⟩ := hAnswer.of_ok
      have hLive' : ({ st with host := k } : Stage).host.scene.contains x.node = true := by
        rw [hScene, Scene.setRect, Scene.contains_modify]
        exact hLive
      obtain ⟨hHints, hKept⟩ := hints_none_of_error hLive' hSecond
      have hNone : st.host.scene.component? LayoutHints x.node = none := by
        rw [← hHints, hScene]
        unfold Scene.component?
        rw [Scene.components_setRect]
      right
      rw [hKept, hScene]
      exact .position hNone

theorem setAlignSelf_error {align : Align} (hRun : x.setAlignSelf align st = (.error f, st')) :
    st'.host.scene = st.host.scene ∨
      x.Halfway st.host.scene (.alignSelf align) st'.host.scene := by
  unfold setAlignSelf at hRun
  rw [run_currentScene_bind] at hRun
  cases hGroup : x.parentGroup? st.host.scene with
  | some g =>
    simp only [hGroup, Option.isSome_some, if_true] at hRun
    exact Or.inl (whole_updateHints _ st hLive f st' hRun)
  | none =>
    simp only [hGroup, Option.isSome_none, Bool.false_eq_true, if_false] at hRun
    cases align with
    | auto => cases hRun
    | start | center | finish => exact Or.inl (whole_moveAcross _ _ st hLive f st' hRun)
    | stretch =>
      rcases run_bind_error_cases hRun with hFirst | ⟨_, mid, hFirst, hSecond⟩
      · exact Or.inl (whole_updateHints _ st hLive f st' hFirst)
      · -- the hints are changed, and the rectangle could not be set
        obtain ⟨k, hChange, rfl⟩ := hostWork_ok hFirst
        have hAnswer := Host.answered_ensureComponent hLive LayoutHints.none
          (stretched (x.mainAxis st.host.scene).cross)
        unfold updateHints at hChange
        rw [hChange] at hAnswer
        obtain ⟨-, hScene⟩ := hAnswer.of_ok
        have hLive' : k.scene.contains x.node = true := by
          rw [hScene, Scene.modifyComponent, Scene.modifyComponents, Scene.contains_modify,
            (sameTexts_supplied (by decide) _ _ _).contains_eq]
          exact hLive
        have hKept := whole_updateRect _ { st with host := k } hLive' f st' hSecond
        right
        rw [hKept, hScene]
        exact .alignSelf hGroup

theorem perform_error {change : Change} (hRun : x.perform change st = (.error f, st')) :
    st'.host.scene = st.host.scene ∨ x.Halfway st.host.scene change st'.host.scene := by
  -- only two of the changes make more than one call
  have hWhole : ∀ {m : StageM ApplyFault Unit}, x.Whole m → m st = (.error f, st') →
      st'.host.scene = st.host.scene ∨ x.Halfway st.host.scene change st'.host.scene :=
    fun hm hFails => Or.inl (hm st hLive f st' hFails)
  unfold perform at hRun
  cases change with
  | size axis value => exact hWhole (whole_setSize axis value) hRun
  | leastSize axis value => exact hWhole (whole_setHint axis value _) hRun
  | preferredSize axis value => exact hWhole (whole_setHint axis value _) hRun
  | basis value => exact hWhole (whole_current_bind fun _ => whole_setHint _ value _) hRun
  | grow factor => exact hWhole (whole_current_bind fun _ => whole_updateHints _) hRun
  | shrink _ => exact hWhole (whole_pure ()) hRun
  | inset side distance => exact hWhole (whole_setInset side distance) hRun
  | position value => exact setPosition_error hLive hRun
  | margin sides => exact hWhole (whole_current_bind fun _ => whole_updateRect _) hRun
  | padding sides => exact hWhole (whole_setPadding sides) hRun
  | group => exact hWhole (whole_updateComponent _ _) hRun
  | alignSelf value => exact setAlignSelf_error hLive hRun
  | display value => exact hWhole (whole_hostWork (answers_setActive _)) hRun
  | graphicColor value => exact hWhole (whole_updateGraphic _) hRun
  | backgroundImage address => exact hWhole (whole_setBackground address) hRun
  | backgroundSize value => exact hWhole (whole_updateGraphic _) hRun
  | backgroundRepeat value => exact hWhole (whole_updateGraphic _) hRun
  | opacity value => exact hWhole (whole_setOpacity value) hRun
  | overflow value => exact hWhole (whole_setOverflow value) hRun
  | text change => exact hWhole (whole_setText change) hRun

/-- Whatever the host refuses, a declaration that fails leaves the scene as it was, unless it takes
a node without hints out of the layout, or stretches a node whose parent has no group. -/
theorem scene_of_carryOut_error {p : Property} {value : String}
    (hRun : x.carryOut p value st = (.error f, st')) :
    st'.host.scene = st.host.scene ∨ ∃ change, Change.read p value = .ok change ∧
      x.Halfway st.host.scene change st'.host.scene := by
  unfold carryOut at hRun
  cases hRead : Change.read p value with
  | error g =>
    rw [hRead] at hRun
    cases hRun
    exact Or.inl rfl
  | ok change =>
    rw [hRead] at hRun
    exact (perform_error hLive hRun).imp_right fun hHalf => ⟨change, rfl, hHalf⟩

end Halfway

/-- A node that is to be hidden and stays as it is. -/
theorem scene_of_carryOut_error_hidden :
    let s := Scene.withCanvas 800 600
    let x : Subject := ⟨.mk "Label" none Catalog.empty [] none, Scene.empty.nodes.nextKey, none,
      none, ⟨800, 600⟩, Catalog.empty, 14, false⟩
    let h : Host := { Host.ofScene s with refuses := fun call _ => call = .setActive }
    let st : Stage := ⟨h, .ofSource Asset.Shelf.empty.source, []⟩
    let run := x.carryOut .display "none" st
    st.host.scene.contains x.node = true ∧ run.1 = .error (.scene (.missingNode x.node)) ∧
      (run.2.host.scene = s ∨ ∃ change, Change.read .display "none" = .ok change ∧
        x.Halfway s change run.2.host.scene) := by
  intro s x h st run
  have hLive : st.host.scene.contains x.node = true := rfl
  have hFails : run.1 = .error (.scene (.missingNode x.node)) := by decide +kernel
  exact ⟨hLive, hFails, scene_of_carryOut_error hLive (Prod.ext hFails rfl)⟩

section Refused

variable {st : Stage} (hLive : st.host.scene.contains x.node = true)
include hLive

/-- Where the host lets the rectangle be set and then refuses the hints, the node stays stretched
over its parent. -/
theorem carryOut_absolute (hPassed : st.host.refusesNext .setRect = false)
    (hRefused : st.host.refusesNext .attach = true)
    (hHints : st.host.scene.component? LayoutHints x.node = none) :
    ∃ st', x.carryOut .position "absolute" st = (.error (.scene (.missingNode x.node)), st') ∧
      st'.host.scene = st.host.scene.setRect x.node .stretched := by
  have hRead : Change.read .position "absolute" = .ok (.position .absolute) := by decide +kernel
  have hSet : Host.setRect x.node .stretched st.host = _ :=
    Host.run_counted_of_passed hPassed hLive _ fun s => s.setRect x.node .stretched
  generalize hNext : { st.host.count .setRect with
    scene := st.host.scene.setRect x.node .stretched } = k at hSet
  have hScene : k.scene = st.host.scene.setRect x.node .stretched := by rw [← hNext]
  have hAttach : Host.attach x.node (ComponentType.wrap LayoutHints.none) k =
      (.error (.missingNode x.node), k.count .attach) := by
    refine Host.run_counted_of_refused ?_ _ _
    rw [← hNext]
    exact hRefused
  have hNew : k.scene.has (ComponentType.kind LayoutHints) x.node = false := by
    rw [Host.has_eq_component?, hScene, Scene.component?, Scene.components_setRect]
    exact congrArg Option.isSome hHints
  have hEnsure : ∀ g, updateHints x.node g k = (.error (.missingNode x.node), k.count .attach) := by
    intro g
    unfold updateHints
    rw [Host.ensureComponent_eq, Host.run_current_bind, hNew]
    simp only [Bool.false_eq_true, if_false]
    rw [Host.run_bind, hAttach]
  have hFirst : hostWork (Host.setRect x.node .stretched) st = (.ok (), { st with host := k }) :=
    run_onHost hSet
  refine ⟨{ st with host := k.count .attach }, ?_, hScene⟩
  unfold carryOut
  rw [hRead]
  show (hostWork (Host.setRect x.node .stretched) >>= fun _ => hostWork (updateHints x.node _)) st
    = _
  rw [run_bind_ok hFirst]
  unfold hostWork onHost
  rw [hEnsure]

end Refused

/-- A declaration that fails may leave its first half behind. -/
theorem not_kept_on_error :
    ¬ ∀ (x : Subject) (st st' : Stage) (p : Property) (value : String) (f : SceneFault),
      st.host.scene.Reachable → st.host.scene.contains x.node = true →
      x.carryOut p value st = (.error (.scene f), st') →
      st'.host.scene.rect? x.node = st.host.scene.rect? x.node ∧
        st'.host.scene.components x.node = st.host.scene.components x.node := by
  intro hKept
  let s := Scene.withCanvas 800 600
  let x : Subject := ⟨.mk "Label" none Catalog.empty [] none, Scene.empty.nodes.nextKey, none,
    none, ⟨800, 600⟩, Catalog.empty, 14, false⟩
  let st : Stage := ⟨{ Host.ofScene s with refuses := fun call _ => call = .attach },
    .ofSource Asset.Shelf.empty.source, []⟩
  have hLive : st.host.scene.contains x.node = true := rfl
  obtain ⟨st', hRun, hScene⟩ := carryOut_absolute hLive rfl rfl (by decide)
  have hs : s.Reachable := ⟨[], Or.inr ⟨800, 600, rfl⟩⟩
  have hRect := (hKept x st st' _ _ _ hs hLive hRun).1
  rw [hScene] at hRect
  exact absurd hRect (by decide +kernel)

end AnchoredUi.Styling.Subject
