import AnchoredUi.Proofs.Styling.Quiet

/-!
# What styling complains about

On a host that refuses nothing, each declaration of an element is reported at most once, when it is
applied: if nothing has its name, if its value cannot be read or makes no sense, or if it asks for a
picture that is not there as it is. Whether a value makes sense depends on what its lengths refer
to: the size of the parent, which styling the element does not change, and the size of its font,
which earlier declarations may have changed.

* `complaints`: what is reported of declarations.
* `tells_apply`: one declaration.
* `tells_cascade`: a whole cascade; nothing else in it is reported.
-/

namespace AnchoredUi.Styling

open Number Plane SceneGraph Style Sprite

/-! ## What is reported -/

/-- What makes no sense about a change, where lengths refer to the given surroundings: a size below
zero, or a size of the font that no text can have. -/
def Change.fault? (around : Surroundings) : Change → Option ValueFault
  | .size axis value =>
    if (around.length? value axis).any (· < 0) then some .negativeSize else none
  | .text (.size value) =>
    if (Subject.fontSizeOf? around value).isNone then some .badFontSize else none
  | _ => none

/-- What is to be said about a change that is made: its picture is missing, or a placeholder. -/
def Change.notes (answers : String → Option Sprite) : Change → List WarningCause
  | .backgroundImage address =>
    if Finder.asksNothing address then []
    else
      match answers address with
      | some sprite => if sprite.isPlaceholder then [.drawingReplaced address] else []
      | none => [.backgroundMissing address]
  | _ => []

/-- The size of the font after a change, if there is a text. -/
def Change.fontAfter (around : Surroundings) (font : Option Single) : Change → Option Single
  | .text (.size value) => font.map (Subject.fontSizeOf? around value).getD
  | _ => font

/-- What is reported of a declaration. -/
def complaint (answers : String → Option Sprite) (around : Surroundings) (d : Declaration) :
    List WarningCause :=
  match Property.named? d.property with
  | none => [.style (.unknownProperty d.property)]
  | some p =>
    match Change.read p d.value with
    | .error f => [.style (.invalidValue p.name f)]
    | .ok change =>
      match change.fault? around with
      | some f => [.style (.invalidValue p.name f)]
      | none => change.notes answers

/-- The size of the font after a declaration, if there is a text. -/
def fontAfter (around : Surroundings) (font : Option Single) (d : Declaration) : Option Single :=
  match Property.named? d.property with
  | none => font
  | some p =>
    match Change.read p d.value with
    | .error _ => font
    | .ok change => change.fontAfter around font

/-- The surroundings with the size of the font of a text, if there is a text. -/
def Surroundings.withFont (around : Surroundings) (font : Option Single) : Surroundings :=
  { around with fontSize := font.getD around.fontSize }

/-- What is reported of declarations that are applied one after the other, from a size of the font
on. -/
def complaints (answers : String → Option Sprite) (around : Surroundings) :
    Option Single → List Declaration → List WarningCause
  | _, [] => []
  | font, d :: ds =>
    complaint answers (around.withFont font) d ++
      complaints answers around (fontAfter (around.withFont font) font d) ds

namespace Subject

variable {x : Subject}

/-! ## Fonts and surroundings -/

/-- The size of the font of the text of the node. -/
def font? (x : Subject) (s : Scene) : Option Single := (textOf? s x.node).map TextBlock.fontSize

/-- What lengths refer to, but for the text of the node. -/
def outside (x : Subject) (s : Scene) : Surroundings := ⟨s.parentSize x.node, x.canvas, x.fontSize⟩

theorem surroundings_eq (x : Subject) (s : Scene) :
    x.surroundings s = (x.outside s).withFont (x.font? s) := by
  unfold surroundings surroundingsOf outside Surroundings.withFont font?
  cases textOf? s x.node <;> rfl

theorem font?_eq {s t : Scene} (h : SameTexts s t) : x.font? t = x.font? s := by
  unfold font?
  rw [h.textOf?_eq]

/-- Styling the node changes no other rectangle. -/
theorem rect?_of_touches {s t : Scene} (h : Relation.ReflTransGen x.Touch s t) {a : NodeId}
    (ha : a ≠ x.node) : t.rect? a = s.rect? a := by
  have hRect : ∀ {s t : Scene}, x.Touch s t → t.rect? a = s.rect? a := by
    intro s t hTouch
    cases hTouch with
    | rect _ | active _ =>
      simp only [Scene.rect?, Scene.setRect, Scene.node?_modify, if_neg ha]
    | attach _ _ | change _ | text _ _ | group _ _ _ _ _ => exact Scene.rect?_modifyComponents ..
  induction h with
  | refl => rfl
  | tail _ hTouch ih => exact (hRect hTouch).trans ih

/-- Styling the node changes nothing about the size of its parent. -/
theorem parentSize_of_touches {s t : Scene} (h : Relation.ReflTransGen x.Touch s t)
    (hs : s.Forest) : t.parentSize x.node = s.parentSize x.node :=
  hs.parentSize_eq_of_others (forest_of_touches h hs)
    (fun a => Scene.parent?_of_place? (place?_of_touches h a)) fun _ ha => rect?_of_touches h ha

theorem outside_of_touches {s t : Scene} (h : Relation.ReflTransGen x.Touch s t)
    (hs : s.Forest) : x.outside t = x.outside s := by
  unfold outside
  rw [parentSize_of_touches h hs]

/-! ## Work that reports -/

/-- From one stage to another one, the given warnings were raised for the element, and the finder
gives the same answers. -/
structure Tells (x : Subject) (causes : List WarningCause) (st st' : Stage) : Prop where
  warnings_eq : st'.warnings = st.warnings ++ causes.map fun c => ⟨some x.element.label, c⟩
  answer_eq : ∀ a, st'.finder.answer a = st.finder.answer a

theorem tells_host (st : Stage) (k : Host) : x.Tells [] st { st with host := k } :=
  ⟨(List.append_nil _).symm, fun _ => rfl⟩

theorem Tells.trans {causes more : List WarningCause} {st st' st'' : Stage}
    (h : x.Tells causes st st') (h' : x.Tells more st' st'') :
    x.Tells (causes ++ more) st st'' := by
  refine ⟨?_, fun a => (h'.answer_eq a).trans (h.answer_eq a)⟩
  rw [h'.warnings_eq, h.warnings_eq, List.map_append, List.append_assoc]

theorem tells_raise (cause : WarningCause) (st : Stage) :
    x.Tells [cause] st (raise [⟨some x.element.label, cause⟩] st).2 := ⟨rfl, fun _ => rfl⟩

theorem exists_warn (cause : WarningCause) (st : Stage) :
    ∃ mid, (warn (some x.element.label) cause : StageM ApplyFault Unit) st = (.ok (), mid) ∧
      x.Tells [cause] st mid ∧ mid.host = st.host :=
  ⟨_, rfl, ⟨rfl, fun _ => rfl⟩, rfl⟩

theorem exists_findSprite (address : String) (st : Stage) :
    ∃ mid, (findSprite address : StageM ApplyFault (Option Sprite)) st =
        (.ok (st.finder.answer address), mid) ∧ x.Tells [] st mid ∧ mid.host = st.host :=
  ⟨_, run_findSprite address st, ⟨(List.append_nil _).symm, st.finder.answer_find address⟩, rfl⟩

/-! ## Single changes -/

/-- A change is made and gives its notes. -/
structure Made (x : Subject) (change : Change) (st st' : Stage) : Prop where
  tells : x.Tells (change.notes st.finder.answer) st st'
  font_eq : x.font? st'.host.scene =
    change.fontAfter (x.surroundings st.host.scene) (x.font? st.host.scene)

theorem Quiet.made {m : StageM ApplyFault Unit} (hm : x.Quiet m) {st : Stage}
    (hw : st.host.Willing) (hLive : st.host.scene.contains x.node = true) {change : Change}
    (hNotes : change.notes st.finder.answer = [])
    (hFont : ∀ around font, change.fontAfter around font = font) :
    ∃ st', m st = (.ok (), st') ∧ x.Made change st st' := by
  obtain ⟨k, hRun, -, hSame⟩ := hm st hw hLive
  refine ⟨_, hRun, ?_, ?_⟩
  · rw [hNotes]
    exact tells_host st k
  · rw [hFont]
    exact font?_eq hSame

theorem made_setBackground {st : Stage} (hw : st.host.Willing)
    (hLive : st.host.scene.contains x.node = true) (address : String) :
    ∃ st', x.setBackground address st = (.ok (), st') ∧
      x.Made (.backgroundImage address) st st' := by
  unfold setBackground
  split
  · rename_i hNothing
    refine (quiet_hostWork (silent_updateComponent (by decide) _)).made hw hLive ?_ fun _ _ => rfl
    simp only [Change.notes, hNothing, if_true]
  · rename_i hAsks
    have hNotes : (Change.backgroundImage address).notes st.finder.answer =
        match st.finder.answer address with
        | some sprite => if sprite.isPlaceholder then [.drawingReplaced address] else []
        | none => [.backgroundMissing address] := by
      simp only [Change.notes, hAsks, Bool.false_eq_true, if_false]
    obtain ⟨mid, hFind, hTells, hHost⟩ := x.exists_findSprite address st
    rw [run_bind_ok hFind]
    cases hFound : st.finder.answer address with
    | none =>
      obtain ⟨mid', hWarn, hMore, hHost'⟩ := x.exists_warn (.backgroundMissing address) mid
      refine ⟨mid', hWarn, ?_, ?_⟩
      · rw [hNotes, hFound]
        exact hTells.trans hMore
      · rw [hHost', hHost]
        rfl
    | some sprite =>
      rw [hFound] at hNotes
      have hGraphic := quiet_updateGraphic (x := x) fun g => { g with sprite := some sprite }
      cases hPlaceholder : sprite.isPlaceholder with
      | true =>
        -- the warning comes before the change
        obtain ⟨mid', hWarn, hMore, hHost'⟩ := x.exists_warn (.drawingReplaced address) mid
        rw [← hHost, ← hHost'] at hw hLive
        obtain ⟨k, hRun, -, hSame⟩ := hGraphic mid' hw hLive
        refine ⟨{ mid' with host := k }, ?_, ?_, ?_⟩
        · simp only [hPlaceholder, if_true]
          exact (run_bind_ok hWarn).trans hRun
        · simp only [hNotes, hPlaceholder, if_true]
          exact (hTells.trans hMore).trans (tells_host mid' k)
        · rw [font?_eq hSame, hHost', hHost]
          rfl
      | false =>
        rw [← hHost] at hw hLive
        obtain ⟨k, hRun, -, hSame⟩ := hGraphic mid hw hLive
        refine ⟨{ mid with host := k }, ?_, ?_, ?_⟩
        · simp only [hPlaceholder, Bool.false_eq_true, if_false]
          exact hRun
        · simp only [hNotes, hPlaceholder, Bool.false_eq_true, if_false]
          exact hTells.trans (tells_host mid k)
        · rw [font?_eq hSame, hHost]
          rfl

/-- A changed text has another size of its font only if the change is about that. -/
theorem fontSize_changedText {around : Surroundings} {t changed : TextBlock} {change : TextChange}
    (h : changedText around t change = .ok changed) :
    some changed.fontSize = (Change.text change).fontAfter around (some t.fontSize) := by
  cases change with
  | size value =>
    simp only [changedText] at h
    cases hSize : fontSizeOf? around value with
    | none => simp [hSize] at h
    | some p =>
      simp only [hSize, Except.ok.injEq] at h
      simp [Change.fontAfter, hSize, ← h]
  | color _ | bold _ | shape _ | anchor _ | space _ =>
    cases h
    rfl

theorem changedText_fault {around : Surroundings} {t : TextBlock} {change : TextChange}
    {f : ValueFault} (h : (Change.text change).fault? around = some f) :
    changedText around t change = .error f := by
  cases change with
  | size value =>
    simp only [Change.fault?, Option.isNone_iff_eq_none, Option.ite_none_right_eq_some,
      Option.some.injEq] at h
    simp only [changedText, h.1, h.2]
  | color _ | bold _ | shape _ | anchor _ | space _ => cases h

theorem exists_changedText {around : Surroundings} {change : TextChange}
    (h : (Change.text change).fault? around = none) (t : TextBlock) :
    ∃ changed, changedText around t change = .ok changed := by
  cases change with
  | size value =>
    cases hSize : fontSizeOf? around value with
    | none => simp [Change.fault?, hSize] at h
    | some p => exact ⟨_, by simp only [changedText, hSize]; rfl⟩
  | color _ | bold _ | shape _ | anchor _ | space _ => exact ⟨_, rfl⟩

theorem exists_of_textNode? {s : Scene} {id c : NodeId} (h : textNode? s id = some c) :
    ∃ t, s.component? TextBlock c = some t := by
  refine Option.isSome_iff_exists.mp ?_
  unfold textNode? at h
  split at h
  · rename_i hSelf
    rwa [← Option.some.inj h]
  · have hFound := List.find?_some h
    rw [Bool.and_eq_true] at hFound
    exact hFound.2

/-- Changing a text does not change where the text of a node is. -/
theorem textNode?_modifyComponent (s : Scene) (c id : NodeId) (f : TextBlock → TextBlock) :
    textNode? (s.modifyComponent c f) id = textNode? s id := by
  refine textNode?_congr (fun a => Scene.place?_modifyComponents s c a _) (fun a => ?_) id
  refine (congrArg Option.isSome (Host.component?_modifyComponent s c a f)).trans ?_
  split
  · rw [Option.isSome_map]
  · rfl

/-- Changing the text of a node gives the node that text. -/
theorem textOf?_modifyComponent {s : Scene} {id c : NodeId} (h : textNode? s id = some c)
    (changed : TextBlock) :
    textOf? (s.modifyComponent c fun _ : TextBlock => changed) id = some changed := by
  obtain ⟨t, ht⟩ := exists_of_textNode? h
  rw [textOf?, textNode?_modifyComponent, h, Option.bind_some, Host.component?_modifyComponent,
    if_pos rfl, ht]
  rfl

theorem made_setText {st : Stage} {change : TextChange}
    (hFault : (Change.text change).fault? (x.surroundings st.host.scene) = none) :
    ∃ st', x.setText change st = (.ok (), st') ∧ x.Made (.text change) st st' := by
  obtain ⟨changed, hChanged⟩ := exists_changedText hFault
    ((textOf? st.host.scene x.node).getD (.plain "" "" 0))
  have hNotes : (Change.text change).notes st.finder.answer = [] := rfl
  unfold setText
  rw [run_currentScene_bind]
  simp only [hChanged]
  cases hNode : textNode? st.host.scene x.node with
  | none =>
    have hNoFont : x.font? st.host.scene = none := by simp [font?, textOf?, hNode]
    refine ⟨st, rfl, ?_, ?_⟩
    · rw [hNotes]
      exact tells_host st st.host
    · rw [hNoFont]
      cases change <;> rfl
  | some id =>
    have hText := textOf?_modifyComponent hNode changed
    refine ⟨_, rfl, ?_, ?_⟩
    · rw [hNotes]
      exact tells_host st _
    · have hFont : x.font? (st.host.scene.modifyComponent id fun _ : TextBlock => changed) =
          some changed.fontSize := by rw [font?, hText, Option.map_some]
      refine hFont.trans ?_
      rw [fontSize_changedText hChanged]
      obtain ⟨t, ht⟩ := exists_of_textNode? hNode
      have hOld : textOf? st.host.scene x.node = some t := by
        rw [textOf?, hNode, Option.bind_some, ht]
      rw [font?, hOld]
      rfl

/-- A size below zero is refused. -/
theorem fault_setSize {st : Stage} {axis : Axis} {value : Scalar} {f : ValueFault}
    (hFault : (Change.size axis value).fault? (x.surroundings st.host.scene) = some f) :
    x.setSize axis value st = (.error (.value f), st) := by
  unfold setSize
  rw [run_currentScene_bind]
  cases hLength : (x.surroundings st.host.scene).length? value axis with
  | none => simp [Change.fault?, hLength] at hFault
  | some pixels =>
    simp only [Change.fault?, hLength, Option.any_some, decide_eq_true_eq,
      Option.ite_none_right_eq_some, Option.some.injEq] at hFault
    simp only [if_pos hFault.1, ← hFault.2]
    rfl

theorem made_setSize {st : Stage} (hw : st.host.Willing)
    (hLive : st.host.scene.contains x.node = true) {axis : Axis} {value : Scalar}
    (hFault : (Change.size axis value).fault? (x.surroundings st.host.scene) = none) :
    ∃ st', x.setSize axis value st = (.ok (), st') ∧ x.Made (.size axis value) st st' := by
  have hQuiet : ∀ extent, x.Quiet (hostWork (setExtent x.node axis extent)) := fun extent =>
    quiet_hostWork (silent_setExtent axis extent)
  unfold setSize
  rw [run_currentScene_bind]
  cases hLength : (x.surroundings st.host.scene).length? value axis with
  | none => exact (hQuiet _).made hw hLive rfl fun _ _ => rfl
  | some pixels =>
    have hSign : ¬ pixels < 0 := by simpa [Change.fault?, hLength] using hFault
    simp only [if_neg hSign]
    exact (hQuiet _).made hw hLive rfl fun _ _ => rfl

/-- A change that makes no sense is refused, and nothing is changed. -/
theorem fault_perform {st : Stage} {change : Change} {f : ValueFault}
    (hFault : change.fault? (x.surroundings st.host.scene) = some f) :
    x.perform change st = (.error (.value f), st) := by
  cases change with
  | size axis value => exact fault_setSize hFault
  | text change =>
    show x.setText change st = _
    unfold setText
    rw [run_currentScene_bind]
    simp only [changedText_fault hFault]
    rfl
  | _ => cases hFault

/-- A change that makes sense is made. -/
theorem exists_perform {st : Stage} (hw : st.host.Willing)
    (hLive : st.host.scene.contains x.node = true) {change : Change}
    (hFault : change.fault? (x.surroundings st.host.scene) = none) :
    ∃ st', x.perform change st = (.ok (), st') ∧ x.Made change st st' := by
  have hQuiet : ∀ {m : StageM ApplyFault Unit}, x.Quiet m →
      change.notes st.finder.answer = [] → (∀ around font, change.fontAfter around font = font) →
      ∃ st', m st = (.ok (), st') ∧ x.Made change st st' := fun hm => hm.made hw hLive
  unfold perform
  cases change with
  | size axis value => exact made_setSize hw hLive hFault
  | leastSize axis value => exact hQuiet (quiet_setHint axis value _) rfl fun _ _ => rfl
  | preferredSize axis value => exact hQuiet (quiet_setHint axis value _) rfl fun _ _ => rfl
  | basis value =>
    exact hQuiet (quiet_current_bind fun _ => quiet_setHint _ value _) rfl fun _ _ => rfl
  | grow factor =>
    exact hQuiet (quiet_current_bind fun _ => quiet_updateHints _) rfl fun _ _ => rfl
  | shrink _ => exact hQuiet quiet_pure rfl fun _ _ => rfl
  | inset side distance => exact hQuiet (quiet_setInset side distance) rfl fun _ _ => rfl
  | position value => exact hQuiet (quiet_setPosition value) rfl fun _ _ => rfl
  | margin sides =>
    exact hQuiet (quiet_current_bind fun _ => quiet_updateRect _) rfl fun _ _ => rfl
  | padding sides => exact hQuiet (quiet_setPadding sides) rfl fun _ _ => rfl
  | group =>
    exact hQuiet (quiet_hostWork (silent_updateComponent (by decide) _)) rfl fun _ _ => rfl
  | alignSelf value => exact hQuiet (quiet_setAlignSelf value) rfl fun _ _ => rfl
  | display value => exact hQuiet (quiet_hostWork (silent_setActive _)) rfl fun _ _ => rfl
  | graphicColor value => exact hQuiet (quiet_updateGraphic _) rfl fun _ _ => rfl
  | backgroundImage address => exact made_setBackground hw hLive address
  | backgroundSize value => exact hQuiet (quiet_updateGraphic _) rfl fun _ _ => rfl
  | backgroundRepeat value => exact hQuiet (quiet_updateGraphic _) rfl fun _ _ => rfl
  | opacity value => exact hQuiet (quiet_setOpacity value) rfl fun _ _ => rfl
  | overflow value => exact hQuiet (quiet_setOverflow value) rfl fun _ _ => rfl
  | text change => exact made_setText hFault

/-! ## Declarations -/

/-- A change that makes no sense is about no font. -/
theorem fontAfter_of_fault {around : Surroundings} {change : Change} {f : ValueFault}
    (hFault : change.fault? around = some f) (font : Option Single) :
    change.fontAfter around font = font := by
  cases change with
  | text change =>
    cases change with
    | size value =>
      simp only [Change.fault?, Option.isNone_iff_eq_none, Option.ite_none_right_eq_some] at hFault
      simp only [Change.fontAfter, hFault.1]
      cases font <;> rfl
    | _ => rfl
  | _ => rfl

/-- A declaration is reported as it should be, and nothing else is. -/
theorem tells_apply {st : Stage} (hw : st.host.Willing)
    (hLive : st.host.scene.contains x.node = true) (d : Declaration) :
    x.Tells (complaint st.finder.answer (x.surroundings st.host.scene) d) st (x.apply d st).2 ∧
      x.font? (x.apply d st).2.host.scene =
        fontAfter (x.surroundings st.host.scene) (x.font? st.host.scene) d := by
  unfold apply complaint fontAfter
  cases hProperty : Property.named? d.property with
  | none => exact ⟨tells_raise _ st, rfl⟩
  | some p =>
    cases hChange : Change.read p d.value with
    | error f =>
      simp only [hChange]
      exact ⟨tells_raise _ st, rfl⟩
    | ok change =>
      cases hFault : change.fault? (x.surroundings st.host.scene) with
      | some f =>
        simp only [hChange, hFault, orWarn, fault_perform hFault, fontAfter_of_fault hFault]
        exact ⟨tells_raise _ st, rfl⟩
      | none =>
        obtain ⟨st', hRun, hMade⟩ := exists_perform hw hLive hFault
        simp only [hChange, hFault, orWarn, hRun]
        exact ⟨hMade.tells, hMade.font_eq⟩

/-- Declarations are reported one after the other. -/
theorem tells_declarations {st : Stage} (hw : st.host.Willing) (hs : st.host.scene.Forest)
    (hLive : st.host.scene.contains x.node = true) (ds : List Declaration) :
    x.Tells (complaints st.finder.answer (x.outside st.host.scene) (x.font? st.host.scene) ds) st
      (ds.forM x.apply st).2 := by
  induction ds generalizing st with
  | nil => exact tells_host st st.host
  | cons d ds ih =>
    have hKept := keeps_apply (x := x) d st
    obtain ⟨hFirst, hFont⟩ := tells_apply hw hLive d
    have hAnswers : (x.apply d st).2.finder.answer = st.finder.answer :=
      funext hFirst.answer_eq
    have hOthers := ih (hKept.owner.willing hw) (forest_of_touches hKept.touches hs)
      ((contains_of_touches hKept.touches x.node).trans hLive)
    rw [hAnswers, outside_of_touches hKept.touches hs, hFont] at hOthers
    rw [run_forM_cons, complaints, ← surroundings_eq]
    exact hFirst.trans hOthers

/-! ## Cascades -/

/-- Work that succeeds and changes no text is not reported. -/
theorem tells_tryHost {m : HostM Unit} (hm : x.Silent m) {st : Stage} (hw : st.host.Willing)
    (hLive : st.host.scene.contains x.node = true) :
    x.Tells [] st (x.tryHost m st).2 ∧
      SameTexts st.host.scene (x.tryHost m st).2.host.scene := by
  obtain ⟨t, hDoes, hSame⟩ := hm st.host hw hLive
  obtain ⟨k, hRun, hk, -⟩ := run_tryHost (x := x) hDoes
  rw [hRun, hk]
  exact ⟨tells_host st k, hSame⟩

theorem tells_reconcileAll {st : Stage} (hw : st.host.Willing)
    (hLive : st.host.scene.contains x.node = true) (sizes : List (String × Axis)) :
    x.Tells [] st (sizes.forM (fun (name, axis) => x.tryHost (x.reconcile name axis)) st).2 := by
  induction sizes generalizing st with
  | nil => exact tells_host st st.host
  | cons p sizes ih =>
    obtain ⟨hFirst, hSame⟩ := tells_tryHost (silent_reconcile (x := x) p.1 p.2) hw hLive
    have hKept := keeps_tryHost (handled_reconcile (x := x) p.1 p.2) st
    have hOthers := ih (hKept.owner.willing hw) ((hSame.contains_eq x.node).trans hLive)
    rw [run_forM_cons]
    exact hFirst.trans hOthers

/-- The group that the parent gets is no text. -/
theorem sameTexts_group (x : Subject) (s : Scene) (u : NodeId) :
    SameTexts s (s.modifyComponents u (· ++ x.groupFor s u)) := by
  unfold groupFor groupAsked
  cases x.parentStyle? with
  | none =>
    simp only [Scene.modifyComponents_nil]
    exact .refl s
  | some style =>
    simp only
    split
    · exact sameTexts_attach s u nofun
    · rw [Scene.modifyComponents_nil]
      exact .refl s

/-- A cascade reports the declarations of all tiers in their order, and nothing else. -/
theorem tells_cascade {st : Stage} {u : NodeId} (hw : st.host.Willing) (hs : st.host.scene.Forest)
    (hLive : st.host.scene.contains x.node = true) (hUp : x.parentNode = some u)
    (hParent : st.host.scene.contains u = true) :
    x.Tells (complaints st.finder.answer (x.outside st.host.scene) (x.font? st.host.scene)
      x.declarations) st (x.cascade st).2 := by
  -- nothing is reported before the declarations, and lengths keep their meaning
  obtain ⟨k, hGroup, hk, hOwner⟩ := run_tryHost (x := x) (does_ensureParentGroup hw hUp hParent)
  have hSame := x.sameTexts_group st.host.scene u
  rw [← hk] at hSame
  have hw₁ : ({ st with host := k } : Stage).host.Willing := hOwner.willing hw
  have hLive₁ := (hSame.contains_eq x.node).trans hLive
  obtain ⟨hMarked, hSame₂⟩ := tells_tryHost (silent_markRoot (x := x)) hw₁ hLive₁
  have hStart := (keeps_tryHost (handled_ensureParentGroup (x := x)) st).trans
    (keeps_tryHost handled_markRoot (x.tryHost x.ensureParentGroup st).2)
  rw [hGroup] at hStart
  have hBefore := (tells_host st k).trans hMarked
  have hAnswers := funext hBefore.answer_eq
  have hFont := font?_eq (x := x) (hSame.trans hSame₂)
  have hOutside := outside_of_touches hStart.touches hs
  have hw₂ := hStart.owner.willing hw
  have hLive₂ := (contains_of_touches hStart.touches x.node).trans hLive
  rw [run_cascade, hGroup, run_mainCascade]
  generalize (x.tryHost x.markRoot { st with host := k }).2 = mid at *
  -- nothing is reported after them
  have hTold := tells_declarations hw₂ (forest_of_touches hStart.touches hs) hLive₂ x.declarations
  have hKept := keeps_forM (keeps_apply (x := x)) x.declarations mid
  have hAfter := tells_reconcileAll (hKept.owner.willing hw₂)
    ((contains_of_touches hKept.touches x.node).trans hLive₂) sizeAttributes
  rw [hAnswers, hOutside, hFont] at hTold
  have hAll := (hBefore.trans hTold).trans hAfter
  rwa [List.append_nil] at hAll

end Subject

end AnchoredUi.Styling
