import AnchoredUi.Proofs.Plane.Unsigned
import AnchoredUi.Proofs.Styling.Boxes
import AnchoredUi.Proofs.Styling.Verdict

/-!
# Sizes that are handed on

A declared width or height that comes to a negative number of pixels is turned down. A size of
`auto` is not looked at: it is the preferred extent, else that of the text, else the present one.
So it is negative if a declaration before it made one of these negative. A negative maximum or basis
is taken as the preferred extent without a check, and padding may take more from the rectangle than
there is. No other declaration has such an effect.

* `Overdraws`: the declarations that make a later `auto` negative.
* `Unsigned`: nothing that a size is taken from is negative.
* `unsigned_perform`, `unsigned_forM`: all other declarations keep it so.
* `not_zero_le_of_overdraws`, `not_zero_le_handed`: what comes of those.
* `zero_le_handed`: the sizes that are handed on after any other declarations.
-/

namespace AnchoredUi.SceneGraph

open Number Plane

/-- The preferred extent along an axis is not negative if there is one. -/
def LayoutHints.Unsigned (hints : LayoutHints) (axis : Axis) : Prop :=
  ∀ p, hints.preferred.get axis = some p → 0 ≤ p

theorem LayoutHints.Unsigned.setPreferred {hints : LayoutHints} {axis other : Axis}
    {pixels : Option Single} (h : hints.Unsigned axis)
    (hPixels : other = axis → ∀ p, pixels = some p → 0 ≤ p) :
    LayoutHints.Unsigned { hints with preferred := hints.preferred.set other pixels } axis := by
  by_cases hAxis : other = axis
  · subst hAxis
    intro p hp
    exact hPixels rfl p (by cases other <;> exact hp)
  · intro p hp
    refine h p ?_
    cases axis <;> cases other <;> first | exact hp | exact absurd rfl hAxis

end AnchoredUi.SceneGraph

namespace AnchoredUi.Styling

open Number Plane SceneGraph Style Sprite Binary

/-! ## Numbers of pixels -/

theorem Surroundings.zero_le_of_length? {around : Surroundings} {l : Scalar} {axis : Axis}
    {p : Single} (h : around.length? l axis = some p) (hNot : ¬ p < 0) : 0 ≤ p := by
  obtain ⟨-, hFinite⟩ := Option.filter_eq_some_iff.mp h
  exact zero_le_iff.mpr ⟨fun hNan => by simp [hNan, isFinite] at hFinite, hNot⟩

/-- A text is not less than empty if its font is not. -/
theorem zero_le_textExtent {t : TextBlock} (hPos : 0 < t.fontSize)
    (hFinite : t.fontSize.isFinite = true) (axis : Axis) : 0 ≤ textExtent t axis := by
  have hFont : 0 ≤ t.fontSize := zero_le_iff.mpr ⟨ne_nan_of_isFinite hFinite, fun hNeg => by
    rw [less_zero_iff hFinite] at hNeg
    have := (less_iff_value isFinite_zero hFinite).mp hPos
    rw [value_zero] at this
    exact lt_asymm hNeg this⟩
  cases axis with
  | horizontal =>
    have hLetters : 0 ≤ (ofInt t.text.length : Single) * t.fontSize :=
      zero_le_mul (zero_le_ofInt (Int.natCast_nonneg _)) hFinite hPos
    exact zero_le_mul hLetters (by decide +kernel) (by decide +kernel)
  | vertical => exact zero_le_mul hFont (by decide +kernel) (by decide +kernel)

namespace Subject

variable {x : Subject} {axis : Axis} {parent : Single} {t : Scene}

/-! ## Sizes that are handed on -/

/-- The extent that a declared size gives the node, unless it is turned down. -/
def handed? (x : Subject) (s : Scene) (axis : Axis) (value : Scalar) : Option Single :=
  match (x.surroundings s).length? value axis with
  | some pixels => if pixels < 0 then none else some pixels
  | none => some (contentExtent s x.node axis)

theorem setSize_eq (x : Subject) (axis : Axis) (value : Scalar) (st : Stage) :
    x.setSize axis value st = match x.handed? st.host.scene axis value with
      | some extent => hostWork (setExtent x.node axis extent) st
      | none => (.error (.value .negativeSize), st) := by
  unfold setSize handed?
  rw [run_currentScene_bind]
  cases (x.surroundings st.host.scene).length? value axis with
  | none => rfl
  | some pixels =>
    simp only
    split <;> rfl

/-! ## What sizes are taken from -/

/-- Nothing that a size along an axis is taken from is negative, where the parent has the given
extent: neither the present extent, nor the preferred one, nor that of the text. -/
structure Unsigned (x : Subject) (axis : Axis) (parent : Single) (t : Scene) : Prop where
  forest : t.Forest
  parent_eq : (t.parentSize x.node).get axis = parent
  rect : ∃ r, t.rect? x.node = some r ∧ r.Unsigned axis parent
  hints : ∀ hints, t.component? LayoutHints x.node = some hints → hints.Unsigned axis
  text : ∀ text, textOf? t x.node = some text → 0 ≤ textExtent text axis

section Changes

variable (h : x.Unsigned axis parent t)
include h

theorem Unsigned.live : t.contains x.node = true := by
  obtain ⟨r, hr, -⟩ := h.rect
  exact Scene.contains_of_rect? hr

theorem Unsigned.contentExtent : 0 ≤ contentExtent t x.node axis := by
  unfold Styling.contentExtent
  cases hPreferred : (t.component? LayoutHints x.node).bind fun h => h.preferred.get axis with
  | some extent =>
    obtain ⟨hints, hHints, hExtent⟩ := Option.bind_eq_some_iff.mp hPreferred
    exact h.hints hints hHints extent hExtent
  | none =>
    cases hText : textOf? t x.node with
    | some text => exact h.text text hText
    | none =>
      obtain ⟨r, hr, hUnsigned⟩ := h.rect
      simp only
      rw [h.forest.sizeOf_eq hr]
      rw [← h.parent_eq] at hUnsigned
      exact hUnsigned.size

theorem Unsigned.handed? {value : Scalar} {extent : Single}
    (hHanded : x.handed? t axis value = some extent) : 0 ≤ extent := by
  unfold Subject.handed? at hHanded
  cases hLength : (x.surroundings t).length? value axis with
  | some pixels =>
    simp only [hLength, Option.ite_none_left_eq_some, Option.some.injEq] at hHanded
    obtain ⟨hNot, rfl⟩ := hHanded
    exact Surroundings.zero_le_of_length? hLength hNot
  | none =>
    simp only [hLength, Option.some.injEq] at hHanded
    subst hHanded
    exact h.contentExtent

/-! ### Changes of a scene -/

theorem Unsigned.modify (a : NodeId) (f : Node → Node)
    (hOthers : ∀ id, id ≠ x.node → (t.modify a f).rect? id = t.rect? id)
    (hRect : ∃ r, (t.modify a f).rect? x.node = some r ∧ r.Unsigned axis parent)
    (hHints : ∀ hints, (t.modify a f).component? LayoutHints x.node = some hints →
      hints.Unsigned axis)
    (hText : ∀ text, textOf? (t.modify a f) x.node = some text → 0 ≤ textExtent text axis) :
    x.Unsigned axis parent (t.modify a f) := by
  refine ⟨h.forest.modify a f, ?_, hRect, hHints, hText⟩
  rw [h.forest.parentSize_eq_of_others (h.forest.modify a f)
    (fun c => Scene.parent?_modify t a c f) hOthers]
  exact h.parent_eq

/-- The node keeps its components. -/
theorem Unsigned.modifyNode (f : Node → Node) (hName : ∀ n, (f n).name = n.name)
    (hComponents : ∀ n, (f n).components = n.components)
    (hRect : ∃ r, (t.modify x.node f).rect? x.node = some r ∧ r.Unsigned axis parent) :
    x.Unsigned axis parent (t.modify x.node f) := by
  have hFirst {α : Type} [ComponentType α] (n : Node) :
      firstOf? α (f n).components = firstOf? α n.components := by rw [hComponents n]
  refine h.modify x.node f (fun id hId => ?_) hRect (fun hints hHints => h.hints hints ?_)
    fun text hText => h.text text ?_
  · simp only [Scene.rect?, Scene.node?_modify, if_neg hId]
  · rw [← hHints, Scene.component?_modify_of hFirst]
  · rw [← hText, (sameTexts_modify t x.node hName hFirst).textOf?_eq]

theorem Unsigned.setRect {r : Rect Single} (hr : r.Unsigned axis parent) :
    x.Unsigned axis parent (t.setRect x.node r) :=
  h.modifyNode _ (fun _ => rfl) (fun _ => rfl) ⟨r, rect?_setRect h.live r, hr⟩

theorem Unsigned.setActive (flag : Bool) :
    x.Unsigned axis parent (t.modify x.node fun node => { node with active := flag }) := by
  obtain ⟨r, hr, hUnsigned⟩ := h.rect
  have hRect := Scene.rect?_modify (f := fun node => { node with active := flag }) (fun _ => rfl)
    t x.node x.node
  exact h.modifyNode _ (fun _ => rfl) (fun _ => rfl) ⟨r, hRect.trans hr, hUnsigned⟩

theorem Unsigned.modifyComponents (a : NodeId)
    {change : List (Component NodeId) → List (Component NodeId)}
    (hHints : ∀ hints, (t.modifyComponents a change).component? LayoutHints x.node = some hints →
      hints.Unsigned axis)
    (hText : ∀ text, textOf? (t.modifyComponents a change) x.node = some text →
      0 ≤ textExtent text axis) :
    x.Unsigned axis parent (t.modifyComponents a change) := by
  have hRect := fun id => Scene.rect?_modifyComponents t a id change
  obtain ⟨r, hr, hUnsigned⟩ := h.rect
  exact h.modify a _ (fun id _ => hRect id) ⟨r, (hRect x.node).trans hr, hUnsigned⟩ hHints hText

/-- A component that is neither a text nor about layout. -/
theorem Unsigned.attach {c : Component NodeId} (hText : c.kind ≠ .text)
    (hHints : c.kind ≠ .layoutHints) :
    x.Unsigned axis parent (t.modifyComponents x.node (· ++ [c])) := by
  refine h.modifyComponents x.node (fun hints hFound => h.hints hints ?_)
    fun text hFound => h.text text ?_
  · rw [← hFound]
    exact (Scene.component?_modify_of (f := fun n => { n with components := n.components ++ [c] })
      (fun n => firstOf?_append_other hHints n.components) t x.node x.node).symm
  · rw [← hFound, (sameTexts_attach t x.node hText).textOf?_eq]

theorem Unsigned.attachHints (hNew : t.has .layoutHints x.node = false) {new : LayoutHints}
    (hUnsigned : new.Unsigned axis) :
    x.Unsigned axis parent (t.modifyComponents x.node (· ++ [ComponentType.wrap new])) := by
  have hNone : t.component? LayoutHints x.node = none := by
    rw [← Option.not_isSome_iff_eq_none, ← Host.has_eq_component?]
    exact Bool.eq_false_iff.mp hNew
  have hKind : (ComponentType.wrap new : Component NodeId).kind ≠ .text := by
    rw [kind_wrap]
    decide
  refine h.modifyComponents x.node (fun hints hFound => ?_) fun text hFound => h.text text ?_
  · rw [Host.component?_attach h.live hNone, Option.some.injEq] at hFound
    rwa [← hFound]
  · rw [← hFound, (sameTexts_attach t x.node hKind).textOf?_eq]

theorem Unsigned.change {α : Type} [ComponentType α] (hText : ComponentType.kind α ≠ .text)
    (hHints : ComponentType.kind α ≠ .layoutHints) (f : α → α) :
    x.Unsigned axis parent (t.modifyComponent x.node f) := by
  refine h.modifyComponents x.node (fun hints hFound => h.hints hints ?_)
    fun text hFound => h.text text ?_
  · rw [← hFound]
    exact (Scene.component?_modifyComponent_of_ne hHints t x.node x.node f).symm
  · rw [← hFound]
    exact ((sameTexts_modifyComponent hText t x.node f).textOf?_eq x.node).symm

theorem Unsigned.changeHints {f : LayoutHints → LayoutHints}
    (hf : ∀ hints : LayoutHints, hints.Unsigned axis → (f hints).Unsigned axis) :
    x.Unsigned axis parent (t.modifyComponent x.node f) := by
  refine h.modifyComponents x.node (fun hints hFound => ?_) fun text hFound => h.text text ?_
  · have hChanged := (Host.component?_modifyComponent t x.node x.node f).symm.trans hFound
    rw [if_pos rfl, Option.map_eq_some_iff] at hChanged
    obtain ⟨old, hOld, rfl⟩ := hChanged
    exact hf old (h.hints old hOld)
  · rw [← hFound]
    exact ((sameTexts_modifyComponent (by decide) t x.node f).textOf?_eq x.node).symm

theorem Unsigned.changeText {id : NodeId} (hNode : textNode? t x.node = some id)
    {changed : TextBlock} (hChanged : 0 ≤ textExtent changed axis) :
    x.Unsigned axis parent (t.modifyComponent id fun _ : TextBlock => changed) := by
  refine h.modifyComponents id (fun hints hFound => h.hints hints ?_) fun text hFound => ?_
  · rw [← hFound]
    exact (Scene.component?_modifyComponent_of_ne (by decide) t id x.node _).symm
  · have hText := (textOf?_modifyComponent hNode changed).symm.trans hFound
    rwa [← Option.some.inj hText]

end Changes

/-! ## Calls -/

/-- A step from one host to another one after which nothing is negative that was not before. -/
def Spared (x : Subject) (axis : Axis) (parent : Single) (h k : Host) : Prop :=
  x.Unsigned axis parent h.scene → x.Unsigned axis parent k.scene

section Calls

theorem spared_of_perhaps {h k : Host} {s : Scene} (hScene : Host.Perhaps h.scene s k.scene)
    (hChanged : x.Unsigned axis parent h.scene → x.Unsigned axis parent s) :
    x.Spared axis parent h k := by
  intro hUnsigned
  rcases hScene with hSame | hOther
  · rwa [hSame]
  · rw [hOther]
    exact hChanged hUnsigned

variable (h : Host)

theorem spared_setRect {r : Rect Single} (hr : r.Unsigned axis parent) :
    x.Spared axis parent h (Host.setRect x.node r h).2 :=
  spared_of_perhaps (Host.scene_setRect x.node r h) fun hUnsigned => hUnsigned.setRect hr

theorem spared_updateRect {f : Rect Single → Rect Single}
    (hf : ∀ r : Rect Single, r.Unsigned axis parent → (f r).Unsigned axis parent) :
    x.Spared axis parent h (Host.updateRect x.node f h).2 := by
  intro hUnsigned
  obtain ⟨r, hr, hRect⟩ := hUnsigned.rect
  unfold Host.updateRect
  rw [Host.run_current_bind, hr]
  exact spared_setRect h (hf r hRect) hUnsigned

theorem spared_attach {c : Component NodeId} (hText : c.kind ≠ .text)
    (hHints : c.kind ≠ .layoutHints) : x.Spared axis parent h (Host.attach x.node c h).2 :=
  spared_of_perhaps (Host.scene_attach x.node c h) fun hUnsigned => hUnsigned.attach hText hHints

theorem spared_setActive (flag : Bool) :
    x.Spared axis parent h (Host.setActive x.node flag h).2 :=
  spared_of_perhaps (Host.scene_setActive x.node flag h) fun hUnsigned => hUnsigned.setActive flag

theorem spared_setExtent {other : Axis} {extent : Single} (hExtent : axis = other → 0 ≤ extent) :
    x.Spared axis parent h (setExtent x.node other extent h).2 := by
  intro hUnsigned
  unfold setExtent
  rw [Host.run_current_bind]
  refine spared_updateRect h (fun r hr => ?_) hUnsigned
  rw [← hUnsigned.parent_eq] at hr ⊢
  exact hr.setSize hExtent

theorem spared_ensureComponent {α : Type} [ComponentType α]
    (hText : ComponentType.kind α ≠ .text) (hHints : ComponentType.kind α ≠ .layoutHints) (new : α)
    (f : α → α) : x.Spared axis parent h (Host.ensureComponent x.node new f h).2 := by
  intro hUnsigned
  obtain ⟨s, hMid, hEnd⟩ := Host.scene_ensureComponent x.node new f h
  have hFirst : x.Unsigned axis parent s := by
    rcases hMid with rfl | ⟨-, rfl⟩
    · exact hUnsigned
    · exact hUnsigned.attach (by rwa [kind_wrap]) (by rwa [kind_wrap])
  rcases hEnd with hSame | hChanged
  · rwa [hSame]
  · rw [hChanged]
    exact hFirst.change hText hHints f

theorem spared_updateHints {f : LayoutHints → LayoutHints}
    (hf : ∀ hints : LayoutHints, hints.Unsigned axis → (f hints).Unsigned axis) :
    x.Spared axis parent h (updateHints x.node f h).2 := by
  intro hUnsigned
  have hNone : LayoutHints.none.Unsigned axis := by
    intro p hp
    cases axis <;> cases hp
  obtain ⟨s, hMid, hEnd⟩ := Host.scene_ensureComponent x.node LayoutHints.none f h
  -- the call may be refused after new hints were attached, so these must ask for nothing negative
  have hFirst : x.Unsigned axis parent s := by
    rcases hMid with rfl | ⟨hNew, rfl⟩
    · exact hUnsigned
    · exact hUnsigned.attachHints hNew hNone
  unfold updateHints
  rcases hEnd with hSame | hChanged
  · rwa [hSame]
  · rw [hChanged]
    exact hFirst.changeHints hf

end Calls

/-! ## Work on a stage -/

/-- Work on a stage after which nothing is negative that was not before. -/
def Spares (x : Subject) (axis : Axis) (parent : Single) {β : Type} (m : Stage → β × Stage) :
    Prop := Follows (x.Spared axis parent) m

section Stages

variable {ε β γ : Type}

theorem spares_pure (b : β) : x.Spares axis parent (pure b : StageM ε β) := fun _ h => h

theorem spares_throw (f : ε) : x.Spares axis parent (throw f : StageM ε β) := fun _ h => h

theorem spares_warn (label : Option String) (cause : WarningCause) :
    x.Spares axis parent (warn label cause : StageM ε Unit) := fun _ h => h

theorem spares_findSprite (address : String) :
    x.Spares axis parent (findSprite address : StageM ε (Option Sprite)) := by
  intro st h
  rw [run_findSprite]
  exact h

theorem Spares.bind {m : StageM ε β} {next : β → StageM ε γ} (hm : x.Spares axis parent m)
    (hNext : ∀ b, x.Spares axis parent (next b)) : x.Spares axis parent (m >>= next) :=
  follows_bind (R := x.Spared axis parent) (fun _ _ _ hk hl h => hl (hk h)) hm hNext

/-- What is done next may use what holds of the scene that was looked at. -/
theorem spares_current_bind {next : Scene → StageM ε γ}
    (hNext : ∀ s, x.Unsigned axis parent s → x.Spares axis parent (next s)) :
    x.Spares axis parent (currentScene >>= next) := fun st h => hNext st.host.scene h st h

theorem spares_hostWork {m : HostM Unit} (hm : ∀ h, x.Spared axis parent h (m h).2) :
    x.Spares axis parent (hostWork m) := follows_onHost hm

end Stages

/-! ## Single properties -/

section Properties

theorem spares_updateRect {f : Rect Single → Rect Single}
    (hf : ∀ r : Rect Single, r.Unsigned axis parent → (f r).Unsigned axis parent) :
    x.Spares axis parent (hostWork (Host.updateRect x.node f)) :=
  spares_hostWork fun h => spared_updateRect h hf

theorem spares_updateHints {f : LayoutHints → LayoutHints}
    (hf : ∀ hints : LayoutHints, hints.Unsigned axis → (f hints).Unsigned axis) :
    x.Spares axis parent (hostWork (updateHints x.node f)) :=
  spares_hostWork fun h => spared_updateHints h hf

theorem spares_updateGraphic (f : Graphic → Graphic) :
    x.Spares axis parent (hostWork (updateGraphic x.node f)) :=
  spares_hostWork fun h => spared_ensureComponent h (by decide) (by decide) _ f

theorem spares_updateComponent {α : Type} [ComponentType α] (hText : ComponentType.kind α ≠ .text)
    (hHints : ComponentType.kind α ≠ .layoutHints) (f : α → α) :
    x.Spares axis parent (hostWork (Host.updateComponent x.node f)) :=
  spares_hostWork fun _ h => h.change hText hHints f

theorem spares_setSize (other : Axis) (value : Scalar) :
    x.Spares axis parent (x.setSize other value) := by
  refine spares_current_bind fun s hs => ?_
  cases hLength : (x.surroundings s).length? value other with
  | none =>
    refine spares_hostWork fun h' => spared_setExtent h' fun hAxis => ?_
    subst hAxis
    exact hs.contentExtent
  | some pixels =>
    simp only
    split
    · exact spares_throw _
    · rename_i hNot
      exact spares_hostWork fun h' => spared_setExtent h' fun _ =>
        Surroundings.zero_le_of_length? hLength hNot

theorem spares_leastSize (other : Axis) (value : Scalar) :
    x.Spares axis parent (x.setHint other value fun pixels hints =>
      { hints with least := hints.least.set other pixels }) :=
  spares_current_bind fun _ _ => spares_updateHints fun _ hHints => hHints

theorem spares_setGrow (factor : Single) : x.Spares axis parent (x.setGrow factor) :=
  spares_current_bind fun _ _ => spares_updateHints fun _ hHints => hHints

theorem spares_setMargin (sides : Spacing (Option Scalar)) :
    x.Spares axis parent (x.setMargin sides) :=
  spares_current_bind fun _ _ => spares_updateRect fun _ hr => hr.shift ..

theorem spares_setBackground (address : String) :
    x.Spares axis parent (x.setBackground address) := by
  unfold setBackground
  split
  · exact spares_updateComponent (α := Graphic) (by decide) (by decide) _
  · refine (spares_findSprite address).bind fun found => ?_
    cases found with
    | none => exact spares_warn _ _
    | some sprite =>
      simp only
      split
      · exact (spares_warn _ _).bind fun _ => spares_updateGraphic _
      · exact (spares_pure ()).bind fun _ => spares_updateGraphic _

theorem spares_setOpacity (alpha : Single) : x.Spares axis parent (x.setOpacity alpha) := by
  refine spares_current_bind fun s _ => ?_
  split
  · exact spares_updateComponent (α := CanvasGroup) (by decide) (by decide) _
  · exact spares_hostWork fun h => spared_attach h nofun nofun

theorem spares_setOverflow (value : Overflow) : x.Spares axis parent (x.setOverflow value) := by
  refine spares_current_bind fun s _ => ?_
  simp only
  split
  · exact spares_hostWork fun h => spared_attach h nofun nofun
  · exact spares_pure ()

/-- A text stays as it was, or it gets a font size that a text can have. -/
theorem zero_le_textExtent_changedText {around : Surroundings} {text changed : TextBlock}
    (hText : 0 ≤ textExtent text axis) {change : TextChange}
    (h : changedText around text change = .ok changed) : 0 ≤ textExtent changed axis := by
  cases change with
  | size l =>
    simp only [changedText] at h
    cases hSize : fontSizeOf? around l with
    | none => simp [hSize] at h
    | some p =>
      simp only [hSize, Except.ok.injEq] at h
      obtain ⟨-, hFont⟩ := Option.filter_eq_some_iff.mp hSize
      obtain ⟨hPos, hFinite⟩ := of_decide_eq_true hFont
      rw [← h]
      exact zero_le_textExtent hPos hFinite axis
  | color _ | bold _ | shape _ | anchor _ | space _ =>
    cases h
    cases axis <;> exact hText

theorem spares_setText (change : TextChange) : x.Spares axis parent (x.setText change) := by
  -- the text that is changed is the one that was found in this very scene
  intro st h
  have hText : 0 ≤ textExtent ((textOf? st.host.scene x.node).getD (.plain "" "" 0)) axis := by
    cases hOld : textOf? st.host.scene x.node with
    | none => cases axis <;> decide +kernel
    | some text => exact h.text text hOld
  unfold setText
  rw [run_currentScene_bind]
  cases hChanged : changedText (x.surroundings st.host.scene)
      ((textOf? st.host.scene x.node).getD (.plain "" "" 0)) change with
  | error f => exact h
  | ok changed =>
    simp only
    cases hNode : textNode? st.host.scene x.node with
    | none => exact h
    | some id => exact h.changeText hNode (zero_le_textExtent_changedText hText hChanged)

section Parent

variable (hParent : parent.isFinite = true) (hPos : 0 ≤ parent)
include hParent

theorem spares_setInset (side : Rect.Side) (distance : Scalar) :
    x.Spares axis parent (x.setInset side distance) := by
  refine spares_current_bind fun s hs => ?_
  cases (x.surroundings s).length? distance side.axis with
  | none => exact spares_pure ()
  | some d =>
    refine spares_updateRect fun r hr => ?_
    rw [← hs.parent_eq] at hr hParent ⊢
    exact hr.inset hParent side d

theorem spares_moveAcross (other : Axis) (place : Placement) :
    x.Spares axis parent (x.moveAcross other place) := by
  have hFraction : (crossFraction other place).isFinite = true := by
    cases place <;> cases other <;> decide +kernel
  refine spares_current_bind fun s hs => spares_updateRect fun r hr => ?_
  rw [← hs.parent_eq] at hr hParent ⊢
  exact (hr.pin hParent other hFraction).moveTo _ _

include hPos

theorem spares_setPosition (value : Position) : x.Spares axis parent (x.setPosition value) := by
  cases value with
  | relative => exact spares_pure ()
  | absolute =>
    refine (spares_hostWork fun h => ?_).bind fun _ => spares_updateHints fun _ hHints => hHints
    exact spared_setRect h (Rect.stretched_unsigned hParent hPos)

theorem spares_setAlignSelf (align : Align) : x.Spares axis parent (x.setAlignSelf align) := by
  refine spares_current_bind fun s _ => ?_
  simp only
  split
  · refine spares_updateHints fun hints hHints => ?_
    split <;> exact hHints
  · cases align with
    | auto => exact spares_pure ()
    | start | center | finish => exact spares_moveAcross hParent _ _
    | stretch =>
      refine (spares_updateHints (f := stretched _) fun _ hHints => hHints).bind fun _ => ?_
      exact spares_updateRect fun r hr => hr.stretch hParent hPos _

end Parent

end Properties

/-! ## Declarations that overdraw -/

/-- A change after which `auto` may come to a negative extent along an axis: it makes the preferred
extent negative, or it takes more from the rectangle than there is. -/
def Overdraws (x : Subject) (axis : Axis) (s : Scene) : Change → Prop
  | .preferredSize other value =>
    other = axis ∧ ∃ p ∈ (x.surroundings s).length? value other, p < 0
  | .basis value =>
    x.mainAxis s = axis ∧ ∃ p ∈ (x.surroundings s).length? value (x.mainAxis s), p < 0
  | .padding sides =>
    s.component? LayoutGroup x.node = none ∧ asksForGroup x.style = false ∧
      ∃ r ∈ s.rect? x.node, ¬ 0 ≤ (((Change.padding sides).reshaped (x.surroundings s) r).size
        (s.parentSize x.node)).get axis
  | _ => False

instance (x : Subject) (axis : Axis) (s : Scene) (change : Change) :
    Decidable (x.Overdraws axis s change) :=
  match change with
  | .preferredSize _ _ | .basis _ => inferInstanceAs (Decidable (_ = _ ∧ ∃ p ∈ _, p < 0))
  | .padding _ => inferInstanceAs (Decidable (_ = none ∧ _ = false ∧ ∃ r ∈ _, ¬ 0 ≤ _))
  | .size _ _ | .leastSize _ _ | .grow _ | .shrink _ | .inset _ _ | .position _ | .margin _
  | .group | .alignSelf _ | .display _ | .graphicColor _ | .backgroundImage _ | .backgroundSize _
  | .backgroundRepeat _ | .opacity _ | .overflow _ | .text _ => inferInstanceAs (Decidable False)

/-- A declaration whose change overdraws. -/
def OverdrawnBy (x : Subject) (axis : Axis) (s : Scene) (d : Declaration) : Prop :=
  ∃ p ∈ Property.named? d.property, ∃ change ∈ (Change.read p d.value).toOption,
    x.Overdraws axis s change

instance (x : Subject) (axis : Axis) (s : Scene) (d : Declaration) :
    Decidable (x.OverdrawnBy axis s d) :=
  inferInstanceAs (Decidable (∃ p ∈ Property.named? d.property,
    ∃ change ∈ (Change.read p d.value).toOption, x.Overdraws axis s change))

section Steps

variable {st : Stage} (h : x.Unsigned axis parent st.host.scene)
include h

theorem unsigned_setPreferred {other : Axis} {value : Scalar}
    (hNot : ¬ (other = axis ∧
      ∃ p ∈ (x.surroundings st.host.scene).length? value other, p < 0)) :
    x.Unsigned axis parent (x.setHint other value (fun pixels hints =>
      { hints with preferred := hints.preferred.set other pixels }) st).2.host.scene := by
  unfold setHint
  rw [run_currentScene_bind]
  refine spares_updateHints (fun hints hHints => hHints.setPreferred fun hAxis p hp => ?_) st h
  exact Surroundings.zero_le_of_length? hp fun hNegative => hNot ⟨hAxis, p, hp, hNegative⟩

theorem unsigned_setPadding {sides : Spacing (Option Scalar)}
    (hNot : ¬ x.Overdraws axis st.host.scene (.padding sides)) :
    x.Unsigned axis parent (x.setPadding sides st).2.host.scene := by
  unfold setPadding
  rw [run_currentScene_bind]
  split
  · exact spares_updateComponent (α := LayoutGroup) (by decide) (by decide) _ st h
  · rename_i hGroup
    split
    · exact h
    · rename_i hAsks
      obtain ⟨r, hr, hRect⟩ := h.rect
      have hLeft : 0 ≤ (((Change.padding sides).reshaped (x.surroundings st.host.scene) r).size
          (st.host.scene.parentSize x.node)).get axis := by
        by_contra hTooMuch
        exact hNot ⟨Option.not_isSome_iff_eq_none.mp hGroup, Bool.eq_false_iff.mpr hAsks, r, hr,
          hTooMuch⟩
      have hShrunk : ((Change.padding sides).reshaped (x.surroundings st.host.scene) r).Unsigned
          axis parent := by
        rw [← h.parent_eq] at hRect ⊢
        exact hRect.shrink hLeft
      unfold Host.updateRect hostWork onHost
      rw [Host.run_current_bind, hr]
      exact spared_setRect st.host hShrunk h

variable (hParent : parent.isFinite = true) (hPos : 0 ≤ parent)
include hParent hPos

theorem unsigned_perform {change : Change} (hNot : ¬ x.Overdraws axis st.host.scene change) :
    x.Unsigned axis parent (x.perform change st).2.host.scene := by
  unfold perform
  cases change with
  | size other value => exact spares_setSize other value st h
  | leastSize other value => exact spares_leastSize other value st h
  | preferredSize other value => exact unsigned_setPreferred h hNot
  | basis value =>
    simp only [setBasis]
    rw [run_currentScene_bind]
    exact unsigned_setPreferred h hNot
  | grow factor => exact spares_setGrow factor st h
  | shrink _ => exact h
  | inset side distance => exact spares_setInset hParent side distance st h
  | position value => exact spares_setPosition hParent hPos value st h
  | margin sides => exact spares_setMargin sides st h
  | padding sides => exact unsigned_setPadding h hNot
  | group => exact spares_updateComponent (α := LayoutGroup) (by decide) (by decide) _ st h
  | alignSelf value => exact spares_setAlignSelf hParent hPos value st h
  | display value => exact spares_hostWork (fun h' => spared_setActive h' _) st h
  | graphicColor value => exact spares_updateGraphic _ st h
  | backgroundImage address => exact spares_setBackground address st h
  | backgroundSize value => exact spares_updateGraphic _ st h
  | backgroundRepeat value => exact spares_updateGraphic _ st h
  | opacity value => exact spares_setOpacity value st h
  | overflow value => exact spares_setOverflow value st h
  | text change => exact spares_setText change st h

/-- A declaration that does not overdraw makes nothing negative. -/
theorem unsigned_apply {d : Declaration} (hNot : ¬ x.OverdrawnBy axis st.host.scene d) :
    x.Unsigned axis parent (x.apply d st).2.host.scene := by
  cases hNamed : Property.named? d.property with
  | none =>
    unfold apply
    rw [hNamed]
    exact h
  | some p =>
    have hDone : x.Unsigned axis parent (x.carryOut p d.value st).2.host.scene := by
      unfold carryOut
      cases hRead : Change.read p d.value with
      | error f => exact h
      | ok change =>
        exact unsigned_perform h hParent hPos fun hChange =>
          hNot ⟨p, hNamed, change, by rw [hRead]; rfl, hChange⟩
    rw [apply_of_named hNamed]
    unfold orWarn
    rcases hRun : x.carryOut p d.value st with ⟨_ | _, st'⟩ <;> simpa [hRun, raise] using hDone

end Steps

/-- Whole lists of declarations, none of which overdraws when its turn comes. -/
theorem unsigned_forM (hParent : parent.isFinite = true) (hPos : 0 ≤ parent)
    {ds : List Declaration} {st : Stage} (h : x.Unsigned axis parent st.host.scene)
    (hNot : ∀ before d after, ds = before ++ d :: after →
      ¬ x.OverdrawnBy axis (before.forM x.apply st).2.host.scene d) :
    x.Unsigned axis parent (ds.forM x.apply st).2.host.scene := by
  induction ds generalizing st with
  | nil => exact h
  | cons d ds ih =>
    rw [run_forM_cons]
    refine ih (unsigned_apply h hParent hPos (hNot [] d ds rfl)) fun before e after hCut => ?_
    have hLater := hNot (d :: before) e after (congrArg (d :: ·) hCut)
    rwa [run_forM_cons] at hLater

/-! ## What overdrawing leads to -/

theorem handed?_auto (x : Subject) (s : Scene) (axis : Axis) :
    x.handed? s axis .auto = some (contentExtent s x.node axis) := rfl

section Overdrawn

variable {st : Stage} (hw : st.host.Willing)
include hw

/-- The preferred extent is handed on as it is. -/
theorem handed?_of_setPreferred (hLive : st.host.scene.contains x.node = true) {value : Scalar}
    {p : Single} (hp : (x.surroundings st.host.scene).length? value axis = some p) :
    x.handed? (x.setHint axis value (fun pixels hints =>
      { hints with preferred := hints.preferred.set axis pixels }) st).2.host.scene axis .auto =
      some p := by
  let f : LayoutHints → LayoutHints := fun hints =>
    { hints with preferred := hints.preferred.set axis (some p) }
  obtain ⟨k, hRun, hScene, -⟩ := Host.does_ensureComponent hw hLive LayoutHints.none f
  have hEnd : (x.setHint axis value (fun pixels hints =>
      { hints with preferred := hints.preferred.set axis pixels }) st).2.host = k := by
    unfold setHint
    rw [run_currentScene_bind, hp]
    exact congrArg Prod.snd hRun
  have hHints : (Host.furnished st.host.scene x.node LayoutHints.none f).component? LayoutHints
      x.node = _ := Host.component?_furnished hLive f
  rw [Host.furnished, ← hScene] at hHints
  rw [hEnd, handed?_auto, contentExtent, hHints]
  cases axis <;> rfl

/-- What padding leaves of the rectangle is handed on if nothing else decides about the extent. -/
theorem handed?_of_setPadding (hs : st.host.scene.Forest) {r : Rect Single}
    (hr : st.host.scene.rect? x.node = some r)
    (hGroup : st.host.scene.component? LayoutGroup x.node = none)
    (hAsks : asksForGroup x.style = false)
    (hHints : (st.host.scene.component? LayoutHints x.node).bind (fun h => h.preferred.get axis) =
      none) (hText : textOf? st.host.scene x.node = none) (sides : Spacing (Option Scalar)) :
    x.handed? (x.setPadding sides st).2.host.scene axis .auto =
      some ((((Change.padding sides).reshaped (x.surroundings st.host.scene) r).size
        (st.host.scene.parentSize x.node)).get axis) := by
  let left := (Change.padding sides).reshaped (x.surroundings st.host.scene) r
  have hLive := Scene.contains_of_rect? hr
  have hForest : (st.host.scene.setRect x.node left).Forest := hs.modify x.node _
  obtain ⟨k, hRun, hScene, -⟩ := Host.does_setRect hw hLive left
  have hEnd : (x.setPadding sides st).2.host = k := by
    unfold setPadding
    rw [run_currentScene_bind, hGroup, if_neg (by simp), hAsks, if_neg Bool.false_ne_true]
    unfold Host.updateRect hostWork onHost
    rw [Host.run_current_bind, hr]
    exact congrArg Prod.snd hRun
  have hSame : (st.host.scene.setRect x.node left).component? LayoutHints x.node =
      st.host.scene.component? LayoutHints x.node := by
    rw [Scene.component?, Scene.components_setRect, Scene.component?]
  rw [hEnd, hScene, handed?_auto, contentExtent, hSame, hHints]
  simp only
  rw [textOf?_setRect, hText]
  simp only
  rw [hForest.sizeOf_eq (rect?_setRect hLive left), parentSize_setRect hs]

/-- Right after a change that overdraws, `auto` is negative or missing; after padding, as long as
nothing else decides about the extent. -/
theorem not_zero_le_of_overdraws (hs : st.host.scene.Forest)
    (hLive : st.host.scene.contains x.node = true) {change : Change}
    (hChange : x.Overdraws axis st.host.scene change)
    (hBare : ∀ sides, change = .padding sides →
      (st.host.scene.component? LayoutHints x.node).bind (fun h => h.preferred.get axis) = none ∧
        textOf? st.host.scene x.node = none) :
    ∃ extent, x.handed? (x.perform change st).2.host.scene axis .auto = some extent ∧
      ¬ 0 ≤ extent := by
  have hNegative {p : Single} (hp : p < 0) : ¬ 0 ≤ p := fun hPos => (zero_le_iff.mp hPos).2 hp
  cases change with
  | preferredSize other value =>
    obtain ⟨rfl, p, hp, hLess⟩ := hChange
    exact ⟨p, handed?_of_setPreferred hw hLive hp, hNegative hLess⟩
  | basis value =>
    obtain ⟨rfl, p, hp, hLess⟩ := hChange
    refine ⟨p, ?_, hNegative hLess⟩
    simp only [perform, setBasis]
    rw [run_currentScene_bind]
    exact handed?_of_setPreferred hw hLive hp
  | padding sides =>
    obtain ⟨hGroup, hAsks, r, hr, hTooMuch⟩ := hChange
    obtain ⟨hHints, hText⟩ := hBare sides rfl
    exact ⟨_, handed?_of_setPadding hw hs hr hGroup hAsks hHints hText sides, hTooMuch⟩
  | _ => exact hChange.elim

end Overdrawn

/-! ## Runs of declarations -/

/-- A canvas, a subject for its node, and declarations for it: a negative maximum is accepted, and
`auto` hands it on. -/
theorem not_zero_le_handed :
    ¬ ∀ (x : Subject) (axis : Axis) (st : Stage) (r : Rect Single), st.host.scene.Reachable →
      (∀ id r, st.host.scene.rect? id = some r → ∀ axis, 0 ≤ r.sizeDelta.get axis) →
      st.host.scene.rect? x.node = some r → r.isFixed axis = true →
      ∀ (ds : List Declaration) (d : Declaration) (value : Scalar) (extent : Single),
        Property.named? d.property = some (.size axis) → readScalar d.value = .ok value →
        x.handed? (ds.forM x.apply st).2.host.scene axis value = some extent → 0 ≤ extent := by
  intro hAll
  let s := Scene.withCanvas 800 600
  let x : Subject := ⟨.bare "VisualElement", Scene.empty.nodes.nextKey, none, none, ⟨800, 600⟩,
    Catalog.empty, 14, false⟩
  let st : Stage := ⟨Host.ofScene s, .ofSource Asset.Shelf.empty.source, []⟩
  have hs : s.Reachable := ⟨[], Or.inr ⟨800, 600, rfl⟩⟩
  have hDelta : ∀ id r, s.rect? id = some r → ∀ axis, 0 ≤ r.sizeDelta.get axis := by
    intro id r hr axis
    rw [Scene.rect?_withCanvas hr]
    cases axis <;> decide +kernel
  have hHanded : x.handed? (List.forM [⟨"max-width", "-5px"⟩] x.apply st).2.host.scene .horizontal
      .auto = some (-5) := by decide +kernel
  have hPos := hAll x .horizontal st _ hs hDelta rfl (by decide +kernel) _ ⟨"width", "auto"⟩ .auto
    (-5) (by decide +kernel) (by decide +kernel) hHanded
  exact absurd hPos (by decide +kernel)

/-- A node with anchors that agree, whose size beyond these is not negative, hands on no negative
extent along an axis, as long as no declaration before has overdrawn. Nothing else that an extent
may be taken from is to be negative in the beginning, and the parent is to have a finite extent. -/
theorem zero_le_handed (x : Subject) (axis : Axis) {st : Stage} {r : Rect Single}
    (hs : st.host.scene.Reachable) (hRect : st.host.scene.rect? x.node = some r)
    (hAnchors : r.anchorMin.get axis = r.anchorMax.get axis)
    (hFinite : (r.anchorMin.get axis).isFinite = true) (hDelta : 0 ≤ r.sizeDelta.get axis)
    (hParent : ((st.host.scene.parentSize x.node).get axis).isFinite = true)
    (hPos : 0 ≤ (st.host.scene.parentSize x.node).get axis)
    (hHints : ∀ hints, st.host.scene.component? LayoutHints x.node = some hints →
      hints.Unsigned axis)
    (hText : ∀ text, textOf? st.host.scene x.node = some text → 0 ≤ textExtent text axis)
    (ds : List Declaration) (hNot : ∀ before d after, ds = before ++ d :: after →
      ¬ x.OverdrawnBy axis (before.forM x.apply st).2.host.scene d)
    (d : Declaration) (value : Scalar) (hNamed : Property.named? d.property = some (.size axis))
    (hRead : readScalar d.value = .ok value) :
    let before := (ds.forM x.apply st).2
    (∀ extent, x.handed? before.host.scene axis value = some extent → 0 ≤ extent) ∧
      x.apply d before = orWarn (fun st => match x.handed? st.host.scene axis value with
        | some extent => hostWork (setExtent x.node axis extent) st
        | none => (.error (.value .negativeSize), st)) (x.faultWarning (.size axis)) before := by
  intro before
  have hUnsigned : x.Unsigned axis ((st.host.scene.parentSize x.node).get axis) st.host.scene :=
    ⟨hs.forest, rfl, ⟨r, hRect, Rect.unsigned_of_fixed hParent hAnchors hFinite hDelta⟩, hHints,
      hText⟩
  refine ⟨fun extent hHanded => (unsigned_forM hParent hPos hUnsigned hNot).handed? hHanded, ?_⟩
  have hChange : Change.read (.size axis) d.value = .ok (.size axis value) := by
    rw [Change.read, hRead]
    rfl
  have hDone : x.carryOut (.size axis) d.value = x.setSize axis value := by
    unfold carryOut
    rw [hChange]
    rfl
  rw [apply_of_named hNamed, hDone, funext (setSize_eq x axis value)]

/-- A maximum that is not negative is handed on, and padding that leaves something is not. -/
theorem zero_le_handed_maximum :
    let s := Scene.withCanvas 800 600
    let x : Subject := ⟨.bare "VisualElement", Scene.empty.nodes.nextKey, none, none, ⟨800, 600⟩,
      Catalog.empty, 14, false⟩
    let st : Stage := ⟨Host.ofScene s, .ofSource Asset.Shelf.empty.source, []⟩
    let ds : List Declaration := [⟨"max-width", "40px"⟩, ⟨"padding-left", "10px"⟩]
    s.Reachable ∧ s.rect? x.node = some (.centered 800 600) ∧
      (∀ before d after, ds = before ++ d :: after →
        ¬ x.OverdrawnBy .horizontal (before.forM x.apply st).2.host.scene d) ∧
      x.handed? (ds.forM x.apply st).2.host.scene .horizontal .auto = some 40 ∧
      (0 : Single) ≤ 40 := by
  intro s x st ds
  have hs : s.Reachable := ⟨[], Or.inr ⟨800, 600, rfl⟩⟩
  have hNot : ∀ before d after, ds = before ++ d :: after →
      ¬ x.OverdrawnBy .horizontal (before.forM x.apply st).2.host.scene d := by
    intro before d after hCut
    rcases before with _ | ⟨_, _ | ⟨_, _⟩⟩
    · obtain ⟨rfl, -⟩ := List.cons.inj hCut
      decide +kernel
    · simp only [ds, List.cons_append, List.nil_append, List.cons.injEq] at hCut
      obtain ⟨rfl, rfl, -⟩ := hCut
      decide +kernel
    · simp [ds] at hCut
  have hHanded : x.handed? (ds.forM x.apply st).2.host.scene .horizontal .auto = some 40 := by
    decide +kernel
  have hHints : s.component? LayoutHints x.node = none := by decide +kernel
  have hText : textOf? s x.node = none := by decide +kernel
  have hRect : s.rect? x.node = some (.centered 800 600) := rfl
  have hPos := (@zero_le_handed x .horizontal st _ hs hRect rfl (by decide +kernel)
    (by decide +kernel) (by decide +kernel) (by decide +kernel)
    (fun hints hFound => nomatch hHints.symm.trans hFound)
    (fun text hFound => nomatch hText.symm.trans hFound) ds hNot
    ⟨"width", "auto"⟩ .auto (by decide +kernel) (by decide +kernel)).1 40 hHanded
  exact ⟨hs, hRect, hNot, hHanded, hPos⟩

end Subject

end AnchoredUi.Styling
