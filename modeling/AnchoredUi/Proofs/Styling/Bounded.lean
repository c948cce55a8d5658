import AnchoredUi.Proofs.Styling.Boxes
import AnchoredUi.Proofs.Styling.Within

/-!
# Styling within bounds

Styling a node reads the size of its parent, its font, its rectangle and what it asks of a layout,
and computes with declared numbers. If all of these are within bounds, the rectangle is larger by a
few units after each declaration, and all else is within the same bounds as before: so the rectangle
after a whole cascade is at most as many units large as there are declarations, times a constant.
None of this depends on what the host refuses.

* `Held`: the rectangle of the node is at most so many units large, and what else counts is within
  bounds.
* `Grows`: work that makes the rectangle larger by some units only, with a rule for each way of
  composing work.
* `grows_apply`, `held_cascade`: one declaration, and a whole cascade.
-/

namespace AnchoredUi.Styling.Subject

open Number Plane SceneGraph Style Sprite Binary

variable {x : Subject} {own : NodeId → Prop} {b e n m k : ℕ} {t : Scene}

/-! ## Nodes within bounds -/

/-- What is the same for all nodes of a document is within bounds, and there is room for products of
such numbers. -/
structure Modest (x : Subject) (b e : ℕ) : Prop where
  canvas : x.canvas.Within b 1
  fontSize : x.fontSize.Within (b + 4) 1
  room : 2 * b + 10 ≤ e
  top : e ≤ topScale

/-- The rectangle of the node is at most `n` units of `2 ^ e` large, its parent at most one. The
components of the nodes that count, among them the node and its children, are within bounds. -/
structure Held (x : Subject) (own : NodeId → Prop) (b e n : ℕ) (t : Scene) : Prop where
  forest : t.Forest
  rect : ∃ r, t.rect? x.node = some r ∧ r.Within e n
  parent : (t.parentSize x.node).Within e 1
  self : own x.node
  child : ∀ id ∈ t.children x.node, own id
  moderate : ∀ id, own id → t.Moderate (b + 4) b e id

theorem Held.mono (h : x.Held own b e n t) (hnm : n ≤ m) : x.Held own b e m t := by
  obtain ⟨r, hr, hWithin⟩ := h.rect
  exact ⟨h.forest, ⟨r, hr, hWithin.mono hnm⟩, h.parent, h.self, h.child, h.moderate⟩

theorem Held.live (h : x.Held own b e n t) : t.contains x.node = true := by
  obtain ⟨r, hr, -⟩ := h.rect
  exact Scene.contains_of_rect? hr

section Changes

variable (h : x.Held own b e n t)
include h

theorem Held.modify (a : NodeId) (f : Node → Node)
    (hOthers : ∀ id, id ≠ x.node → (t.modify a f).rect? id = t.rect? id)
    (hRect : ∃ r, (t.modify a f).rect? x.node = some r ∧ r.Within e m)
    (hModerate : ∀ id, own id → (t.modify a f).Moderate (b + 4) b e id) :
    x.Held own b e m (t.modify a f) := by
  refine ⟨h.forest.modify a f, hRect, ?_, h.self, ?_, hModerate⟩
  · rw [h.forest.parentSize_eq_of_others (h.forest.modify a f)
      (fun c => Scene.parent?_modify t a c f) hOthers]
    exact h.parent
  · rw [Scene.children_modify]
    exact h.child

theorem Held.setRect {r : Rect Single} (hr : r.Within e m) :
    x.Held own b e m (t.setRect x.node r) := by
  refine h.modify x.node _ (fun id hId => ?_) ⟨r, rect?_setRect h.live r, hr⟩ fun id hOwn => ?_
  · exact (Scene.rect?_setRect t x.node id r).trans (if_neg hId)
  · exact (h.moderate id hOwn).of_components (Scene.components_setRect t x.node id r)

theorem Held.modifyComponents (a : NodeId)
    {change : List (Component NodeId) → List (Component NodeId)}
    (hModerate : ∀ id, own id → (t.modifyComponents a change).Moderate (b + 4) b e id) :
    x.Held own b e n (t.modifyComponents a change) := by
  have hRect := fun id => Scene.rect?_modifyComponents t a id change
  refine h.modify a _ (fun id _ => hRect id) ?_ hModerate
  obtain ⟨r, hr, hWithin⟩ := h.rect
  exact ⟨r, (hRect x.node).trans hr, hWithin⟩

theorem Held.attach (a : NodeId) {c : Component NodeId} (hc : c.Moderate (b + 4) b e) :
    x.Held own b e n (t.modifyComponents a (· ++ [c])) :=
  h.modifyComponents a fun id hOwn => (h.moderate id hOwn).attach a hc

theorem Held.change {α : Type} [ComponentType α] (a : NodeId) {f : α → α}
    (hf : ∀ y, (ComponentType.wrap y).Moderate (b + 4) b e →
      (ComponentType.wrap (f y)).Moderate (b + 4) b e) :
    x.Held own b e n (t.modifyComponent a f) :=
  h.modifyComponents a fun id hOwn => (h.moderate id hOwn).change a hf

theorem Held.setActive (flag : Bool) :
    x.Held own b e n (t.modify x.node fun node => { node with active := flag }) := by
  have hRect := fun id => Scene.rect?_modify (f := fun node => { node with active := flag })
    (fun _ => rfl) t x.node id
  refine h.modify x.node _ (fun id _ => hRect id) ?_ fun id hOwn => ?_
  · obtain ⟨r, hr, hWithin⟩ := h.rect
    exact ⟨r, (hRect x.node).trans hr, hWithin⟩
  · exact (h.moderate id hOwn).setActive x.node flag

end Changes

/-! ## What is read -/

theorem Held.textOf?_within (h : x.Held own b e n t) {text : TextBlock}
    (hText : textOf? t x.node = some text) : text.Within (b + 4) b := by
  obtain ⟨c, hNode, hText⟩ := Option.bind_eq_some_iff.mp hText
  have hOwn : own c := by
    rcases textNode?_or_child hNode with rfl | hChild
    · exact h.self
    · exact h.child c hChild
  exact (h.moderate c hOwn).text hText

section Reads

variable (hx : x.Modest b e)
include hx

theorem Held.surroundings (h : x.Held own b e n t) : (x.surroundings t).Within b e := by
  refine ⟨h.parent, hx.canvas, ?_⟩
  unfold Subject.surroundings surroundingsOf
  cases hText : textOf? t x.node with
  | none => exact hx.fontSize
  | some text => exact (h.textOf?_within hText).fontSize

theorem Held.length? (h : x.Held own b e n t) {l : Scalar} (hl : l.Moderate b) {axis : Axis}
    {p : Single} (hp : (x.surroundings t).length? l axis = some p) : p.Within e 1 := by
  have hRoom := hx.room
  exact (h.surroundings hx).length? hl (by omega) hx.top hp

theorem Held.pixels (h : x.Held own b e n t) {l : Scalar} (hl : l.Moderate b) (axis : Axis) :
    ((x.surroundings t).pixels l axis).Within e 1 := by
  have hRoom := hx.room
  exact (h.surroundings hx).pixels hl (by omega) hx.top axis

theorem Held.contentExtent (h : x.Held own b e n t) (hn : 1 + n ≤ topCount) (axis : Axis) :
    (contentExtent t x.node axis).Within e (1 + n) := by
  have hRoom := hx.room
  unfold Styling.contentExtent
  cases hPreferred : (t.component? LayoutHints x.node).bind fun h => h.preferred.get axis with
  | some extent =>
    obtain ⟨hints, hHints, hExtent⟩ := Option.bind_eq_some_iff.mp hPreferred
    exact (((h.moderate x.node h.self).hints hHints).preferred axis extent hExtent).mono (by omega)
  | none =>
    cases hText : textOf? t x.node with
    | some text =>
      exact (textExtent_within (h.textOf?_within hText) (by omega) hx.top axis).mono (by omega)
    | none =>
      obtain ⟨r, hr, hWithin⟩ := h.rect
      simp only
      rw [h.forest.sizeOf_eq hr]
      exact hWithin.size hx.top h.parent hn axis

/-- The sides of a box that are named are at most one unit. -/
theorem Held.sidePixels (h : x.Held own b e n t) {sides : Spacing (Option Scalar)}
    (hSides : EachSide sides (Scalar.Moderate · b)) {p : Spacing Single} (hp : p.Within e 1) :
    (overPadding p (x.sidePixels t sides)).Within e 1 := by
  have hSide : ∀ {side : Option Scalar} {d : Single},
      side ∈ [sides.top, sides.right, sides.bottom, sides.left] → ∀ axis, d.Within e 1 →
        ((side.map ((x.surroundings t).pixels · axis)).getD d).Within e 1 := by
    intro side d hMem axis hd
    cases side with
    | none => exact hd
    | some l => exact h.pixels hx (hSides l (List.reduceOption_mem_iff.mpr hMem)) axis
  exact ⟨hSide (by simp) _ hp.top, hSide (by simp) _ hp.right, hSide (by simp) _ hp.bottom,
    hSide (by simp) _ hp.left⟩

end Reads

/-! ## Calls -/

section Calls

variable {h : Host} (hHeld : x.Held own b e n h.scene)
include hHeld

theorem held_setRect {r : Rect Single} (hnm : n ≤ m) (hr : r.Within e m) :
    x.Held own b e m (Host.setRect x.node r h).2.scene := by
  rcases Host.scene_setRect x.node r h with hSame | hSet
  · rw [hSame]
    exact hHeld.mono hnm
  · rw [hSet]
    exact hHeld.setRect hr

theorem held_updateRect {f : Rect Single → Rect Single} (hnm : n ≤ m)
    (hf : ∀ r : Rect Single, r.Within e n → (f r).Within e m) :
    x.Held own b e m (Host.updateRect x.node f h).2.scene := by
  obtain ⟨r, hr, hWithin⟩ := hHeld.rect
  unfold Host.updateRect
  rw [Host.run_current_bind, hr]
  exact held_setRect hHeld hnm (hf r hWithin)

theorem held_attach (a : NodeId) {c : Component NodeId} (hc : c.Moderate (b + 4) b e) :
    x.Held own b e n (Host.attach a c h).2.scene := by
  rcases Host.scene_attach a c h with hSame | hMore
  · rw [hSame]
    exact hHeld
  · rw [hMore]
    exact hHeld.attach a hc

theorem held_setActive (flag : Bool) :
    x.Held own b e n (Host.setActive x.node flag h).2.scene := by
  rcases Host.scene_setActive x.node flag h with hSame | hSet
  · rw [hSame]
    exact hHeld
  · rw [hSet]
    exact hHeld.setActive flag

theorem held_ensureComponent {α : Type} [ComponentType α] {new : α} {f : α → α}
    (hNew : (ComponentType.wrap new).Moderate (b + 4) b e)
    (hf : ∀ y, (ComponentType.wrap y).Moderate (b + 4) b e →
      (ComponentType.wrap (f y)).Moderate (b + 4) b e) :
    x.Held own b e n (Host.ensureComponent x.node new f h).2.scene := by
  obtain ⟨s, hMid, hEnd⟩ := Host.scene_ensureComponent x.node new f h
  have hFirst : x.Held own b e n s := by
    rcases hMid with rfl | ⟨-, rfl⟩
    · exact hHeld
    · exact hHeld.attach x.node hNew
  rcases hEnd with hSame | hChanged
  · rw [hSame]
    exact hFirst
  · rw [hChanged]
    exact hFirst.change x.node hf

theorem held_setExtent (hx : x.Modest b e) (axis : Axis) {extent : Single}
    (hExtent : extent.Within e (1 + n)) (hn : n + 2 ≤ topCount) :
    x.Held own b e (n + 2) (setExtent x.node axis extent h).2.scene := by
  unfold setExtent
  rw [Host.run_current_bind]
  refine held_updateRect hHeld (by omega) fun r hr => ?_
  exact (hr.setSize hx.top hHeld.parent axis hExtent (by omega) (by omega)).mono (by omega)

end Calls

/-! ## Work on a stage -/

/-- Work on a stage after which the rectangle of the node is at most `m` units large if it was at
most `n` units large before. -/
def Grows (x : Subject) (own : NodeId → Prop) (b e n m : ℕ) {β : Type} (run : Stage → β × Stage) :
    Prop := ∀ st, x.Held own b e n st.host.scene → x.Held own b e m (run st).2.host.scene

section Stages

variable {ε β γ : Type}

theorem grows_pure (c : β) : x.Grows own b e n n (pure c : StageM ε β) := fun _ h => h

theorem grows_throw (f : ε) : x.Grows own b e n n (throw f : StageM ε β) := fun _ h => h

theorem grows_warn (label : Option String) (cause : WarningCause) :
    x.Grows own b e n n (warn label cause : StageM ε Unit) := fun _ h => h

theorem grows_findSprite (address : String) :
    x.Grows own b e n n (findSprite address : StageM ε (Option Sprite)) := by
  intro st h
  rw [run_findSprite]
  exact h

theorem Grows.mono {run : Stage → β × Stage} (h : x.Grows own b e n m run) (hmk : m ≤ k) :
    x.Grows own b e n k run := fun st hHeld => (h st hHeld).mono hmk

theorem Grows.bind {first : StageM ε β} {next : β → StageM ε γ}
    (hFirst : x.Grows own b e n m first) (hmk : m ≤ k)
    (hNext : ∀ c, x.Grows own b e m k (next c)) : x.Grows own b e n k (first >>= next) := by
  intro st hHeld
  have hMid := hFirst st hHeld
  rw [run_bind]
  rcases hRun : first st with ⟨_ | c, st'⟩
  · rw [hRun] at hMid
    exact hMid.mono hmk
  · rw [hRun] at hMid
    exact hNext c st' hMid

/-- What is done next may use what holds of the scene that was looked at. -/
theorem grows_current_bind {next : Scene → StageM ε γ}
    (hNext : ∀ s, x.Held own b e n s → x.Grows own b e n m (next s)) :
    x.Grows own b e n m (currentScene >>= next) := fun st hHeld =>
  hNext st.host.scene hHeld st hHeld

theorem grows_orWarn {run : StageM ε Unit} (h : x.Grows own b e n m run) (cause : ε → Warning) :
    x.Grows own b e n m (orWarn run cause) := by
  intro st hHeld
  have hEnd := h st hHeld
  unfold orWarn
  rcases hRun : run st with ⟨_ | _, st'⟩ <;> simpa [hRun, raise] using hEnd

theorem grows_hostWork {work : HostM Unit}
    (h : ∀ h : Host, x.Held own b e n h.scene → x.Held own b e m (work h).2.scene) :
    x.Grows own b e n m (hostWork work) := fun st hHeld => h st.host hHeld

end Stages

/-! ## Single properties -/

section Properties

theorem grows_updateRect {f : Rect Single → Rect Single} (hnm : n ≤ m)
    (hf : ∀ r : Rect Single, r.Within e n → (f r).Within e m) :
    x.Grows own b e n m (hostWork (Host.updateRect x.node f)) :=
  grows_hostWork fun _ hHeld => held_updateRect hHeld hnm hf

theorem grows_updateHints {f : LayoutHints → LayoutHints}
    (hf : ∀ hints : LayoutHints, hints.Within e → (f hints).Within e) :
    x.Grows own b e n n (hostWork (updateHints x.node f)) :=
  grows_hostWork fun _ hHeld => held_ensureComponent hHeld LayoutHints.within_none hf

theorem grows_updateGraphic (f : Graphic → Graphic) :
    x.Grows own b e n n (hostWork (updateGraphic x.node f)) :=
  grows_hostWork fun _ hHeld => held_ensureComponent hHeld trivial fun _ _ => trivial

theorem grows_updateComponent {α : Type} [ComponentType α] (id : NodeId) {f : α → α}
    (hf : ∀ y, (ComponentType.wrap y).Moderate (b + 4) b e →
      (ComponentType.wrap (f y)).Moderate (b + 4) b e) :
    x.Grows own b e n n (hostWork (Host.updateComponent id f)) :=
  grows_hostWork fun _ hHeld => hHeld.change id hf

theorem grows_updateGroup {f : LayoutGroup → LayoutGroup}
    (hf : ∀ g : LayoutGroup, g.Within e → (f g).Within e) :
    x.Grows own b e n n (hostWork (Host.updateComponent x.node f)) :=
  grows_updateComponent x.node hf

theorem grows_setBackground (address : String) : x.Grows own b e n n (x.setBackground address) := by
  have hGraphic : ∀ sprite, x.Grows own b e n n
      (hostWork (updateGraphic x.node fun g => { g with sprite := sprite })) := fun _ =>
    grows_updateGraphic _
  unfold setBackground
  split
  · exact grows_updateComponent (α := Graphic) x.node fun _ _ => trivial
  · refine (grows_findSprite address).bind le_rfl fun found => ?_
    cases found with
    | none => exact grows_warn _ _
    | some sprite =>
      simp only
      split
      · exact (grows_warn _ _).bind le_rfl fun _ => hGraphic _
      · exact (grows_pure ()).bind le_rfl fun _ => hGraphic _

theorem grows_setOpacity (alpha : Single) : x.Grows own b e n n (x.setOpacity alpha) := by
  refine grows_current_bind fun s _ => ?_
  split
  · exact grows_updateComponent (α := CanvasGroup) x.node fun _ _ => trivial
  · exact grows_hostWork fun _ hHeld => held_attach hHeld x.node trivial

theorem grows_setOverflow (value : Overflow) : x.Grows own b e n n (x.setOverflow value) := by
  refine grows_current_bind fun s _ => ?_
  simp only
  split
  · exact grows_hostWork fun _ hHeld => held_attach hHeld x.node trivial
  · exact grows_pure ()

theorem grows_moveAcross (hx : x.Modest b e) (hn : 1 + n ≤ topCount) (axis : Axis)
    (place : Placement) : x.Grows own b e n (1 + n) (x.moveAcross axis place) := by
  have hFraction : (crossFraction axis place).Fraction := by
    cases place
    · cases axis
      · exact fraction_zero
      · exact fraction_one
    · exact fraction_half
    · cases axis
      · exact fraction_one
      · exact fraction_zero
  refine grows_current_bind fun s hHeld => grows_updateRect (by omega) fun r hr => ?_
  exact (hr.pin hx.top hHeld.parent axis hFraction hn).moveTo axis
    (within_zero.mono (Nat.zero_le _))

variable (hx : x.Modest b e)
include hx

theorem grows_setSize {l : Scalar} (hl : l.Moderate b) (hn : n + 2 ≤ topCount) (axis : Axis) :
    x.Grows own b e n (n + 2) (x.setSize axis l) := by
  refine grows_current_bind fun s hHeld => ?_
  cases hLength : (x.surroundings s).length? l axis with
  | none =>
    have hContent := hHeld.contentExtent hx (by omega) axis
    exact grows_hostWork fun _ h => held_setExtent h hx axis hContent hn
  | some pixels =>
    have hPixels := (hHeld.length? hx hl hLength).mono (by omega : 1 ≤ 1 + n)
    simp only
    split
    · exact (grows_throw _).mono (by omega)
    · exact grows_hostWork fun _ h => held_setExtent h hx axis hPixels hn

theorem grows_setHint {l : Scalar} (hl : l.Moderate b) (axis : Axis)
    {f : Option Single → LayoutHints → LayoutHints}
    (hf : ∀ pixels, (∀ p, pixels = some p → p.Within e 1) → ∀ hints : LayoutHints,
      hints.Within e → (f pixels hints).Within e) :
    x.Grows own b e n n (x.setHint axis l f) := by
  refine grows_current_bind fun s hHeld => grows_updateHints (hf _ fun p hp => ?_)
  exact hHeld.length? hx hl hp

theorem grows_leastSize {l : Scalar} (hl : l.Moderate b) (axis : Axis) :
    x.Grows own b e n n (x.setHint axis l fun pixels h =>
      { h with least := h.least.set axis pixels }) :=
  grows_setHint hx hl axis fun _ hPixels _ hh =>
    ⟨hh.least.set axis hPixels, hh.preferred, hh.flexible⟩

theorem grows_preferredSize {l : Scalar} (hl : l.Moderate b) (axis : Axis) :
    x.Grows own b e n n (x.setHint axis l fun pixels h =>
      { h with preferred := h.preferred.set axis pixels }) :=
  grows_setHint hx hl axis fun _ hPixels _ hh =>
    ⟨hh.least, hh.preferred.set axis hPixels, hh.flexible⟩

theorem grows_setGrow {factor : Single} (hFactor : factor.Within b 1) :
    x.Grows own b e n n (x.setGrow factor) := by
  have hRoom := hx.room
  refine grows_current_bind fun s _ => grows_updateHints fun hints hh => ?_
  refine ⟨hh.least, hh.preferred, hh.flexible.set _ fun p hp => ?_⟩
  cases hp
  exact hFactor.scale_mono (by omega)

theorem grows_setInset {l : Scalar} (hl : l.Moderate b) (hn : 1 + n ≤ topCount)
    (side : Rect.Side) : x.Grows own b e n (1 + n) (x.setInset side l) := by
  refine grows_current_bind fun s hHeld => ?_
  cases hLength : (x.surroundings s).length? l side.axis with
  | none => exact (grows_pure ()).mono (by omega)
  | some d =>
    refine grows_updateRect (by omega) fun r hr => ?_
    exact hr.inset hx.top hHeld.parent side (hHeld.length? hx hl hLength) hn

omit hx in
theorem grows_setPosition (value : Position) : x.Grows own b e n n (x.setPosition value) := by
  cases value with
  | relative => exact grows_pure ()
  | absolute =>
    refine (grows_hostWork fun _ h => ?_).bind le_rfl fun _ =>
      grows_updateHints fun _ hh => ⟨hh.least, hh.preferred, hh.flexible⟩
    exact held_setRect h le_rfl Rect.stretched_within

/-- The sides of a box, where nothing stands for those that are not named. -/
theorem Held.named {s : Scene} (hHeld : x.Held own b e n s) {sides : Spacing (Option Scalar)}
    (hSides : EachSide sides (Scalar.Moderate · b)) :
    let p := x.sidePixels s sides
    (p.top.getD 0).Within e 1 ∧ (p.right.getD 0).Within e 1 ∧ (p.bottom.getD 0).Within e 1 ∧
      (p.left.getD 0).Within e 1 := by
  have hAll := hHeld.sidePixels hx hSides Spacing.within_zero
  exact ⟨hAll.top, hAll.right, hAll.bottom, hAll.left⟩

theorem grows_setMargin {sides : Spacing (Option Scalar)}
    (hSides : EachSide sides (Scalar.Moderate · b)) (hn : n + 2 ≤ topCount) :
    x.Grows own b e n (n + 2) (x.setMargin sides) := by
  refine grows_current_bind fun s hHeld => grows_updateRect (by omega) fun r hr => ?_
  obtain ⟨hTop, hRight, hBottom, hLeft⟩ := hHeld.named hx hSides
  exact hr.shift hx.top hTop hRight hBottom hLeft hn

theorem grows_setPadding {sides : Spacing (Option Scalar)}
    (hSides : EachSide sides (Scalar.Moderate · b)) (hn : 2 * n + 16 ≤ topCount) :
    x.Grows own b e n (n + 8) (x.setPadding sides) := by
  refine grows_current_bind fun s hHeld => ?_
  simp only
  split
  · refine (grows_updateGroup fun g hg => ?_).mono (by omega)
    exact ⟨hg.spacing, hHeld.sidePixels hx hSides hg.padding⟩
  · split
    · exact (grows_pure ()).mono (by omega)
    · obtain ⟨hTop, hRight, hBottom, hLeft⟩ := hHeld.named hx hSides
      exact grows_updateRect (by omega) fun r hr =>
        hr.shrink hx.top hTop hRight hBottom hLeft hn

theorem grows_setAlignSelf (hn : 1 + n ≤ topCount) (align : Align) :
    x.Grows own b e n (1 + n) (x.setAlignSelf align) := by
  have hStretched : ∀ axis, ∀ hints : LayoutHints, hints.Within e →
      (stretched axis hints).Within e := fun axis hints hh =>
    ⟨hh.least, hh.preferred, hh.flexible.set axis fun p hp => by
      cases hp
      exact upTo_one.within⟩
  refine grows_current_bind fun s hHeld => ?_
  simp only
  split
  · refine (grows_updateHints fun hints hh => ?_).mono (by omega)
    split
    · exact hStretched _ _ ⟨hh.least, hh.preferred, hh.flexible⟩
    · exact ⟨hh.least, hh.preferred, hh.flexible⟩
  · cases align with
    | auto => exact (grows_pure ()).mono (by omega)
    | start | center | finish => exact grows_moveAcross hx hn _ _
    | stretch =>
      refine (grows_updateHints (hStretched _)).bind (by omega) fun _ => ?_
      exact grows_updateRect (by omega) fun r hr => (hr.stretch _).mono (by omega)

omit hx in
theorem changedText_within {around : Surroundings} (hAround : around.Within b e)
    (hb : b + 4 ≤ topScale) {text changed : TextBlock} (hText : text.Within (b + 4) b)
    {change : TextChange} (hChange : (Change.text change).Moderate b)
    (h : changedText around text change = .ok changed) : changed.Within (b + 4) b := by
  cases change with
  | size l =>
    simp only [changedText] at h
    cases hSize : fontSizeOf? around l with
    | none => simp [hSize] at h
    | some p =>
      simp only [hSize, Except.ok.injEq] at h
      rw [← h]
      exact ⟨hAround.fontSizeOf? hChange.1 hChange.2 hb hSize, hText.length⟩
  | color _ | bold _ | shape _ | anchor _ | space _ =>
    cases h
    exact ⟨hText.fontSize, hText.length⟩

theorem grows_setText {change : TextChange} (hChange : (Change.text change).Moderate b) :
    x.Grows own b e n n (x.setText change) := by
  have hRoom := hx.room
  have hTop := hx.top
  refine grows_current_bind fun s hHeld => ?_
  have hText : ((textOf? s x.node).getD (.plain "" "" 0)).Within (b + 4) b := by
    cases hOld : textOf? s x.node with
    | none => exact ⟨within_zero.mono (Nat.zero_le 1), Nat.zero_le _⟩
    | some text => exact hHeld.textOf?_within hOld
  simp only
  cases hChanged : changedText (x.surroundings s)
      ((textOf? s x.node).getD (.plain "" "" 0)) change with
  | error f => exact grows_throw _
  | ok changed =>
    have hWithin := changedText_within (hHeld.surroundings hx) (by omega) hText hChange hChanged
    cases textNode? s x.node with
    | none => exact grows_pure ()
    | some id => exact grows_updateComponent id fun _ _ => hWithin

end Properties

/-! ## Declarations and cascades -/

section Declarations

variable (hx : x.Modest b e)
include hx

theorem grows_perform {change : Change} (hChange : change.Moderate b)
    (hn : 2 * n + 16 ≤ topCount) : x.Grows own b e n (n + 8) (x.perform change) := by
  unfold perform
  cases change with
  | size axis l => exact (grows_setSize hx hChange (by omega) axis).mono (by omega)
  | leastSize axis l => exact (grows_leastSize hx hChange axis).mono (by omega)
  | preferredSize axis l => exact (grows_preferredSize hx hChange axis).mono (by omega)
  | basis l =>
    exact (grows_current_bind fun _ _ => grows_preferredSize hx hChange _).mono (by omega)
  | grow factor => exact (grows_setGrow hx hChange).mono (by omega)
  | shrink _ => exact (grows_pure ()).mono (by omega)
  | inset side l => exact (grows_setInset hx hChange (by omega) side).mono (by omega)
  | position value => exact (grows_setPosition value).mono (by omega)
  | margin sides => exact (grows_setMargin hx hChange (by omega)).mono (by omega)
  | padding sides => exact grows_setPadding hx hChange hn
  | group =>
    refine (grows_updateGroup fun g hg => ?_).mono (by omega)
    obtain ⟨hSpacing, hPadding⟩ := configure_eq x.style g
    exact ⟨hSpacing.trans hg.spacing, hPadding ▸ hg.padding⟩
  | alignSelf value => exact (grows_setAlignSelf hx (by omega) value).mono (by omega)
  | display value =>
    exact (grows_hostWork fun _ h => held_setActive h _).mono (by omega)
  | graphicColor value => exact (grows_updateGraphic _).mono (by omega)
  | backgroundImage address => exact (grows_setBackground address).mono (by omega)
  | backgroundSize value => exact (grows_updateGraphic _).mono (by omega)
  | backgroundRepeat value => exact (grows_updateGraphic _).mono (by omega)
  | opacity value => exact (grows_setOpacity value).mono (by omega)
  | overflow value => exact (grows_setOverflow value).mono (by omega)
  | text change => exact (grows_setText hx hChange).mono (by omega)

/-- A declaration makes the rectangle larger by a few units at most. -/
theorem grows_apply {d : Declaration} (hd : d.Moderate b) (hn : 2 * n + 16 ≤ topCount) :
    x.Grows own b e n (n + 8) (x.apply d) := by
  unfold apply
  cases hNamed : Property.named? d.property with
  | none => exact fun st hHeld => hHeld.mono (by omega)
  | some p =>
    refine grows_orWarn ?_ _
    cases hRead : Change.read p d.value with
    | error f => exact (grows_throw _).mono (by omega)
    | ok change => exact grows_perform hx (hd.change p change hNamed hRead) hn

theorem grows_declarations {ds : List Declaration} (hds : ∀ d ∈ ds, d.Moderate b)
    (hn : 2 * (n + 8 * ds.length) + 16 ≤ topCount) :
    x.Grows own b e n (n + 8 * ds.length) (ds.forM x.apply) := by
  induction ds generalizing n with
  | nil => exact fun st hHeld => hHeld
  | cons d ds ih =>
    rw [List.forall_mem_cons] at hds
    rw [List.length_cons] at hn ⊢
    intro st hHeld
    rw [run_forM_cons]
    have hRest := ih hds.2 (n := n + 8) (by omega) _ (grows_apply hx hds.1 (by omega) st hHeld)
    exact hRest.mono (by omega)

omit hx in
theorem grows_tryHost {work : HostM Unit}
    (h : ∀ h : Host, x.Held own b e n h.scene → x.Held own b e m (work h).2.scene) :
    x.Grows own b e n m (x.tryHost work) := by
  intro st hHeld
  rw [scene_tryHost]
  exact h st.host hHeld

/-- The parent gets a group within bounds. -/
theorem held_ensureParentGroup {h : Host} (hHeld : x.Held own b e n h.scene) {u : NodeId}
    (hUp : x.parentNode = some u) (hParent : h.scene.parent? x.node = some u)
    (hStyle : ∀ style, x.parentStyle? = some style → ∀ d ∈ style.entries, d.Moderate b) :
    x.Held own b e n (x.ensureParentGroup h).2.scene := by
  have hRoom := hx.room
  have hSize : (h.scene.sizeOf u).Within e 1 := by
    have hWithin := hHeld.parent
    rwa [Scene.parentSize, hParent] at hWithin
  unfold ensureParentGroup
  rw [Host.run_current_bind, hUp]
  cases hAsked : x.parentStyle? with
  | none => exact hHeld
  | some style =>
    simp only
    split
    · have hAround : Surroundings.Within ⟨h.scene.sizeOf u, x.canvas, x.fontSize⟩ b e :=
        ⟨hSize, hx.canvas, hx.fontSize⟩
      exact held_attach hHeld u (groupOf_within hAround (by omega) hx.top (hStyle style hAsked))
    · exact hHeld

theorem held_markRoot {h : Host} (hHeld : x.Held own b e n h.scene) (hn : 1 ≤ n) :
    x.Held own b e n (x.markRoot h).2.scene := by
  have hRoom := hx.room
  have hCanvas : x.canvas.Within e n := fun axis =>
    ((hx.canvas axis).scale_mono (by omega)).mono hn
  unfold markRoot
  split
  · have hFirst := held_setRect hHeld le_rfl (Rect.centered_within hCanvas)
    rw [Host.run_bind]
    generalize Host.setRect x.node _ h = run at hFirst
    obtain ⟨_ | _, k⟩ := run
    · exact hFirst
    · simp only [Host.run_current_bind]
      split
      · exact held_attach hFirst x.node trivial
      · exact hFirst
  · exact hHeld

omit hx in
/-- The declared extent comes from a declaration of the size. -/
theorem exists_of_declaredExtent? {s : Scene} {name : String} {axis : Axis} {p : Single}
    (hName : (name, axis) ∈ sizeAttributes) (h : x.declaredExtent? s name axis = some p) :
    ∃ v l, ⟨name, v⟩ ∈ x.declarations ∧ Property.named? name = some (.size axis) ∧
      Change.read (.size axis) v = .ok (.size axis l) ∧
      (x.surroundings s).length? l axis = some p := by
  have hAll : ∀ p ∈ sizeAttributes, Property.named? p.1 = some (.size p.2) := by decide +kernel
  obtain ⟨hFound, -⟩ := Option.filter_eq_some_iff.mp h
  obtain ⟨l, hFound, hLength⟩ := Option.bind_eq_some_iff.mp hFound
  obtain ⟨v, hv, hRead⟩ := Option.bind_eq_some_iff.mp hFound
  refine ⟨v, l, mem_declarations_of_declaredSize? hName hv, hAll (name, axis) hName, ?_, hLength⟩
  rw [Change.read]
  cases hScalar : readScalar v with
  | error f => simp [hScalar, Except.toOption] at hRead
  | ok length =>
    rw [hScalar] at hRead
    cases hRead
    rfl

theorem held_reconcile {h : Host} (hHeld : x.Held own b e n h.scene)
    (hDeclared : ∀ d ∈ x.declarations, d.Moderate b) {name : String} {axis : Axis}
    (hName : (name, axis) ∈ sizeAttributes) (hn : n + 2 ≤ topCount) :
    x.Held own b e (n + 2) (x.reconcile name axis h).2.scene := by
  unfold reconcile
  rw [Host.run_current_bind]
  cases hExpected : x.declaredExtent? h.scene name axis with
  | none => exact hHeld.mono (by omega)
  | some expected =>
    simp only
    split
    · obtain ⟨v, l, hMem, hNamed, hRead, hLength⟩ := exists_of_declaredExtent? hName hExpected
      have hl : l.Moderate b := (hDeclared _ hMem).change _ _ hNamed hRead
      exact held_setExtent hHeld hx axis ((hHeld.length? hx hl hLength).mono (by omega)) hn
    · exact hHeld.mono (by omega)

theorem grows_reconcileAll (hDeclared : ∀ d ∈ x.declarations, d.Moderate b)
    (hn : n + 4 ≤ topCount) : x.Grows own b e n (n + 4)
      (sizeAttributes.forM fun (name, axis) => x.tryHost (x.reconcile name axis)) := by
  have hEach : ∀ p ∈ sizeAttributes, ∀ m, m + 2 ≤ topCount →
      x.Grows own b e m (m + 2) (x.tryHost (x.reconcile p.1 p.2)) := fun p hp m hm =>
    grows_tryHost fun _ h => held_reconcile hx h hDeclared hp hm
  unfold sizeAttributes at hEach ⊢
  rw [List.forall_mem_cons, List.forall_mem_singleton] at hEach
  intro st hHeld
  rw [run_forM_cons, run_forM_cons]
  exact hEach.2 _ (by omega) _ (hEach.1 n (by omega) st hHeld)

/-- After a cascade the rectangle is at most as many units large as there are declarations, times a
constant. -/
theorem held_cascade {st : Stage} (hHeld : x.Held own b e 1 st.host.scene) {u : NodeId}
    (hUp : x.parentNode = some u) (hParent : st.host.scene.parent? x.node = some u)
    (hStyle : ∀ style, x.parentStyle? = some style → ∀ d ∈ style.entries, d.Moderate b)
    (hDeclared : ∀ d ∈ x.declarations, d.Moderate b)
    (hCount : 16 * x.declarations.length + 18 ≤ topCount) :
    x.Held own b e (8 * x.declarations.length + 5) (x.cascade st).2.host.scene := by
  have hGiven : x.Held own b e 1 (x.tryHost x.ensureParentGroup st).2.host.scene := by
    rw [scene_tryHost]
    exact held_ensureParentGroup hx hHeld hUp hParent hStyle
  have hMarked := grows_tryHost (fun _ h => held_markRoot hx h le_rfl) _ hGiven
  have hStyled := grows_declarations hx hDeclared (by omega) _ hMarked
  have hChecked := grows_reconcileAll hx hDeclared (n := 1 + 8 * x.declarations.length)
    (by omega) _ hStyled
  rw [run_cascade, run_mainCascade]
  exact hChecked.mono (by omega)

end Declarations

end AnchoredUi.Styling.Subject
