import AnchoredUi.Proofs.Styling.Complaint
import AnchoredUi.Proofs.Styling.Extent
import AnchoredUi.Proofs.Styling.Outfit

/-!
# Margins and paddings add up

A margin moves the rectangle of a node from where it is, and a padding makes it smaller than it is.
So what is declared in one tier is not replaced by what a stronger tier declares of the same
property: both are done, the weaker one first. This is said of nodes without a layout group, whose
style asks for none, and for which nothing is declared that depends on more than lengths: neither an
extent, which may follow from the content, nor a place across the axis of the parent.

* `reshaped`, `reshapedAll`: what one declaration does to a rectangle, and what several ones do.
* `rect?_apply`, `shapely_declarations`: one declaration, and any number of them.
* `rect?_cascade`: the rectangle after a whole cascade.
* `rect?_cascade_weaker`: a margin of a rule that is not replaced by that of the `style` attribute.
-/

namespace AnchoredUi.Styling

open Number Plane SceneGraph Style Markup Sprite

/-! ## Rectangles -/

/-- The change sets the rectangle by more than lengths: an extent may follow from the content, and
a place across the axis of the parent depends on how the parent lays out its children. -/
def Change.looksAround : Change → Bool
  | .size _ _ => true
  | .alignSelf _ => true
  | _ => false

/-- What the declaration does to a rectangle depends on lengths only; a declaration that is rejected
does nothing. -/
def Plain (d : Declaration) : Prop :=
  ∀ p change, Property.named? d.property = some p → Change.read p d.value = .ok change →
    change.looksAround = false

/-- The pixels of the sides of a box; a side that is not named is nothing. -/
def Surroundings.sides (around : Surroundings) (sides : Spacing (Option Scalar)) :
    Spacing Single where
  top := (sides.top.map (around.pixels · .vertical)).getD 0
  right := (sides.right.map (around.pixels · .horizontal)).getD 0
  bottom := (sides.bottom.map (around.pixels · .vertical)).getD 0
  left := (sides.left.map (around.pixels · .horizontal)).getD 0

/-- The rectangle of a node without a layout group after a change. -/
def Change.reshaped (around : Surroundings) (r : Rect Single) : Change → Rect Single
  | .margin sides =>
    let p := around.sides sides
    r.shift p.top p.right p.bottom p.left
  | .padding sides =>
    let p := around.sides sides
    r.shrink p.top p.right p.bottom p.left
  | .inset side distance =>
    match around.length? distance side.axis with
    | some d => r.inset side d around.parent
    | none => r
  | .position .absolute => .stretched
  | _ => r

/-- The rectangle of a node without a layout group after a declaration; one that is rejected does
nothing. -/
def reshaped (around : Surroundings) (r : Rect Single) (d : Declaration) : Rect Single :=
  match Property.named? d.property with
  | none => r
  | some p =>
    match Change.read p d.value with
    | .ok change => change.reshaped around r
    | .error _ => r

/-- The rectangle after declarations that are applied one after the other, from a size of the font
on. -/
def reshapedAll (around : Surroundings) :
    Option Single → Rect Single → List Declaration → Rect Single
  | _, r, [] => r
  | font, r, d :: ds =>
    reshapedAll around (fontAfter (around.withFont font) font d)
      (reshaped (around.withFont font) r d) ds

namespace Subject

variable {x : Subject} {s t : Scene} {around : Surroundings} {font : Option Single}
  {r : Rect Single}

/-! ## Work that leaves the rectangle alone -/

def SameRect (x : Subject) (s t : Scene) : Prop := t.rect? x.node = s.rect? x.node

/-- Work on a stage that leaves the rectangle of the node alone. -/
def Unmoved (x : Subject) {β : Type} (m : Stage → β × Stage) : Prop :=
  ∀ st, x.SameRect st.host.scene (m st).2.host.scene

section Unmoved

variable {ε β γ : Type}

theorem unmoved_pure (b : β) : x.Unmoved (pure b : StageM ε β) := fun _ => rfl

theorem unmoved_throw (f : ε) : x.Unmoved (throw f : StageM ε β) := fun _ => rfl

theorem unmoved_warn (label : Option String) (cause : WarningCause) :
    x.Unmoved (warn label cause : StageM ε Unit) := fun _ => rfl

theorem unmoved_current : x.Unmoved (currentScene : StageM ε Scene) := fun _ => rfl

theorem unmoved_findSprite (address : String) :
    x.Unmoved (findSprite address : StageM ε (Option Sprite)) := by
  intro st
  rw [run_findSprite]
  rfl

theorem Unmoved.bind {m : StageM ε β} {next : β → StageM ε γ} (hm : x.Unmoved m)
    (hNext : ∀ b, x.Unmoved (next b)) : x.Unmoved (m >>= next) :=
  follows_bind (R := fun h k => x.SameRect h.scene k.scene)
    (fun _ _ _ hFirst hSecond => hSecond.trans hFirst) hm hNext

theorem unmoved_hostWork {m : HostM Unit} (hm : ∀ h, x.SameRect h.scene (m h).2.scene) :
    x.Unmoved (hostWork m) := fun st => hm st.host

theorem unmoved_updateComponent {α : Type} [ComponentType α] (id : NodeId) (f : α → α) :
    x.Unmoved (hostWork (Host.updateComponent id f)) :=
  unmoved_hostWork fun h => Scene.rect?_modifyComponents h.scene id x.node _

theorem sameRect_attach (id : NodeId) (c : Component NodeId) (h : Host) :
    x.SameRect h.scene (Host.attach id c h).2.scene := by
  unfold SameRect
  rcases Host.scene_attach id c h with hSame | hMore
  · rw [hSame]
  · rw [hMore, Scene.rect?_modifyComponents]

theorem unmoved_ensureComponent {α : Type} [ComponentType α] (new : α) (f : α → α) :
    x.Unmoved (hostWork (Host.ensureComponent x.node new f)) := by
  refine unmoved_hostWork fun h => ?_
  unfold SameRect
  obtain ⟨s, hMid, hEnd⟩ := Host.scene_ensureComponent x.node new f h
  have hFirst : s.rect? x.node = h.scene.rect? x.node := by
    rcases hMid with rfl | ⟨-, rfl⟩
    · rfl
    · exact Scene.rect?_modifyComponents ..
  rcases hEnd with hSame | hChanged
  · rw [hSame, hFirst]
  · rw [hChanged, Scene.modifyComponent, Scene.rect?_modifyComponents, hFirst]

theorem unmoved_updateHints (f : LayoutHints → LayoutHints) :
    x.Unmoved (hostWork (updateHints x.node f)) := unmoved_ensureComponent _ f

theorem unmoved_updateGraphic (f : Graphic → Graphic) :
    x.Unmoved (hostWork (updateGraphic x.node f)) := unmoved_ensureComponent _ f

theorem unmoved_setActive (flag : Bool) :
    x.Unmoved (hostWork (Host.setActive x.node flag)) := by
  refine unmoved_hostWork fun h => ?_
  unfold SameRect
  rcases Host.scene_setActive x.node flag h with hSame | hSet
  · rw [hSame]
  · rw [hSet]
    exact Scene.rect?_modify (f := fun n => { n with active := flag }) (fun _ => rfl) _ _ _

theorem unmoved_setHint (axis : Axis) (value : Scalar)
    (f : Option Single → LayoutHints → LayoutHints) : x.Unmoved (x.setHint axis value f) :=
  unmoved_current.bind fun _ => unmoved_updateHints _

theorem unmoved_setBackground (address : String) : x.Unmoved (x.setBackground address) := by
  unfold setBackground
  split
  · exact unmoved_updateComponent _ _
  · refine (unmoved_findSprite address).bind fun found => ?_
    cases found with
    | none => exact unmoved_warn _ _
    | some sprite =>
      simp only
      split
      · exact (unmoved_warn _ _).bind fun _ => unmoved_updateGraphic _
      · exact (unmoved_pure ()).bind fun _ => unmoved_updateGraphic _

theorem unmoved_setOpacity (alpha : Single) : x.Unmoved (x.setOpacity alpha) := by
  refine unmoved_current.bind fun s => ?_
  split
  · exact unmoved_updateComponent _ _
  · exact unmoved_hostWork fun h => sameRect_attach _ _ h

theorem unmoved_setOverflow (value : Overflow) : x.Unmoved (x.setOverflow value) := by
  refine unmoved_current.bind fun s => ?_
  simp only
  split
  · exact unmoved_hostWork fun h => sameRect_attach _ _ h
  · exact unmoved_pure ()

theorem unmoved_setText (change : TextChange) : x.Unmoved (x.setText change) := by
  refine unmoved_current.bind fun s => ?_
  simp only
  cases changedText (x.surroundings s) ((textOf? s x.node).getD (.plain "" "" 0)) change with
  | error f => exact unmoved_throw _
  | ok changed =>
    cases textNode? s x.node with
    | none => exact unmoved_pure ()
    | some id => exact unmoved_updateComponent _ _

end Unmoved

/-! ## Single declarations -/

section Declarations

variable {st : Stage}

theorem rect?_updateRect (hw : st.host.Willing) (hRect : st.host.scene.rect? x.node = some r)
    (f : Rect Single → Rect Single) :
    (hostWork (Host.updateRect x.node f) st).2.host.scene.rect? x.node = some (f r) := by
  obtain ⟨k, hRun, hScene, -⟩ := Host.does_updateRect hw hRect f
  rw [hostWork, run_onHost hRun]
  exact (congrArg (Scene.rect? · x.node) hScene).trans
    (rect?_setRect (Scene.contains_of_rect? hRect) _)

theorem rect?_setMargin (hw : st.host.Willing) (hRect : st.host.scene.rect? x.node = some r)
    (sides : Spacing (Option Scalar)) :
    (x.setMargin sides st).2.host.scene.rect? x.node =
      some ((Change.margin sides).reshaped (x.surroundings st.host.scene) r) := by
  unfold setMargin
  rw [run_currentScene_bind]
  exact rect?_updateRect hw hRect _

theorem rect?_setPadding (hw : st.host.Willing) (hRect : st.host.scene.rect? x.node = some r)
    (hGroup : st.host.scene.component? LayoutGroup x.node = none)
    (hStyle : asksForGroup x.style = false) (sides : Spacing (Option Scalar)) :
    (x.setPadding sides st).2.host.scene.rect? x.node =
      some ((Change.padding sides).reshaped (x.surroundings st.host.scene) r) := by
  unfold setPadding
  rw [run_currentScene_bind]
  simp only [hGroup, hStyle, Option.isSome_none, Bool.false_eq_true, if_false]
  exact rect?_updateRect hw hRect _

theorem rect?_setInset (hw : st.host.Willing) (hRect : st.host.scene.rect? x.node = some r)
    (side : Rect.Side) (distance : Scalar) :
    (x.setInset side distance st).2.host.scene.rect? x.node =
      some ((Change.inset side distance).reshaped (x.surroundings st.host.scene) r) := by
  unfold setInset
  rw [run_currentScene_bind]
  simp only [Change.reshaped]
  cases (x.surroundings st.host.scene).length? distance side.axis with
  | none => exact hRect
  | some d => exact rect?_updateRect hw hRect _

theorem rect?_setPosition (hw : st.host.Willing) (hRect : st.host.scene.rect? x.node = some r)
    (value : Position) :
    (x.setPosition value st).2.host.scene.rect? x.node =
      some ((Change.position value).reshaped (x.surroundings st.host.scene) r) := by
  cases value with
  | relative => exact hRect
  | absolute =>
    have hLive := Scene.contains_of_rect? hRect
    obtain ⟨k, hRun, hScene, -⟩ := Host.does_setRect hw hLive .stretched
    have hFirst : hostWork (Host.setRect x.node .stretched) st =
        (.ok (), { st with host := k }) := run_onHost hRun
    unfold setPosition
    simp only
    rw [run_bind_ok hFirst]
    refine (unmoved_updateHints _ { st with host := k }).trans ?_
    exact (congrArg (Scene.rect? · x.node) hScene).trans (rect?_setRect hLive _)

/-- A change that does not look around reshapes the rectangle. -/
theorem rect?_perform (hw : st.host.Willing) (hRect : st.host.scene.rect? x.node = some r)
    (hGroup : st.host.scene.component? LayoutGroup x.node = none)
    (hStyle : asksForGroup x.style = false) {change : Change}
    (hPlain : change.looksAround = false) :
    (x.perform change st).2.host.scene.rect? x.node =
      some (change.reshaped (x.surroundings st.host.scene) r) := by
  have hUnmoved : ∀ {m : StageM ApplyFault Unit}, x.Unmoved m →
      (m st).2.host.scene.rect? x.node = some r := fun hm => (hm st).trans hRect
  unfold perform
  cases change with
  | size _ _ | alignSelf _ => cases hPlain
  | margin sides => exact rect?_setMargin hw hRect sides
  | padding sides => exact rect?_setPadding hw hRect hGroup hStyle sides
  | inset side distance => exact rect?_setInset hw hRect side distance
  | position value => exact rect?_setPosition hw hRect value
  | leastSize axis value => exact hUnmoved (unmoved_setHint axis value _)
  | preferredSize axis value => exact hUnmoved (unmoved_setHint axis value _)
  | basis value => exact hUnmoved (unmoved_current.bind fun _ => unmoved_setHint _ value _)
  | grow factor => exact hUnmoved (unmoved_current.bind fun _ => unmoved_updateHints _)
  | shrink _ => exact hUnmoved (unmoved_pure ())
  | group => exact hUnmoved (unmoved_updateComponent _ _)
  | display value => exact hUnmoved (unmoved_setActive _)
  | graphicColor value => exact hUnmoved (unmoved_updateGraphic _)
  | backgroundImage address => exact hUnmoved (unmoved_setBackground address)
  | backgroundSize value => exact hUnmoved (unmoved_updateGraphic _)
  | backgroundRepeat value => exact hUnmoved (unmoved_updateGraphic _)
  | opacity value => exact hUnmoved (unmoved_setOpacity value)
  | overflow value => exact hUnmoved (unmoved_setOverflow value)
  | text change => exact hUnmoved (unmoved_setText change)

theorem rect?_apply (hw : st.host.Willing) (hRect : st.host.scene.rect? x.node = some r)
    (hGroup : st.host.scene.component? LayoutGroup x.node = none)
    (hStyle : asksForGroup x.style = false) {d : Declaration} (hPlain : Plain d) :
    (x.apply d st).2.host.scene.rect? x.node =
      some (reshaped (x.surroundings st.host.scene) r d) := by
  unfold apply reshaped
  cases hNamed : Property.named? d.property with
  | none => exact hRect
  | some p =>
    simp only
    cases hRead : Change.read p d.value with
    | error f => exact hRect
    | ok change =>
      have hDone := rect?_perform hw hRect hGroup hStyle (hPlain p change hNamed hRead)
      unfold orWarn
      rcases hRun : x.perform change st with ⟨_ | _, st'⟩ <;> simpa [hRun, raise] using hDone

end Declarations

/-! ## Any number of declarations -/

/-- On a host that refuses nothing, the node has a given rectangle and no layout group, and its
lengths refer to given surroundings and to the size of a given font. -/
structure Shapely (x : Subject) (around : Surroundings) (font : Option Single) (r : Rect Single)
    (h : Host) : Prop where
  willing : h.Willing
  forest : h.scene.Forest
  rect_eq : h.scene.rect? x.node = some r
  no_group : h.scene.component? LayoutGroup x.node = none
  outside_eq : x.outside h.scene = around
  font_eq : x.font? h.scene = font

theorem Shapely.live {h : Host} (hShape : x.Shapely around font r h) :
    h.scene.contains x.node = true := Scene.contains_of_rect? hShape.rect_eq

theorem component?_of_touches (h : Relation.ReflTransGen x.Touch s t)
    (hUp : x.parentNode ≠ some x.node) (hNone : s.component? LayoutGroup x.node = none) :
    t.component? LayoutGroup x.node = none :=
  Scene.component?_eq_none_iff.mpr fun hGroup =>
    Scene.component?_eq_none_iff.mp hNone ((fits_of_touches h hUp).group hGroup)

theorem Shapely.handled {h k : Host} {r' : Rect Single} {font' : Option Single}
    (hShape : x.Shapely around font r h) (hHandled : x.Handled h k)
    (hUp : x.parentNode ≠ some x.node) (hRect : k.scene.rect? x.node = some r')
    (hFont : x.font? k.scene = font') : x.Shapely around font' r' k where
  willing := hHandled.owner.willing hShape.willing
  forest := forest_of_touches hHandled.touches hShape.forest
  rect_eq := hRect
  no_group := component?_of_touches hHandled.touches hUp hShape.no_group
  outside_eq := (outside_of_touches hHandled.touches hShape.forest).trans hShape.outside_eq
  font_eq := hFont

theorem shapely_declarations {st : Stage} (hShape : x.Shapely around font r st.host)
    (hUp : x.parentNode ≠ some x.node) (hStyle : asksForGroup x.style = false)
    {ds : List Declaration} (hPlain : ∀ d ∈ ds, Plain d) :
    (ds.forM x.apply st).2.host.scene.rect? x.node = some (reshapedAll around font r ds) := by
  induction ds generalizing st font r with
  | nil => exact hShape.rect_eq
  | cons d ds ih =>
    -- only the font may have been changed by the declarations before
    have hAround : x.surroundings st.host.scene = around.withFont font := by
      rw [surroundings_eq, hShape.outside_eq, hShape.font_eq]
    have hRect := rect?_apply hShape.willing hShape.rect_eq hShape.no_group hStyle
      (hPlain d List.mem_cons_self)
    obtain ⟨-, hFont⟩ := tells_apply hShape.willing hShape.live d
    rw [hAround] at hRect hFont
    rw [hShape.font_eq] at hFont
    have hNext := hShape.handled (keeps_apply d st) hUp hRect hFont
    rw [run_forM_cons, reshapedAll]
    exact ih hNext fun d' hd' => hPlain d' (List.mem_cons_of_mem d hd')

/-! ## Before and after the declarations -/

theorem shapely_ensureParentGroup {st : Stage} (hShape : x.Shapely around font r st.host)
    (hUp : x.parentNode ≠ some x.node) :
    x.Shapely around font r (x.tryHost x.ensureParentGroup st).2.host := by
  refine hShape.handled (keeps_tryHost handled_ensureParentGroup st) hUp ?_ ?_
  all_goals
    rw [scene_tryHost]
    rcases (x.ensureParentGroup_cases st.host).2 with hSame | ⟨p, style, around, -, -, -, -, hGiven⟩
  · rw [hSame, hShape.rect_eq]
  · rw [hGiven, Scene.rect?_modifyComponents, hShape.rect_eq]
  · rw [hSame, hShape.font_eq]
  · have hText := sameTexts_attach st.host.scene p (c := .layoutGroup (groupOf style around)) nofun
    rw [hGiven, font?_eq hText, hShape.font_eq]

theorem shapely_markRoot {st : Stage} (hShape : x.Shapely around font r st.host)
    (hUp : x.parentNode ≠ some x.node) :
    x.Shapely around font (if x.isRoot then .centered x.canvas.width x.canvas.height else r)
      (x.tryHost x.markRoot st).2.host := by
  obtain ⟨-, hTexts⟩ := tells_tryHost (silent_markRoot (x := x)) hShape.willing hShape.live
  refine hShape.handled (keeps_tryHost handled_markRoot st) hUp ?_
    ((font?_eq hTexts).trans hShape.font_eq)
  cases hRoot : x.isRoot with
  | false =>
    have hRun : x.markRoot st.host = (.ok (), st.host) := by
      unfold markRoot
      rw [hRoot]
      rfl
    rw [scene_tryHost, hRun]
    exact hShape.rect_eq
  | true =>
    obtain ⟨t, hDoes, -, hScene⟩ := does_markRoot hShape.willing hShape.live hRoot
    rw [(host_tryHost (x := x) hDoes).1, if_pos rfl]
    rcases hScene with rfl | rfl
    · exact rect?_setRect hShape.live _
    · rw [Scene.rect?_modifyComponents]
      exact rect?_setRect hShape.live _

theorem mem_declarations_of_declaredSize? {name v : String} {axis : Axis}
    (hName : (name, axis) ∈ sizeAttributes) (h : x.declaredSize? name = some v) :
    ⟨name, v⟩ ∈ x.declarations := by
  have hFound : ∀ {ds : Declarations}, ds.get? name = some v → ⟨name, v⟩ ∈ ds.entries := by
    intro ds hGet
    obtain ⟨d, hd, rfl⟩ := Option.map_eq_some_iff.mp hGet
    obtain rfl : d.property = name := by simpa using List.find?_some hd
    exact List.mem_of_find?_eq_some hd
  unfold declarations
  rcases strongest_iff.mpr h with hAttribute | ⟨-, hInline⟩ | ⟨-, -, hMatching, hRule, -⟩
  · refine List.mem_append_right _ (List.mem_filterMap.mpr ⟨(name, axis), hName, ?_⟩)
    simp only [hAttribute, Option.map_some]
  · exact List.mem_append_left _ (List.mem_append_right _ (hFound hInline))
  · refine List.mem_append_left _ (List.mem_append_left _ ?_)
    rw [hMatching, List.flatMap_append, List.flatMap_cons]
    exact List.mem_append_right _ (List.mem_append_left _ (hFound hRule))

/-- Where no size is declared that can be read, there is none to check. -/
theorem reconcile_of_plain (hPlain : ∀ d ∈ x.declarations, Plain d) {name : String} {axis : Axis}
    (hName : (name, axis) ∈ sizeAttributes) (h : Host) : x.reconcile name axis h = (.ok (), h) := by
  have hAll : ∀ p ∈ sizeAttributes, Property.named? p.1 = some (.size p.2) := by decide +kernel
  have hNamed : Property.named? name = some (.size axis) := hAll (name, axis) hName
  have hNone : (x.declaredSize? name).bind (fun v => (readScalar v).toOption) = none := by
    rw [Option.bind_eq_none_iff]
    intro v hv
    cases hRead : readScalar v with
    | error f => rfl
    | ok length =>
      -- it would be a declaration that looks around
      have hSize : Change.read (.size axis) v = .ok (.size axis length) := by
        rw [Change.read, hRead]
        rfl
      have hDeclared := mem_declarations_of_declaredSize? hName hv
      cases hPlain ⟨name, v⟩ hDeclared (.size axis) (.size axis length) hNamed hSize
  unfold reconcile declaredExtent?
  rw [Host.run_current_bind, hNone]
  rfl

theorem rect?_reconcileAll (hPlain : ∀ d ∈ x.declarations, Plain d)
    {sizes : List (String × Axis)} (hSizes : ∀ p ∈ sizes, p ∈ sizeAttributes) (st : Stage) :
    (sizes.forM (fun (name, axis) => x.tryHost (x.reconcile name axis)) st).2.host.scene.rect?
      x.node = st.host.scene.rect? x.node := by
  induction sizes generalizing st with
  | nil => rfl
  | cons p sizes ih =>
    rw [run_forM_cons, ih fun q hq => hSizes q (List.mem_cons_of_mem p hq)]
    simp only [scene_tryHost, reconcile_of_plain hPlain (hSizes p List.mem_cons_self)]

/-- The rectangle after a cascade is what all declarations make of it, one after the other: none of
them replaces a weaker one of the same property. -/
theorem rect?_cascade (hs : s.Reachable) (hRect : s.rect? x.node = some r)
    (hUp : x.parentNode ≠ some x.node) (hGroup : s.component? LayoutGroup x.node = none)
    (hStyle : asksForGroup x.style = false) (hPlain : ∀ d ∈ x.declarations, Plain d) (f : Finder)
    (ws : List Warning) :
    (x.cascade ⟨Host.ofScene s, f, ws⟩).2.host.scene.rect? x.node =
      some (reshapedAll (x.outside s) (x.font? s)
        (if x.isRoot then .centered x.canvas.width x.canvas.height else r) x.declarations) := by
  have hStart : x.Shapely (x.outside s) (x.font? s) r (Stage.mk (Host.ofScene s) f ws).host :=
    ⟨Host.willing_ofScene s, hs.forest, hRect, hGroup, rfl, rfl⟩
  rw [run_cascade, run_mainCascade, rect?_reconcileAll hPlain fun _ hp => hp]
  have hMarked := shapely_markRoot (shapely_ensureParentGroup hStart hUp) hUp
  exact shapely_declarations hMarked hUp hStyle hPlain

/-- A label on a canvas with a margin of 10 pixels by a rule, and of 5 pixels by its `style`
attribute. -/
theorem rect?_cascade_weaker :
    let s := Scene.withCanvas 800 600
    let label : Element :=
      .mk "Label" none (Catalog.ofList [⟨"style", "margin-left: 5px"⟩]) [] none
    let rule : Rule := ⟨"Label", Catalog.ofList [⟨"margin-left", "10px"⟩]⟩
    let x : Subject := ⟨label, Scene.empty.nodes.nextKey, none, none, ⟨800, 600⟩,
      Catalog.ofList [rule], 14, false⟩
    let r : Rect Single := .centered 800 600
    let t := (x.cascade ⟨Host.ofScene s, .ofSource Asset.Shelf.empty.source, []⟩).2.host.scene
    s.Reachable ∧ s.rect? x.node = some r ∧ (∀ d ∈ x.declarations, Plain d) ∧
      t.rect? x.node = some ((r.shift 0 0 0 10).shift 0 0 0 5) := by
  intro s label rule x r t
  have hs : s.Reachable := ⟨[], Or.inr ⟨800, 600, rfl⟩⟩
  have hRect : s.rect? x.node = some r := rfl
  have hStyle : asksForGroup x.style = false := by decide +kernel
  have hDeclarations : x.declarations = [⟨"margin-left", "10px"⟩, ⟨"margin-left", "5px"⟩] := by
    decide +kernel
  have hNamed : Property.named? "margin-left" = some (.margin (some .left)) := by decide +kernel
  have hPlain : ∀ d ∈ x.declarations, Plain d := by
    intro d hd p change hProperty hRead
    have hMargin : d.property = "margin-left" := by
      rw [hDeclarations] at hd
      revert d
      simp
    rw [hMargin, hNamed] at hProperty
    obtain rfl := Option.some.inj hProperty
    obtain ⟨sides, -, rfl⟩ := exists_of_map_eq_ok hRead
    rfl
  refine ⟨hs, hRect, hPlain, ?_⟩
  have hAfter := rect?_cascade hs hRect nofun rfl hStyle hPlain
    (.ofSource Asset.Shelf.empty.source) []
  rw [hDeclarations] at hAfter
  refine hAfter.trans (congrArg some ?_)
  decide +kernel

/-- A declaration is not replaced by a stronger one of the same property. The label has a margin by
its `style` attribute, and another one by a rule that applies or not. -/
theorem not_replaced :
    let s := Scene.withCanvas 800 600
    let label : Element :=
      .mk "Label" none (Catalog.ofList [⟨"style", "margin-left: 5px"⟩]) [] none
    let styled (weaker : List Declaration) : Subject := ⟨label, Scene.empty.nodes.nextKey, none,
      none, ⟨800, 600⟩, Catalog.ofList [⟨"Label", ⟨weaker⟩⟩], 14, false⟩
    let rect? (weaker : List Declaration) := ((styled weaker).cascade
      ⟨Host.ofScene s, .ofSource Asset.Shelf.empty.source, []⟩).2.host.scene.rect?
        (styled weaker).node
    let d : Declaration := ⟨"margin-left", "10px"⟩
    s.Reachable ∧ s.component? LayoutGroup (styled [d]).node = none ∧
      asksForGroup (styled [d]).style = false ∧
      (styled [d]).declarations = [d, ⟨"margin-left", "5px"⟩] ∧
      (styled []).declarations = [⟨"margin-left", "5px"⟩] ∧
      (Change.read (.margin (some .left)) "10px").isOk = true ∧
      (Change.read (.margin (some .left)) "5px").isOk = true ∧
      rect? [d] ≠ rect? [] := by
  intro s label styled rect? d
  have hs : s.Reachable := ⟨[], Or.inr ⟨800, 600, rfl⟩⟩
  exact ⟨hs, rfl, by decide +kernel, by decide +kernel, by decide +kernel, by decide +kernel,
    by decide +kernel, by decide +kernel⟩

end Subject

end AnchoredUi.Styling
