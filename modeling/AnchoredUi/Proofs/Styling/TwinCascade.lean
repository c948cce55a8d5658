import AnchoredUi.Proofs.Styling.TwinStage

/-!
# Cascades of twin subjects

Each change of a subject is made alike for its twin, and a fault of one is the fault of the other.
A cascade follows the declarations of both subjects. They need not be the same: a declaration that
is rejected may be missing on the second side, and then its warning is an extra one.

* `alike_perform`: a change is made alike on both sides.
* `twins_cascade`: cascades leave the stages twins, with an extra warning for each declaration that
  is rejected on the first side and missing on the second.
-/

namespace AnchoredUi.Styling.Subject

open Number Plane SceneGraph Style Sprite

variable {G : Grounds} {R : NodeId → NodeId → Prop} {answers : String → Option Sprite}
  {x y : Subject}

section Changes

variable (hG : G.Level) (hxy : Twin G R x y)
include hG hxy

/-! ## Single changes -/

theorem alike_updateRect (f : Rect Single → Rect Single) :
    AlikeWork G R answers (fun _ _ => True) (hostWork (Host.updateRect x.node f))
      (hostWork (Host.updateRect y.node f)) :=
  alike_onHost (Host.twinWork_updateRect hG hxy.node f) _

theorem alike_updateHints (f : LayoutHints → LayoutHints) :
    AlikeWork G R answers (fun _ _ => True) (hostWork (updateHints x.node f))
      (hostWork (updateHints y.node f)) :=
  alike_onHost (Host.twinWork_ensureComponent hG hxy.node _ f) _

theorem alike_updateGraphic (f : Graphic → Graphic) :
    AlikeWork G R answers (fun _ _ => True) (hostWork (updateGraphic x.node f))
      (hostWork (updateGraphic y.node f)) :=
  alike_onHost (Host.twinWork_ensureComponent hG hxy.node _ f) _

theorem alike_updateComponent {α : Type} [ComponentType α] [Unlinked α] (f : α → α) :
    AlikeWork G R answers (fun _ _ => True) (hostWork (Host.updateComponent x.node f))
      (hostWork (Host.updateComponent y.node f)) :=
  alike_onHost (Host.twinWork_updateComponent hG hxy.node f) _

theorem twinWork_setExtent (axis : Axis) (extent : Single) :
    Host.TwinWork G R (setExtent x.node axis extent) (setExtent y.node axis extent) := by
  refine Host.twinWork_current fun s t h => ?_
  simp only [h.parentSize_eq hG hxy.node]
  exact Host.twinWork_updateRect hG hxy.node _

theorem alike_setSize (axis : Axis) (value : Scalar) :
    AlikeWork G R answers (fun _ _ => True) (x.setSize axis value) (y.setSize axis value) := by
  refine alike_current fun s t h => ?_
  rw [hxy.surroundings_eq h hG, contentExtent_eq h hxy.node hG]
  cases (y.surroundings t).length? value axis with
  | none => exact alike_onHost (twinWork_setExtent hG hxy _ _) _
  | some pixels =>
    simp only
    split
    · exact alike_throw _ _
    · exact alike_onHost (twinWork_setExtent hG hxy _ _) _

theorem alike_setHint (axis : Axis) (value : Scalar)
    (f : Option Single → LayoutHints → LayoutHints) :
    AlikeWork G R answers (fun _ _ => True) (x.setHint axis value f) (y.setHint axis value f) := by
  refine alike_current fun s t h => ?_
  rw [hxy.surroundings_eq h hG]
  exact alike_updateHints hG hxy _

theorem alike_setBasis (value : Scalar) :
    AlikeWork G R answers (fun _ _ => True) (x.setBasis value) (y.setBasis value) := by
  refine alike_current fun s t h => ?_
  rw [hxy.mainAxis_eq h]
  exact alike_setHint hG hxy _ value _

theorem alike_setGrow (factor : Single) :
    AlikeWork G R answers (fun _ _ => True) (x.setGrow factor) (y.setGrow factor) := by
  refine alike_current fun s t h => ?_
  rw [hxy.mainAxis_eq h]
  exact alike_updateHints hG hxy _

theorem alike_setInset (side : Rect.Side) (distance : Scalar) :
    AlikeWork G R answers (fun _ _ => True) (x.setInset side distance)
      (y.setInset side distance) := by
  refine alike_current fun s t h => ?_
  rw [hxy.surroundings_eq h hG, h.parentSize_eq hG hxy.node]
  cases (y.surroundings t).length? distance side.axis with
  | none => exact alike_pure trivial
  | some d => exact alike_updateRect hG hxy _

theorem alike_setPosition (value : Position) :
    AlikeWork G R answers (fun _ _ => True) (x.setPosition value) (y.setPosition value) := by
  cases value with
  | relative => exact alike_pure trivial
  | absolute =>
    exact alike_bind (alike_onHost (Host.twinWork_setRect hG hxy.node _) _)
      fun _ _ _ => alike_updateHints hG hxy _

theorem alike_setMargin (sides : Spacing (Option Scalar)) :
    AlikeWork G R answers (fun _ _ => True) (x.setMargin sides) (y.setMargin sides) := by
  refine alike_current fun s t h => ?_
  rw [hxy.sidePixels_eq h hG]
  exact alike_updateRect hG hxy _

theorem alike_setPadding (sides : Spacing (Option Scalar)) :
    AlikeWork G R answers (fun _ _ => True) (x.setPadding sides) (y.setPadding sides) := by
  refine alike_current fun s t h => ?_
  rw [hxy.sidePixels_eq h hG, h.component?_eq (α := LayoutGroup) hxy.node, hxy.style.asks_eq]
  simp only
  split
  · exact alike_updateComponent hG hxy _
  · split
    · exact alike_pure trivial
    · exact alike_updateRect hG hxy _

theorem alike_setGroup :
    AlikeWork G R answers (fun _ _ => True) x.setGroup y.setGroup := by
  have hConfigure : configure x.style = configure y.style := funext hxy.style.configure_eq
  unfold setGroup
  rw [hConfigure]
  exact alike_updateComponent hG hxy _

theorem alike_moveAcross (axis : Axis) (place : Placement) :
    AlikeWork G R answers (fun _ _ => True) (x.moveAcross axis place)
      (y.moveAcross axis place) := by
  refine alike_current fun s t h => ?_
  simp only [h.parentSize_eq hG hxy.node]
  exact alike_updateRect hG hxy _

theorem alike_setAlignSelf (align : Align) :
    AlikeWork G R answers (fun _ _ => True) (x.setAlignSelf align) (y.setAlignSelf align) := by
  refine alike_current fun s t h => ?_
  rw [hxy.mainAxis_eq h, hxy.parentGroup?_eq h]
  simp only
  split
  · exact alike_updateHints hG hxy _
  · cases align with
    | auto => exact alike_pure trivial
    | start | center | finish => exact alike_moveAcross hG hxy _ _
    | stretch =>
      exact alike_bind (alike_updateHints hG hxy _) fun _ _ _ => alike_updateRect hG hxy _

theorem alike_setBackground (address : String) :
    AlikeWork G R answers (fun _ _ => True) (x.setBackground address)
      (y.setBackground address) := by
  unfold setBackground
  rw [hxy.label_eq]
  split
  · exact alike_updateComponent hG hxy _
  · refine alike_bind (alike_findSprite address) fun found _ hEq => ?_
    subst hEq
    cases found with
    | none => exact alike_warn _ _
    | some sprite =>
      simp only
      split
      · exact alike_bind (alike_warn _ _) fun _ _ _ => alike_updateGraphic hG hxy _
      · have hSkip : AlikeWork G R answers (fun _ _ : Unit => True)
            (pure () : StageM ApplyFault Unit) (pure ()) := alike_pure trivial
        exact alike_bind hSkip fun _ _ _ => alike_updateGraphic hG hxy _

theorem alike_setOpacity (alpha : Single) :
    AlikeWork G R answers (fun _ _ => True) (x.setOpacity alpha) (y.setOpacity alpha) := by
  refine alike_current fun s t h => ?_
  rw [h.component?_eq hxy.node]
  split
  · exact alike_updateComponent hG hxy _
  · have hAlike := Unlinked.alike_wrap R (CanvasGroup.mk alpha)
    exact alike_onHost (Host.twinWork_attach hG hxy.node hAlike) _

theorem alike_setOverflow (value : Overflow) :
    AlikeWork G R answers (fun _ _ => True) (x.setOverflow value) (y.setOverflow value) := by
  refine alike_current fun s t h => ?_
  rw [h.has_eq hxy.node, h.has_eq hxy.node]
  simp only
  split
  · have hAlike := Unlinked.alike_wrap R RectMask.mk
    exact alike_onHost (Host.twinWork_attach hG hxy.node hAlike) _
  · exact alike_pure trivial

theorem alike_setText (change : TextChange) :
    AlikeWork G R answers (fun _ _ => True) (x.setText change) (y.setText change) := by
  refine alike_current fun s t h => ?_
  have hNodes := textNode?_rel h hxy.node
  rw [hxy.surroundings_eq h hG, textOf?_eq h hxy.node]
  simp only
  cases changedText (y.surroundings t) ((textOf? t y.node).getD (.plain "" "" 0)) change with
  | error f => exact alike_throw _ _
  | ok changed =>
    generalize textNode? s x.node = c at hNodes ⊢
    generalize textNode? t y.node = d at hNodes ⊢
    cases hNodes with
    | none => exact alike_pure trivial
    | some hcd => exact alike_onHost (Host.twinWork_updateComponent hG hcd _) _

/-- A change is made alike on both sides. -/
theorem alike_perform (change : Change) :
    AlikeWork G R answers (fun _ _ => True) (x.perform change) (y.perform change) := by
  unfold perform
  cases change with
  | size axis value => exact alike_setSize hG hxy axis value
  | leastSize axis value => exact alike_setHint hG hxy axis value _
  | preferredSize axis value => exact alike_setHint hG hxy axis value _
  | basis value => exact alike_setBasis hG hxy value
  | grow factor => exact alike_setGrow hG hxy factor
  | shrink _ => exact alike_pure trivial
  | inset side distance => exact alike_setInset hG hxy side distance
  | position value => exact alike_setPosition hG hxy value
  | margin sides => exact alike_setMargin hG hxy sides
  | padding sides => exact alike_setPadding hG hxy sides
  | group => exact alike_setGroup hG hxy
  | alignSelf value => exact alike_setAlignSelf hG hxy value
  | display value => exact alike_onHost (Host.twinWork_setActive hG hxy.node _) _
  | graphicColor value => exact alike_updateGraphic hG hxy _
  | backgroundImage address => exact alike_setBackground hG hxy address
  | backgroundSize value => exact alike_updateGraphic hG hxy _
  | backgroundRepeat value => exact alike_updateGraphic hG hxy _
  | opacity value => exact alike_setOpacity hG hxy value
  | overflow value => exact alike_setOverflow hG hxy value
  | text change => exact alike_setText hG hxy change

/-! ## Before and after the declarations -/

theorem twinWork_ensureParentGroup :
    Host.TwinWork G R x.ensureParentGroup y.ensureParentGroup := by
  obtain ⟨u, v, hu, hv, hUnder⟩ := hxy.parent
  have hStyles := hxy.parentStyle
  refine Host.twinWork_current fun s t h => ?_
  rw [hu, hv, hxy.canvas_eq, hxy.fontSize_eq]
  generalize x.parentStyle? = d at hStyles ⊢
  generalize y.parentStyle? = d' at hStyles ⊢
  cases hStyles with
  | none => exact Host.twinWork_pure
  | @some d d' hStyles =>
    simp only [hStyles.asks_eq, h.group_eq_under hUnder, h.sizeOf_eq_under hG hUnder]
    split
    · rename_i hAsks
      have hAsks' : asksForGroup d = true := by
        rw [hStyles.asks_eq]
        exact (Bool.and_eq_true_iff.mp hAsks).1
      rw [hStyles.groupOf_eq hAsks']
      exact Host.twinWork_attachGroup hG hUnder _
    · exact Host.twinWork_pure

theorem twinWork_markRoot : Host.TwinWork G R x.markRoot y.markRoot := by
  unfold markRoot
  rw [hxy.isRoot_eq, hxy.canvas_eq]
  split
  · refine (Host.twinWork_setRect hG hxy.node _).bind (Host.twinWork_current fun s t h => ?_)
    rw [h.has_eq hxy.node]
    split
    · have hAlike : Component.Alike R (.layoutRoot ⟨y.canvas⟩) (.layoutRoot ⟨y.canvas⟩) :=
        ⟨.layoutRoot ⟨y.canvas⟩, rfl, rfl⟩
      exact Host.twinWork_attach hG hxy.node hAlike
    · exact Host.twinWork_pure
  · exact Host.twinWork_pure

theorem twinWork_reconcile {name : String} {axis : Axis} (hName : (name, axis) ∈ sizeAttributes) :
    Host.TwinWork G R (x.reconcile name axis) (y.reconcile name axis) := by
  refine Host.twinWork_current fun s t h => ?_
  rw [hxy.declaredExtent?_eq h hG hName, h.sizeOf_eq hG hxy.node]
  split
  · split
    · exact twinWork_setExtent hG hxy _ _
    · exact Host.twinWork_pure
  · exact Host.twinWork_pure

end Changes

/-! ## Rejected declarations -/

/-- What a declaration is rejected for, whatever it is applied to: nothing has its name, or its
value cannot be read. -/
def rejection? (d : Declaration) : Option StyleFault :=
  match Property.named? d.property with
  | none => some (.unknownProperty d.property)
  | some p =>
    match Change.read p d.value with
    | .ok _ => none
    | .error f => some (.invalidValue p.name f)

/-- The second declarations are the first ones without some that are rejected, for the listed
faults. -/
inductive Thinned : List Declaration → List Declaration → List StyleFault → Prop
  | nil : Thinned [] [] []
  | keep (d : Declaration) {ds es : List Declaration} {fs : List StyleFault}
      (hRest : Thinned ds es fs) : Thinned (d :: ds) (d :: es) fs
  | drop {d : Declaration} {f : StyleFault} (hFault : rejection? d = some f)
      {ds es : List Declaration} {fs : List StyleFault} (hRest : Thinned ds es fs) :
      Thinned (d :: ds) es (f :: fs)

theorem thinned_refl (ds : List Declaration) : Thinned ds ds [] := by
  induction ds with
  | nil => exact .nil
  | cons d ds ih => exact .keep d ih

theorem Thinned.append {ds es ds' es' : List Declaration} {fs fs' : List StyleFault}
    (h : Thinned ds es fs) (h' : Thinned ds' es' fs') :
    Thinned (ds ++ ds') (es ++ es') (fs ++ fs') := by
  induction h with
  | nil => exact h'
  | keep d _ ih => exact .keep d ih
  | drop hFault _ ih => exact .drop hFault ih

/-- A warning about the style of an element. -/
def styleWarning (e : Markup.Element) (f : StyleFault) : Warning := ⟨some e.label, .style f⟩

theorem apply_of_rejection {d : Declaration} {f : StyleFault} (h : rejection? d = some f)
    (x : Subject) : x.apply d = raise [styleWarning x.element f] := by
  unfold rejection? at h
  unfold apply
  cases hProperty : Property.named? d.property with
  | none =>
    rw [hProperty] at h
    cases h
    rfl
  | some p =>
    simp only [hProperty] at h ⊢
    cases hRead : Change.read p d.value with
    | ok change =>
      rw [hRead] at h
      cases h
    | error g =>
      rw [hRead] at h
      cases h
      rfl

/-! ## Cascades -/

section Cascades

variable (hG : G.Level) (hxy : Twin G R x y) {extra : List Warning} {st st' : Stage}
include hG hxy

theorem twins_apply (h : TwinStages G R answers extra st st') (d : Declaration) :
    TwinStages G R answers extra (x.apply d st).2 (y.apply d st').2 := by
  unfold apply
  cases Property.named? d.property with
  | none =>
    simp only [hxy.label_eq]
    exact h.raise _
  | some p =>
    have hFault : ∀ f, x.faultWarning p f = y.faultWarning p f := fun f => by
      unfold faultWarning
      rw [hxy.label_eq]
    refine h.orWarn ?_ hFault
    cases Change.read p d.value with
    | error f => exact alike_throw _ _
    | ok change => exact alike_perform hG hxy change

theorem twins_applyAll {ds es : List Declaration} {fs : List StyleFault} (hThin : Thinned ds es fs)
    (h : TwinStages G R answers extra st st') :
    TwinStages G R answers (extra ++ fs.map (styleWarning x.element)) (ds.forM x.apply st).2
      (es.forM y.apply st').2 := by
  induction hThin generalizing extra st st' with
  | nil => rwa [List.map_nil, List.append_nil]
  | keep d _ ih =>
    rw [run_forM_cons, run_forM_cons]
    exact ih (twins_apply hG hxy h d)
  | @drop d f hFault ds es fs _ ih =>
    have hEnd := ih (h.raise_left [styleWarning x.element f])
    rw [List.append_assoc] at hEnd
    rw [run_forM_cons, apply_of_rejection hFault]
    exact hEnd

omit hG in
theorem twins_tryHost {m m' : HostM Unit} (hm : Host.TwinWork G R m m')
    (h : TwinStages G R answers extra st st') :
    TwinStages G R answers extra (x.tryHost m st).2 (y.tryHost m' st').2 := by
  refine h.orWarn (alike_onHost hm id) fun f => ?_
  unfold refusal
  rw [hxy.label_eq]

theorem twins_reconcileAll {sizes : List (String × Axis)} (hSizes : ∀ p ∈ sizes, p ∈ sizeAttributes)
    (h : TwinStages G R answers extra st st') :
    TwinStages G R answers extra
      (sizes.forM (fun p => x.tryHost (x.reconcile p.1 p.2)) st).2
      (sizes.forM (fun p => y.tryHost (y.reconcile p.1 p.2)) st').2 := by
  induction sizes generalizing st st' with
  | nil => exact h
  | cons p sizes ih =>
    have hFirst := twinWork_reconcile hG hxy (hSizes p (List.mem_cons_self ..))
    rw [run_forM_cons, run_forM_cons]
    exact ih (fun q hq => hSizes q (List.mem_cons_of_mem p hq)) (twins_tryHost hxy hFirst h)

/-- Twin subjects are styled alike. A declaration that is rejected, and missing on the second side,
only gives one more warning on the first. -/
theorem twins_cascade {fs : List StyleFault} (hThin : Thinned x.declarations y.declarations fs)
    (h : TwinStages G R answers extra st st') :
    TwinStages G R answers (extra ++ fs.map (styleWarning x.element)) (x.cascade st).2
      (y.cascade st').2 := by
  have hGroup := twins_tryHost hxy (twinWork_ensureParentGroup hG hxy) h
  have hMarked := twins_tryHost hxy (twinWork_markRoot hG hxy) hGroup
  have hApplied := twins_applyAll hG hxy hThin hMarked
  exact twins_reconcileAll hG hxy (fun _ => id) hApplied

end Cascades

end AnchoredUi.Styling.Subject
