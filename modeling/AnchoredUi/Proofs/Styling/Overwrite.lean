import AnchoredUi.Proofs.SceneGraph.Furnish
import AnchoredUi.Proofs.Styling.Verdict

/-!
# The last accepted value

Most properties about looks and sizes set one thing and leave the rest alone. What they set is never
what lengths refer to: neither the size of the parent, nor the size of the font, nor the axis of the
parent. So of several values only the last accepted one counts, wherever rejected ones stand, even
if the component that has the thing is only attached by the first of them.

* `Edit`, `Change.edit?`: what such a change does to the data of a node.
* `Edit.run_run`: an edit that overwrites another one leaves no trace of it.
* `scene_overwriting`: any number of values, one after the other.
-/

namespace AnchoredUi.Styling

open Number Plane SceneGraph Style Sprite

variable {x : Subject} {s : Scene}

/-! ## Edits -/

/-- What a change does to the data of a node: it changes one component, which may have to be
attached first, the flag, or the text. -/
inductive Edit where
  | hints (f : LayoutHints → LayoutHints)
  | graphic (f : Graphic → Graphic)
  | fade (f : CanvasGroup → CanvasGroup)
  | active (flag : Bool)
  | text (f : TextBlock → TextBlock)
  | nothing

namespace Edit

/-- The scene after an edit of the node of the subject. -/
def run (x : Subject) (s : Scene) : Edit → Scene
  | hints f => Host.furnished s x.node LayoutHints.none f
  | graphic f => Host.furnished s x.node (Graphic.colored .white) f
  | fade f => Host.furnished s x.node (⟨1⟩ : CanvasGroup) f
  | active flag => s.modify x.node fun n => { n with active := flag }
  | text f =>
    match textNode? s x.node with
    | some id => s.modifyComponent id f
    | none => s
  | nothing => s

/-- Whatever the earlier edit sets is set again. -/
inductive Overwrites : (late early : Edit) → Prop
  | hints {f g : LayoutHints → LayoutHints} (h : ∀ a, g (f a) = g a) :
      Overwrites (.hints g) (.hints f)
  | graphic {f g : Graphic → Graphic} (h : ∀ a, g (f a) = g a) :
      Overwrites (.graphic g) (.graphic f)
  | fade {f g : CanvasGroup → CanvasGroup} (h : ∀ a, g (f a) = g a) :
      Overwrites (.fade g) (.fade f)
  | active {b c : Bool} : Overwrites (.active c) (.active b)
  | text {f g : TextBlock → TextBlock} (h : ∀ a, g (f a) = g a) : Overwrites (.text g) (.text f)
  | nothing : Overwrites .nothing .nothing

/-- An edit that overwrites another one leaves no trace of it. -/
theorem run_run (hLive : s.contains x.node = true) {e e' : Edit} (h : e'.Overwrites e) :
    e'.run x (e.run x s) = e'.run x s := by
  have hComp {α : Type} {f g : α → α} (h : ∀ a, g (f a) = g a) : g ∘ f = g := funext h
  cases h with
  | hints h => simp only [run, Host.furnished_furnished hLive, hComp h]
  | graphic h => simp only [run, Host.furnished_furnished hLive, hComp h]
  | fade h => simp only [run, Host.furnished_furnished hLive, hComp h]
  | active =>
    simp only [run, Scene.modify_modify]
    rfl
  | text h =>
    simp only [run]
    cases hText : textNode? s x.node with
    | none => simp only [hText]
    | some id =>
      simp only [Subject.textNode?_modifyComponent, hText, Scene.modifyComponent_modifyComponent,
        hComp h]
  | nothing => rfl

/-- No edit is about a layout group. -/
theorem component?_group_run (e : Edit) (id : NodeId) :
    (e.run x s).component? LayoutGroup id = s.component? LayoutGroup id := by
  cases e with
  | hints f => exact Host.component?_furnished_of_ne (by decide) ..
  | graphic f => exact Host.component?_furnished_of_ne (by decide) ..
  | fade f => exact Host.component?_furnished_of_ne (by decide) ..
  | active flag =>
    exact Scene.component?_modify_of (f := fun n => { n with active := flag }) (fun _ => rfl) ..
  | text f =>
    simp only [run]
    split
    · exact Scene.component?_modifyComponent_of_ne (by decide) ..
    · rfl
  | nothing => rfl

end Edit

/-! ## Changes as edits -/

/-- The text with a change made, if it can be made. -/
def restyled (around : Surroundings) (change : TextChange) (t : TextBlock) : TextBlock :=
  (Subject.changedText around t change).toOption.getD t

/-- What a change does to the data of a node, if it does no more than to set one thing, and that
thing is not the size of the font. -/
def Change.edit? (around : Surroundings) (axis : Axis) : Change → Option Edit
  | .leastSize along value =>
    some (.hints fun h => { h with least := h.least.set along (around.length? value along) })
  | .preferredSize along value =>
    some (.hints fun h =>
      { h with preferred := h.preferred.set along (around.length? value along) })
  | .basis value =>
    some (.hints fun h => { h with preferred := h.preferred.set axis (around.length? value axis) })
  | .grow factor => some (.hints fun h => { h with flexible := h.flexible.set axis (some factor) })
  | .shrink _ => some .nothing
  | .display value => some (.active (value != .hidden))
  | .graphicColor value => some (.graphic fun g => { g with color := value })
  | .backgroundSize value =>
    some (.graphic fun g => { g with keepsAspect := value.preservesAspect })
  | .backgroundRepeat value =>
    some (.graphic fun g => { g with fill := if value = .tiled then .tiled else .simple })
  | .opacity value => some (.fade fun g => { g with alpha := value })
  | .text (.size _) => none
  | .text change => some (.text (restyled around change))
  | _ => none

variable {around : Surroundings} {axis : Axis} {c : Change} {e : Edit}

theorem Change.fontAfter_of_edit? (h : c.edit? around axis = some e) (around' : Surroundings)
    (font : Option Single) : c.fontAfter around' font = font := by
  cases c with
  | text change =>
    cases change with
    | size value => cases h
    | _ => rfl
  | _ => rfl

theorem changedText_of_edit? {change : TextChange}
    (h : (Change.text change).edit? around axis = some e) (t : TextBlock) :
    Subject.changedText around t change = .ok (restyled around change t) ∧
      e = .text (restyled around change) := by
  cases change with
  | size value => cases h
  | _ =>
    cases h
    exact ⟨rfl, rfl⟩

namespace Subject

/-- Work with a host that succeeds is done on the stage. -/
theorem run_hostWork {m : HostM Unit} {st : Stage} {t : Scene} (hm : Host.Does m st.host () t) :
    ∃ k, hostWork m st = (.ok (), { st with host := k }) ∧ k.scene = t ∧
      Host.SameOwner st.host k := by
  obtain ⟨k, hRun, hk, hOwner⟩ := hm
  exact ⟨k, run_onHost hRun, hk, hOwner⟩

theorem does_setOpacity {st : Stage} (hw : st.host.Willing)
    (hLive : st.host.scene.contains x.node = true) (alpha : Single) :
    ∃ k, x.setOpacity alpha st = (.ok (), { st with host := k }) ∧
      k.scene = Host.furnished st.host.scene x.node (⟨1⟩ : CanvasGroup)
        (fun g => { g with alpha := alpha }) ∧ Host.SameOwner st.host k := by
  unfold setOpacity
  rw [run_currentScene_bind]
  cases hGroup : st.host.scene.component? CanvasGroup x.node with
  | some g =>
    rw [Host.furnished_of_component? hGroup]
    exact run_hostWork (Host.does_updateComponent _ _ _)
  | none =>
    rw [Host.furnished_of_none hGroup]
    exact run_hostWork (Host.does_attach hw hLive _)

theorem does_setText {st : Stage} {change : TextChange}
    (hEdit : (Change.text change).edit? (x.surroundings st.host.scene) axis = some e) :
    ∃ k, x.setText change st = (.ok (), { st with host := k }) ∧ k.scene = e.run x st.host.scene ∧
      Host.SameOwner st.host k := by
  obtain ⟨hChanged, rfl⟩ := changedText_of_edit? hEdit
    ((textOf? st.host.scene x.node).getD (.plain "" "" 0))
  unfold setText
  rw [run_currentScene_bind]
  simp only [hChanged, Edit.run]
  cases hText : textNode? st.host.scene x.node with
  | none => exact ⟨st.host, rfl, rfl, .refl _⟩
  | some id =>
    obtain ⟨t, ht⟩ := exists_of_textNode? hText
    have hBlock : textOf? st.host.scene x.node = some t := by
      rw [textOf?, hText, Option.bind_some, ht]
    have hSame : st.host.scene.modifyComponent id
        (fun _ : TextBlock => restyled (x.surroundings st.host.scene) change t) =
          st.host.scene.modifyComponent id (restyled (x.surroundings st.host.scene) change) :=
      Scene.modifyComponent_congr fun a ha => by rw [Option.some.inj (ht.symm.trans ha)]
    simp only [hBlock, Option.getD_some]
    rw [← hSame]
    exact run_hostWork (Host.does_updateComponent _ _ _)

/-- A change that is an edit succeeds, and leaves the edited scene. -/
theorem exists_run_edit {st : Stage} (hw : st.host.Willing)
    (hLive : st.host.scene.contains x.node = true)
    (hEdit : c.edit? (x.surroundings st.host.scene) (x.mainAxis st.host.scene) = some e) :
    ∃ k, x.perform c st = (.ok (), { st with host := k }) ∧ k.scene = e.run x st.host.scene ∧
      Host.SameOwner st.host k := by
  cases c with
  | leastSize _ _ | preferredSize _ _ | basis _ | grow _ | graphicColor _ | backgroundSize _
      | backgroundRepeat _ =>
    cases hEdit
    exact run_hostWork (Host.does_ensureComponent hw hLive _ _)
  | shrink _ =>
    cases hEdit
    exact ⟨st.host, rfl, rfl, .refl _⟩
  | display value =>
    cases hEdit
    exact run_hostWork (Host.does_setActive hw hLive _)
  | opacity alpha =>
    cases hEdit
    exact does_setOpacity hw hLive alpha
  | text change => exact does_setText hEdit
  | _ => cases hEdit

end Subject

/-! ## Values of one property -/

/-- The properties whose values replace one another. -/
def overwriting : List Property := [
  .backgroundColor, .imageTintColor, .backgroundSize, .backgroundRepeat, .opacity, .display,
  .color, .fontWeight, .fontStyle, .textAlign, .whiteSpace,
  .minSize .horizontal, .minSize .vertical, .maxSize .horizontal, .maxSize .vertical,
  .flexBasis, .flexGrow, .flexShrink]

theorem set_set (h : AxisHints) (axis : Axis) (a b : Option Single) :
    (h.set axis a).set axis b = h.set axis b := by
  cases axis <;> rfl

/-- Two values of a property are two edits, of which the second one overwrites the first. -/
theorem exists_overwrites {p : Property} (hp : p ∈ overwriting) {v w : String} {c d : Change}
    (hc : Change.read p v = .ok c) (hd : Change.read p w = .ok d) (around : Surroundings)
    (axis : Axis) : ∃ e e', c.edit? around axis = some e ∧ d.edit? around axis = some e' ∧
      e'.Overwrites e := by
  cases p with
  | backgroundColor | imageTintColor | backgroundSize | backgroundRepeat =>
    simp only [Change.read] at hc hd
    obtain ⟨_, -, rfl⟩ := exists_of_map_eq_ok hc
    obtain ⟨_, -, rfl⟩ := exists_of_map_eq_ok hd
    exact ⟨_, _, rfl, rfl, .graphic fun _ => rfl⟩
  | opacity =>
    simp only [Change.read] at hc hd
    obtain ⟨_, -, rfl⟩ := exists_of_map_eq_ok hc
    obtain ⟨_, -, rfl⟩ := exists_of_map_eq_ok hd
    exact ⟨_, _, rfl, rfl, .fade fun _ => rfl⟩
  | display =>
    simp only [Change.read] at hc hd
    obtain ⟨_, -, rfl⟩ := exists_of_map_eq_ok hc
    obtain ⟨_, -, rfl⟩ := exists_of_map_eq_ok hd
    exact ⟨_, _, rfl, rfl, .active⟩
  | color | fontWeight | fontStyle | textAlign | whiteSpace =>
    simp only [Change.read] at hc hd
    obtain ⟨_, -, rfl⟩ := exists_of_map_eq_ok hc
    obtain ⟨_, -, rfl⟩ := exists_of_map_eq_ok hd
    exact ⟨_, _, rfl, rfl, .text fun _ => rfl⟩
  | minSize _ | maxSize _ | flexBasis | flexGrow =>
    simp only [Change.read] at hc hd
    obtain ⟨_, -, rfl⟩ := exists_of_map_eq_ok hc
    obtain ⟨_, -, rfl⟩ := exists_of_map_eq_ok hd
    exact ⟨_, _, rfl, rfl, .hints fun _ => by simp only [set_set]⟩
  | flexShrink =>
    simp only [Change.read] at hc hd
    obtain ⟨_, -, rfl⟩ := exists_of_map_eq_ok hc
    obtain ⟨_, -, rfl⟩ := exists_of_map_eq_ok hd
    exact ⟨_, _, rfl, rfl, .nothing⟩
  | _ => simp [overwriting] at hp

namespace Subject

variable {st : Stage} {p : Property} {d d' : Declaration}

/-- A declaration is accepted: it is applied without a warning. -/
def Accepts (x : Subject) (st : Stage) (d : Declaration) : Prop :=
  (x.apply d st).2.warnings = st.warnings

instance (x : Subject) (st : Stage) (d : Declaration) : Decidable (x.Accepts st d) :=
  inferInstanceAs (Decidable (_ = _))

/-- Of declarations that are applied one after the other, those that are accepted. -/
def accepted (x : Subject) : Stage → List Declaration → List Declaration
  | _, [] => []
  | st, d :: ds =>
    let rest := x.accepted (x.apply d st).2 ds
    if x.Accepts st d then d :: rest else rest

/-- The scene after a declaration of an overwriting property. -/
def outcome (x : Subject) (p : Property) (s : Scene) (d : Declaration) : Scene :=
  match Change.read p d.value with
  | .error _ => s
  | .ok change =>
    match change.edit? (x.surroundings s) (x.mainAxis s) with
    | some e => e.run x s
    | none => s

/-- The value can be read. -/
def readable (p : Property) (d : Declaration) : Bool := (Change.read p d.value).toOption.isSome

/-- What is known of a node that is styled on a scene. -/
structure Styled (x : Subject) (st : Stage) : Prop where
  willing : st.host.Willing
  forest : st.host.scene.Forest
  live : st.host.scene.contains x.node = true

theorem Styled.apply (h : x.Styled st) (d : Declaration) : x.Styled (x.apply d st).2 := by
  have hHandled := keeps_apply (x := x) d st
  exact ⟨hHandled.owner.willing h.willing, forest_of_touches hHandled.touches h.forest,
    (contains_of_touches hHandled.touches x.node).trans h.live⟩

/-- A declaration of an overwriting property is rejected, or it is an edit. -/
theorem apply_overwriting (h : x.Styled st) (hp : p ∈ overwriting)
    (hd : Property.named? d.property = some p) :
    (x.apply d st).2.host.scene = x.outcome p st.host.scene d ∧
      (x.Accepts st d ↔ readable p d = true) := by
  unfold Accepts outcome readable
  rw [apply_of_named hd]
  unfold carryOut orWarn
  cases hRead : Change.read p d.value with
  | error f =>
    have hMore : st.warnings ++ [x.faultWarning p (.value f)] ≠ st.warnings := by simp
    exact ⟨rfl, iff_of_false hMore Bool.false_ne_true⟩
  | ok change =>
    obtain ⟨e, -, hEdit, -⟩ := exists_overwrites hp hRead hRead (x.surroundings st.host.scene)
      (x.mainAxis st.host.scene)
    obtain ⟨k, hRun, hk, -⟩ := exists_run_edit h.willing h.live hEdit
    simp only [hRun, hEdit]
    exact ⟨hk, iff_of_true trivial rfl⟩

/-- Neither what lengths refer to nor the axis of the parent is changed. -/
theorem around_overwriting (h : x.Styled st) (hp : p ∈ overwriting)
    (hd : Property.named? d.property = some p) :
    x.surroundings (x.apply d st).2.host.scene = x.surroundings st.host.scene ∧
      x.mainAxis (x.apply d st).2.host.scene = x.mainAxis st.host.scene := by
  obtain ⟨-, hFont⟩ := tells_apply h.willing h.live d
  have hOutside := outside_of_touches (keeps_apply (x := x) d st).touches h.forest
  have hScene := (apply_overwriting h hp hd).1
  unfold fontAfter at hFont
  rw [hd] at hFont
  unfold outcome at hScene
  cases hRead : Change.read p d.value with
  | error f =>
    rw [hRead] at hScene
    simp only [hScene, and_self]
  | ok change =>
    obtain ⟨e, -, hEdit, -⟩ := exists_overwrites hp hRead hRead (x.surroundings st.host.scene)
      (x.mainAxis st.host.scene)
    simp only [hRead, hEdit] at hScene
    simp only [hRead, Change.fontAfter_of_edit? hEdit] at hFont
    refine ⟨by rw [surroundings_eq, surroundings_eq, hFont, hOutside], ?_⟩
    have hGroup : x.parentGroup? (x.apply d st).2.host.scene = x.parentGroup? st.host.scene := by
      rw [hScene]
      exact congrArg (Option.bind _) (funext fun id => e.component?_group_run id)
    rw [mainAxis, hGroup, mainAxis]

/-- What an accepted declaration does is the same before and after another one of its property. -/
theorem outcome_apply (h : x.Styled st) (hp : p ∈ overwriting)
    (hd : Property.named? d.property = some p) (hReadable : readable p d' = true) :
    x.outcome p (x.apply d st).2.host.scene d' = x.outcome p st.host.scene d' := by
  obtain ⟨hSurroundings, hAxis⟩ := around_overwriting h hp hd
  obtain ⟨change', hRead'⟩ := Option.isSome_iff_exists.mp hReadable
  have hOk : Change.read p d'.value = .ok change' := by
    revert hRead'
    cases Change.read p d'.value <;> simp [Except.toOption]
  have hScene := (apply_overwriting h hp hd).1
  unfold outcome at hScene ⊢
  simp only [hOk, hSurroundings, hAxis]
  cases hRead : Change.read p d.value with
  | error f =>
    rw [hRead] at hScene
    rw [hScene]
  | ok change =>
    obtain ⟨e, e', hEdit, hEdit', hOver⟩ := exists_overwrites hp hRead hOk
      (x.surroundings st.host.scene) (x.mainAxis st.host.scene)
    simp only [hRead, hEdit] at hScene
    simp only [hEdit', hScene, Edit.run_run h.live hOver]

theorem scene_forM_overwriting (h : x.Styled st) (hp : p ∈ overwriting) {ds : List Declaration}
    (hds : ∀ d ∈ ds, Property.named? d.property = some p) :
    (ds.forM x.apply st).2.host.scene =
      ((ds.filter (readable p)).getLast?.elim st.host.scene (x.outcome p st.host.scene)) := by
  induction ds generalizing st with
  | nil => rfl
  | cons d ds ih =>
    obtain ⟨hd, hRest⟩ := List.forall_mem_cons.mp hds
    rw [run_forM_cons, ih (h.apply d) hRest]
    have hFirst := (apply_overwriting h hp hd).1
    cases hLast : (ds.filter (readable p)).getLast? with
    | some d' =>
      have hMem := List.mem_of_getLast? hLast
      rw [Option.elim_some, outcome_apply h hp hd (List.mem_filter.mp hMem).2]
      rw [List.filter_cons]
      split
      · rw [List.getLast?_cons, hLast]
        rfl
      · rw [hLast]
        rfl
    | none =>
      have hNil : ds.filter (readable p) = [] := List.getLast?_eq_none_iff.mp hLast
      rw [List.filter_cons, hNil, Option.elim_none, hFirst]
      split
      · rfl
      · rename_i hNot
        unfold outcome
        unfold readable at hNot
        cases hRead : Change.read p d.value with
        | error f => rfl
        | ok change =>
          rw [hRead] at hNot
          exact absurd rfl hNot

theorem accepted_overwriting (h : x.Styled st) (hp : p ∈ overwriting) {ds : List Declaration}
    (hds : ∀ d ∈ ds, Property.named? d.property = some p) :
    x.accepted st ds = ds.filter (readable p) := by
  induction ds generalizing st with
  | nil => rfl
  | cons d ds ih =>
    obtain ⟨hd, hRest⟩ := List.forall_mem_cons.mp hds
    simp only [accepted, ih (h.apply d) hRest, List.filter_cons,
      (apply_overwriting h hp hd).2]

/-- Of several values of an overwriting property, which may have any of its spellings, only the last
accepted one counts: the scene is the one after that value alone, and the scene before if none is
accepted. Whether a value is accepted does not depend on those before it. -/
theorem scene_overwriting (x : Subject) {st : Stage} (hw : st.host.Willing)
    (hs : st.host.scene.Reachable) (hLive : st.host.scene.contains x.node = true) {p : Property}
    (hp : p ∈ overwriting) {ds : List Declaration}
    (hds : ∀ d ∈ ds, Property.named? d.property = some p) :
    (ds.forM x.apply st).2.host.scene = (match (x.accepted st ds).getLast? with
      | some d => (x.apply d st).2.host.scene
      | none => st.host.scene) ∧
      x.accepted st ds = ds.filter fun d => x.Accepts st d := by
  have h : x.Styled st := ⟨hw, hs.forest, hLive⟩
  have hAccepted := accepted_overwriting h hp hds
  refine ⟨?_, ?_⟩
  · rw [scene_forM_overwriting h hp hds, hAccepted]
    cases hLast : (ds.filter (readable p)).getLast? with
    | none => rfl
    | some d =>
      have hMem := (List.mem_filter.mp (List.mem_of_getLast? hLast)).1
      exact (apply_overwriting h hp (hds d hMem)).1.symm
  · rw [hAccepted]
    refine List.filter_congr fun d hd => ?_
    rw [Bool.eq_iff_iff, decide_eq_true_iff]
    exact (apply_overwriting h hp (hds d hd)).2.symm

/-- An opacity that is rejected behind an accepted one changes nothing, and the one in front of it
is replaced. -/
theorem scene_overwriting_opacity :
    let s := Scene.withCanvas 800 600
    let x : Subject := ⟨.mk "Label" none Catalog.empty [] none, Scene.empty.nodes.nextKey, none,
      none, ⟨800, 600⟩, Catalog.empty, 14, false⟩
    let st : Stage := ⟨Host.ofScene s, .ofSource Asset.Shelf.empty.source, []⟩
    let ds : List Declaration := [⟨"opacity", "0.5"⟩, ⟨"Opacity", "2"⟩, ⟨"opacity", "none"⟩]
    s.Reachable ∧ s.contains x.node = true ∧
      (∀ d ∈ ds, Property.named? d.property = some .opacity) ∧
      (ds.forM x.apply st).2.host.scene = (x.apply ⟨"Opacity", "2"⟩ st).2.host.scene := by
  intro s x st ds
  have hs : s.Reachable := ⟨[], Or.inr ⟨800, 600, rfl⟩⟩
  have hLive : st.host.scene.contains x.node = true := rfl
  have hds : ∀ d ∈ ds, Property.named? d.property = some .opacity := by decide +kernel
  have hLast : (x.accepted st ds).getLast? = some ⟨"Opacity", "2"⟩ := by decide +kernel
  have hScene := (scene_overwriting x (Host.willing_ofScene s) hs hLive (by decide) hds).1
  rw [hLast] at hScene
  exact ⟨hs, hLive, hds, hScene⟩

end Subject

end AnchoredUi.Styling
