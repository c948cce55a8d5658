import AnchoredUi.Asset.Shelf
import AnchoredUi.Proofs.SceneGraph.Operation
import AnchoredUi.Proofs.Styling.Complaint
import AnchoredUi.Proofs.Styling.Reading
import AnchoredUi.Proofs.Text.Cut

/-!
# Two ways to a padding

The padding of a layout group comes from its element in one of two ways. If the node has no group
yet when its first child is styled, the group that it gets then takes the padding from the merged
style of the element. If the node has a group when the element is styled, the declarations are
applied to that group one after the other.

Either way, of the declarations that give a side a length the last one counts, and nothing else is
different between the two but this: the merged style keeps the first place of a property that is
declared again, and the lengths of the new group refer to the size of the node itself and to the
font of a node without a text, not to the size of the parent and to the font of the node.

* `repadded`, `paddedBy`: what one declaration does to a padding, and what is left of several ones.
* `addPadding_eq_repadded`, `component?_paddings`: both ways do that to the padding.
* `padding_of_both_ways`: the paddings of both ways, and when they agree.
* `not_same_padding`: a percentage for which they do not.
-/

/-! ## Sides and names -/

namespace AnchoredUi.Plane.Spacing

variable {α : Type}

/-- The distance of a side. -/
def on (s : Spacing α) : Rect.Side → α
  | .top => s.top
  | .right => s.right
  | .bottom => s.bottom
  | .left => s.left

/-- The spacing with a given distance for each side. -/
def ofSides (f : Rect.Side → α) : Spacing α := ⟨f .top, f .right, f .bottom, f .left⟩

@[simp] theorem on_ofSides (f : Rect.Side → α) (side : Rect.Side) :
    (ofSides f).on side = f side := by
  cases side <;> rfl

theorem eq_of_on {s t : Spacing α} (h : ∀ side, s.on side = t.on side) : s = t := by
  have hSides : ∀ s : Spacing α, ofSides s.on = s := fun _ => rfl
  rw [← hSides s, ← hSides t, funext h]

theorem on_zero (side : Rect.Side) : (zero : Spacing Number.Single).on side = 0 := by
  cases side <;> rfl

end AnchoredUi.Plane.Spacing

namespace AnchoredUi.Style.Property

/-- The case of its letters does not matter for what a name stands for. -/
theorem named?_lowered (name : String) : named? (Text.lowered name) = named? name := by
  have hTwice : Text.lowered (Text.lowered (Text.trimmed name)) =
      Text.lowered (Text.trimmed name) := by
    simp only [Text.lowered, String.toList_ofList, Text.lower_lower]
  unfold named?
  rw [Text.trimmed_lowered, hTwice]

end AnchoredUi.Style.Property

namespace AnchoredUi.Styling

open Number Plane SceneGraph Style Markup Sprite

/-! ## Lengths for sides -/

/-- The declaration gives a padding. -/
def isPadding (d : Declaration) : Bool := paddingProperties.contains (Text.lowered d.property)

/-- The length that a declaration gives the padding of a side. -/
def paddingOn? (side : Rect.Side) (d : Declaration) : Option Scalar :=
  match Property.named? d.property with
  | some (.padding which) => (readSides which d.value).toOption.bind fun sides => sides.on side
  | _ => none

/-- A padding after a declaration. -/
def repadded (around : Surroundings) (p : Spacing Single) (d : Declaration) : Spacing Single :=
  .ofSides fun side => ((paddingOn? side d).map (around.pixels · side.axis)).getD (p.on side)

/-- The padding that declarations give: on each side the last length that is given. -/
def paddedBy (around : Surroundings) (ds : List Declaration) : Spacing Single :=
  .ofSides fun side =>
    ((ds.filterMap (paddingOn? side)).getLast?.map (around.pixels · side.axis)).getD 0

/-- The declaration can be applied: its property is known, and its value can be read. -/
def Accepted (d : Declaration) : Prop :=
  ∃ p change, Property.named? d.property = some p ∧ Change.read p d.value = .ok change

variable {around : Surroundings} {p : Spacing Single} {d : Declaration}

theorem on_foldl_repadded (around : Surroundings) (ds : List Declaration) (p : Spacing Single)
    (side : Rect.Side) :
    (ds.foldl (repadded around) p).on side =
      ((ds.filterMap (paddingOn? side)).getLast?.map (around.pixels · side.axis)).getD
        (p.on side) := by
  induction ds generalizing p with
  | nil => rfl
  | cons d ds ih =>
    rw [List.foldl_cons, ih, repadded, Spacing.on_ofSides]
    cases hd : paddingOn? side d with
    | none => rw [List.filterMap_cons_none hd, Option.map_none, Option.getD_none]
    | some l =>
      rw [List.filterMap_cons_some hd, List.getLast?_cons]
      cases (ds.filterMap (paddingOn? side)).getLast? <;> rfl

/-- Of the declarations that give a side a length, the last one counts. -/
theorem foldl_repadded (around : Surroundings) (ds : List Declaration) :
    ds.foldl (repadded around) .zero = paddedBy around ds := by
  refine Spacing.eq_of_on fun side => ?_
  rw [on_foldl_repadded, paddedBy, Spacing.on_ofSides, Spacing.on_zero]

theorem exists_named_of_isPadding (h : isPadding d = true) :
    ∃ which, Property.named? d.property = some (.padding which) ∧
      Text.lowered d.property = (Property.padding which).name := by
  have hAll : ∀ n ∈ paddingProperties, ∃ which, Property.named? n = some (.padding which) ∧
      n = (Property.padding which).name := by
    have hWays : ∀ n ∈ paddingProperties,
        ∃ which ∈ [none, some .top, some .right, some .bottom, some .left],
          Property.named? n = some (.padding which) ∧ n = (Property.padding which).name := by
      decide +kernel
    exact fun n hn => (hWays n hn).imp fun _ h => h.2
  rw [← Property.named?_lowered]
  exact hAll _ (by simpa [isPadding] using h)

/-- An accepted declaration of a padding gives lengths for all sides or for one side. -/
theorem exists_sides (hPadding : isPadding d = true) (hAccepted : Accepted d) :
    ∃ which sides, Property.named? d.property = some (.padding which) ∧
      Text.lowered d.property = (Property.padding which).name ∧
      readSides which d.value = .ok sides ∧ ∀ side, paddingOn? side d = sides.on side := by
  obtain ⟨which, hNamed, hName⟩ := exists_named_of_isPadding hPadding
  obtain ⟨p, change, hProperty, hRead⟩ := hAccepted
  obtain rfl : Property.padding which = p := Option.some.inj (hNamed.symm.trans hProperty)
  obtain ⟨sides, hSides, -⟩ := exists_of_map_eq_ok hRead
  refine ⟨which, sides, hNamed, hName, hSides, fun side => ?_⟩
  simp only [paddingOn?, hNamed, hSides]
  rfl

/-- One length is a shorthand for four. -/
theorem readBox_of_readScalar {value : String} {l : Scalar} (h : readScalar value = .ok l) :
    readBox value = .ok (.all l) := by
  unfold readScalar at h
  unfold readBox
  cases hTokens : valueTokens value with
  | error f =>
    rw [hTokens] at h
    cases h
  | ok ts =>
    rw [hTokens] at h
    match ts, h with
    | [t], h =>
      have hOne : [t].mapM tokenScalar = .ok [l] := by
        simp only [List.mapM_cons, List.mapM_nil, h]
        rfl
      simp only [hOne]
      rfl

/-- The padding for a new group sees a declaration as it is applied to a group. -/
theorem addPadding_eq_repadded (hPadding : isPadding d = true) (hAccepted : Accepted d) :
    addPadding around p d = repadded around p d := by
  obtain ⟨which, sides, -, hName, hRead, hOn⟩ := exists_sides hPadding hAccepted
  have hNames : (Property.padding none).name = "padding" ∧
      ∀ side, (Property.padding (some side)).name = match side with
        | .top => "padding-top"
        | .right => "padding-right"
        | .bottom => "padding-bottom"
        | .left => "padding-left" := by
    refine ⟨by decide +kernel, fun side => ?_⟩
    cases side <;> decide +kernel
  unfold addPadding
  simp only [repadded, hOn]
  cases which with
  | none =>
    obtain ⟨box, hBox, rfl⟩ := exists_of_map_eq_ok hRead
    rw [hNames.1] at hName
    simp only [hBox, hName]
    rfl
  | some side =>
    obtain ⟨l, hLength, rfl⟩ := exists_of_map_eq_ok hRead
    rw [hNames.2] at hName
    cases side <;> simp only [readBox_of_readScalar hLength, hName] <;> rfl

/-- Lengths in pixels, and in fractions of the canvas, are the same everywhere. -/
theorem pixels_eq {around around' : Surroundings} (hCanvas : around.canvas = around'.canvas)
    {l : Scalar} (hPercent : l.unit ≠ .percent) (hEm : l.unit ≠ .em) (axis : Axis) :
    around.pixels l axis = around'.pixels l axis := by
  unfold Surroundings.pixels Surroundings.length?
  rw [hCanvas]
  cases hUnit : l.unit with
  | percent => exact absurd hUnit hPercent
  | em => exact absurd hUnit hEm
  | px | rem | vw | vh | auto => rfl

namespace Subject

variable {x y : Subject} {s : Scene} {g : LayoutGroup}

/-- The paddings that are declared in all tiers, the weakest first. -/
def paddings (x : Subject) : List Declaration := x.declarations.filter isPadding

/-- One subject is styled as a child of another one, in the same run. -/
structure ChildOf (y x : Subject) : Prop where
  parentNode_eq : y.parentNode = some x.node
  parentElement_eq : y.parentElement = some x.element
  sheet_eq : y.sheet = x.sheet
  canvas_eq : y.canvas = x.canvas
  fontSize_eq : y.fontSize = x.fontSize

/-! ## Applied to a group -/

theorem surroundings_modifyGroup (hs : s.Forest) (f : LayoutGroup → LayoutGroup) :
    x.surroundings (s.modifyComponent x.node f) = x.surroundings s := by
  have hTouches : Relation.ReflTransGen x.Touch s (s.modifyComponent x.node f) :=
    .single (.change f)
  rw [surroundings_eq, surroundings_eq, outside_of_touches hTouches hs,
    font?_eq (sameTexts_modifyComponent (by decide) s x.node f)]

/-- The padding of a group is replaced on the sides that are declared. -/
theorem run_apply_padding {st : Stage}
    (hGroup : st.host.scene.component? LayoutGroup x.node = some g)
    (hPadding : isPadding d = true) (hAccepted : Accepted d) :
    x.apply d st = ((), { st with host := { st.host with
      scene := st.host.scene.modifyComponent x.node fun g : LayoutGroup =>
        { g with padding := repadded (x.surroundings st.host.scene) g.padding d } } }) := by
  obtain ⟨which, sides, hNamed, -, hRead, hOn⟩ := exists_sides hPadding hAccepted
  have hChange : Change.read (.padding which) d.value = .ok (.padding sides) := by
    rw [Change.read, hRead]
    rfl
  have hOver : ∀ p : Spacing Single, overPadding p (x.sidePixels st.host.scene sides) =
      repadded (x.surroundings st.host.scene) p d := fun p => by
    simp only [repadded, hOn]
    rfl
  have hRun : x.setPadding sides st = (.ok (), { st with host := { st.host with
      scene := st.host.scene.modifyComponent x.node fun g : LayoutGroup =>
        { g with padding := repadded (x.surroundings st.host.scene) g.padding d } } }) := by
    unfold setPadding
    rw [run_currentScene_bind]
    simp only [hGroup, Option.isSome_some, if_true, hOver]
    rfl
  unfold apply
  simp only [hNamed, hChange, perform, orWarn, hRun]

theorem component?_paddings {ds : List Declaration}
    (hPadding : ∀ d ∈ ds, isPadding d = true ∧ Accepted d) (st : Stage)
    (hs : st.host.scene.Forest) (hAround : x.surroundings st.host.scene = around)
    (hGroup : st.host.scene.component? LayoutGroup x.node = some g) :
    (ds.forM x.apply st).2.host.scene.component? LayoutGroup x.node =
      some { g with padding := ds.foldl (repadded around) g.padding } := by
  induction ds generalizing st g with
  | nil => exact hGroup
  | cons d ds ih =>
    obtain ⟨hFirst, hAccepted⟩ := hPadding d List.mem_cons_self
    have hOthers : ∀ d' ∈ ds, isPadding d' = true ∧ Accepted d' := fun d' hd' =>
      hPadding d' (List.mem_cons_of_mem d hd')
    have hScene : (x.apply d st).2.host.scene = st.host.scene.modifyComponent x.node
        fun g : LayoutGroup => { g with padding := repadded around g.padding d } := by
      rw [run_apply_padding hGroup hFirst hAccepted, hAround]
    have hForest := forest_of_touches (keeps_apply (x := x) d st).touches hs
    have hAround' : x.surroundings (x.apply d st).2.host.scene = around := by
      rw [hScene, surroundings_modifyGroup hs, hAround]
    have hGroup' : (x.apply d st).2.host.scene.component? LayoutGroup x.node =
        some { g with padding := repadded around g.padding d } := by
      rw [hScene, Host.component?_modifyComponent, if_pos rfl, hGroup]
      rfl
    rw [run_forM_cons, ih hOthers _ hForest hAround' hGroup', List.foldl_cons]

theorem surroundings_attachGroup (hs : s.Forest) (g : LayoutGroup) :
    x.surroundings (s.modifyComponents x.node (· ++ [.layoutGroup g])) = x.surroundings s := by
  have hKind : (Component.layoutGroup g : Component NodeId).kind ≠ .text := nofun
  have hParent : (s.modifyComponents x.node (· ++ [.layoutGroup g])).parentSize x.node =
      s.parentSize x.node :=
    hs.parentSize_eq_of_others (hs.modify _ _) (fun a => Scene.parent?_modify ..) fun a _ =>
      Scene.rect?_modify (f := fun n => { n with components := n.components ++ [.layoutGroup g] })
        (fun _ => rfl) s x.node a
  rw [surroundings_eq, surroundings_eq, outside, hParent,
    font?_eq (sameTexts_attach s x.node hKind)]
  rfl

/-! ## For a new group -/

/-- The declarations of an element without the attributes for its size, the weakest first. -/
def tiers (x : Subject) : List Declaration :=
  (x.sheet.matching x.element).flatMap (fun r => r.declarations.entries) ++
    (Sheet.inlineStyle x.element).entries

theorem style_eq (x : Subject) : x.style = x.tiers.foldl Catalog.put Catalog.empty := by
  rw [tiers, List.foldl_append, List.foldl_flatMap]
  rfl

theorem mem_declarations_of_mem_style (hd : d ∈ x.style.entries) : d ∈ x.declarations := by
  rw [style_eq] at hd
  rcases Catalog.mem_of_mem_foldl_put hd with hTiers | hNone
  · exact List.mem_append_left _ hTiers
  · cases hNone

theorem paddings_eq (x : Subject) : x.paddings = x.tiers.filter isPadding := by
  -- the attributes for the size give no padding
  have hNames : ∀ p ∈ sizeAttributes,
      paddingProperties.contains (Text.lowered p.1) = false := by decide
  obtain ⟨sizes, hDeclarations, hSizes⟩ : ∃ sizes, x.declarations = x.tiers ++ sizes ∧
      ∀ d ∈ sizes, ¬isPadding d = true := by
    refine ⟨_, rfl, fun d hd => ?_⟩
    obtain ⟨p, hp, hAttribute⟩ := List.mem_filterMap.mp hd
    obtain ⟨v, -, rfl⟩ := Option.map_eq_some_iff.mp hAttribute
    exact Bool.eq_false_iff.mp (hNames p hp)
  rw [paddings, hDeclarations, List.filter_append, List.filter_eq_nil_iff.mpr hSizes,
    List.append_nil]

theorem foldl_addPadding_eq {ds : List Declaration}
    (hAccepted : ∀ d ∈ ds, isPadding d = true → Accepted d) (p : Spacing Single) :
    ds.foldl (addPadding around) p = (ds.filter isPadding).foldl (repadded around) p := by
  induction ds generalizing p with
  | nil => simp only [List.filter_nil, List.foldl_nil]
  | cons d ds ih =>
    have hRest : ∀ d' ∈ ds, isPadding d' = true → Accepted d' := fun d' hd' =>
      hAccepted d' (List.mem_cons_of_mem d hd')
    rw [List.foldl_cons, ih hRest, List.filter_cons]
    split
    · rename_i hPadding
      have hFirst := hAccepted d List.mem_cons_self hPadding
      rw [List.foldl_cons, addPadding_eq_repadded hPadding hFirst]
    · rename_i hOther
      rw [addPadding_of_lowered (by simpa [isPadding] using hOther)]

theorem declaredPadding_style (hAccepted : ∀ d ∈ x.paddings, Accepted d) (around : Surroundings) :
    declaredPadding x.style around = paddedBy around (x.style.entries.filter isPadding) := by
  have hStyle : ∀ d ∈ x.style.entries, isPadding d = true → Accepted d := fun d hd hPadding =>
    hAccepted d (List.mem_filter.mpr ⟨mem_declarations_of_mem_style hd, hPadding⟩)
  rw [declaredPadding, foldl_addPadding_eq hStyle, foldl_repadded]

/-- If no padding is declared again, the merged style has the paddings in the order of the tiers. -/
theorem filter_style_of_nodup (hNodup : (x.paddings.map Declaration.property).Nodup) :
    x.style.entries.filter isPadding = x.paddings := by
  rw [paddings_eq] at hNodup ⊢
  have hFilter : x.style.entries.filter isPadding =
      ((x.tiers.filter isPadding).foldl Catalog.put Catalog.empty : Declarations).entries := by
    rw [style_eq]
    exact Catalog.filter_foldl_put (fun n => paddingProperties.contains (Text.lowered n)) x.tiers
      Catalog.empty
  exact hFilter.trans (Catalog.foldl_put_of_nodup hNodup)

/-! ## Both ways -/

/-- The paddings that a group of the node gets in either way. The group that is made for the first
child has the paddings of the merged style, with lengths that refer to the node itself; a group that
is there when the element is styled has them in the order of the tiers, with lengths that refer to
the parent of the node. The two agree if no property is declared again and the lengths that count
are neither percentages nor in `em`. -/
theorem padding_of_both_ways (hs : s.Reachable) (hLive : s.contains x.node = true)
    (hNone : s.component? LayoutGroup x.node = none) (hAsks : asksForGroup x.style = true)
    (hChild : y.ChildOf x) (hAccepted : ∀ d ∈ x.paddings, Accepted d) (f : Finder)
    (ws : List Warning) :
    let own : Surroundings := ⟨s.sizeOf x.node, x.canvas, x.fontSize⟩
    let merged := x.style.entries.filter isPadding
    (∃ t g, Host.Does y.ensureParentGroup (Host.ofScene s) () t ∧
      t.component? LayoutGroup x.node = some g ∧ g.padding = paddedBy own merged) ∧
    (∀ g : LayoutGroup, g.padding = .zero →
      let given := s.modifyComponents x.node (· ++ [.layoutGroup g])
      (x.paddings.forM x.apply ⟨Host.ofScene given, f, ws⟩).2.host.scene.component? LayoutGroup
        x.node = some { g with padding := paddedBy (x.surroundings s) x.paddings }) ∧
    ((x.paddings.map Declaration.property).Nodup →
      (∀ side l, (x.paddings.filterMap (paddingOn? side)).getLast? = some l →
        l.unit ≠ .percent ∧ l.unit ≠ .em) →
      paddedBy own merged = paddedBy (x.surroundings s) x.paddings) := by
  intro own merged
  refine ⟨?_, ?_, fun hNodup hUnits => ?_⟩
  -- the group for the first child is made from the merged style
  · have hDoes := does_ensureParentGroup (Host.willing_ofScene s) hChild.parentNode_eq hLive
    have hStyle : y.parentStyle? = some x.style := by
      rw [parentStyle?, hChild.parentElement_eq, hChild.sheet_eq]
      rfl
    have hFor : y.groupFor s x.node = [.layoutGroup (groupOf x.style own)] := by
      rw [groupFor, hStyle, groupAsked, hAsks, hNone, hChild.canvas_eq, hChild.fontSize_eq]
      rfl
    rw [show (Host.ofScene s).scene = s from rfl, hFor] at hDoes
    refine ⟨_, groupOf x.style own, hDoes, Host.component?_attach hLive hNone _, ?_⟩
    exact declaredPadding_style hAccepted own
  -- the group that is there gets one declaration after the other
  · intro g hZero given
    have hGroup : given.component? LayoutGroup x.node = some g :=
      Host.component?_attach hLive hNone g
    have hPaddings : ∀ d ∈ x.paddings, isPadding d = true ∧ Accepted d := fun d hd =>
      ⟨(List.mem_filter.mp hd).2, hAccepted d hd⟩
    have hForest : given.Forest := hs.forest.modify _ _
    have hApplied := component?_paddings hPaddings ⟨Host.ofScene given, f, ws⟩ hForest
      (surroundings_attachGroup hs.forest g) hGroup
    rwa [hZero, foldl_repadded] at hApplied
  -- the same declarations count, and their lengths refer to nothing that is different
  · have hMerged : merged = x.paddings := filter_style_of_nodup hNodup
    rw [hMerged]
    refine Spacing.eq_of_on fun side => ?_
    simp only [paddedBy, Spacing.on_ofSides]
    cases hLast : (x.paddings.filterMap (paddingOn? side)).getLast? with
    | none => rfl
    | some l =>
      obtain ⟨hPercent, hEm⟩ := hUnits side l hLast
      have hCanvas : own.canvas = (x.surroundings s).canvas := rfl
      exact pixels_eq hCanvas hPercent hEm side.axis

/-- A row with a padding by a rule, and another one on its left by the `style` attribute. -/
theorem padding_of_both_ways_row :
    let top := Scene.empty.nodes.nextKey
    let n := (Scene.withCanvas 800 600).nodes.nextKey
    let c := (Operation.run (.create "Row" top) (Scene.withCanvas 800 600)).nodes.nextKey
    let s := Operation.runAll [.create "Row" top, .create "Label" n] (Scene.withCanvas 800 600)
    let row : Element := .mk "Row" none
      (Catalog.ofList [⟨"style", "flex-direction: row; padding-left: 2px"⟩]) [] none
    let rule : Rule := ⟨"Row", Catalog.ofList [⟨"padding", "10px"⟩]⟩
    let x : Subject := ⟨row, n, none, some top, ⟨800, 600⟩, Catalog.ofList [rule], 14, true⟩
    let label : Element := .mk "Label" none Catalog.empty [] none
    let y : Subject :=
      ⟨label, c, some row, some n, ⟨800, 600⟩, Catalog.ofList [rule], 14, false⟩
    s.Reachable ∧ s.contains n = true ∧ s.component? LayoutGroup n = none ∧
      asksForGroup x.style = true ∧ y.ChildOf x ∧ (∀ d ∈ x.paddings, Accepted d) ∧
      (x.paddings.map Declaration.property).Nodup ∧
      paddedBy ⟨s.sizeOf n, ⟨800, 600⟩, 14⟩ (x.style.entries.filter isPadding) =
        paddedBy (x.surroundings s) x.paddings := by
  intro top n c s row rule x label y
  have hs : s.Reachable :=
    ⟨[.create "Row" top, .create "Label" n], Or.inr ⟨800, 600, rfl⟩⟩
  have hLive : s.contains n = true := by decide +kernel
  have hNone : s.component? LayoutGroup n = none := by decide +kernel
  have hAsks : asksForGroup x.style = true := by decide +kernel
  have hChild : y.ChildOf x := ⟨rfl, rfl, rfl, rfl, rfl⟩
  have hPaddings : x.paddings = [⟨"padding", "10px"⟩, ⟨"padding-left", "2px"⟩] := by
    decide +kernel
  have hAccepted : ∀ d ∈ x.paddings, Accepted d := by
    rw [hPaddings]
    simp only [List.forall_mem_cons, List.not_mem_nil, false_imp_iff, implies_true, and_true]
    exact ⟨⟨.padding none, .padding (.all (some (.px 10))), by decide +kernel, by decide +kernel⟩,
      ⟨.padding (some .left), .padding (onSide .left (.px 2)), by decide +kernel,
        by decide +kernel⟩⟩
  have hNodup : (x.paddings.map Declaration.property).Nodup := by
    rw [hPaddings]
    decide
  have hUnits : ∀ side l, (x.paddings.filterMap (paddingOn? side)).getLast? = some l →
      l.unit ≠ .percent ∧ l.unit ≠ .em := by
    have hLasts : ∀ side : Rect.Side, (x.paddings.filterMap (paddingOn? side)).getLast? =
        some (if side = .left then .px 2 else .px 10) := by
      rw [hPaddings]
      intro side
      cases side <;> decide +kernel
    intro side l hLast
    obtain rfl := Option.some.inj ((hLasts side).symm.trans hLast)
    cases side <;> decide
  have hBoth := padding_of_both_ways hs hLive hNone hAsks hChild hAccepted
    (.ofSource Asset.Shelf.empty.source) []
  exact ⟨hs, hLive, hNone, hAsks, hChild, hAccepted, hNodup, hBoth.2.2 hNodup hUnits⟩

/-- A row of 200 by 100 pixels on a canvas of 800 by 600 pixels. For the group that it gets with its
first child its padding is a tenth of the row, for a group that it has already a tenth of the
canvas. -/
theorem not_same_padding :
    let top := Scene.empty.nodes.nextKey
    let n := (Scene.withCanvas 800 600).nodes.nextKey
    let c := (Operation.run (.create "Row" top) (Scene.withCanvas 800 600)).nodes.nextKey
    let s := Operation.runAll [.create "Row" top, .setRect n (.centered 200 100),
      .create "Label" n] (Scene.withCanvas 800 600)
    let row : Element := .mk "Row" none
      (Catalog.ofList [⟨"style", "flex-direction: row; padding: 10%"⟩]) [] none
    let x : Subject := ⟨row, n, none, some top, ⟨800, 600⟩, Catalog.empty, 14, false⟩
    let label : Element := .mk "Label" none Catalog.empty [] none
    let y : Subject := ⟨label, c, some row, some n, ⟨800, 600⟩, Catalog.empty, 14, false⟩
    let given := s.modifyComponents n (· ++ [.layoutGroup (.along .horizontal)])
    let padding? (t : Scene) := (t.component? LayoutGroup n).map LayoutGroup.padding
    s.Reachable ∧ s.children n = [c] ∧ s.component? LayoutGroup n = none ∧
      asksForGroup x.style = true ∧ y.ChildOf x ∧
      (∀ d ∈ x.paddings, Accepted d) ∧
      padding? (y.ensureParentGroup (Host.ofScene s)).2.scene = some (.symmetric 10 20) ∧
      padding? given = some .zero ∧
      padding? (x.paddings.forM x.apply
        ⟨Host.ofScene given, .ofSource Asset.Shelf.empty.source, []⟩).2.host.scene =
          some (.symmetric 60 80) := by
  intro top n c s row x label y given padding?
  have hs : s.Reachable := ⟨[.create "Row" top, .setRect n (.centered 200 100),
    .create "Label" n], Or.inr ⟨800, 600, rfl⟩⟩
  have hPaddings : x.paddings = [⟨"padding", "10%"⟩] := by decide +kernel
  have hAccepted : ∀ d ∈ x.paddings, Accepted d := by
    rw [hPaddings]
    intro d hd
    obtain rfl := List.mem_singleton.mp hd
    exact ⟨.padding none, .padding (.all (some ⟨10, .percent⟩)), by decide +kernel,
      by decide +kernel⟩
  exact ⟨hs, by decide +kernel, by decide +kernel, by decide +kernel, ⟨rfl, rfl, rfl, rfl, rfl⟩,
    hAccepted, by decide +kernel, by decide +kernel, by decide +kernel⟩

end Subject

end AnchoredUi.Styling
