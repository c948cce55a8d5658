import AnchoredUi.Proofs.Conversion.Twin
import AnchoredUi.Proofs.SceneGraph.Twin

/-!
# Declarations that are rejected

A declaration is rejected if nothing has its name, or if its value cannot be read. It is reported
and not applied. That does not make it void: a style is also read for the layout of children and
for the size in the end, and there a value that cannot be read still hides a weaker one, or asks
for a layout group. Where these readings come to the same without the declaration, it leaves
nothing but a warning for each element that its rule applies to.

* `not_inert`: a rejected declaration, or attribute, that changes the nodes.
* `inert_of_readsAlike`: rejected declarations and attributes that do not.
-/

namespace AnchoredUi.Conversion

open Number Plane SceneGraph Sprite Markup Style Kind Widget Styling

/-! ## Declarations of rules -/

section Rules

variable {pre post : List Rule} {selector : String} {before after : List Declaration}
  {d : Declaration} {f : StyleFault} {e : Element}

theorem thinned_middle (hd : Subject.rejection? d = some f) (ds es : List Declaration) :
    Subject.Thinned (ds ++ d :: es) (ds ++ es) [f] := by
  induction ds with
  | nil => exact .drop hd (Subject.thinned_refl es)
  | cons c ds ih => exact .keep c ih

/-- A sheet with a rule among others. -/
def sheetOf (pre post : List Rule) (selector : String) (ds : List Declaration) : Sheet :=
  ⟨pre ++ ⟨selector, ⟨ds⟩⟩ :: post⟩

theorem apart_dropped (pre post : List Rule) (selector : String) (before after : List Declaration)
    (d : Declaration) : List.Forall₂ (Rule.Apart d.property)
      (sheetOf pre post selector (before ++ d :: after)).entries
      (sheetOf pre post selector (before ++ after)).entries := by
  have hSame : ∀ rs : List Rule, List.Forall₂ (Rule.Apart d.property) rs rs := fun rs =>
    List.forall₂_same.mpr fun _ _ => ⟨rfl, rfl⟩
  refine List.rel_append (hSame pre) (.cons ⟨rfl, ?_⟩ (hSame post))
  simp [Catalog.others]

/-- What is declared by the rules for an element that one of them applies to. -/
theorem flatMap_matching (pre post : List Rule) {ds : List Declaration}
    (h : Rule.applies ⟨selector, ⟨ds⟩⟩ e = true) :
    ((sheetOf pre post selector ds).matching e).flatMap (fun r => r.declarations.entries) =
      (pre.filter fun r => r.applies e).flatMap (fun r => r.declarations.entries) ++
        (ds ++ (post.filter fun r => r.applies e).flatMap fun r => r.declarations.entries) := by
  simp [sheetOf, Sheet.matching, h]

/-- An element is akin to itself under a sheet that lacks a rejected declaration. -/
theorem akin_dropped (hd : Subject.rejection? d = some f)
    (hApplies : Rule.applies ⟨selector, ⟨before ++ d :: after⟩⟩ e = true)
    (hReads : Text.lowered d.property ∉ readProperties ∨
      ReadsAlike (sheetOf pre post selector (before ++ d :: after))
        (sheetOf pre post selector (before ++ after)) e e) :
    Akin (sheetOf pre post selector (before ++ d :: after))
      (sheetOf pre post selector (before ++ after)) e e [f] := by
  have hApplies' : Rule.applies ⟨selector, ⟨before ++ after⟩⟩ e = true := hApplies
  refine ⟨lookalike_refl e, ?_, fun x y hx hy => ?_⟩
  · rcases hReads with hName | hReads
    · exact readsAlike_of_apart (apart_dropped pre post selector before after d) hName e
    · exact hReads
  · unfold Subject.declarations
    rw [hx.1, hx.2, hy.1, hy.2, flatMap_matching pre post hApplies,
      flatMap_matching pre post hApplies']
    have hRule := (thinned_middle hd before after).append
      (Subject.thinned_refl ((post.filter fun r => r.applies e).flatMap fun r =>
        r.declarations.entries))
    exact (((Subject.thinned_refl _).append hRule).append (Subject.thinned_refl _)).append
      (Subject.thinned_refl _)

/-- An element that the rule does not apply to is not concerned. -/
theorem akin_of_not_applies
    (hApplies : Rule.applies ⟨selector, ⟨before ++ d :: after⟩⟩ e = false) :
    Akin (sheetOf pre post selector (before ++ d :: after))
      (sheetOf pre post selector (before ++ after)) e e [] := by
  have hApplies' : Rule.applies ⟨selector, ⟨before ++ after⟩⟩ e = false := hApplies
  refine akin_of_same (lookalike_refl e) (fun _ _ => rfl) ?_
  simp [sheetOf, Sheet.matching, hApplies, hApplies']

theorem flatMap_warnings (p : Element → Bool) (f : StyleFault) (es : List Element) :
    (es.flatMap fun e => (if p e then [f] else []).map (Subject.styleWarning e)) =
      (es.filter p).map fun e => Subject.styleWarning e f := by
  induction es with
  | nil => rfl
  | cons e es ih =>
    rw [List.flatMap_cons, ih]
    cases hp : p e <;> simp [hp]

theorem akinTree_dropped {root : Element} (hd : Subject.rejection? d = some f)
    (hReads : ∀ e ∈ root.elements, Rule.applies ⟨selector, ⟨before ++ d :: after⟩⟩ e = true →
      Text.lowered d.property ∉ readProperties ∨
        ReadsAlike (sheetOf pre post selector (before ++ d :: after))
          (sheetOf pre post selector (before ++ after)) e e) :
    AkinTree (sheetOf pre post selector (before ++ d :: after))
      (sheetOf pre post selector (before ++ after)) root root
      ((root.elements.filter (Rule.applies ⟨selector, ⟨before ++ d :: after⟩⟩)).map fun e =>
        Subject.styleWarning e f) := by
  have hAkin : ∀ e ∈ root.elements, Akin (sheetOf pre post selector (before ++ d :: after))
      (sheetOf pre post selector (before ++ after)) e e
      (if Rule.applies ⟨selector, ⟨before ++ d :: after⟩⟩ e then [f] else []) := by
    intro e he
    cases hApplies : Rule.applies ⟨selector, ⟨before ++ d :: after⟩⟩ e with
    | false => exact akin_of_not_applies hApplies
    | true => exact akin_dropped hd hApplies (hReads e he hApplies)
  have hTree := akinTree_of_elements _ hAkin
  rwa [flatMap_warnings] at hTree

end Rules

/-! ## Attributes -/

/-- An element without an attribute. -/
def without (name : String) : Element → Element
  | .mk tag space attributes children text =>
    .mk tag space ⟨attributes.others name⟩ children text

/-- The second document is the first one, in which the element `e` is without an attribute. -/
inductive Lacks (name : String) (e : Element) : Element → Element → Prop
  | here : Lacks name e e (without name e)
  | inside {tag : String} {space : Option String} {attributes : Attributes} {text : Option String}
      (before after : List Element) {c c' : Element} (hChild : Lacks name e c c') :
      Lacks name e (.mk tag space attributes (before ++ c :: after) text)
        (.mk tag space attributes (before ++ c' :: after) text)

theorem attr?_without (name : String) (e : Element) (n : String) :
    (without name e).attr? n = if n = name then none else e.attr? n := by
  obtain ⟨tag, space, attributes, children, text⟩ := e
  simp only [without, Element.attr?, Element.attributes, Catalog.find?_others]
  split <;> rfl

theorem lookalike_without {name : String} (hName : name ∈ Subject.sizeAttributes.map Prod.fst)
    (e : Element) : Lookalike e (without name e) := by
  have hAttr : ∀ n, n ∉ Subject.sizeAttributes.map Prod.fst →
      e.attr? n = (without name e).attr? n := by
    intro n hn
    rw [attr?_without, if_neg]
    rintro rfl
    exact hn hName
  obtain ⟨tag, space, attributes, children, text⟩ := e
  exact ⟨rfl, rfl, rfl, hAttr⟩

theorem rejection?_size {name : String} (hName : name ∈ Subject.sizeAttributes.map Prod.fst)
    {v : String} {g : ValueFault} (hRead : readScalar v = .error g) :
    Subject.rejection? ⟨name, v⟩ = some (.invalidValue name g) := by
  have hCases : name = "width" ∨ name = "height" := by simpa [Subject.sizeAttributes] using hName
  rcases hCases with rfl | rfl
  · have hProperty : Property.named? "width" = some (.size .horizontal) := by decide
    simp only [Subject.rejection?, hProperty, Change.read, hRead, Except.map]
    rfl
  · have hProperty : Property.named? "height" = some (.size .vertical) := by decide
    simp only [Subject.rejection?, hProperty, Change.read, hRead, Except.map]
    rfl

theorem thinned_sizes {name : String} (hName : name ∈ Subject.sizeAttributes.map Prod.fst)
    {e : Element} {v : String} (hv : e.attr? name = some v) {f : StyleFault}
    (hd : Subject.rejection? ⟨name, v⟩ = some f) :
    Subject.Thinned
      (Subject.sizeAttributes.filterMap fun p => (e.attr? p.1).map fun v => ⟨p.1, v⟩)
      (Subject.sizeAttributes.filterMap fun p =>
        ((without name e).attr? p.1).map fun v => ⟨p.1, v⟩) [f] := by
  have hCases : name = "width" ∨ name = "height" := by simpa [Subject.sizeAttributes] using hName
  simp only [attr?_without]
  rcases hCases with rfl | rfl
  · simp only [Subject.sizeAttributes, List.filterMap_cons, List.filterMap_nil, hv, if_true,
      Option.map_some, Option.map_none]
    exact .drop hd (Subject.thinned_refl _)
  · have hNe : ¬ "width" = "height" := by decide
    simp only [Subject.sizeAttributes, List.filterMap_cons, List.filterMap_nil, hv, if_true,
      if_neg hNe, Option.map_some, Option.map_none]
    cases e.attr? "width" with
    | none => exact .drop hd .nil
    | some w => exact .keep _ (.drop hd .nil)

/-- An element with a size that cannot be read is akin to the element without it, if nothing else
gives it a size. -/
theorem akin_without {sheet : Sheet} {name : String}
    (hName : name ∈ Subject.sizeAttributes.map Prod.fst) {e : Element} {v : String}
    (hv : e.attr? name = some v) {g : ValueFault} (hRead : readScalar v = .error g)
    (hNone : ∀ x : Subject, SubjectFor sheet (without name e) x → x.readableSize? name = none) :
    Akin sheet sheet e (without name e) [.invalidValue name g] := by
  have hLook := lookalike_without hName e
  refine ⟨hLook, ⟨?_, fun x y hx hy p hp => ?_⟩, fun x y hx hy => ?_⟩
  · rw [hLook.declared_eq]
    exact alikeStyles_refl _
  · by_cases hEq : p.1 = name
    · have hUnread : x.readableSize? name = none := by
        simp [Subject.readableSize?, Subject.declaredSize?, hx.2, hv, hRead, Except.toOption]
      rw [hEq, hUnread, hNone y hy]
    · unfold Subject.readableSize? Subject.declaredSize? Sheet.lookup
      rw [hx.1, hx.2, hy.1, hy.2, attr?_without, if_neg hEq, hLook.inlineStyle_eq,
        hLook.matching_eq]
  · unfold Subject.declarations
    rw [hx.1, hx.2, hy.1, hy.2, ← hLook.inlineStyle_eq, ← hLook.matching_eq]
    have hSizes := thinned_sizes hName hv (rejection?_size hName hRead)
    exact (Subject.thinned_refl _).append hSizes

theorem akinTrees_replace {sheet : Sheet} (before after : List Element) {c c' : Element}
    {ws : List Warning} (h : AkinTree sheet sheet c c' ws) :
    AkinTrees sheet sheet (before ++ c :: after) (before ++ c' :: after) ws := by
  induction before with
  | nil =>
    have hTrees := AkinTrees.cons h (akinTrees_refl sheet after)
    rwa [List.append_nil] at hTrees
  | cons b before ih => exact .cons (akinTree_refl sheet b) ih

theorem akinTree_lacks {sheet : Sheet} {name : String} {e root root' : Element}
    {fs : List StyleFault} (h : Lacks name e root root')
    (hAkin : Akin sheet sheet e (without name e) fs) :
    AkinTree sheet sheet root root' (fs.map (Subject.styleWarning e)) := by
  induction h with
  | here =>
    obtain ⟨tag, space, attributes, children, text⟩ := e
    have hTree := AkinTree.mk hAkin (akinTrees_refl sheet children)
    rwa [List.append_nil] at hTree
  | @inside tag space attributes text before after c c' _ ih =>
    have hHead : Akin sheet sheet (.mk tag space attributes (before ++ c :: after) text)
        (.mk tag space attributes (before ++ c' :: after) text) [] :=
      akin_of_same ⟨rfl, rfl, rfl, fun _ _ => rfl⟩ (fun _ _ => rfl) rfl
    exact .mk hHead (akinTrees_replace before after ih)

/-! ## Conversions -/

/-- Two conversions that give the same tree up to keys, and the same warnings in the same order, but
that the first one gives some more. -/
structure SameButWarnings (run run' : Result × Workshop) (more : List Warning) : Prop where
  count_eq : run.1.count = run'.1.count
  tree : ∃ a b, run.1.root? = some a ∧ run'.1.root? = some b ∧
    Scene.SameTree run.2.host.scene run'.2.host.scene a b
  kept : run'.1.warnings.Sublist run.1.warnings
  perm : run.1.warnings.Perm (run'.1.warnings ++ more)

section Tops

variable {run run' : Result × Workshop} {more : List Warning}
  (h : SameButWarnings run run' more)
include h

theorem SameButWarnings.has_eq (kind : ComponentKind) :
    run.1.root?.map (run.2.host.scene.has kind) =
      run'.1.root?.map (run'.2.host.scene.has kind) := by
  obtain ⟨a, b, hRoot, hRoot', hTree⟩ := h.tree
  obtain ⟨n, m, hn, hm, hAlike⟩ := hTree.node hTree.tops
  have hKinds := any_kind_eq_of_alike hAlike.components kind
  simp [hRoot, hRoot', Scene.has, Scene.components, hn, hm, hKinds]

theorem SameButWarnings.rect_eq :
    run.1.root?.bind run.2.host.scene.rect? = run'.1.root?.bind run'.2.host.scene.rect? := by
  obtain ⟨a, b, hRoot, hRoot', hTree⟩ := h.tree
  obtain ⟨n, m, hn, hm, hAlike⟩ := hTree.node hTree.tops
  simp [hRoot, hRoot', Scene.rect?, hn, hm, hAlike.rect_eq]

end Tops

/-- A conversion on a canvas, without known types and without pictures. -/
def plainRun (root : Element) (sheet : Sheet) : Result × Workshop :=
  Workshop.convert ⟨.ofFinder (.standard ⟨[]⟩) (.ofSource Asset.Shelf.empty.source),
    Host.ofScene (Scene.withCanvas 800 600)⟩ root sheet Scene.empty.nodes.nextKey ⟨800, 600⟩

/-- An element with a label in it. -/
def panel : Element := .mk "VisualElement" none Catalog.empty [.bare "Label"] none

/-- An element with a size in its style, and another one that cannot be read. -/
def narrow : Element :=
  .mk "VisualElement" none ⟨[⟨"style", "width: 100px; padding: 5px"⟩, ⟨"width", "abc"⟩]⟩ [] none

/-- A rejected direction still asks for a layout group, and a size that cannot be read still keeps
the size of the style from being restored after the padding was applied. -/
theorem not_inert :
    Subject.rejection? ⟨"flex-direction", "diagonal"⟩ ≠ none ∧
      (∀ more, ¬ SameButWarnings
        (plainRun panel (sheetOf [] [] "VisualElement" [⟨"flex-direction", "diagonal"⟩]))
        (plainRun panel (sheetOf [] [] "VisualElement" [])) more) ∧
      narrow.attr? "width" = some "abc" ∧ (readScalar "abc").toOption = none ∧
      ∀ more, ¬ SameButWarnings (plainRun narrow Catalog.empty)
        (plainRun (without "width" narrow) Catalog.empty) more := by
  refine ⟨by decide +kernel, fun more h => ?_, rfl, by decide +kernel, fun more h => ?_⟩
  · have hGroups := h.has_eq .layoutGroup
    revert hGroups
    decide +kernel
  · have hRects := h.rect_eq
    revert hRects
    decide +kernel

theorem sameButWarnings_of_akinTree {w : Workshop} (hw : w.host.Willing)
    (hs : w.host.scene.Forest) {p : NodeId} (hp : w.host.scene.contains p = true)
    {root root' : Element} {sheet sheet' : Sheet} {ws : List Warning}
    (hTree : AkinTree sheet sheet' root root' ws) (canvas : Size Single) :
    SameButWarnings (w.convert root sheet p canvas) (w.convert root' sheet' p canvas) ws := by
  have hG : Grounds.Level ⟨w.host.scene, w.host.scene, p, p⟩ := ⟨hs, hs, hp, hp, rfl⟩
  obtain ⟨R, a, b, hab, hRoot, hRoot', hTop, hNodes, hStages⟩ :=
    twins_convert hw hw rfl rfl rfl (fun _ => rfl) hG rfl hTree canvas
  have hRenames := hStages.scenes.renames hG hTop hab
  refine ⟨hNodes.length_eq, ⟨a, b, hRoot, hRoot', ?_⟩, hStages.ahead.1, hStages.ahead.2⟩
  exact hRenames.sameTree hStages.scenes.left_forest hStages.scenes.right_forest

/-- A declaration that is rejected leaves nothing but warnings, one for each element that its rule
applies to, if the elements read alike without it; in particular if its name is none that is read
at other times than when it is applied. The same goes for a size attribute that cannot be read, if
nothing else gives the element that size. -/
theorem inert_of_readsAlike (c : Converter) (canvas : Size Single) {s : Scene} {p : NodeId}
    (hs : s.Reachable) (hp : s.contains p = true) (root : Element) :
    (∀ (pre post : List Rule) (selector : String) (before after : List Declaration)
        (d : Declaration) (f : StyleFault), Subject.rejection? d = some f →
      let rule : Rule := ⟨selector, ⟨before ++ d :: after⟩⟩
      let sheet := sheetOf pre post selector (before ++ d :: after)
      let sheet' := sheetOf pre post selector (before ++ after)
      (∀ e ∈ root.elements, rule.applies e = true →
        Text.lowered d.property ∉ readProperties ∨ ReadsAlike sheet sheet' e e) →
      SameButWarnings (Workshop.convert ⟨c, Host.ofScene s⟩ root sheet p canvas)
        (Workshop.convert ⟨c, Host.ofScene s⟩ root sheet' p canvas)
        ((root.elements.filter rule.applies).map fun e => Subject.styleWarning e f)) ∧
    (∀ (sheet : Sheet) (root' e : Element) (name value : String) (g : ValueFault),
      name ∈ Subject.sizeAttributes.map Prod.fst → Lacks name e root root' →
      e.attr? name = some value → readScalar value = .error g →
      (∀ x : Subject, SubjectFor sheet (without name e) x → x.readableSize? name = none) →
      SameButWarnings (Workshop.convert ⟨c, Host.ofScene s⟩ root sheet p canvas)
        (Workshop.convert ⟨c, Host.ofScene s⟩ root' sheet p canvas)
        [Subject.styleWarning e (.invalidValue name g)]) := by
  refine ⟨?_, ?_⟩
  · intro pre post selector before after d f hd rule sheet sheet' hReads
    exact sameButWarnings_of_akinTree (Host.willing_ofScene s) hs.forest hp
      (akinTree_dropped hd hReads) canvas
  · intro sheet root' e name value g hName hLacks hValue hRead hNone
    have hAkin := akin_without hName hValue hRead hNone
    exact sameButWarnings_of_akinTree (Host.willing_ofScene s) hs.forest hp
      (akinTree_lacks hLacks hAkin) canvas

/-- A property of no known name for a panel, and a size that cannot be read on an element without
any other. -/
theorem inert_of_readsAlike_panel :
    let d : Declaration := ⟨"colour", "red"⟩
    let plain : Element := .mk "VisualElement" none ⟨[⟨"width", "abc"⟩]⟩ [] none
    Subject.rejection? d = some (.unknownProperty "colour") ∧
      Text.lowered d.property ∉ readProperties ∧
      SameButWarnings (plainRun panel (sheetOf [] [] "VisualElement" [d]))
        (plainRun panel (sheetOf [] [] "VisualElement" []))
        ((panel.elements.filter (Rule.applies ⟨"VisualElement", ⟨[d]⟩⟩)).map fun e =>
          Subject.styleWarning e (.unknownProperty "colour")) ∧
      plain.attr? "width" = some "abc" ∧ readScalar "abc" = .error (.notALength "abc") ∧
      SameButWarnings (plainRun plain Catalog.empty)
        (plainRun (without "width" plain) Catalog.empty)
        [Subject.styleWarning plain (.invalidValue "width" (.notALength "abc"))] := by
  intro d plain
  have hs : (Scene.withCanvas 800 600).Reachable := ⟨[], Or.inr ⟨800, 600, rfl⟩⟩
  have hp : (Scene.withCanvas 800 600).contains Scene.empty.nodes.nextKey = true := rfl
  have hd : Subject.rejection? ⟨"colour", "red"⟩ = some (.unknownProperty "colour") := by
    decide +kernel
  have hName : Text.lowered "colour" ∉ readProperties := by decide +kernel
  have hRead : readScalar "abc" = .error (.notALength "abc") := by decide +kernel
  have hNone : ∀ x : Subject, SubjectFor Catalog.empty (without "width" plain) x →
      x.readableSize? "width" = none := by
    rintro x ⟨hSheet, hElement⟩
    unfold Subject.readableSize? Subject.declaredSize?
    rw [hSheet, hElement]
    decide +kernel
  have hRule := (inert_of_readsAlike
    (.ofFinder (.standard ⟨[]⟩) (.ofSource Asset.Shelf.empty.source)) ⟨800, 600⟩ hs hp panel).1
    [] [] "VisualElement" [] [] d _ hd fun _ _ _ => Or.inl hName
  have hAttribute := (inert_of_readsAlike
    (.ofFinder (.standard ⟨[]⟩) (.ofSource Asset.Shelf.empty.source)) ⟨800, 600⟩ hs hp plain).2
    Catalog.empty (without "width" plain) plain "width" "abc" _ (by decide) .here rfl hRead hNone
  exact ⟨hd, hName, hRule, rfl, hRead, hAttribute⟩

end AnchoredUi.Conversion
