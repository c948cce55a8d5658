import AnchoredUi.Proofs.Styling.Extent
import AnchoredUi.Proofs.Styling.Padding

/-!
# The value that wins

A property may be declared for an element several times, and its value is looked for in three ways.
The declarations are applied one after the other, in the order of the tiers. They are merged into
one style, where each of them takes the place of the one before. And single properties are looked up
among the rules that apply, from the last one on. All of this comes to the value that is declared
last in the order of the tiers.

A merged block is looked up from its front, where a property that stands twice would be found too
early. So blocks have to declare a property once only, as blocks that are read from a text do.

* `lastValue?`: the value that is declared last.
* `get?_overlay`, `get?_computed`, `get?_style`: merged declarations.
* `winner_of_readers`: all readers of a declared value.
-/

namespace AnchoredUi.Style

open Markup

/-- The value that a list of declarations gives a property last. -/
def lastValue? (ds : List Declaration) (property : String) : Option String :=
  (ds.filter fun d => d.property = property).getLast?.map Declaration.value

section Values

variable {property v : String} {ds : Declarations} {rs : List Rule}

theorem lastValue?_append (ds es : List Declaration) (property : String) :
    lastValue? (ds ++ es) property = (lastValue? es property).or (lastValue? ds property) := by
  unfold lastValue?
  rw [List.filter_append, List.getLast?_append, Option.map_or]

/-- Behind the declaration with that value, the property is not declared any more. -/
theorem lastValue?_eq_some_iff {ds : List Declaration} :
    lastValue? ds property = some v ↔ ∃ before d after, ds = before ++ d :: after ∧
      (d.property = property ∧ d.value = v) ∧ ∀ c ∈ after, c.property ≠ property := by
  have hFound : lastValue? ds property =
      (ds.filterMap fun d => if d.property = property then some d.value else none).getLast? := by
    unfold lastValue?
    rw [← List.getLast?_map, ← List.filterMap_eq_map, List.filterMap_filter]
    simp only [decide_eq_true_eq, Function.comp_apply]
  rw [hFound, Styling.Subject.getLast?_filterMap_eq_some_iff]
  simp only [Option.ite_none_right_eq_some, Option.some.injEq, ite_eq_right_iff, reduceCtorEq,
    imp_false]

/-! ## Merged declarations -/

theorem get?_foldl_put (es : List Declaration) (ds : Declarations) (property : String) :
    (es.foldl Catalog.put ds : Declarations).get? property =
      (lastValue? es property).or (ds.get? property) := by
  unfold Declarations.get? lastValue?
  rw [Catalog.find?_foldl_put, Option.map_or]

/-- A block that declares a property once is looked up from either end. -/
theorem get?_eq_lastValue? (h : ds.keys.Nodup) (property : String) :
    ds.get? property = lastValue? ds.entries property := by
  unfold Declarations.get? lastValue?
  rw [Catalog.find?_eq_getLast? h]

theorem nodup_keys_inlineStyle (e : Element) : (Sheet.inlineStyle e).keys.Nodup := by
  unfold Sheet.inlineStyle
  split
  · exact Catalog.nodup_keys_ofList _
  · exact List.nodup_nil

/-- Declarations on top of others win. -/
theorem get?_overlay (ds : Declarations) {es : Declarations} (h : es.keys.Nodup)
    (property : String) :
    (ds.overlay es).get? property = (es.get? property).or (ds.get? property) := by
  rw [Declarations.overlay, get?_foldl_put, get?_eq_lastValue? h]

/-- Of the rules that set a property, the last one says what is declared last. -/
theorem lastValue?_flatMap (h : ∀ r ∈ rs, r.declarations.keys.Nodup) (property : String) :
    lastValue? (rs.flatMap fun r => r.declarations.entries) property =
      (rs.filterMap fun r => r.declarations.get? property).getLast? := by
  induction rs with
  | nil => rfl
  | cons r rs ih =>
    obtain ⟨hFirst, hRest⟩ := List.forall_mem_cons.mp h
    rw [List.flatMap_cons, lastValue?_append, ih hRest, ← get?_eq_lastValue? hFirst]
    cases hGet : r.declarations.get? property with
    | none => simp only [List.filterMap_cons, hGet, Option.or_none]
    | some v =>
      simp only [List.filterMap_cons, hGet, List.getLast?_cons]
      cases (rs.filterMap fun r => r.declarations.get? property).getLast? <;> rfl

namespace Sheet

variable {s : Sheet}

theorem get?_computed (s : Sheet) (e : Element) (property : String) :
    (s.computed e).get? property =
      lastValue? ((s.matching e).flatMap fun r => r.declarations.entries) property := by
  have hFold := get?_foldl_put ((s.matching e).flatMap fun r => r.declarations.entries)
    Catalog.empty property
  rw [List.foldl_flatMap] at hFold
  exact hFold.trans (Option.or_none)

theorem lookup_eq_lastValue? (h : ∀ r ∈ s.entries, r.declarations.keys.Nodup) (e : Element)
    (property : String) : s.lookup e property =
      lastValue? ((s.matching e).flatMap fun r => r.declarations.entries) property :=
  (lastValue?_flatMap (fun r hr => h r (List.mem_filter.mp hr).1) property).symm

end Sheet

end Values

end AnchoredUi.Style

namespace AnchoredUi.Styling.Subject

open Number Plane SceneGraph Style Markup

/-- The attributes for the size of an element, as declarations. -/
def sizes (x : Subject) : List Declaration :=
  sizeAttributes.filterMap fun (name, _) => (x.element.attr? name).map fun v => ⟨name, v⟩

/-- The rules and the `style` attribute are applied before the attributes for the size. -/
theorem cascade_eq (x : Subject) : x.cascade = (do
    x.tryHost x.ensureParentGroup
    x.tryHost x.markRoot
    x.tiers.forM x.apply
    x.sizes.forM x.apply
    sizeAttributes.forM fun (name, axis) => x.tryHost (x.reconcile name axis)) := by
  have hTiers : x.declarations = x.tiers ++ x.sizes := rfl
  unfold cascade
  simp only [hTiers, List.forM_eq_forM, List.forM_append, bind_assoc]

theorem get?_style (x : Subject) (property : String) :
    x.style.get? property = lastValue? x.tiers property := by
  rw [style_eq, get?_foldl_put]
  exact Option.or_none

/-- All readers of a declared value find the same one, if no block declares a property twice: the
merged rules, the lookup among the rules, and below the `style` attribute also the merged style. A
cascade applies no other value to the node later, but for the attributes for the size; and the size
that is checked in the end comes from these, else from the merged style. -/
theorem winner_of_readers (x : Subject) (h : ∀ r ∈ x.sheet.entries, r.declarations.keys.Nodup)
    (property : String) :
    (x.sheet.computed x.element).get? property = x.sheet.lookup x.element property ∧
    x.style.get? property = ((Sheet.inlineStyle x.element).get? property).or
      (x.sheet.lookup x.element property) ∧
    (x.cascade = (do
      x.tryHost x.ensureParentGroup
      x.tryHost x.markRoot
      x.tiers.forM x.apply
      x.sizes.forM x.apply
      sizeAttributes.forM fun (name, axis) => x.tryHost (x.reconcile name axis))) ∧
    (∀ v, x.style.get? property = some v ↔ ∃ before d after, x.tiers = before ++ d :: after ∧
      (d.property = property ∧ d.value = v) ∧ ∀ c ∈ after, c.property ≠ property) ∧
    x.declaredSize? property = (x.element.attr? property).or (x.style.get? property) := by
  have hLookup := Sheet.lookup_eq_lastValue? h x.element property
  have hComputed := x.sheet.get?_computed x.element property
  have hStyle : x.style.get? property = ((Sheet.inlineStyle x.element).get? property).or
      (x.sheet.lookup x.element property) := by
    rw [hLookup, ← hComputed]
    exact get?_overlay _ (nodup_keys_inlineStyle x.element) property
  refine ⟨hComputed.trans hLookup.symm, hStyle, x.cascade_eq, fun v => ?_, ?_⟩
  · rw [get?_style, lastValue?_eq_some_iff]
  · rw [hStyle, declaredSize?]
    cases x.element.attr? property with
    | some v => rfl
    | none => cases (Sheet.inlineStyle x.element).get? property <;> rfl

/-- A width that is declared by two rules and in the `style` attribute, and a height that is
declared by the rules alone. -/
theorem winner_of_readers_sizes :
    let e : Element := .mk "Label" none
      ⟨[⟨"class", "wide tall"⟩, ⟨"style", "color: red; width: 3px"⟩]⟩ [] none
    let sheet := Sheet.parse (".wide \x7b width: 1px; height: 1px \x7d " ++
      ".tall \x7b height: 2px; width: 2px \x7d")
    let x : Subject := ⟨e, Scene.empty.nodes.nextKey, none, none, ⟨800, 600⟩, sheet, 14, false⟩
    (∀ r ∈ x.sheet.entries, r.declarations.keys.Nodup) ∧
      (x.sheet.computed e).get? "width" = some "2px" ∧ x.sheet.lookup e "width" = some "2px" ∧
      x.style.get? "width" = some "3px" ∧ x.declaredSize? "width" = some "3px" := by
  intro e sheet x
  have h : ∀ r ∈ x.sheet.entries, r.declarations.keys.Nodup := by decide +kernel
  have hLookup : x.sheet.lookup e "width" = some "2px" := by decide +kernel
  have hInline : (Sheet.inlineStyle e).get? "width" = some "3px" := by decide +kernel
  have hAttribute : e.attr? "width" = none := by decide +kernel
  obtain ⟨hComputed, hStyle, -, -, hSize⟩ := winner_of_readers x h "width"
  have hWinner : x.style.get? "width" = some "3px" := by
    rw [hStyle, show x.element = e from rfl, hInline]
    rfl
  refine ⟨h, hComputed.trans hLookup, hLookup, hWinner, ?_⟩
  rw [hSize, hWinner, show x.element.attr? "width" = none from hAttribute]
  rfl

end AnchoredUi.Styling.Subject
