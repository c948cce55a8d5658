import Mathlib.Data.List.Forall2
import AnchoredUi.Proofs.Catalog
import AnchoredUi.Proofs.Styling.TwinStage
import AnchoredUi.Style.Sheet

/-!
# What is read from a style besides its declarations

Filing an entry in a catalog moves no entry of another key, so what two blocks declare of all
other properties stays the same when they are laid over each other. Two sheets that are the same
apart from one property therefore declare the same of all others for every element.

Most declarations matter only when they are applied. A few properties are read at other times too:
whether children are laid out and how, with what padding, and what size an element is to have in
the end. A property of any other name can be left out of a style without a difference there.

* `apart_overlay`: blocks that are the same apart from a property, over such blocks.
* `apart_declared`, `lookup_eq`: what such sheets declare for an element.
* `alikeStyles_of_others`: the layout of children.
* `readsAlike_of_apart`: all of it.
-/

namespace AnchoredUi.Style

open Markup

theorem apart_overlay {k : String} {ds ds' es es' : Declarations}
    (hds : ds.others k = ds'.others k) (hes : es.others k = es'.others k) :
    (ds.overlay es).others k = (ds'.overlay es').others k := by
  unfold Declarations.overlay
  have hes : es.entries.filter (fun e => e.property ≠ k) =
      es'.entries.filter fun e => e.property ≠ k := hes
  rw [Catalog.others_foldl_put, Catalog.others_foldl_put, hds, hes]

theorem get?_eq_of_others {k n : String} {ds es : Declarations} (h : ds.others k = es.others k)
    (hn : n ≠ k) : ds.get? n = es.get? n := by
  unfold Declarations.get?
  rw [Catalog.find?_eq_of_others h hn]

/-! ## Sheets -/

/-- Two rules with the same selector that are the same apart from one property. -/
structure Rule.Apart (k : String) (r r' : Rule) : Prop where
  selector_eq : r.selectorText = r'.selectorText
  others_eq : r.declarations.others k = r'.declarations.others k

namespace Sheet

variable {k : String} {s s' : Sheet} (h : List.Forall₂ (Rule.Apart k) s.entries s'.entries)
include h

theorem apart_matching (e : Element) :
    List.Forall₂ (Rule.Apart k) (s.matching e) (s'.matching e) := by
  refine List.rel_filter ?_ h
  intro r r' hr
  simp only [Rule.applies, Rule.selector?, hr.selector_eq]

theorem apart_declared (e : Element) : (s.declared e).others k = (s'.declared e).others k := by
  have hStep : Relator.LiftFun (fun ds ds' : Declarations => ds.others k = ds'.others k)
      (Relator.LiftFun (Rule.Apart k) fun ds ds' : Declarations => ds.others k = ds'.others k)
      (fun ds r => ds.overlay r.declarations) fun ds r => ds.overlay r.declarations :=
    fun _ _ hds _ _ hr => apart_overlay hds hr.others_eq
  exact apart_overlay (List.rel_foldl hStep rfl (apart_matching h e)) rfl

theorem lookup_eq (e : Element) {n : String} (hn : n ≠ k) : s.lookup e n = s'.lookup e n := by
  have hValues : (s.matching e).filterMap (fun r => r.declarations.get? n) =
      (s'.matching e).filterMap fun r => r.declarations.get? n := by
    have hRules := apart_matching h e
    generalize s.matching e = rs at hRules ⊢
    generalize s'.matching e = rs' at hRules ⊢
    induction hRules with
    | nil => rfl
    | cons hHead _ ih =>
      rw [List.filterMap_cons, List.filterMap_cons, get?_eq_of_others hHead.others_eq hn, ih]
  unfold lookup
  rw [hValues]

end Sheet

end AnchoredUi.Style

/-! ## What is read at other times -/

namespace AnchoredUi.Styling

open Number Plane SceneGraph Style Markup

/-- The properties that give a padding. -/
def paddingProperties : List String :=
  ["padding", "padding-top", "padding-right", "padding-bottom", "padding-left"]

/-- The properties that are not only read when they are applied. -/
def readProperties : List String :=
  groupProperties ++ paddingProperties ++ Subject.sizeAttributes.map Prod.fst

theorem lowered_of_mem_readProperties {n : String} (h : n ∈ readProperties) :
    Text.lowered n = n := by
  revert n
  decide

theorem ne_of_lowered {k n : String} (hk : Text.lowered k ∉ readProperties)
    (hn : n ∈ readProperties) : n ≠ k := by
  rintro rfl
  rw [lowered_of_mem_readProperties hn] at hk
  exact hk hn

/-! ## The layout of children -/

theorem addPadding_of_lowered {d : Declaration} (h : Text.lowered d.property ∉ paddingProperties)
    (s : Surroundings) (p : Spacing Single) : addPadding s p d = p := by
  unfold addPadding
  cases readBox d.value with
  | error _ => rfl
  | ok box =>
    simp only
    split <;> first | rfl | simp_all [paddingProperties]

theorem foldl_addPadding {k : String} (hk : Text.lowered k ∉ paddingProperties) (s : Surroundings)
    (ds : List Declaration) (p : Spacing Single) :
    ds.foldl (addPadding s) p = (ds.filter fun d => d.property ≠ k).foldl (addPadding s) p := by
  induction ds generalizing p with
  | nil => rfl
  | cons d ds ih =>
    by_cases hd : d.property = k
    · have hSkip : addPadding s p d = p := addPadding_of_lowered (by rw [hd]; exact hk) s p
      simp [hd, hSkip, ih]
    · simp [hd, ih]

variable {k : String} {d d' : Declarations}

theorem declaredWord_eq_of_others {α : Type} (h : d.others k = d'.others k) {n : String}
    (hn : n ≠ k) (table : List (String × α)) :
    declaredWord d n table = declaredWord d' n table := by
  unfold declaredWord
  rw [get?_eq_of_others h hn]

/-- Styles that are the same apart from a property ask for the same layout group, unless the
property is about layout. -/
theorem alikeStyles_of_others (h : d.others k = d'.others k)
    (hk : Text.lowered k ∉ readProperties) : AlikeStyles d d' := by
  have hGroup : ∀ n ∈ groupProperties, n ≠ k := fun n hn =>
    ne_of_lowered hk (List.mem_append_left _ (List.mem_append_left _ hn))
  have hPadding : Text.lowered k ∉ paddingProperties := fun hMem =>
    hk (List.mem_append_left _ (List.mem_append_right _ hMem))
  have hDirection : directionOf d = directionOf d' := by
    unfold directionOf
    rw [declaredWord_eq_of_others h (hGroup "flex-direction" (by decide))]
  refine ⟨?_, fun g => ?_, fun _ around => ?_⟩
  · have hContains : ∀ n ∈ groupProperties, d.contains n = d'.contains n := fun n hn => by
      unfold Catalog.contains
      rw [Catalog.find?_eq_of_others h (hGroup n hn)]
    simp only [asksForGroup, groupProperties, List.any_cons, List.any_nil,
      hContains "flex-direction" (by decide), hContains "justify-content" (by decide),
      hContains "align-items" (by decide)]
  · simp only [configure, hDirection,
      declaredWord_eq_of_others h (hGroup "justify-content" (by decide)),
      declaredWord_eq_of_others h (hGroup "align-items" (by decide))]
  · unfold declaredPadding
    rw [foldl_addPadding hPadding around d.entries, foldl_addPadding hPadding around d'.entries]
    exact congrArg _ h

/-! ## The size in the end -/

/-- A subject for an element that is styled by a sheet, with any nodes. -/
def SubjectFor (sheet : Sheet) (e : Element) (x : Subject) : Prop :=
  x.sheet = sheet ∧ x.element = e

/-- Two elements under two sheets, for which the same is read about the layout of children and the
size in the end. -/
structure ReadsAlike (sheet sheet' : Sheet) (e e' : Element) : Prop where
  style : AlikeStyles (sheet.declared e) (sheet'.declared e')
  size_eq : ∀ x y : Subject, SubjectFor sheet e x → SubjectFor sheet' e' y →
    ∀ p ∈ Subject.sizeAttributes, x.readableSize? p.1 = y.readableSize? p.1

theorem readableSize?_eq {x y : Subject} {e : Element} {n : String} (hx : x.element = e)
    (hy : y.element = e) (hLookup : x.sheet.lookup e n = y.sheet.lookup e n) :
    x.readableSize? n = y.readableSize? n := by
  unfold Subject.readableSize? Subject.declaredSize?
  rw [hx, hy, hLookup]

/-- Sheets that are the same apart from a property are read alike, unless the property is one of
those that are read at other times. -/
theorem readsAlike_of_apart {sheet sheet' : Sheet}
    (h : List.Forall₂ (Rule.Apart k) sheet.entries sheet'.entries)
    (hk : Text.lowered k ∉ readProperties) (e : Element) : ReadsAlike sheet sheet' e e := by
  refine ⟨alikeStyles_of_others (Sheet.apart_declared h e) hk, fun x y hx hy p hp => ?_⟩
  have hRead : p.1 ∈ readProperties := List.mem_append_right _ (List.mem_map_of_mem hp)
  refine readableSize?_eq hx.2 hy.2 ?_
  rw [hx.1, hy.1]
  exact Sheet.lookup_eq h e (ne_of_lowered hk hRead)

end AnchoredUi.Styling
