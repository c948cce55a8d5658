import Mathlib.Data.List.Find
import AnchoredUi.Proofs.Widget.Furnish
import AnchoredUi.Styling.Length

/-!
# The text of a new widget

A widget has the text that its root carries, or else the text of the first part below the root with
a name for it. So which text a new widget has is read off its steps.

* `textOf?_furnished`: the text of a widget whose steps were carried out.
-/

namespace AnchoredUi.Widget

open Number Plane SceneGraph Styling

/-- A component that is a text. -/
def asText? : Component Part → Option TextBlock
  | .text t => some t
  | _ => none

/-- The first text that steps attach to a part. -/
def textOn? (steps : List Step) (p : Part) : Option TextBlock :=
  (attachedTo p steps).findSome? asText?

/-- The step makes a part with a name for texts. -/
def Step.namesText (p : Part) : Step → Bool
  | .node part name _ _ => part == p && textNames.contains name
  | _ => false

/-- The part with the text of a widget. -/
def textPart? (steps : List Step) : Option Part :=
  if (textOn? steps .root).isSome then some .root
  else
    (madeUnder .root steps).find? fun p =>
      steps.any (Step.namesText p) && (textOn? steps p).isSome

/-- The text of a widget. -/
def widgetText? (steps : List Step) : Option TextBlock := (textPart? steps).bind (textOn? steps)

theorem mem_of_textPart? {steps : List Step} {p : Part} (h : textPart? steps = some p) :
    p ∈ Part.root :: madeBy steps := by
  unfold textPart? at h
  split at h
  · rw [← Option.some.inj h]
    exact List.mem_cons_self
  · exact List.mem_cons_of_mem _ (madeBy_of_madeUnder (List.mem_of_find?_eq_some h)).1

theorem unwrap?_of_filled {c : Component Part} {d : Component NodeId} (h : Filled c d) :
    (ComponentType.unwrap? d : Option TextBlock) = asText? c := by
  obtain ⟨nodes, rfl⟩ := h
  cases c <;> rfl

theorem firstOf?_of_filled {cs : List (Component Part)} {ds : List (Component NodeId)}
    (h : List.Forall₂ Filled cs ds) : firstOf? TextBlock ds = cs.findSome? asText? := by
  induction h with
  | nil => rfl
  | cons hHead _ ih =>
    unfold firstOf? at ih ⊢
    rw [List.findSome?_cons, List.findSome?_cons, unwrap?_of_filled hHead, ih]

section Text

variable {s t : Scene} {u : NodeId} {name : String} {nodes : Part → NodeId} {done : List Step}
  (hLaid : Laid s u name nodes done t) (hFurnished : Furnished s nodes done t)
include hFurnished

theorem component?_furnished {p : Part} (hp : p ∈ Part.root :: madeBy done) :
    t.component? TextBlock (nodes p) = textOn? done p :=
  firstOf?_of_filled (hFurnished.carried p hp)

include hLaid

omit hFurnished in
theorem any_name?_eq {p : Part} (hp : p ∈ madeUnder .root done) :
    (t.name? (nodes p)).any textNames.contains = done.any (Step.namesText p) := by
  obtain ⟨-, label, rect, hStep⟩ := madeBy_of_madeUnder hp
  have hName := (hLaid.named p label .root rect hStep).2.2
  rw [hName, Option.any_some, Bool.eq_iff_iff, List.any_eq_true]
  constructor
  · intro hText
    exact ⟨_, hStep, by simp only [Step.namesText, hText, beq_self_eq_true, Bool.and_self]⟩
  · rintro ⟨step, hMem, hText⟩
    cases step with
    | node part other under place =>
      simp only [Step.namesText, Bool.and_eq_true, beq_iff_eq] at hText
      obtain ⟨rfl, hText⟩ := hText
      -- a part has one name only
      have hOther := (hLaid.named part other under place hMem).2.2
      rw [hName] at hOther
      obtain rfl := Option.some.inj hOther
      exact hText
    | attach _ _ => cases hText
    | hide _ => cases hText

theorem textNode?_furnished : textNode? t (nodes .root) = (textPart? done).map nodes := by
  have hRoot := component?_furnished hFurnished (p := .root) List.mem_cons_self
  unfold textNode? textPart?
  rw [hRoot, hLaid.below .root List.mem_cons_self]
  split
  · rfl
  · rw [List.find?_map]
    refine congrArg _ (List.find?_congr fun p hp => ?_)
    have hMade := List.mem_cons_of_mem Part.root (madeBy_of_madeUnder hp).1
    simp only [Function.comp_apply, any_name?_eq hLaid hp,
      component?_furnished hFurnished hMade]

/-- The text of a widget whose steps were carried out. -/
theorem textOf?_furnished : textOf? t (nodes .root) = widgetText? done := by
  unfold textOf? widgetText?
  rw [textNode?_furnished hLaid hFurnished]
  cases hPart : textPart? done with
  | none => rfl
  | some p => exact component?_furnished hFurnished (mem_of_textPart? hPart)

end Text

end AnchoredUi.Widget
