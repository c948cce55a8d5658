import AnchoredUi.Proofs.Number.Numeral
import AnchoredUi.Proofs.Number.Within
import AnchoredUi.Proofs.Styling.Stage
import AnchoredUi.Widget.Build

/-!
# Attributes that make no sense

Sliders read numbers off their attributes, and dropdowns the place of an option. All of them are
read before anything is built, so whether a blueprint can be made is a question about the attributes
alone.

* `Senseless`: the attributes of an element that is to be built as a given kind.
* `blueprint_cases`: senseless attributes give a fault, which names one of them with its text, and
  all others give a blueprint.
-/

namespace AnchoredUi.Widget

open Number Markup Kind Text Binary Styling

/-! ## Numbers -/

/-- The number that an attribute writes, or a given number. -/
def numberOr (e : Element) (name : String) (otherwise : Single) : Single :=
  ((e.attr? name).bind fun raw => Binary.read? (trimmed raw)).getD otherwise

/-- The attribute is there, and writes no finite number. -/
def Unnumbered (e : Element) (name : String) : Prop :=
  ∃ raw, e.attr? name = some raw ∧
    ∀ n : Single, Binary.read? (trimmed raw) = some n → n.isFinite = false

/-- The fault of an attribute, with its text. -/
def faultOf (e : Element) (name : String) : BuildFault :=
  .badAttribute name ((e.attr? name).getD "")

theorem numberAttr_cases (e : Element) (name : String) :
    (Unnumbered e name ∧ numberAttr e name = .error (faultOf e name)) ∨
      ¬ Unnumbered e name ∧ ∃ o, numberAttr e name = .ok o ∧ ∀ d, o.getD d = numberOr e name d := by
  unfold numberAttr numberOr Unnumbered faultOf
  cases e.attr? name with
  | none => exact .inr ⟨fun ⟨_, h, _⟩ => (nomatch h), none, rfl, fun _ => rfl⟩
  | some raw =>
    have hOnly : ∀ {P : String → Prop}, (∃ r, some raw = some r ∧ P r) ↔ P raw := by simp
    simp only [hOnly, Option.bind_some, Option.getD_some]
    cases hRead : (Binary.read? (trimmed raw) : Option Single) with
    | none => exact .inl ⟨fun _ h => (nomatch h), rfl⟩
    | some n =>
      by_cases hFinite : n.isFinite = true
      · refine .inr ⟨fun h => ?_, some n, if_pos hFinite, fun _ => rfl⟩
        rw [h n rfl] at hFinite
        cases hFinite
      · refine .inl ⟨?_, if_neg hFinite⟩
        rintro _ ⟨⟩
        exact Bool.of_not_eq_true hFinite

theorem isFinite_numberAttr {e : Element} {name : String} {o : Option Single}
    (h : numberAttr e name = .ok o) : ∀ x ∈ o, x.isFinite = true := by
  unfold numberAttr at h
  split at h
  · cases h
    exact fun x hx => nomatch hx
  · split at h
    · rename_i n _
      split at h
      · rename_i hFinite
        cases h
        rintro x ⟨⟩
        exact hFinite
      · cases h
    · cases h

theorem getD_numberAttr {e : Element} {name : String} {o : Option Single}
    (h : numberAttr e name = .ok o) (d : Single) : o.getD d = numberOr e name d := by
  rcases numberAttr_cases e name with ⟨-, hError⟩ | ⟨-, o', hOk, hSame⟩
  · rw [h] at hError
    cases hError
  · obtain rfl := Except.ok.inj (h.symm.trans hOk)
    exact hSame d

theorem isFinite_getD {o : Option Single} {d : Single} (ho : ∀ x ∈ o, x.isFinite = true)
    (hd : d.isFinite = true) : (o.getD d).isFinite = true := by
  cases o with
  | none => exact hd
  | some x => exact ho x rfl

/-! ## Places -/

/-- The text is digits, perhaps behind a plus sign, that write the number `i`. -/
def WritesPlace (text : List Char) (i : ℕ) : Prop :=
  ∃ ds, (text = ds ∨ text = '+' :: ds) ∧ Numeral.Digits ds ∧ Numeral.digitsFrom 0 ds = i

theorem index?_eq_some_iff {text : List Char} {i : ℕ} :
    index? text = some i ↔ WritesPlace text i := by
  have hDigits : ∀ ds : List Char, (ds ≠ [] ∧ ds.all Char.isDigit = true) ↔ Numeral.Digits ds :=
    fun ds => ⟨fun ⟨hNe, hAll⟩ => ⟨hNe, List.all_eq_true.mp hAll⟩,
      fun h => ⟨h.ne_nil, List.all_eq_true.mpr h.isDigit⟩⟩
  unfold index?
  simp only [Option.ite_none_right_eq_some, Option.some.injEq, hDigits]
  constructor
  · rintro ⟨hWrites, rfl⟩
    split at hWrites
    · rename_i hPlus
      obtain ⟨ds, rfl⟩ : ∃ ds, text = '+' :: ds := by
        cases text with
        | nil => cases hPlus
        | cons c ds => exact ⟨ds, by rw [Option.some.inj hPlus]⟩
      exact ⟨ds, .inr rfl, hWrites, rfl⟩
    · rename_i hPlus
      exact ⟨text, .inl rfl, hWrites, by rw [if_neg hPlus]⟩
  · rintro ⟨ds, rfl | rfl, hWrites, rfl⟩
    · have hPlus : text.head? ≠ some '+' := fun hHead => by
        have hDigit := hWrites.isDigit _ (List.mem_of_mem_head? hHead)
        cases hDigit
      rw [if_neg hPlus]
      exact ⟨hWrites, rfl⟩
    · exact ⟨hWrites, rfl⟩

theorem WritesPlace.unique {text : List Char} {i j : ℕ} (hi : WritesPlace text i)
    (hj : WritesPlace text j) : i = j :=
  Option.some.inj ((index?_eq_some_iff.mpr hi).symm.trans (index?_eq_some_iff.mpr hj))

/-! ## Blueprints -/

/-- The attributes of an element make no sense for a kind: a slider has one that is no number, or a
range that is too wide, or the chosen option of a dropdown is none of its options. -/
inductive Senseless (e : Element) : WidgetKind → Prop
  | number {name : String} (hName : name ∈ ["low-value", "high-value", "value"])
      (h : Unnumbered e name) : Senseless e .slider
  | range (h : (numberOr e "high-value" 1 - numberOr e "low-value" 0).isFinite = false) :
      Senseless e .slider
  | place {raw : String} (hIndex : e.attr? "index" = some raw)
      (h : ∀ i < (options e).length, ¬ WritesPlace (trim raw.toList) i) : Senseless e .dropdown

theorem senseless_slider_iff {e : Element} : Senseless e .slider ↔
    Unnumbered e "low-value" ∨ Unnumbered e "high-value" ∨
      (numberOr e "high-value" 1 - numberOr e "low-value" 0).isFinite = false ∨
      Unnumbered e "value" := by
  constructor
  · rintro (⟨hName, h⟩ | h)
    · rcases List.mem_cons.mp hName with rfl | hName
      · exact .inl h
      · rcases List.mem_cons.mp hName with rfl | hName
        · exact .inr (.inl h)
        · obtain rfl := List.mem_singleton.mp hName
          exact .inr (.inr (.inr h))
    · exact .inr (.inr (.inl h))
  · rintro (h | h | h | h)
    · exact .number (by decide) h
    · exact .number (by decide) h
    · exact .range h
    · exact .number (by decide) h

/-- The attributes are read one after the other, and the first fault is what is reported. -/
theorem sliderOf_cases (e : Element) :
    (Senseless e .slider ∧ ∃ name, sliderOf e = .error (faultOf e name)) ∨
      ¬ Senseless e .slider ∧ ∃ v, sliderOf e = .ok v := by
  rw [senseless_slider_iff]
  unfold sliderOf
  rcases numberAttr_cases e "low-value" with ⟨hBad, hLow⟩ | ⟨hGoodLow, low, hLow, hLowD⟩
  · rw [hLow]
    exact .inl ⟨.inl hBad, _, rfl⟩
  rcases numberAttr_cases e "high-value" with ⟨hBad, hHigh⟩ | ⟨hGoodHigh, high, hHigh, hHighD⟩
  · rw [hLow, hHigh]
    exact .inl ⟨.inr (.inl hBad), _, rfl⟩
  rw [hLow, hHigh, ← hLowD, ← hHighD]
  simp only [bind, Except.bind]
  cases hRange : (high.getD 1 - low.getD 0).isFinite with
  | false => exact .inl ⟨.inr (.inr (.inl rfl)), "high-value", rfl⟩
  | true =>
    simp only [Bool.not_true, Bool.false_eq_true, if_false]
    rcases numberAttr_cases e "value" with ⟨hBad, hValue⟩ | ⟨hGoodValue, value, hValue, -⟩
    · rw [hValue]
      exact .inl ⟨.inr (.inr (.inr hBad)), _, rfl⟩
    · rw [hValue]
      refine .inr ⟨?_, _, rfl⟩
      rintro (h | h | h | h)
      exacts [hGoodLow h, hGoodHigh h, Bool.noConfusion h, hGoodValue h]

/-- The ends of a slider are finite and not too far apart, and so is the value, if there is one. -/
structure Ranged (low high : Single) (value : Option Single) : Prop where
  finite_low : low.isFinite = true
  finite_high : high.isFinite = true
  finite_range : (high - low).isFinite = true
  finite_value : ∀ x ∈ value, x.isFinite = true

/-- The slider that the attributes describe, if they make sense. -/
theorem exists_sliderOf {e : Element} {v : SceneGraph.Slider Part} (h : sliderOf e = .ok v) :
    ∃ value, v = sliderIn (numberOr e "low-value" 0) (numberOr e "high-value" 1) value
        (e.tag == "SliderInt") ∧
      Ranged (numberOr e "low-value" 0) (numberOr e "high-value" 1) value := by
  obtain ⟨low, hLow, h⟩ := exists_of_bind_eq_ok h
  obtain ⟨high, hHigh, h⟩ := exists_of_bind_eq_ok h
  dsimp only at h
  split at h
  · cases h
  · rename_i hRange
    obtain ⟨value, hValue, h⟩ := exists_of_bind_eq_ok h
    cases h
    rw [← getD_numberAttr hLow, ← getD_numberAttr hHigh]
    exact ⟨value, rfl, isFinite_getD (isFinite_numberAttr hLow) isFinite_zero,
      isFinite_getD (isFinite_numberAttr hHigh) value_one.1, by simpa using hRange,
      isFinite_numberAttr hValue⟩

theorem chosen_cases (e : Element) :
    (Senseless e .dropdown ∧ chosen e (options e) = .error (faultOf e "index")) ∨
      ¬ Senseless e .dropdown ∧ ∃ i, chosen e (options e) = .ok i := by
  unfold chosen faultOf
  cases hIndex : e.attr? "index" with
  | none =>
    refine .inr ⟨?_, _, rfl⟩
    rintro (_ | _ | ⟨hRaw, -⟩)
    rw [hIndex] at hRaw
    cases hRaw
  | some raw =>
    have hNot : ∀ {i}, WritesPlace (trim raw.toList) i → i < (options e).length →
        ¬ Senseless e .dropdown := by
      rintro i hi hLt (_ | _ | ⟨hRaw, h⟩)
      obtain rfl := Option.some.inj (hIndex.symm.trans hRaw)
      exact h i hLt hi
    simp only [Option.getD_some]
    cases hRead : index? (trim raw.toList) with
    | none =>
      refine .inl ⟨.place hIndex fun i _ hi => ?_, rfl⟩
      rw [index?_eq_some_iff.mpr hi] at hRead
      cases hRead
    | some i =>
      have hi := index?_eq_some_iff.mp hRead
      by_cases hLt : i < (options e).length
      · exact .inr ⟨hNot hi hLt, i, if_pos hLt⟩
      · refine .inl ⟨.place hIndex fun j hj hWrites => ?_, if_neg hLt⟩
        exact hLt (hi.unique hWrites ▸ hj)

/-- Senseless attributes give a fault, which names one of them with its text; all others give a
blueprint. -/
theorem blueprint_cases (kind : WidgetKind) (l : Lettering) (e : Element) :
    (Senseless e kind ∧ ∃ name, blueprint kind l e = .error (faultOf e name)) ∨
      ¬ Senseless e kind ∧ ∃ b, blueprint kind l e = .ok b := by
  cases kind with
  | slider =>
    rcases sliderOf_cases e with ⟨h, name, hOf⟩ | ⟨h, v, hOf⟩
    · exact .inl ⟨h, name, congrArg (Except.map _) hOf⟩
    · exact .inr ⟨h, _, congrArg (Except.map _) hOf⟩
  | dropdown =>
    rcases chosen_cases e with ⟨h, hOf⟩ | ⟨h, i, hOf⟩
    · exact .inl ⟨h, _, congrArg (Except.map _) hOf⟩
    · exact .inr ⟨h, _, congrArg (Except.map _) hOf⟩
  | button | textField | toggle | label | image | scrollView | genericField | container
  | unrecognized => exact .inr ⟨nofun, _, rfl⟩

end AnchoredUi.Widget
