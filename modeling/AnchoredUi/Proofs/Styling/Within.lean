import Mathlib.Data.List.ReduceOption
import AnchoredUi.Proofs.SceneGraph.Within
import AnchoredUi.Proofs.Styling.Padding
import AnchoredUi.Proofs.Styling.Regroup

/-!
# Lengths within bounds

A length is a number of its unit, and its pixels are that number times what the unit refers to. If
the size of the parent is at most `2 ^ e` pixels, the canvas and all numbers at most `2 ^ b`, and
percentages at most the whole, then lengths are at most `2 ^ e` pixels as well, given that `e` has
room for the product of a number and of a font.

Fonts do not depend on the parent. A font that is declared in multiples of itself may grow with each
declaration, unless the multiples are at most one.

* `Scalar.Moderate`, `Change.Moderate`, `Declaration.Moderate`: what may be declared.
* `Surroundings.Within.length?`, `Surroundings.Within.fontSizeOf?`: pixels of lengths and of fonts.
-/

namespace AnchoredUi.Style

open Number Plane Binary

/-- A length of at most `2 ^ b` of its unit, or at most a hundred percent. -/
def Scalar.Moderate (l : Scalar) (b : ℕ) : Prop :=
  match l.unit with
  | .percent | .vw | .vh => l.value.Within 0 100
  | .px | .em | .rem => l.value.Within b 1
  | .auto => True

instance (l : Scalar) (b : ℕ) : Decidable (l.Moderate b) :=
  match l with
  | ⟨x, .percent⟩ | ⟨x, .vw⟩ | ⟨x, .vh⟩ => inferInstanceAs (Decidable (x.Within 0 100))
  | ⟨x, .px⟩ | ⟨x, .em⟩ | ⟨x, .rem⟩ => inferInstanceAs (Decidable (x.Within b 1))
  | ⟨_, .auto⟩ => isTrue trivial

end AnchoredUi.Style

namespace AnchoredUi.Styling

open Number Plane SceneGraph Style Binary

variable {b e : ℕ} {l : Scalar} {axis : Axis} {p : Single}

/-! ## Pixels -/

/-- What lengths refer to: the parent is at most `2 ^ e` pixels wide and high, the canvas `2 ^ b`,
and the font is at most what a `rem` makes of that. -/
structure Surroundings.Within (around : Surroundings) (b e : ℕ) : Prop where
  parent : around.parent.Within e 1
  canvas : around.canvas.Within b 1
  fontSize : around.fontSize.Within (b + 4) 1

theorem percent_within {s : ℕ} {x q : Single} (hs : s ≤ topScale) (hx : x.Within s 1)
    (hq : q.Within 0 100) : (x * q / 100).Within s 1 := by
  obtain ⟨hFinite, hValue⟩ := value_ofNat (n := 100) (by decide)
  exact Within.div hs (hx.mul hq hs (by decide)) hFinite hValue (by decide) (by decide)

theorem times_within {s t k : ℕ} {x y : Single} (hx : x.Within s 1) (hy : y.Within t 1)
    (hst : s + t ≤ k) (hk : k ≤ topScale) : (x * y).Within k 1 :=
  (hx.mul hy (hst.trans hk) (by decide)).scale_mono hst

theorem rootFontSize_within : rootFontSize.Within 4 1 := by
  unfold rootFontSize
  exact (within_ofNat (n := 16) (by decide)).rescale (k := 4) (by decide)

section Lengths

variable {around : Surroundings} (h : around.Within b e) (hl : l.Moderate b)
include h hl

/-- Lengths are at most one unit. -/
theorem Surroundings.Within.length? (hRoom : 2 * b + 4 ≤ e) (he : e ≤ topScale)
    (hp : around.length? l axis = some p) : p.Within e 1 := by
  unfold Scalar.Moderate at hl
  unfold Surroundings.length? at hp
  have hb : b ≤ topScale := by omega
  cases hUnit : l.unit <;> simp only [hUnit, Option.filter_eq_some_iff, Option.some.injEq] at hl hp
  case auto => cases hp.1
  all_goals rw [← hp.1]
  case px => exact hl.scale_mono (by omega)
  case percent => exact percent_within he (h.parent axis) hl
  case em => exact times_within h.fontSize hl (by omega) he
  case rem => exact times_within rootFontSize_within hl (by omega) he
  case vw => exact (percent_within hb (h.canvas .horizontal) hl).scale_mono (by omega)
  case vh => exact (percent_within hb (h.canvas .vertical) hl).scale_mono (by omega)

theorem Surroundings.Within.pixels (hRoom : 2 * b + 4 ≤ e) (he : e ≤ topScale) (axis : Axis) :
    (around.pixels l axis).Within e 1 := by
  unfold Surroundings.pixels
  cases hp : around.length? l axis with
  | none => exact within_zero.mono (Nat.zero_le 1)
  | some p => exact h.length? hl hRoom he hp

/-- Fonts stay small, if none is a larger multiple of the one before. -/
theorem Surroundings.Within.fontSizeOf? (hEm : l.unit = .em → l.value.Within 0 1)
    (hb : b + 4 ≤ topScale) (hp : Subject.fontSizeOf? around l = some p) :
    p.Within (b + 4) 1 := by
  unfold Scalar.Moderate at hl
  unfold Subject.fontSizeOf? Surroundings.length? at hp
  have hb' : b ≤ topScale := by omega
  cases hUnit : l.unit <;>
    simp only [hUnit, Option.filter_eq_some_iff, Option.some.injEq] at hl hp
  case auto => cases hp.1.1
  case percent =>
    rw [← hp.1]
    exact percent_within hb h.fontSize hl
  all_goals rw [← hp.1.1]
  case px => exact hl.scale_mono (by omega)
  case em => exact times_within h.fontSize (hEm hUnit) (by omega) hb
  case rem => exact times_within rootFontSize_within hl (by omega) hb
  case vw => exact (percent_within hb' (h.canvas .horizontal) hl).scale_mono (by omega)
  case vh => exact (percent_within hb' (h.canvas .vertical) hl).scale_mono (by omega)

end Lengths

/-! ## Texts -/

theorem letterWidth_fraction : letterWidth.Fraction := by
  refine ⟨?_, ?_, ?_⟩ <;> decide +kernel

theorem lineHeight_within : lineHeight.Within 1 1 := by
  refine ⟨?_, ?_⟩ <;> decide +kernel

/-- Texts are at most one unit wide and high. -/
theorem textExtent_within {t : TextBlock} (ht : t.Within (b + 4) b) (hRoom : 2 * b + 5 ≤ e)
    (he : e ≤ topScale) (axis : Axis) : (textExtent t axis).Within e 1 := by
  cases axis with
  | horizontal =>
    have hLength : (ofInt t.text.length : Single).Within b 1 := by
      have hRounds := rounds_ofInt (F := Format.single) (t.text.length : ℤ)
      refine hRounds.within (by omega) (by decide) ?_
      rw [Int.cast_natCast, Nat.abs_cast, Nat.cast_one, one_mul]
      exact_mod_cast ht.length
    exact (times_within hLength ht.fontSize (by omega) he).mul_fraction he letterWidth_fraction
      (by decide)
  | vertical => exact times_within ht.fontSize lineHeight_within (by omega) he

/-! ## What may be declared -/

/-- What holds of each side that is named. -/
def EachSide (sides : Spacing (Option Scalar)) (P : Scalar → Prop) : Prop :=
  ∀ l ∈ [sides.top, sides.right, sides.bottom, sides.left].reduceOption, P l

instance (sides : Spacing (Option Scalar)) (P : Scalar → Prop) [DecidablePred P] :
    Decidable (EachSide sides P) := List.decidableBAll P _

/-- The lengths of a change are moderate, and a font is no multiple of the one before that is larger
than one. -/
def Change.Moderate (b : ℕ) : Change → Prop
  | .size _ l | .leastSize _ l | .preferredSize _ l | .basis l | .inset _ l => l.Moderate b
  | .grow factor => factor.Within b 1
  | .margin sides | .padding sides => EachSide sides (Scalar.Moderate · b)
  | .text (.size l) => l.Moderate b ∧ (l.unit = .em → l.value.Within 0 1)
  | _ => True

instance (b : ℕ) : (change : Change) → Decidable (change.Moderate b)
  | .size _ l | .leastSize _ l | .preferredSize _ l | .basis l | .inset _ l =>
    inferInstanceAs (Decidable (l.Moderate b))
  | .grow factor => inferInstanceAs (Decidable (factor.Within b 1))
  | .margin sides | .padding sides =>
    inferInstanceAs (Decidable (EachSide sides (Scalar.Moderate · b)))
  | .text (.size l) =>
    inferInstanceAs (Decidable (l.Moderate b ∧ (l.unit = .em → l.value.Within 0 1)))
  | .shrink _ | .position _ | .group | .alignSelf _ | .display _ | .graphicColor _
  | .backgroundImage _ | .backgroundSize _ | .backgroundRepeat _ | .opacity _ | .overflow _
  | .text (.color _) | .text (.bold _) | .text (.shape _) | .text (.anchor _) | .text (.space _) =>
    isTrue trivial

end AnchoredUi.Styling

namespace AnchoredUi.Style

open Styling

/-- What a declaration asks for is moderate, also where its value is read as the padding of a layout
group. -/
structure Declaration.Moderate (d : Declaration) (b : ℕ) : Prop where
  change : ∀ p change, Property.named? d.property = some p → Change.read p d.value = .ok change →
    change.Moderate b
  box : ∀ sides, readBox d.value = .ok sides → sides.top.Moderate b ∧ sides.right.Moderate b ∧
    sides.bottom.Moderate b ∧ sides.left.Moderate b

theorem toOption_eq_some_iff {ε α : Type} {x : Except ε α} {a : α} :
    x.toOption = some a ↔ x = .ok a := by
  cases x <;> simp [Except.toOption]

instance (d : Declaration) (b : ℕ) : Decidable (d.Moderate b) :=
  decidable_of_iff ((∀ p ∈ (Property.named? d.property).toList,
      ∀ change ∈ (Change.read p d.value).toOption.toList, change.Moderate b) ∧
      ∀ sides ∈ (readBox d.value).toOption.toList, sides.top.Moderate b ∧ sides.right.Moderate b ∧
        sides.bottom.Moderate b ∧ sides.left.Moderate b) <| by
    simp only [Option.mem_toList, toOption_eq_some_iff]
    exact ⟨fun ⟨hChange, hBox⟩ => ⟨fun p change hp => hChange p hp change, hBox⟩,
      fun h => ⟨fun p hp change => h.change p change hp, h.box⟩⟩

end AnchoredUi.Style

namespace AnchoredUi.Styling

open Number Plane SceneGraph Style Binary

section Group

variable {b e : ℕ} {around : Surroundings} (h : around.Within b e) (hRoom : 2 * b + 4 ≤ e)
  (he : e ≤ topScale)
include h hRoom he

theorem addPadding_within {p : Spacing Single} (hp : p.Within e 1) {d : Declaration}
    (hd : d.Moderate b) : (addPadding around p d).Within e 1 := by
  unfold addPadding
  cases hBox : readBox d.value with
  | error f => exact hp
  | ok box =>
    obtain ⟨hTop, hRight, hBottom, hLeft⟩ := hd.box box hBox
    have hSide : ∀ {l : Scalar}, l.Moderate b → ∀ axis, (around.pixels l axis).Within e 1 :=
      fun hl axis => h.pixels hl hRoom he axis
    simp only
    split
    · exact ⟨hSide hTop _, hSide hRight _, hSide hBottom _, hSide hLeft _⟩
    · exact ⟨hSide hTop _, hp.right, hp.bottom, hp.left⟩
    · exact ⟨hp.top, hSide hTop _, hp.bottom, hp.left⟩
    · exact ⟨hp.top, hp.right, hSide hTop _, hp.left⟩
    · exact ⟨hp.top, hp.right, hp.bottom, hSide hTop _⟩
    · exact hp

theorem foldl_addPadding_within {ds : List Declaration} (hds : ∀ d ∈ ds, d.Moderate b)
    {p : Spacing Single} (hp : p.Within e 1) : (ds.foldl (addPadding around) p).Within e 1 := by
  induction ds generalizing p with
  | nil => exact hp
  | cons d ds ih =>
    rw [List.forall_mem_cons] at hds
    exact ih hds.2 (addPadding_within h hRoom he hp hds.1)

/-- A style of moderate declarations asks for a moderate group. -/
theorem groupOf_within {style : Declarations} (hStyle : ∀ d ∈ style.entries, d.Moderate b) :
    (groupOf style around).Within e :=
  ⟨(configure_eq style (.along (directionOf style).axis)).1,
    foldl_addPadding_within h hRoom he hStyle Spacing.within_zero⟩

end Group

end AnchoredUi.Styling
