import AnchoredUi.Proofs.Style.Flag
import AnchoredUi.Proofs.Styling.Overwrite

/-!
# Declarations with the flag behind the value

The flag `!important` is to be accepted and ignored. Whether it is depends on how the value of the
property is read: behind lengths and numbers it is, behind a color it is once, and behind a word or
an address it never is.

* `Property.reading`: how the value of a property is read.
* `read_flagged`: where the flag is ignored, the value asks for the same change.
* `exists_read_flagged`: where it is not, the value is none of the property.
* `apply_flagged`: what becomes of a declaration when the flag is put behind its value.
-/

namespace AnchoredUi

namespace Style

/-- The ways in which values are read: token by token, as a color, as a word of a table, and as the
address of a picture. -/
inductive Reading where
  | tokens
  | color
  | word
  | address
  deriving DecidableEq, Repr

/-- How the value of a property is read. -/
def Property.reading : Property → Reading
  | size _ | minSize _ | maxSize _ | flexBasis | flexGrow | flexShrink | inset _ | margin _
  | padding _ | opacity | fontSize => .tokens
  | backgroundColor | imageTintColor | color => .color
  | backgroundImage => .address
  | position | flexDirection | justifyContent | alignItems | alignSelf | display | fontWeight
  | fontStyle | backgroundSize | backgroundRepeat | textAlign | whiteSpace | overflow => .word

/-- The declaration with the flag behind its value. -/
def Declaration.flagged (d : Declaration) : Declaration := { d with value := Style.flagged d.value }

end Style

namespace Styling

open Number Plane SceneGraph Style Sprite Text

variable {p : Property} {value : String} {c : Change}

/-! ## What values ask for -/

theorem map_congr_ok {ε α β : Type} {m m' : Except ε α} {f : α → β} {b : β}
    (hSame : ∀ a, m = .ok a → m' = .ok a) (h : m.map f = .ok b) : m'.map f = .ok b := by
  obtain ⟨a, hOk, hb⟩ := exists_of_map_eq_ok h
  rw [hSame a hOk]
  exact congrArg Except.ok hb

theorem exists_map_error {ε α β : Type} {m : Except ε α} (f : α → β) (h : ∃ e, m = .error e) :
    ∃ e, m.map f = .error e := by
  obtain ⟨e, rfl⟩ := h
  exact ⟨e, rfl⟩

theorem readFactor_flagged {x : Single} (h : readFactor value = .ok x) :
    readFactor (flagged value) = .ok x := by
  rw [readFactor] at h ⊢
  cases hNumber : readNumber value with
  | error f =>
    rw [hNumber] at h
    cases h
  | ok y =>
    rw [hNumber] at h
    rw [readNumber_flagged hNumber]
    exact h

theorem readSides_flagged {side : Option Rect.Side} {sides : Spacing (Option Scalar)}
    (h : readSides side value = .ok sides) : readSides side (flagged value) = .ok sides := by
  cases side with
  | none => exact map_congr_ok (fun _ => readBox_flagged) h
  | some s => exact map_congr_ok (fun _ => readScalar_flagged) h

/-- Behind lengths and numbers the flag is ignored. -/
theorem read_flagged (hReading : p.reading = .tokens) (h : Change.read p value = .ok c) :
    Change.read p (flagged value) = .ok c := by
  cases p with
  | size _ | minSize _ | maxSize _ | flexBasis | inset _ | fontSize =>
    exact map_congr_ok (fun _ => readScalar_flagged) h
  | flexGrow | flexShrink => exact map_congr_ok (fun _ => readFactor_flagged) h
  | margin _ | padding _ => exact map_congr_ok (fun _ => readSides_flagged) h
  | opacity => exact map_congr_ok (fun _ => readNumber_flagged) h
  | _ => cases hReading

/-- Behind a color the flag is ignored, unless it is the second one. -/
theorem read_flagged_color (hReading : p.reading = .color) (h : Change.read p value = .ok c)
    (hFlag : ¬ flagText <:+ trim value.toList) : Change.read p (flagged value) = .ok c := by
  cases p with
  | backgroundColor | imageTintColor | color =>
    exact map_congr_ok (fun _ h => readColor_flagged h hFlag) h
  | _ => cases hReading

theorem exists_read_flagged_color (hReading : p.reading = .color)
    (hFlag : flagText <:+ trim value.toList) : ∃ f, Change.read p (flagged value) = .error f := by
  cases p with
  | backgroundColor | imageTintColor | color =>
    exact exists_map_error _ (exists_readColor_flagged hFlag)
  | _ => cases hReading

/-- With the flag behind it a word is no word of its table. -/
theorem exists_read_flagged (hReading : p.reading = .word) (value : String) :
    ∃ f, Change.read p (flagged value) = .error f := by
  cases p with
  | position | flexDirection | justifyContent | alignItems | alignSelf | display | fontStyle
  | backgroundSize | backgroundRepeat | whiteSpace | overflow =>
    simp only [Change.read]
    exact exists_map_error _ (exists_readKeyword_flagged (by decide) value)
  | fontWeight =>
    simp only [Change.read]
    exact exists_map_error _ (exists_readWeight_flagged value)
  | textAlign =>
    simp only [Change.read]
    exact exists_map_error _ (exists_readTextAlign_flagged value)
  | _ => cases hReading

namespace Subject

variable {x : Subject} {st : Stage} {d : Declaration}

/-! ## Declarations -/

/-- A value that cannot be read is not accepted. -/
theorem exists_read_of_accepts (hName : Property.named? d.property = some p)
    (h : x.Accepts st d) : ∃ c, Change.read p d.value = .ok c := by
  cases hRead : Change.read p d.value with
  | ok c => exact ⟨c, rfl⟩
  | error f =>
    have hRejection : rejection? d = some (.invalidValue p.name f) := by
      simp only [rejection?, hName, hRead]
    rw [Accepts, apply_of_rejection hRejection] at h
    exact absurd h (by simp [raise])

theorem apply_congr_read {d' : Declaration} (hName : Property.named? d.property = some p)
    (hName' : Property.named? d'.property = some p)
    (h : Change.read p d'.value = Change.read p d.value) : x.apply d' = x.apply d := by
  rw [apply_of_named hName, apply_of_named hName', carryOut, h, carryOut]

theorem apply_of_read_error {f : ValueFault} (hName : Property.named? d.property = some p)
    (h : Change.read p d.value = .error f) :
    x.apply d = raise [styleWarning x.element (.invalidValue p.name f)] := by
  refine apply_of_rejection ?_ x
  simp only [rejection?, hName, h]

/-- An address with the flag behind it asks for a picture. -/
theorem asksNothing_flagged (value : String) :
    Finder.asksNothing (trimmed (flagged value)) = false := by
  have hMark : '!' ∈ (trimmed (flagged value)).toList := by
    rw [trimmed, String.toList_ofList]
    exact mark_mem_trim_flagged value
  rw [Finder.asksNothing, Bool.or_eq_false_iff]
  refine ⟨?_, ?_⟩
  · rw [beq_eq_false_iff_ne]
    intro hEmpty
    rw [hEmpty] at hMark
    cases hMark
  · exact sameLetters_of_mark hMark (by decide)

/-- If there is no picture with an address, that is reported. -/
theorem apply_of_missing {address : String}
    (hName : Property.named? d.property = some .backgroundImage)
    (hAddress : Asset.normalPath d.value = address) (hAsks : Finder.asksNothing address = false)
    (hFound : st.finder.answer address = none) :
    (x.apply d st).2.host = st.host ∧ (x.apply d st).2.warnings =
      st.warnings ++ [⟨some x.element.label, .backgroundMissing address⟩] := by
  obtain ⟨mid, hFind, hTells, hHost⟩ := x.exists_findSprite address st
  have hOut : x.carryOut .backgroundImage d.value = x.setBackground address := by
    rw [← hAddress]
    rfl
  have hRun : (x.carryOut .backgroundImage d.value) st =
      (warn (some x.element.label) (.backgroundMissing address) : StageM ApplyFault Unit) mid := by
    rw [hOut, setBackground, if_neg (by rw [hAsks]; exact Bool.false_ne_true), run_bind_ok hFind]
    simp only [hFound]
  obtain ⟨mid', hWarn, hMore, hHost'⟩ := x.exists_warn (.backgroundMissing address) mid
  rw [apply_of_named hName, orWarn, hRun, hWarn]
  exact ⟨hHost'.trans hHost, (hTells.trans hMore).warnings_eq⟩

/-- Putting the flag behind the value of a declaration changes nothing where values are read token
by token, and where a color is read that ends with no flag already. A color that does, and a word,
are rejected; an address asks for a picture with the flag in its name. -/
theorem apply_flagged (x : Subject) (st : Stage) {d : Declaration} {p : Property}
    (hName : Property.named? d.property = some p) :
    (p.reading = .tokens → x.Accepts st d → x.apply d.flagged st = x.apply d st) ∧
    (p.reading = .color → ¬ flagText <:+ trim d.value.toList → x.Accepts st d →
      x.apply d.flagged st = x.apply d st) ∧
    (p.reading = .color → flagText <:+ trim d.value.toList → ∃ f, x.apply d.flagged st =
      raise [styleWarning x.element (.invalidValue p.name f)] st) ∧
    (p.reading = .word → ∃ f, x.apply d.flagged st =
      raise [styleWarning x.element (.invalidValue p.name f)] st) ∧
    (p.reading = .address → st.finder.answer (trimmed d.flagged.value) = none →
      (x.apply d.flagged st).2.host = st.host ∧ (x.apply d.flagged st).2.warnings = st.warnings ++
        [⟨some x.element.label, .backgroundMissing (trimmed d.flagged.value)⟩]) := by
  have hSame (hRead : ∀ c, Change.read p d.value = .ok c →
      Change.read p d.flagged.value = .ok c) (h : x.Accepts st d) :
      x.apply d.flagged st = x.apply d st := by
    obtain ⟨c, hOk⟩ := exists_read_of_accepts hName h
    have hApply : x.apply d.flagged = x.apply d :=
      apply_congr_read hName hName ((hRead c hOk).trans hOk.symm)
    exact congrFun hApply st
  have hRejected (hRead : ∃ f, Change.read p d.flagged.value = .error f) :
      ∃ f, x.apply d.flagged st = raise [styleWarning x.element (.invalidValue p.name f)] st := by
    obtain ⟨f, hError⟩ := hRead
    have hApply : x.apply d.flagged = raise [styleWarning x.element (.invalidValue p.name f)] :=
      apply_of_read_error hName hError
    exact ⟨f, congrFun hApply st⟩
  refine ⟨fun hReading => hSame fun _ => read_flagged hReading,
    fun hReading hFlag => hSame fun _ h => read_flagged_color hReading h hFlag,
    fun hReading hFlag => hRejected (exists_read_flagged_color hReading hFlag),
    fun hReading => hRejected (exists_read_flagged hReading d.value), fun hReading hFound => ?_⟩
  have hBackground : p = .backgroundImage := by
    cases p with
    | backgroundImage => rfl
    | _ => cases hReading
  rw [hBackground] at hName
  have hAddress : Asset.normalPath d.flagged.value = trimmed d.flagged.value :=
    normalPath_flagged d.value
  have hAsks : Finder.asksNothing (trimmed d.flagged.value) = false := asksNothing_flagged d.value
  exact apply_of_missing hName hAddress hAsks hFound

/-- A width with the flag behind it. -/
theorem apply_flagged_width :
    let s := Scene.withCanvas 800 600
    let x : Subject := ⟨.mk "Label" none Catalog.empty [] none, Scene.empty.nodes.nextKey, none,
      none, ⟨800, 600⟩, Catalog.empty, 14, false⟩
    let st : Stage := ⟨Host.ofScene s, .ofSource Asset.Shelf.empty.source, []⟩
    let d : Declaration := ⟨"width", "10px"⟩
    d.flagged.value = "10px !important" ∧ x.Accepts st d ∧ x.apply d.flagged st = x.apply d st := by
  intro s x st d
  have hName : Property.named? d.property = some (.size .horizontal) := by decide +kernel
  have hAccepts : x.Accepts st d := by decide +kernel
  exact ⟨rfl, hAccepts, (apply_flagged x st hName).1 rfl hAccepts⟩

/-- The flag is not ignored for every property: a node that is to be hidden stays, and a warning is
raised. -/
theorem not_apply_flagged :
    ¬ ∀ (x : Subject) (st : Stage), st.host.Willing → st.host.scene.Reachable →
      st.host.scene.contains x.node = true → ∀ (d : Declaration) (p : Property),
      Property.named? d.property = some p → x.Accepts st d →
      (x.apply d.flagged st).2.host.scene = (x.apply d st).2.host.scene ∧
        x.Accepts st d.flagged := by
  let s := Scene.withCanvas 800 600
  let x : Subject := ⟨.mk "Label" none Catalog.empty [] none, Scene.empty.nodes.nextKey, none,
    none, ⟨800, 600⟩, Catalog.empty, 14, false⟩
  let st : Stage := ⟨Host.ofScene s, .ofSource Asset.Shelf.empty.source, []⟩
  let d : Declaration := ⟨"display", "none"⟩
  intro hIgnored
  have hs : s.Reachable := ⟨[], Or.inr ⟨800, 600, rfl⟩⟩
  have hName : Property.named? d.property = some .display := by decide +kernel
  have hAccepts : x.Accepts st d := by decide +kernel
  have hRejects : ¬ x.Accepts st d.flagged := by decide +kernel
  exact hRejects (hIgnored x st (Host.willing_ofScene s) hs rfl d .display hName hAccepts).2

end Subject

end Styling

end AnchoredUi
