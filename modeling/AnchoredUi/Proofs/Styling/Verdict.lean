import AnchoredUi.Asset.Shelf
import AnchoredUi.Proofs.SceneGraph.Operation
import AnchoredUi.Proofs.Styling.Complaint
import AnchoredUi.Proofs.Styling.TwinCascade

/-!
# Declarations that are turned down

A value is judged before anything is changed. So on a host that refuses nothing, a declaration is
either turned down, and then the stage is as it was but for one warning, or it is done without a
word. Only a background has something to say when it is done: its picture may be missing, or be a
placeholder.

* `TurnedDown`, `Fulfilled`: the two ends of a declaration.
* `apply_cases`: each declaration comes to one of them.
-/

namespace AnchoredUi.Styling.Subject

open Number Plane SceneGraph Style Sprite

variable {x : Subject}

/-- What a declaration of a known property asks for is read and done. -/
def carryOut (x : Subject) (p : Property) (value : String) : StageM ApplyFault Unit :=
  match Change.read p value with
  | .ok change => x.perform change
  | .error f => throw (.value f)

theorem apply_of_named {d : Declaration} {p : Property} (h : Property.named? d.property = some p) :
    x.apply d = orWarn (x.carryOut p d.value) (x.faultWarning p) := by
  unfold apply
  rw [h]
  rfl

/-! ## Turned down or accepted -/

/-- A declaration is turned down before it changes anything: nothing has its name, or its value
makes no sense. -/
inductive TurnedDown (x : Subject) (st : Stage) (d : Declaration) : StyleFault → Prop
  | unknown (hName : Property.named? d.property = none) :
      TurnedDown x st d (.unknownProperty d.property)
  | badValue {p : Property} (hName : Property.named? d.property = some p) {f : ValueFault}
      (hRun : x.carryOut p d.value st = (.error (.value f), st)) :
      TurnedDown x st d (.invalidValue p.name f)

/-- What may be said about a background: there is no such picture, or only a placeholder. -/
inductive BackgroundNote (answers : String → Option Sprite) (address : String) :
    WarningCause → Prop
  | missing (hFound : answers address = none) :
      BackgroundNote answers address (.backgroundMissing address)
  | replaced {sprite : Sprite} (hFound : answers address = some sprite)
      (hPlaceholder : sprite.isPlaceholder = true) :
      BackgroundNote answers address (.drawingReplaced address)

/-- A declaration is done, and nothing is said about it unless it is about a background. -/
structure Fulfilled (x : Subject) (st : Stage) (d : Declaration) (p : Property) (st' : Stage) :
    Prop where
  named : Property.named? d.property = some p
  done : x.carryOut p d.value st = (.ok (), st')
  warnings : st'.warnings = st.warnings ∨
    p = .backgroundImage ∧ ∃ c, BackgroundNote st.finder.answer (Asset.normalPath d.value) c ∧
      st'.warnings = st.warnings ++ [⟨some x.element.label, c⟩]

theorem notes_cases (answers : String → Option Sprite) (change : Change) :
    change.notes answers = [] ∨ ∃ address c, change = .backgroundImage address ∧
      BackgroundNote answers address c ∧ change.notes answers = [c] := by
  cases change with
  | backgroundImage address =>
    simp only [Change.notes]
    split
    · exact Or.inl rfl
    · cases hFound : answers address with
      | none => exact Or.inr ⟨address, _, rfl, .missing hFound, rfl⟩
      | some sprite =>
        simp only
        split
        · rename_i hPlaceholder
          exact Or.inr ⟨address, _, rfl, .replaced hFound hPlaceholder, rfl⟩
        · exact Or.inl rfl
  | _ => exact Or.inl rfl

/-- Only one property asks for a background. -/
theorem eq_of_read_backgroundImage {p : Property} {value address : String}
    (h : Change.read p value = .ok (.backgroundImage address)) :
    p = .backgroundImage ∧ address = Asset.normalPath value := by
  cases p with
  | backgroundImage =>
    cases h
    exact ⟨rfl, rfl⟩
  | _ =>
    -- any other property reads its value and puts it into another change
    simp only [Change.read] at h
    obtain ⟨_, _, hChange⟩ := exists_of_map_eq_ok h
    cases hChange

theorem apply_of_turnedDown {st : Stage} {d : Declaration} {f : StyleFault}
    (h : x.TurnedDown st d f) :
    (x.apply d st).2 = { st with warnings := st.warnings ++ [styleWarning x.element f] } := by
  cases h with
  | unknown hName =>
    unfold apply
    rw [hName]
    rfl
  | badValue hName hRun =>
    rw [apply_of_named hName]
    unfold orWarn
    rw [hRun]
    rfl

theorem Fulfilled.apply_eq {st st' : Stage} {d : Declaration} {p : Property}
    (h : x.Fulfilled st d p st') : (x.apply d st).2 = st' := by
  rw [apply_of_named h.named]
  unfold orWarn
  rw [h.done]

theorem fulfilled_of_made {st st' : Stage} {d : Declaration} {p : Property} {change : Change}
    (hName : Property.named? d.property = some p) (hRead : Change.read p d.value = .ok change)
    (hRun : x.perform change st = (.ok (), st')) (hMade : x.Made change st st') :
    x.Fulfilled st d p st' := by
  refine ⟨hName, ?_, ?_⟩
  · unfold carryOut
    rw [hRead]
    exact hRun
  · have hWarnings := hMade.tells.warnings_eq
    rcases notes_cases st.finder.answer change with hNone | ⟨address, c, rfl, hNote, hOne⟩
    · left
      rw [hWarnings, hNone, List.map_nil, List.append_nil]
    · obtain ⟨rfl, rfl⟩ := eq_of_read_backgroundImage hRead
      right
      refine ⟨rfl, c, hNote, ?_⟩
      rw [hWarnings, hOne]
      rfl

/-- Where nothing is refused, a declaration is turned down or accepted. Turned down, it leaves the
scene and the finder exactly as they were, and one warning is raised, which begins with the label
of the element. Accepted, it raises none, but for one about a background that is not there as it
is. -/
theorem apply_cases {st : Stage} (hw : st.host.Willing)
    (hLive : st.host.scene.contains x.node = true) (d : Declaration) :
    (∃ f, x.TurnedDown st d f ∧
      (styleWarning x.element f).message = x.element.label ++ ": " ++ f.message ∧
      (x.apply d st).2 = { st with warnings := st.warnings ++ [styleWarning x.element f] }) ∨
    ∃ p, x.Fulfilled st d p (x.apply d st).2 := by
  cases hName : Property.named? d.property with
  | none =>
    have hDown : x.TurnedDown st d (.unknownProperty d.property) := .unknown hName
    exact Or.inl ⟨_, hDown, rfl, apply_of_turnedDown hDown⟩
  | some p =>
    have hBad : ∀ f, x.carryOut p d.value st = (.error (.value f), st) →
        ∃ f, x.TurnedDown st d f ∧
          (styleWarning x.element f).message = x.element.label ++ ": " ++ f.message ∧
          (x.apply d st).2 =
            { st with warnings := st.warnings ++ [styleWarning x.element f] } := by
      intro f hRun
      have hDown : x.TurnedDown st d (.invalidValue p.name f) := .badValue hName hRun
      exact ⟨_, hDown, rfl, apply_of_turnedDown hDown⟩
    have hOut : x.carryOut p d.value = match Change.read p d.value with
      | .ok change => x.perform change
      | .error f => throw (.value f) := rfl
    cases hRead : Change.read p d.value with
    | error f =>
      rw [hRead] at hOut
      exact Or.inl (hBad f (by rw [hOut]; rfl))
    | ok change =>
      rw [hRead] at hOut
      cases hFault : change.fault? (x.surroundings st.host.scene) with
      | some f => exact Or.inl (hBad f (by rw [hOut]; exact fault_perform hFault))
      | none =>
        obtain ⟨st', hRun, hMade⟩ := exists_perform hw hLive hFault
        have hFulfilled := fulfilled_of_made hName hRead hRun hMade
        rw [hFulfilled.apply_eq]
        exact Or.inr ⟨p, hFulfilled⟩

/-- A width below zero. -/
theorem apply_cases_negative :
    let s := Scene.withCanvas 800 600
    let x : Subject := ⟨.mk "Label" none Catalog.empty [] none, Scene.empty.nodes.nextKey, none,
      none, ⟨800, 600⟩, Catalog.empty, 14, false⟩
    let st : Stage := ⟨Host.ofScene s, .ofSource Asset.Shelf.empty.source, []⟩
    let d : Declaration := ⟨"width", "-5px"⟩
    s.Reachable ∧ s.contains x.node = true ∧
      (x.apply d st).2 =
        { st with warnings := [styleWarning x.element (.invalidValue "width" .negativeSize)] } := by
  intro s x st d
  have hs : s.Reachable := ⟨[], Or.inr ⟨800, 600, rfl⟩⟩
  have hw : st.host.Willing := Host.willing_ofScene s
  have hLive : st.host.scene.contains x.node = true := rfl
  have hName : Property.named? d.property = some (.size .horizontal) := by decide +kernel
  have hRun : (x.carryOut (.size .horizontal) d.value st).1 = .error (.value .negativeSize) := by
    decide +kernel
  refine ⟨hs, hLive, ?_⟩
  rcases apply_cases hw hLive d with
    ⟨f, hDown, -, hApply⟩ | ⟨p, hFulfilled⟩
  · rw [hApply]
    cases hDown with
    | unknown hNone =>
      rw [hName] at hNone
      cases hNone
    | badValue hSome hBad =>
      rw [hName] at hSome
      cases hSome
      rw [hBad] at hRun
      cases hRun
      rfl
  · have hSome := hFulfilled.named
    rw [hName] at hSome
    cases hSome
    rw [hFulfilled.done] at hRun
    cases hRun

end AnchoredUi.Styling.Subject
