import AnchoredUi.Asset.Shelf
import AnchoredUi.Proofs.Number.Sign
import AnchoredUi.Proofs.Widget.Bounded
import AnchoredUi.Proofs.Widget.Raised
import AnchoredUi.Proofs.Widget.Wiring

/-!
# Sliders that were built

The ends of a slider may be given in either order, they may be equal, and they may be so far apart
that their distance is all but infinite. The value is brought between them all the same, the
fraction at which it is stays a fraction, and both rectangles that depend on it follow that
fraction.

* `Ranged.between`: the value of a slider and its ends, as they are compared.
* `slider_stands_in_range`: every slider that was built.
-/

namespace AnchoredUi.Widget

open Number Plane SceneGraph Markup Kind Sprite Styling Binary

/-! ## Comparisons -/

/-- Between the lower and the upper end there is room, and the value is there. -/
theorem Ranged.between {low high : Single} {value : Option Single} (h : Ranged low high value)
    (whole : Bool) :
    low.smaller high ≤ high.larger low ∧
      low.smaller high ≤ (sliderIn low high value whole).value ∧
      (sliderIn low high value whole).value ≤ high.larger low := by
  obtain ⟨hFinite, hLow, hHigh⟩ := value_sliderIn h whole
  obtain ⟨hLower, hMin⟩ := value_smaller h.finite_low h.finite_high
  obtain ⟨hUpper, hMax⟩ := value_larger h.finite_high h.finite_low
  rw [atMost_iff_value hLower hUpper, atMost_iff_value hLower hFinite,
    atMost_iff_value hFinite hUpper, hMin, hMax]
  exact ⟨hLow.trans hHigh, hLow, hHigh⟩

theorem fraction_between {x : Single} (h : x.Fraction) : 0 ≤ x ∧ x ≤ 1 ∧ x ≠ .nan := by
  refine ⟨(zero_le_iff_value h.isFinite).mpr h.nonneg, ?_, ne_nan_of_isFinite h.isFinite⟩
  rw [atMost_iff_value h.isFinite value_one.1, value_one.2]
  exact h.le_one

/-! ## Building -/

/-- A node is referred to that has a name and a rectangle. -/
def Placed (t : Scene) (reference : Option NodeId) (name : String) (rect : Rect Single) : Prop :=
  ∃ id, reference = some id ∧ t.name? id = some name ∧ t.rect? id = some rect

/-- The node of a part has the name and the rectangle with which the part was made. -/
theorem Stands.placed {b : Blueprint} {answers : String → Option Sprite} {name : String}
    {parent : NodeId} {s t : Scene} {nodes : Part → NodeId}
    (h : Stands b answers name parent s t nodes) {p under : Part} {label : String}
    {rect : Rect Single} (hStep : Step.node p label under rect ∈ b.stepsFor answers) :
    Placed t (some (nodes p)) label rect :=
  ⟨_, rfl, (h.laid.named p label under rect hStep).2.2, h.sized p label under rect hStep⟩

/-- A slider that was built has the ends that its attributes write, and a value between them. The
value is at a proper fraction of the way, at which the fill ends and the handle stands. -/
theorem slider_stands_in_range {l : Lettering} {e : Element} {parent : NodeId} {st st' : Stage}
    {w : Built} (hs : st.host.scene.Reachable) (h : build .slider l e parent st = (.ok w, st')) :
    ∃ v : SceneGraph.Slider NodeId, st'.host.scene.components w.root = [.slider v] ∧
      v.low = numberOr e "low-value" 0 ∧ v.high = numberOr e "high-value" 1 ∧
      v.low.smaller v.high ≤ v.high.larger v.low ∧
      v.low.smaller v.high ≤ v.value ∧ v.value ≤ v.high.larger v.low ∧
      0 ≤ v.fraction ∧ v.fraction ≤ 1 ∧ v.fraction ≠ .nan ∧
      (∃ r, Placed st'.host.scene v.fill "Fill" r ∧ r.anchorMax.x = v.fraction) ∧
      ∃ r, Placed st'.host.scene v.handle "Handle" r ∧
        r.anchorMin.x = v.fraction ∧ r.anchorMax.x = v.fraction := by
  obtain ⟨b, nodes, hBlueprint, hStands, rfl⟩ := exists_stands_of_build hs.forest h
  have hWired := wired_blueprint hBlueprint (b.picture.bind st.finder.answer)
  obtain ⟨v, hOf, rfl⟩ := exists_of_map_eq_ok hBlueprint
  have hComponents := hStands.furnished.filled_eq hWired.orderly .root List.mem_cons_self
  obtain ⟨hPos, hOne, hNan⟩ := fraction_between (fraction_sliderOf hOf)
  obtain ⟨value, rfl, hRanged⟩ := exists_sliderOf hOf
  obtain ⟨hRoom, hLow, hHigh⟩ := hRanged.between (e.tag == "SliderInt")
  let v := sliderIn (numberOr e "low-value" 0) (numberOr e "high-value" 1) value
    (e.tag == "SliderInt")
  have hFill : Step.node .fill "Fill" .fillArea (fillRect v.fraction) ∈ sliderSteps v := by
    simp [sliderSteps]
  have hHandle : Step.node .handle "Handle" .slideArea (handleRect v.fraction) ∈ sliderSteps v := by
    simp [sliderSteps]
  let v' : SceneGraph.Slider NodeId :=
    { v with
      fill := some (nodes .fill)
      handle := some (nodes .handle)
      target := some (nodes .handle) }
  exact ⟨v', hComponents, rfl, rfl, hRoom, hLow, hHigh, hPos, hOne, hNan,
    ⟨_, hStands.placed hFill, rfl⟩, _, hStands.placed hHandle, rfl, rfl⟩

/-- The range is given upside down and the value lies outside of it, above. -/
theorem slider_stands_at_zero :
    let st : Stage := ⟨Host.ofScene (Scene.withCanvas 800 600),
      .ofSource Asset.Shelf.empty.source, []⟩
    let e : Element := .mk "Slider" none
      (Catalog.ofList [⟨"low-value", "10"⟩, ⟨"high-value", " -10 "⟩, ⟨"value", "12.5"⟩]) [] none
    let run : Except BuildFault Built × Stage :=
      build .slider ⟨"", 14⟩ e Scene.empty.nodes.nextKey st
    st.host.scene.Reachable ∧ ∃ w v, run = (.ok w, run.2) ∧
      run.2.host.scene.components w.root = [.slider v] ∧ v.low = 10 ∧ v.high = -10 ∧
      v.value ≤ 10 ∧ ∃ r, Placed run.2.host.scene v.handle "Handle" r ∧
        r.anchorMin.x = v.fraction ∧ r.anchorMax.x = v.fraction := by
  intro st e run
  have hs : st.host.scene.Reachable := ⟨[], Or.inr ⟨800, 600, rfl⟩⟩
  let root := st.host.scene.nodes.nextKey
  have hBuilt : run.1 = .ok ⟨root, root, []⟩ := by decide +kernel
  have hRun : run = (.ok ⟨root, root, []⟩, run.2) := by
    rw [← hBuilt, Prod.eta]
  obtain ⟨v, hComponents, hLow, hHigh, -, -, hValue, -, -, -, -, hHandle⟩ :=
    slider_stands_in_range hs hRun
  have hLow' : v.low = 10 := hLow.trans (by decide +kernel)
  have hHigh' : v.high = -10 := hHigh.trans (by decide +kernel)
  have hTop : (-10 : Single).larger 10 = 10 := by decide +kernel
  rw [hLow', hHigh', hTop] at hValue
  exact ⟨hs, _, v, hRun, hComponents, hLow', hHigh', hValue, hHandle⟩

end AnchoredUi.Widget
