import AnchoredUi.Markup.Element
import AnchoredUi.Text.Trim
import AnchoredUi.Widget.Blueprint

/-!
# Sliders

A slider has a range and a value in it, given by attributes. The fill ends, and the handle stands,
at the fraction of the range that the value is at.

* `slider_error`: a range that overflows is the fault of its high end.
-/

namespace AnchoredUi.Widget

open Number Plane SceneGraph Markup Text

/-- The number of an attribute; one that is written otherwise, or is not finite, is at fault. -/
def numberAttr (e : Element) (name : String) : Except BuildFault (Option Single) :=
  match e.attr? name with
  | none => .ok none
  | some raw =>
    match (Binary.read? (trimmed raw) : Option Single) with
    | some n => if n.isFinite then .ok (some n) else .error (.badAttribute name raw)
    | none => .error (.badAttribute name raw)

/-- A slider whose range is set and whose value is brought into it; without a value it stands in
the middle. -/
def sliderIn (low high : Single) (value : Option Single) (whole : Bool) :
    SceneGraph.Slider Part where
  fill := some .fill
  handle := some .handle
  target := some .handle
  low := low
  high := high
  value := (value.getD (low + (high - low) * Measure.half)).clamp (low.smaller high)
    (high.larger low)
  whole := whole

/-- The slider that the attributes of an element describe. -/
def sliderOf (e : Element) : Except BuildFault (SceneGraph.Slider Part) := do
  let low := (← numberAttr e "low-value").getD 0
  let high := (← numberAttr e "high-value").getD 1
  if !(high - low).isFinite then
    throw (.badAttribute "high-value" ((e.attr? "high-value").getD ""))
  let value ← numberAttr e "value"
  pure (sliderIn low high value (e.tag == "SliderInt"))

/-- The color of the track. -/
def trackColor : Color := .rgb 0.8 0.8 0.8

/-- The color of the filled part of the track. -/
def fillColor : Color := .rgb 0.3 0.55 0.9

/-- The place of the track. -/
def trackRect : Rect Single := Rect.stretched.withAnchors ⟨0, 0.25⟩ ⟨1, 0.75⟩

/-- The place of the fill up to a fraction of its area. -/
def fillRect (t : Single) : Rect Single :=
  (Rect.stretched.withAnchors ⟨0, 0⟩ ⟨t, 1⟩).withSizeDelta ⟨10, 0⟩

/-- The place of the handle at a fraction of its area. -/
def handleRect (t : Single) : Rect Single :=
  (Rect.stretched.withAnchors ⟨t, 0⟩ ⟨t, 1⟩).withSizeDelta ⟨20, 0⟩

/-- The nodes of a slider. -/
def sliderSteps (s : SceneGraph.Slider Part) : List Step := [
  .node .background "Background" .root trackRect,
  .attach .background (.graphic (.colored trackColor)),
  .node .fillArea "Fill Area" .root (trackRect.withOffsets ⟨5, 0⟩ ⟨-15, 0⟩),
  .node .fill "Fill" .fillArea (fillRect s.fraction),
  .attach .fill (.graphic (.colored fillColor)),
  .node .slideArea "Handle Slide Area" .root (framed ⟨10, 0⟩ ⟨-10, 0⟩),
  .node .handle "Handle" .slideArea (handleRect s.fraction),
  .attach .handle (.graphic (.colored .white)),
  .attach .root (.slider s)]

/-- A slider, if its attributes make sense. -/
def slider (e : Element) : Except BuildFault Blueprint :=
  (sliderOf e).map fun s => .ofSteps (sliderSteps s)

theorem slider_error {e : Element} {low high : Single}
    (hl : numberAttr e "low-value" = .ok (some low))
    (hh : numberAttr e "high-value" = .ok (some high)) (h : (high - low).isFinite = false) :
    (slider e).toOption = none := by
  have : sliderOf e = .error (.badAttribute "high-value" ((e.attr? "high-value").getD "")) := by
    simp [sliderOf, hl, hh, h, bind, Except.bind, throw, throwThe, MonadExceptOf.throw]
  simp [slider, this, Except.map, Except.toOption]

end AnchoredUi.Widget
