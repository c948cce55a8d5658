import AnchoredUi.Styling.GroupStyle

/-!
# Groups that follow another style

Bringing a group in line with a style sets its axis, the places of its children, and whether these
are expanded across the axis. Whether they are expanded along it is left as it was. So a group that
followed one style and then follows another one keeps a trace of the first if the axis turns: what
was stretched across a column is still expanded along a row. Nothing else of the first style is
left.

* `configure_eq`, `expands_configure`: what stays and what is set.
* `not_configure_configure`: a row whose children still fill what they filled as a column.
* `configure_configure`: the trace of the first style, and when there is none.
-/

namespace AnchoredUi.Plane

theorem Axis.cross_ne (axis : Axis) : axis.cross ≠ axis := by
  cases axis <;> decide

theorem Axis.eq_cross_of_ne {axis other : Axis} (h : axis ≠ other) : axis = other.cross := by
  revert h
  cases axis <;> cases other <;> decide

end AnchoredUi.Plane

namespace AnchoredUi.SceneGraph.LayoutGroup

open Plane

theorem expands_setExpands (g : LayoutGroup) (axis other : Axis) (value : Bool) :
    (g.setExpands axis value).expands other = if other = axis then value else g.expands other := by
  cases axis <;> cases other <;> rfl

end AnchoredUi.SceneGraph.LayoutGroup

namespace AnchoredUi.Styling

open Plane SceneGraph Style

/-! ## What a style sets of a group -/

/-- The style asks for children that are expanded across its axis. -/
def stretches (style : Declarations) : Bool :=
  (declaredWord style "align-items" Align.words).getD .start == Align.stretch

/-- Bringing a group in line with a style changes nothing about its gaps and paddings. -/
theorem configure_eq (style : Declarations) (g : LayoutGroup) :
    (configure style g).spacing = g.spacing ∧ (configure style g).padding = g.padding := by
  have hExpands : ∀ axis value, (g.setExpands axis value).spacing = g.spacing ∧
      (g.setExpands axis value).padding = g.padding := by
    intro axis value
    cases axis <;> exact ⟨rfl, rfl⟩
  exact hExpands _ _

/-- Of the two expansions, the one across the axis is set. -/
theorem expands_configure (style : Declarations) (g : LayoutGroup) (axis : Axis) :
    (configure style g).expands axis =
      if axis = (directionOf style).axis.cross then stretches style else g.expands axis :=
  g.expands_setExpands (directionOf style).axis.cross axis (stretches style)

/-- A style makes the same of groups that have the same gaps and paddings, and the same expansion
along its axis. -/
theorem configure_congr {style : Declarations} {g g' : LayoutGroup}
    (hSpacing : g.spacing = g'.spacing) (hPadding : g.padding = g'.padding)
    (hExpands : g.expands (directionOf style).axis = g'.expands (directionOf style).axis) :
    configure style g = configure style g' := by
  dsimp only [configure]
  generalize (directionOf style).axis = axis at hExpands ⊢
  obtain ⟨_, _, _, spacing, padding, width, height⟩ := g
  obtain ⟨_, _, _, spacing', padding', width', height'⟩ := g'
  cases hSpacing
  cases hPadding
  cases axis <;> cases hExpands <;> rfl

/-! ## Two styles, one after the other -/

/-- A column that stretches its children across becomes a row. The children are expanded along the
row, although neither the row nor the group that was there at first asks for that. -/
theorem not_configure_configure :
    let column : Declarations := ⟨[⟨"align-items", "stretch"⟩]⟩
    let row : Declarations := ⟨[⟨"flex-direction", "row"⟩]⟩
    let g : LayoutGroup := .along .vertical
    (configure row (configure column g)).expandWidth = true ∧
      (configure row g).expandWidth = false ∧
      configure row (configure column g) ≠ configure row g := by
  decide +kernel

/-- All that is left of the first style is the expansion across its axis. So nothing is left of it
exactly if the second style has the same axis, or if the group was expanded across the first axis as
the first style wants it. -/
theorem configure_configure (style style' : Declarations) (g : LayoutGroup) :
    configure style' (configure style g) =
        configure style' (g.setExpands (directionOf style).axis.cross (stretches style)) ∧
      (configure style' (configure style g) = configure style' g ↔
        (directionOf style').axis = (directionOf style).axis ∨
          g.expands (directionOf style).axis.cross = stretches style) := by
  have hFirst : configure style' (configure style g) =
      configure style' (g.setExpands (directionOf style).axis.cross (stretches style)) :=
    configure_congr rfl rfl (by rw [expands_configure, LayoutGroup.expands_setExpands])
  obtain ⟨hSpacing, hPadding⟩ := configure_eq style g
  refine ⟨hFirst, ?_⟩
  constructor
  · intro hSame
    by_cases hAxis : (directionOf style').axis = (directionOf style).axis
    · exact Or.inl hAxis
    · -- the second style leaves the expansion along its own axis, which is across the first one
      have hCross := Axis.eq_cross_of_ne hAxis
      have hExpands := congrArg (fun g => g.expands (directionOf style').axis) hSame
      simp only [expands_configure, if_neg (Axis.cross_ne _).symm, if_pos hCross] at hExpands
      exact Or.inr (by rw [← hCross, hExpands])
  · intro hNone
    refine configure_congr hSpacing hPadding ?_
    rw [expands_configure]
    split
    · rename_i hCross
      rcases hNone with hAxis | hStretched
      · exact absurd (hCross.symm.trans hAxis) (Axis.cross_ne _)
      · rw [hCross, hStretched]
    · rfl

end AnchoredUi.Styling
