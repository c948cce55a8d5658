import Mathlib.Algebra.BigOperators.Ring.List
import Mathlib.Algebra.Order.BigOperators.Group.List
import Mathlib.Algebra.Order.Group.MinMax
import Mathlib.Data.Rat.Floor
import Mathlib.Tactic.Linarith
import Mathlib.Tactic.Ring
import AnchoredUi.Flow.Line

/-!
# Sharing out a line, in exact numbers

Over the rationals, the items that grow take exactly the room that is left, and none of them ends
below its least extent. The algorithm gives all of them their shares, and those that are then still
below their least extents become final. The others get their shares anew, of what is left after the
final ones. That some items are left to take the rest is due to the least extents, which fit the
room all together; that they take all of it is due to their factors, which must add up to one in
every round, or without gaps in the first one.

* `Frame.extents_onlyAlong`: the extents do not depend on what the items take across the line.
* `Growing.given`, `Given.shared_of_no_lack`, `Given.growing_of_lack`: what one round does.
* `shared_rounds`: all rounds together.
* `Frame.extents_of_no_growth`, `Frame.extents_of_growth`: the extents of a line.
-/

namespace AnchoredUi.Flow

open Number

/-! ## Exact arithmetic -/

theorem total_eq_sum (xs : List ℚ) : total xs = xs.sum := by
  have h : ∀ a : ℚ, xs.foldl (fun x y : ℚ => x + y) a = a + xs.sum := by
    induction xs with
    | nil => simp
    | cons x xs ih => intro a; rw [List.foldl_cons, ih, List.sum_cons, add_assoc]
  exact (h 0).trans (zero_add _)

theorem less_iff (a b : ℚ) : Measure.less a b = true ↔ a < b := Iff.rfl

theorem larger_eq_max (a b : ℚ) : Measure.larger a b = max a b := by
  show (if Measure.less a b = true then b else a) = _
  simp only [less_iff]
  split
  · exact (max_eq_right (le_of_lt ‹_›)).symm
  · exact (max_eq_left (not_lt.mp ‹_›)).symm

theorem divisible_iff (a : ℚ) : Measure.divisible a = true ↔ a ≠ 0 := by
  show (a.num != 0) = true ↔ _
  simp

theorem smaller_eq_min (a b : ℚ) : smaller a b = min a b := by
  show -(Measure.larger (-a) (-b)) = _
  rw [larger_eq_max, max_neg_neg, neg_neg]

theorem LineItem.hypothetical_eq (i : LineItem ℚ) : i.hypothetical = max i.basis i.least :=
  larger_eq_max _ _

/-! ## What sharing reads -/

section OnlyAlong

variable {α : Type} [Measure α]

/-- The item with nothing to say about its place across the line. -/
def LineItem.onlyAlong (i : LineItem α) : LineItem α :=
  { i with across := .least, leastAcross := 0, place := .start }

namespace Sharing

/-- An item that shares, with nothing to say about its place across the line. -/
def onlyAlong (s : Sharing α) : Sharing α := { s with item := s.item.onlyAlong }

variable (ss : List (Sharing α))

theorem taken_onlyAlong (gaps : α) : taken gaps (ss.map onlyAlong) = taken gaps ss := by
  rw [taken, List.map_map]
  rfl

theorem factors_onlyAlong : factors (ss.map onlyAlong) = factors ss := by
  rw [factors, List.filter_map, List.map_map]
  rfl

theorem grown_onlyAlong (x y : α) (s : Sharing α) :
    grown x y s.onlyAlong = (grown x y s).onlyAlong := by
  unfold grown
  rw [apply_ite onlyAlong, apply_ite onlyAlong]
  rfl

theorem settled_onlyAlong (x : α) (s : Sharing α) :
    settled x s.onlyAlong = (settled x s).onlyAlong := by
  unfold settled
  rw [apply_ite onlyAlong]
  rfl

theorem round_onlyAlong (room gaps first : α) :
    round room gaps first (ss.map onlyAlong) = (round room gaps first ss).map onlyAlong := by
  have hFree : free room gaps first (ss.map onlyAlong) = free room gaps first ss := by
    rw [free, taken_onlyAlong, factors_onlyAlong]
    rfl
  have hGrown : (ss.map onlyAlong).map (grown (free room gaps first ss) (factors ss)) =
      (ss.map (grown (free room gaps first ss) (factors ss))).map onlyAlong := by
    simp [Function.comp_def, grown_onlyAlong]
  rw [round, hFree, factors_onlyAlong, hGrown, round]
  generalize ss.map (grown (free room gaps first ss) (factors ss)) = given
  rw [List.filter_map, List.map_map, List.map_map, List.map_map]
  refine List.map_congr_left fun s _ => settled_onlyAlong _ s

theorem rounds_onlyAlong (room gaps first : α) (count : ℕ) :
    rounds room gaps first count (ss.map onlyAlong) =
      (rounds room gaps first count ss).map onlyAlong := by
  induction count generalizing ss with
  | zero => rfl
  | succ count ih =>
    have hAll : (ss.map onlyAlong).all final = ss.all final := by
      rw [List.all_map]
      rfl
    rw [rounds, hAll, round_onlyAlong, ih, rounds, apply_ite (List.map onlyAlong)]

end Sharing

/-- The extents along a line do not depend on what its items take across it. -/
theorem Frame.extents_onlyAlong (f : Frame α) (items : List (LineItem α)) :
    f.extents (items.map LineItem.onlyAlong) = f.extents items := by
  have hStart : (items.map LineItem.onlyAlong).map Sharing.ofItem =
      (items.map Sharing.ofItem).map Sharing.onlyAlong := by
    rw [List.map_map, List.map_map]
    rfl
  have hBefore : (items.map LineItem.onlyAlong).map LineItem.hypothetical =
      items.map LineItem.hypothetical := by
    rw [List.map_map]
    rfl
  have hExtents (ss : List (Sharing α)) :
      (ss.map Sharing.onlyAlong).map Sharing.extent = ss.map Sharing.extent := by
    rw [List.map_map]
    rfl
  simp only [extents, hStart, hBefore, hExtents, List.length_map, Sharing.taken_onlyAlong,
    Sharing.rounds_onlyAlong]

end OnlyAlong

/-! ## Items that share a room -/

/-- No number of the item along the line is negative. -/
structure LineItem.Nonneg (i : LineItem ℚ) : Prop where
  basis : 0 ≤ i.basis
  least : 0 ≤ i.least
  grow : 0 ≤ i.grow

/-- Whichever items become final before the others, the factors of those that are left add up to
one: either each of them is enough alone, or those are that no least extent holds back. -/
def AlwaysOne (items : List (LineItem ℚ)) : Prop :=
  (∀ i ∈ items, 0 < i.grow → 1 ≤ i.grow) ∨
    1 ≤ (items.map fun i => if i.least ≤ i.basis then i.grow else 0).sum

/-- What grows takes all of the room. Without gaps, it is enough that the factors add up to one in
the beginning. -/
def Fills (gaps : ℚ) (items : List (LineItem ℚ)) : Prop :=
  AlwaysOne items ∨ gaps = 0 ∧ 1 ≤ (items.map LineItem.grow).sum

instance : DecidablePred AlwaysOne := fun _ => inferInstanceAs (Decidable (_ ∨ _))

instance (gaps : ℚ) (items : List (LineItem ℚ)) : Decidable (Fills gaps items) :=
  inferInstanceAs (Decidable (_ ∨ _))

namespace Sharing

variable {room gaps first : ℚ} {ss : List (Sharing ℚ)} {s : Sharing ℚ}

@[simp] theorem grown_item (x y : ℚ) (s : Sharing ℚ) : (grown x y s).item = s.item := by
  rw [grown]
  split
  · rfl
  · split <;> rfl

@[simp] theorem grown_final (x y : ℚ) (s : Sharing ℚ) : (grown x y s).final = s.final := by
  rw [grown]
  split
  · rfl
  · split <;> rfl

@[simp] theorem settled_item (lacks : ℚ) (s : Sharing ℚ) : (settled lacks s).item = s.item := by
  rw [settled]
  split <;> rfl

theorem taken_eq (gaps : ℚ) (ss : List (Sharing ℚ)) :
    taken gaps ss = gaps + (ss.map fun s => if s.final then s.extent else s.item.basis).sum := by
  rw [← total_eq_sum]
  rfl

theorem factors_eq (ss : List (Sharing ℚ)) :
    factors ss = (ss.map fun s => if s.final then 0 else s.item.grow).sum := by
  rw [factors, total_eq_sum]
  induction ss with
  | nil => rfl
  | cons s ss ih => cases h : s.final <;> simp [h, ih]

theorem lacks_eq (ss : List (Sharing ℚ)) :
    total ((ss.filter fun s => !s.final).map lack) = (ss.map lack).sum := by
  rw [total_eq_sum]
  induction ss with
  | nil => rfl
  | cons s ss ih =>
    cases h : s.final
    · simp [h, ih]
    · have hLack : lack s = 0 := by rw [lack, if_pos h]
      simp [h, ih, hLack]

theorem lack_nonneg (s : Sharing ℚ) : 0 ≤ lack s := by
  rw [lack]
  split
  · exact le_refl _
  · rw [kept, larger_eq_max, larger_eq_max]
    exact sub_nonneg.mpr ((le_max_left _ _).trans (le_max_left _ _))

/-- How many items are not final. -/
def openCount (ss : List (Sharing ℚ)) : ℕ := ss.countP fun s => !s.final

/-- Some items still grow, and there is room for it. What is final is as large as it was before it
could grow. -/
structure Roomy (room gaps : ℚ) (ss : List (Sharing ℚ)) : Prop where
  nonneg : ∀ s ∈ ss, s.item.Nonneg
  roomy : gaps + (ss.map fun s => s.item.hypothetical).sum < room
  grows : ∀ s ∈ ss, s.final = false → 0 < s.item.grow
  held : ∀ s ∈ ss, s.final = true →
    s.extent = s.item.hypothetical ∧ (s.item.grow = 0 ∨ s.item.basis < s.item.least)
  unfinished : ∃ s ∈ ss, s.final = false

/-- Before a round. If the factors do not add up to one, their part of the first room is still as
much as is left. -/
structure Growing (room gaps first : ℚ) (ss : List (Sharing ℚ)) : Prop
    extends Roomy room gaps ss where
  enough : AlwaysOne (ss.map item) ∨ gaps = 0 ∧ room - taken gaps ss ≤ first * factors ss

/-- In a round, the items have their shares, but may still be below their least extents. -/
structure Given (room gaps first : ℚ) (ss : List (Sharing ℚ)) : Prop
    extends Roomy room gaps ss where
  full : gaps + (ss.map extent).sum = room
  basis_le : ∀ s ∈ ss, s.final = false → s.item.basis ≤ s.extent
  enough : AlwaysOne (ss.map item) ∨
    gaps = 0 ∧ ∀ s ∈ ss, s.final = false → s.extent ≤ s.item.basis + first * s.item.grow

/-- All items are final and take the whole room. -/
structure Shared (room gaps : ℚ) (ss : List (Sharing ℚ)) : Prop where
  full : gaps + (ss.map extent).sum = room
  final : ∀ s ∈ ss, s.final = true
  least : ∀ s ∈ ss, s.item.hypothetical ≤ s.extent
  held : ∀ s ∈ ss, s.item.grow = 0 → s.extent = s.item.hypothetical

/-! ### The shares of one round -/

namespace Roomy

variable (h : Roomy room gaps ss)
include h

theorem grow_le_factors (hs : s ∈ ss) (hOpen : s.final = false) : s.item.grow ≤ factors ss := by
  have hMem : s.item.grow ∈ ss.map fun s => if s.final then 0 else s.item.grow :=
    List.mem_map.mpr ⟨s, hs, by simp [hOpen]⟩
  rw [factors_eq]
  refine List.single_le_sum ?_ _ hMem
  rintro _ hGrow
  obtain ⟨s', hs', rfl⟩ := List.mem_map.mp hGrow
  split
  · exact le_refl _
  · exact (h.nonneg s' hs').grow

theorem factors_pos : 0 < factors ss := by
  obtain ⟨s, hs, hOpen⟩ := h.unfinished
  exact (h.grows s hs hOpen).trans_le (h.grow_le_factors hs hOpen)

theorem one_le_factors (hOne : AlwaysOne (ss.map item)) : 1 ≤ factors ss := by
  rcases hOne with hEach | hSome
  · obtain ⟨s, hs, hOpen⟩ := h.unfinished
    exact (hEach s.item (List.mem_map_of_mem hs) (h.grows s hs hOpen)).trans
      (h.grow_le_factors hs hOpen)
  · refine hSome.trans ?_
    rw [List.map_map, factors_eq]
    refine List.sum_le_sum fun s hs => ?_
    -- what no least extent holds back is not final, unless it does not grow at all
    cases hFinal : s.final with
    | false =>
      simp only [Function.comp]
      split
      · simp
      · simpa using (h.nonneg s hs).grow
    | true =>
      rcases (h.held s hs hFinal).2 with hZero | hLow
      · simp [hZero]
      · simp [not_le.mpr hLow]

theorem taken_lt : taken gaps ss < room := by
  rw [taken_eq]
  refine lt_of_le_of_lt ?_ h.roomy
  rw [add_le_add_iff_left]
  refine List.sum_le_sum fun s hs => ?_
  rw [LineItem.hypothetical_eq]
  split
  · rename_i hFinal
    rw [(h.held s hs hFinal).1, LineItem.hypothetical_eq]
  · exact le_max_left _ _

end Roomy

namespace Growing

variable (h : Growing room gaps first ss)
include h

theorem free_eq : free room gaps first ss = room - taken gaps ss := by
  rw [free]
  rcases h.enough with hOne | ⟨hNoGaps, hLeft⟩
  · have hNot : ¬ Measure.less (factors ss) 1 = true := not_lt.mpr (h.one_le_factors hOne)
    rw [if_neg hNot]
  · rw [smaller_eq_min, min_eq_right (by rwa [hNoGaps, sub_zero, ← hNoGaps]), ite_self]

theorem grown_eq (s : Sharing ℚ) : grown (free room gaps first ss) (factors ss) s =
    if s.final then s
    else
      { s with extent := s.item.basis + (room - taken gaps ss) / factors ss * s.item.grow } := by
  have hDivide :
      (Measure.divisible (room - taken gaps ss) && Measure.less 0 (factors ss)) = true := by
    rw [Bool.and_eq_true, divisible_iff, less_iff]
    exact ⟨(sub_pos.mpr h.taken_lt).ne', h.factors_pos⟩
  rw [h.free_eq, grown, if_pos hDivide, mul_div_assoc', div_mul_eq_mul_div]

theorem sum_grown :
    gaps + ((ss.map (grown (free room gaps first ss) (factors ss))).map extent).sum = room := by
  have hExtents : (ss.map (grown (free room gaps first ss) (factors ss))).map extent =
      ss.map fun s => (if s.final then s.extent else s.item.basis) +
        (room - taken gaps ss) / factors ss * if s.final then 0 else s.item.grow := by
    rw [List.map_map]
    refine List.map_congr_left fun s _ => ?_
    rw [Function.comp, h.grown_eq]
    split <;> ring
  rw [hExtents, List.sum_map_add, List.sum_map_mul_left, ← factors_eq,
    div_mul_cancel₀ _ h.factors_pos.ne', taken_eq]
  ring

theorem given :
    Given room gaps first (ss.map (grown (free room gaps first ss) (factors ss))) := by
  refine ⟨⟨?_, ?_, ?_, ?_, ?_⟩, h.sum_grown, ?_, ?_⟩
  · simpa using h.nonneg
  · simpa [Function.comp_def] using h.roomy
  · simpa using h.grows
  · intro s' hs' hFinal
    obtain ⟨s, hs, rfl⟩ := List.mem_map.mp hs'
    rw [grown_final] at hFinal
    rw [h.grown_eq, if_pos hFinal]
    exact h.held s hs hFinal
  · simpa using h.unfinished
  · intro s' hs' hOpen
    obtain ⟨s, hs, rfl⟩ := List.mem_map.mp hs'
    rw [grown_final] at hOpen
    rw [grown_item, h.grown_eq, if_neg (by simp [hOpen])]
    have hPart := div_nonneg (sub_pos.mpr h.taken_lt).le h.factors_pos.le
    exact le_add_of_nonneg_right (mul_nonneg hPart (h.grows s hs hOpen).le)
  · rcases h.enough with hOne | ⟨hNoGaps, hLeft⟩
    · exact .inl (by simpa [Function.comp_def] using hOne)
    · refine .inr ⟨hNoGaps, fun s' hs' hOpen => ?_⟩
      obtain ⟨s, hs, rfl⟩ := List.mem_map.mp hs'
      rw [grown_final] at hOpen
      rw [grown_item, h.grown_eq, if_neg (by simp [hOpen])]
      have hPart := (div_le_iff₀ h.factors_pos).mpr hLeft
      exact add_le_add_right (mul_le_mul_of_nonneg_right hPart (h.grows s hs hOpen).le) _

end Growing

/-! ### Least extents in one round -/

namespace Given

variable (h : Given room gaps first ss)
include h

theorem kept_eq (hs : s ∈ ss) (hOpen : s.final = false) : kept s = max s.extent s.item.least := by
  have hExtent := (h.nonneg s hs).basis.trans (h.basis_le s hs hOpen)
  rw [kept, larger_eq_max, larger_eq_max]
  exact max_eq_left (hExtent.trans (le_max_left _ _))

theorem lack_eq_zero_iff (hs : s ∈ ss) (hOpen : s.final = false) :
    lack s = 0 ↔ s.item.least ≤ s.extent := by
  rw [lack, if_neg (by simp [hOpen]), h.kept_eq hs hOpen, sub_eq_zero, max_eq_left_iff]

/-- If no item lacks anything, all are final. -/
theorem shared_of_no_lack (hLack : (ss.map lack).sum = 0) :
    Shared room gaps (ss.map (settled (ss.map lack).sum)) := by
  have hLeast : ∀ s ∈ ss, s.final = false → s.item.least ≤ s.extent := by
    intro s hs hOpen
    rw [← h.lack_eq_zero_iff hs hOpen]
    refine List.all_zero_of_le_zero_le_of_sum_eq_zero ?_ hLack (List.mem_map_of_mem hs)
    simpa using fun s _ => lack_nonneg s
  have hSettled : ∀ s ∈ ss, settled (ss.map lack).sum s = { s with final := true } := by
    intro s hs
    rw [settled, hLack]
    split
    · rename_i hFinal
      rw [← hFinal]
    · rename_i hOpen
      rw [Bool.not_eq_true] at hOpen
      rw [h.kept_eq hs hOpen, max_eq_left (hLeast s hs hOpen)]
      rfl
  rw [List.map_congr_left hSettled]
  refine ⟨?_, ?_, ?_, ?_⟩
  · simpa [Function.comp_def] using h.full
  · simp
  · intro s' hs'
    obtain ⟨s, hs, rfl⟩ := List.mem_map.mp hs'
    show s.item.hypothetical ≤ s.extent
    cases hFinal : s.final with
    | true => exact (h.held s hs hFinal).1.ge
    | false =>
      rw [LineItem.hypothetical_eq]
      exact max_le (h.basis_le s hs hFinal) (hLeast s hs hFinal)
  · intro s' hs' hZero
    obtain ⟨s, hs, rfl⟩ := List.mem_map.mp hs'
    show s.extent = s.item.hypothetical
    cases hFinal : s.final with
    | true => exact (h.held s hs hFinal).1
    | false => exact absurd hZero (h.grows s hs hFinal).ne'

/-- Not all items are below their least extents, for these fit the room. -/
theorem exists_no_lack : ∃ s ∈ ss, s.final = false ∧ lack s = 0 := by
  by_contra hNone
  have hBelow : (ss.map extent).sum ≤ (ss.map fun s => s.item.hypothetical).sum := by
    refine List.sum_le_sum fun s hs => ?_
    cases hFinal : s.final with
    | true => exact (h.held s hs hFinal).1.le
    | false =>
      have hLack : ¬ lack s = 0 := fun hZero => hNone ⟨s, hs, hFinal, hZero⟩
      rw [h.lack_eq_zero_iff hs hFinal, not_le] at hLack
      rw [LineItem.hypothetical_eq]
      exact hLack.le.trans (le_max_right _ _)
  linarith [h.full, h.roomy]

section Lack

variable (hLack : (ss.map lack).sum ≠ 0)
include hLack

/-- If some items lack something, exactly those become final. -/
theorem settled_cases (hs : s ∈ ss) :
    s.final = true ∧ settled (ss.map lack).sum s = s ∨
      s.final = false ∧ lack s = 0 ∧ settled (ss.map lack).sum s = { s with extent := kept s } ∨
      s.final = false ∧ lack s ≠ 0 ∧ s.item.basis < s.item.least ∧
        s.extent ≤ s.item.hypothetical ∧
        settled (ss.map lack).sum s =
          { s with extent := s.item.hypothetical, final := true } := by
  have hPos : 0 < (ss.map lack).sum := by
    refine lt_of_le_of_ne (List.sum_nonneg ?_) hLack.symm
    simpa using fun s _ => lack_nonneg s
  cases hFinal : s.final with
  | true => exact .inl ⟨rfl, by rw [settled, if_pos hFinal]⟩
  | false =>
    have hSettled : settled (ss.map lack).sum s =
        { s with extent := kept s, final := Measure.less 0 (lack s) } := by
      rw [settled, if_neg (by simp [hFinal]), if_pos ((less_iff _ _).mpr hPos)]
    rw [hSettled]
    right
    by_cases hZero : lack s = 0
    · refine .inl ⟨rfl, hZero, ?_⟩
      rw [hZero]
      rfl
    · have hLow : s.extent < s.item.least := by
        rwa [h.lack_eq_zero_iff hs hFinal, not_le] at hZero
      have hBasis := (h.basis_le s hs hFinal).trans_lt hLow
      have hLess : Measure.less 0 (lack s) = true :=
        lt_of_le_of_ne (lack_nonneg s) (Ne.symm hZero)
      have hSame : s.item.hypothetical = s.item.least := by
        rw [LineItem.hypothetical_eq, max_eq_right hBasis.le]
      refine .inr ⟨rfl, hZero, hBasis, by rw [hSame]; exact hLow.le, ?_⟩
      rw [hLess, h.kept_eq hs hFinal, max_eq_right hLow.le, hSame]

theorem roomy_of_lack : Roomy room gaps (ss.map (settled (ss.map lack).sum)) := by
  refine ⟨?_, ?_, ?_, ?_, ?_⟩
  · simpa using h.nonneg
  · simpa [Function.comp_def] using h.roomy
  · intro s' hs' hOpen
    obtain ⟨s, hs, rfl⟩ := List.mem_map.mp hs'
    rw [settled_item]
    refine h.grows s hs ?_
    rcases h.settled_cases hLack hs with ⟨hFinal, hSame⟩ | ⟨hFinal, -⟩ | ⟨hFinal, -⟩
    · rw [hSame, hFinal] at hOpen
      cases hOpen
    · exact hFinal
    · exact hFinal
  · intro s' hs' hFinal'
    obtain ⟨s, hs, rfl⟩ := List.mem_map.mp hs'
    rcases h.settled_cases hLack hs with ⟨hFinal, hSame⟩ | ⟨hFinal, -, hSame⟩ |
      ⟨hFinal, -, hLow, -, hSame⟩
    · rw [hSame]
      exact h.held s hs hFinal
    · rw [hSame] at hFinal'
      cases hFinal.symm.trans hFinal'
    · rw [hSame]
      exact ⟨rfl, .inr hLow⟩
  · obtain ⟨s, hs, hOpen, hZero⟩ := h.exists_no_lack
    refine ⟨_, List.mem_map_of_mem hs, ?_⟩
    rcases h.settled_cases hLack hs with ⟨hFinal, -⟩ | ⟨hFinal, -, hSame⟩ | ⟨-, hSome, -⟩
    · cases hOpen.symm.trans hFinal
    · rw [hSame]
      exact hFinal
    · exact absurd hZero hSome

/-- What becomes final takes more than its share, so that for the others less than theirs is
left. -/
theorem growing_of_lack : Growing room gaps first (ss.map (settled (ss.map lack).sum)) := by
  refine ⟨h.roomy_of_lack hLack, ?_⟩
  rcases h.enough with hOne | ⟨hNoGaps, hPart⟩
  · exact .inl (by simpa [Function.comp_def] using hOne)
  · refine .inr ⟨hNoGaps, ?_⟩
    have hSum : (ss.map extent).sum ≤ (ss.map fun s =>
        (if (settled (ss.map lack).sum s).final then (settled (ss.map lack).sum s).extent
          else s.item.basis) +
        first * if (settled (ss.map lack).sum s).final then 0 else s.item.grow).sum := by
      refine List.sum_le_sum fun s hs => ?_
      rcases h.settled_cases hLack hs with ⟨hFinal, hSame⟩ | ⟨hOpen, -, hSame⟩ |
        ⟨-, -, -, hLow, hSame⟩
      · rw [hSame, if_pos hFinal, if_pos hFinal, mul_zero, add_zero]
      · rw [hSame, if_neg (by simp [hOpen]), if_neg (by simp [hOpen])]
        exact hPart s hs hOpen
      · rw [hSame, if_pos rfl, if_pos rfl, mul_zero, add_zero]
        exact hLow
    rw [List.sum_map_add, List.sum_map_mul_left] at hSum
    rw [taken_eq, factors_eq, List.map_map, List.map_map, ← h.full]
    simp only [Function.comp_def, settled_item]
    linarith

theorem openCount_lt : openCount (ss.map (settled (ss.map lack).sum)) < openCount ss := by
  obtain ⟨s, hs, hSome⟩ : ∃ s ∈ ss, lack s ≠ 0 := by
    by_contra hNone
    refine hLack (List.sum_eq_zero ?_)
    simpa using hNone
  have hMono : ∀ s ∈ ss, !(settled (ss.map lack).sum s).final → !s.final := by
    intro s hs hOpen
    rcases h.settled_cases hLack hs with ⟨-, hSame⟩ | ⟨hFinal, -⟩ | ⟨hFinal, -⟩
    · rwa [hSame] at hOpen
    · simp [hFinal]
    · simp [hFinal]
  have hStrict : s.final = false ∧ (settled (ss.map lack).sum s).final = true := by
    rcases h.settled_cases hLack hs with ⟨hFinal, -⟩ | ⟨-, hZero, -⟩ | ⟨hFinal, -, -, -, hSame⟩
    · rw [lack, if_pos hFinal] at hSome
      exact absurd rfl hSome
    · exact absurd hZero hSome
    · exact ⟨hFinal, by rw [hSame]⟩
  generalize (ss.map lack).sum = lacks at hMono hStrict
  obtain ⟨before, after, rfl⟩ := List.append_of_mem hs
  have hBefore := List.countP_mono_left fun s' hs' => hMono s' (List.mem_append_left _ hs')
  have hAfter := List.countP_mono_left fun s' hs' =>
    hMono s' (List.mem_append_right _ (List.mem_cons_of_mem s hs'))
  simp only [openCount, List.countP_map, List.countP_append, List.countP_cons,
    Function.comp_def, hStrict]
  simp only [Bool.not_true, Bool.not_false, if_true, Bool.false_eq_true, if_false]
  omega

end Lack

end Given

/-! ### All rounds -/

theorem rounds_of_shared (h : Shared room gaps ss) (count : ℕ) :
    rounds room gaps first count ss = ss := by
  cases count with
  | zero => rfl
  | succ count => rw [rounds, if_pos (List.all_eq_true.mpr h.final)]

theorem shared_rounds (h : Growing room gaps first ss) {count : ℕ}
    (hCount : openCount ss ≤ count) :
    Shared room gaps (rounds room gaps first count ss) := by
  induction count generalizing ss with
  | zero =>
    obtain ⟨s, hs, hOpen⟩ := h.unfinished
    have hNone : openCount ss = 0 := Nat.le_zero.mp hCount
    rw [openCount, List.countP_eq_zero] at hNone
    exact absurd (by simp [hOpen]) (hNone s hs)
  | succ count ih =>
    obtain ⟨s, hs, hOpen⟩ := h.unfinished
    have hNotAll : ¬ ss.all final = true := fun hAll => by
      cases hOpen.symm.trans (List.all_eq_true.mp hAll s hs)
    rw [rounds, if_neg hNotAll, round, lacks_eq]
    have hGiven := h.given
    have hSame : openCount (ss.map (grown (free room gaps first ss) (factors ss))) =
        openCount ss := by
      simp [openCount, Function.comp_def]
    by_cases hLack : ((ss.map (grown (free room gaps first ss) (factors ss))).map lack).sum = 0
    · have hShared := hGiven.shared_of_no_lack hLack
      rw [rounds_of_shared hShared]
      exact hShared
    · have hFewer := hGiven.openCount_lt hLack
      exact ih (hGiven.growing_of_lack hLack) (by omega)

theorem map_item_rounds (room gaps first : ℚ) (count : ℕ) (ss : List (Sharing ℚ)) :
    (rounds room gaps first count ss).map item = ss.map item := by
  induction count generalizing ss with
  | zero => rfl
  | succ count ih =>
    rw [rounds]
    split
    · rfl
    · rw [ih, round]
      simp [Function.comp_def]

/-! ### The start -/

section Start

variable {items : List (LineItem ℚ)} (hNonneg : ∀ i ∈ items, i.Nonneg)

theorem final_ofItem (i : LineItem ℚ) : (ofItem i).final = false ↔ 0 < i.grow := by
  show (!Measure.less 0 i.grow) = false ↔ _
  rw [Bool.not_eq_false', less_iff]

theorem map_item_ofItem (items : List (LineItem ℚ)) : (items.map ofItem).map item = items := by
  simp [Function.comp_def, ofItem]

include hNonneg

theorem grow_eq_zero {i : LineItem ℚ} (hi : i ∈ items) (hFinal : (ofItem i).final = true) :
    i.grow = 0 := by
  refine le_antisymm (not_lt.mp fun hGrow => ?_) (hNonneg i hi).grow
  cases hFinal.symm.trans ((final_ofItem i).mpr hGrow)

theorem roomy_ofItem (hGrows : ∃ i ∈ items, 0 < i.grow)
    (hRoomy : gaps + (items.map LineItem.hypothetical).sum < room) :
    Roomy room gaps (items.map ofItem) := by
  refine ⟨by simpa [ofItem] using hNonneg, by rwa [List.map_map], ?_, ?_, ?_⟩
  · intro s hs hOpen
    obtain ⟨i, hi, rfl⟩ := List.mem_map.mp hs
    exact (final_ofItem i).mp hOpen
  · intro s hs hFinal
    obtain ⟨i, hi, rfl⟩ := List.mem_map.mp hs
    exact ⟨rfl, .inl (grow_eq_zero hNonneg hi hFinal)⟩
  · obtain ⟨i, hi, hGrow⟩ := hGrows
    exact ⟨_, List.mem_map_of_mem hi, (final_ofItem i).mpr hGrow⟩

theorem growing_ofItem (hFills : Fills gaps items) (hGrows : ∃ i ∈ items, 0 < i.grow)
    (hRoomy : gaps + (items.map LineItem.hypothetical).sum < room) :
    Growing room gaps (room - taken gaps (items.map ofItem)) (items.map ofItem) := by
  have hStart := roomy_ofItem hNonneg hGrows hRoomy
  refine ⟨hStart, ?_⟩
  rw [map_item_ofItem]
  rcases hFills with hOne | ⟨hNoGaps, hOne⟩
  · exact .inl hOne
  · refine .inr ⟨hNoGaps, le_mul_of_one_le_right (sub_pos.mpr hStart.taken_lt).le ?_⟩
    have hFactors : factors (items.map ofItem) = (items.map LineItem.grow).sum := by
      rw [factors_eq, List.map_map]
      refine congrArg List.sum (List.map_congr_left fun i hi => ?_)
      show (if (ofItem i).final then 0 else i.grow) = i.grow
      split
      · rename_i hFinal
        rw [grow_eq_zero hNonneg hi hFinal]
      · rfl
    rwa [hFactors]

end Start

end Sharing

/-! ## The extents of a line -/

namespace Frame

variable {f : Frame ℚ} {items : List (LineItem ℚ)}

theorem extents_of_roomy
    (h : f.gaps items.length + (items.map LineItem.hypothetical).sum < f.room) :
    f.extents items = (Sharing.rounds f.room (f.gaps items.length)
      (f.room - Sharing.taken (f.gaps items.length) (items.map Sharing.ofItem)) items.length
      (items.map Sharing.ofItem)).map Sharing.extent := by
  rw [← total_eq_sum] at h
  rw [extents, if_pos ((less_iff _ _).mpr h)]

/-- Nothing grows if nothing wants to, or if the line is full. -/
theorem extents_of_no_growth (h : (∀ i ∈ items, i.grow = 0) ∨
    f.room ≤ f.gaps items.length + (items.map LineItem.hypothetical).sum) :
    f.extents items = items.map LineItem.hypothetical := by
  by_cases hRoomy : f.gaps items.length + (items.map LineItem.hypothetical).sum < f.room
  · rcases h with hZero | hFull
    · have hAll : ((items.map Sharing.ofItem).all Sharing.final) = true := by
        rw [List.all_eq_true]
        intro s hs
        obtain ⟨i, hi, rfl⟩ := List.mem_map.mp hs
        rw [Sharing.ofItem, hZero i hi]
        rfl
      rw [extents_of_roomy hRoomy]
      cases hLength : items.length with
      | zero => simp [Sharing.rounds, Sharing.ofItem]
      | succ count =>
        rw [Sharing.rounds, if_pos hAll]
        simp [Sharing.ofItem]
    · exact absurd hRoomy (not_lt.mpr hFull)
  · rw [← total_eq_sum] at hRoomy
    rw [extents, if_neg (fun hLess => hRoomy ((less_iff _ _).mp hLess))]

/-- Items that grow take all of the room. -/
theorem extents_of_growth (hNonneg : ∀ i ∈ items, i.Nonneg)
    (hFills : Fills (f.gaps items.length) items)
    (hRoomy : f.gaps items.length + (items.map LineItem.hypothetical).sum < f.room)
    (hGrows : ∃ i ∈ items, 0 < i.grow) :
    f.gaps items.length + (f.extents items).sum = f.room ∧
      List.Forall₂ (fun i e => i.hypothetical ≤ e ∧ (i.grow = 0 → e = i.hypothetical)) items
        (f.extents items) := by
  have hCount : Sharing.openCount (items.map Sharing.ofItem) ≤ items.length :=
    List.countP_le_length.trans (List.length_map _).le
  have hShared := Sharing.shared_rounds
    (Sharing.growing_ofItem hNonneg hFills hGrows hRoomy) hCount
  have hSame := (Sharing.map_item_rounds f.room (f.gaps items.length)
    (f.room - Sharing.taken (f.gaps items.length) (items.map Sharing.ofItem)) items.length
    (items.map Sharing.ofItem)).trans (Sharing.map_item_ofItem items)
  rw [extents_of_roomy hRoomy]
  refine ⟨hShared.full, ?_⟩
  generalize Sharing.rounds f.room _ _ _ _ = ss at hShared hSame
  rw [← hSame, List.forall₂_map_left_iff, List.forall₂_map_right_iff, List.forall₂_same]
  exact fun s hs => ⟨hShared.least s hs, hShared.held s hs⟩

end Frame

end AnchoredUi.Flow
