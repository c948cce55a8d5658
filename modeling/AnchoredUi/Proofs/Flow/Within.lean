import AnchoredUi.Flow.Line
import AnchoredUi.Proofs.Number.Within

/-!
# Lines within bounds

If the room of a line and what its items ask for are within some number of units, then so are the
extents that the items get, and the room taken by all of them is within as many times that number as
there are items. An item that grows gets its basis and a part of what is left; what is left is
measured when its basis is taken already, so together they exceed the room by one unit at most.

* `extents_upTo`: the extents along the line.
* `spans_within`: the places and extents of all items.
-/

namespace AnchoredUi.Flow

open Number Plane Binary

variable {s n room most : ℕ}

/-! ## Sums -/

theorem foldl_add_upTo (hs : s ≤ topScale) {xs : List Single} {start : Single} {a : ℕ}
    (hStart : start.UpTo s a) (hxs : ∀ x ∈ xs, x.UpTo s n) (h : a + xs.length * n ≤ topCount) :
    (xs.foldl (· + ·) start).UpTo s (a + xs.length * n) ∧
      start.value ≤ (xs.foldl (· + ·) start).value ∧
      ∀ x ∈ xs, x.value ≤ (xs.foldl (· + ·) start).value := by
  induction xs generalizing start a with
  | nil => exact ⟨by simpa using hStart, le_refl _, fun _ hx => nomatch hx⟩
  | cons x xs ih =>
    rw [List.length_cons, Nat.succ_mul] at h
    obtain ⟨hSum, hLeft, hRight⟩ := hStart.add hs (hxs x List.mem_cons_self) (by omega)
    obtain ⟨hAll, hFrom, hEach⟩ := ih hSum (fun y hy => hxs y (List.mem_cons_of_mem x hy))
      (by omega)
    refine ⟨?_, hLeft.trans hFrom, fun y hy => ?_⟩
    · rw [List.length_cons, Nat.succ_mul]
      exact hAll.mono (by omega)
    · rcases List.mem_cons.mp hy with rfl | hy
      · exact hRight.trans hFrom
      · exact hEach y hy

theorem total_upTo (hs : s ≤ topScale) (xs : List Single) (hxs : ∀ x ∈ xs, x.UpTo s n)
    (h : xs.length * n ≤ topCount) :
    (total xs).UpTo s (xs.length * n) ∧ ∀ x ∈ xs, x.value ≤ (total xs).value := by
  obtain ⟨hAll, -, hEach⟩ := foldl_add_upTo hs (upTo_zero (s := s)) hxs (by omega)
  rw [Nat.zero_add] at hAll
  exact ⟨hAll, hEach⟩

/-! ## Items and lines -/

/-- What an item asks for is within some number of units. -/
structure LineItem.Within (i : LineItem Single) (s n : ℕ) : Prop where
  basis : i.basis.UpTo s n
  least : i.least.UpTo s n
  grow : i.grow.UpTo s 1
  leastAcross : i.leastAcross.UpTo s n
  fixed : ∀ e, i.across = .fixed e → e.UpTo s n

/-- The room of a line is within some number of units, and its start within one; there are no
gaps. -/
structure Frame.Within (f : Frame Single) (s n : ℕ) : Prop where
  start : f.start.Within s 1
  room : f.room.Within s n
  startAcross : f.startAcross.Within s 1
  roomAcross : f.roomAcross.UpTo s n
  gap : f.gap = 0

theorem LineItem.Within.hypothetical {i : LineItem Single} (h : i.Within s n) :
    i.hypothetical.UpTo s n := by
  have hLarger := h.basis.within.larger_upTo h.least
  rwa [max_self] at hLarger

theorem Frame.Within.gaps {f : Frame Single} (h : f.Within s n) {count : ℕ}
    (hCount : count ≤ topCount) : (f.gaps count).UpTo s 0 := by
  unfold Frame.gaps
  split
  · exact upTo_zero
  · have hNone : f.gap * Binary.ofInt (count - 1 : ℕ) = 0 := by
      rw [h.gap]
      exact zero_times (within_ofNat (by omega)).1
    exact hNone.symm ▸ upTo_zero

theorem smaller_within {x y : Single} (hx : x.Within s n) (hy : y.Within s n) :
    (smaller x y).Within s n ∧ (smaller x y).value ≤ y.value := by
  have hLarger := hx.neg.larger hy.neg
  rw [max_self] at hLarger
  refine ⟨hLarger.neg, ?_⟩
  have hValue := (value_larger hx.neg.1 hy.neg.1).2
  show (-((-x).larger (-y))).value ≤ y.value
  rw [value_neg, hValue, value_neg y]
  linarith [le_max_right (-x).value (-y.value)]

/-! ## Growth -/

namespace Sharing

variable {ss : List (Sharing Single)} {i : Sharing Single} {gaps first given : Single}

/-- What an item asks for is within `n` units, and its extent within `most` units. -/
structure Within (i : Sharing Single) (s n most : ℕ) : Prop where
  item : i.item.Within s n
  extent : i.extent.UpTo s most

theorem kept_upTo (hItem : i.item.Within s n) (hMost : n ≤ most)
    (hFinite : i.extent.isFinite = true) (hLe : i.extent.value ≤ most * 2 ^ s) :
    i.kept.UpTo s most := by
  have hLeast := hItem.least.mono hMost
  obtain ⟨hLarger, hValue⟩ := value_larger hFinite hLeast.isFinite
  obtain ⟨hKept, hKeptValue⟩ := value_larger hLarger isFinite_zero
  rw [hValue, value_zero] at hKeptValue
  refine upTo_of_le hKept (hKeptValue ▸ le_max_right _ _) (hKeptValue.trans_le ?_)
  exact max_le (max_le hLe hLeast.le) (by positivity)

section Round

variable (hs : s ≤ topScale) (hss : ∀ i ∈ ss, i.Within s n most) (hMost : n ≤ most)
  (hRoomy : room + 1 ≤ most) (hAll : room + 2 * (ss.length * most) ≤ topCount)
  (hGaps : gaps.UpTo s 0)
include hs hss

theorem factors_upTo (hLength : ss.length ≤ topCount) :
    (factors ss).UpTo s ss.length ∧
      ∀ i ∈ ss, i.final = false → i.item.grow.value ≤ (factors ss).value := by
  have hLe := List.length_filter_le (fun i : Sharing Single => !i.final) ss
  obtain ⟨hSum, hEach⟩ := total_upTo hs (n := 1)
    ((ss.filter fun i => !i.final).map fun i => i.item.grow)
    (fun x hx => by
      obtain ⟨i, hi, rfl⟩ := List.mem_map.mp hx
      exact (hss i (List.mem_of_mem_filter hi)).item.grow)
    (by
      rw [List.length_map]
      omega)
  refine ⟨hSum.mono ?_, fun i hi hOpen => ?_⟩
  · rw [List.length_map]
    omega
  · exact hEach _ (List.mem_map_of_mem (List.mem_filter.mpr ⟨hi, by simp [hOpen]⟩))

include hMost hAll hGaps

theorem taken_upTo : (taken gaps ss).UpTo s (ss.length * most) ∧
    ∀ i ∈ ss, i.final = false → i.item.basis.value ≤ (taken gaps ss).value := by
  obtain ⟨hSum, hEach⟩ := total_upTo hs (n := most)
    (ss.map fun i => if i.final then i.extent else i.item.basis)
    (fun x hx => by
      obtain ⟨i, hi, rfl⟩ := List.mem_map.mp hx
      split
      · exact (hss i hi).extent
      · exact (hss i hi).item.basis.mono hMost)
    (by
      rw [List.length_map]
      omega)
  rw [List.length_map] at hSum
  obtain ⟨hTaken, -, hLe⟩ := hGaps.add hs hSum (by omega)
  refine ⟨hTaken.mono (by omega), fun i hi hOpen => le_trans ?_ hLe⟩
  exact hEach _ (List.mem_map.mpr ⟨i, hi, by simp [hOpen]⟩)

include hRoomy

/-- The free room, and what it leaves for an item that grows. -/
theorem free_within (hRoom : given.Within s room)
    (hFirst : first.Within s (room + ss.length * most)) :
    (free given gaps first ss).Within s (room + ss.length * most) ∧
      ∀ i ∈ ss, i.final = false →
        (free given gaps first ss).value ≤ given.value - i.item.basis.value + 2 ^ s := by
  obtain ⟨hTaken, hBases⟩ := taken_upTo hs hss hMost hAll hGaps
  have hLeft := hRoom.sub hs hTaken.within (by omega)
  have hEach : ∀ i ∈ ss, i.final = false →
      (given - taken gaps ss).value ≤ given.value - i.item.basis.value + 2 ^ s := by
    intro i hi hOpen
    have hBasis := (hss i hi).item.basis
    have hOne : most ≤ ss.length * most :=
      Nat.le_mul_of_pos_left most (List.length_pos_of_mem hi)
    have hBounds : |given.value - i.item.basis.value| ≤ (room + n : ℕ) * 2 ^ s := by
      refine (abs_sub _ _).trans ?_
      rw [Nat.cast_add, add_mul]
      exact add_le_add hRoom.2 hBasis.within.2
    exact (rounds_sub hRoom.1 hTaken.isFinite).le_add_unit hLeft.1 hs (by omega) hBounds
      (sub_le_sub_left (hBases i hi hOpen) _)
  unfold free
  dsimp only
  split
  · rename_i hLess
    -- the part of the first room is at most what is left
    have hLength := Nat.le_mul_of_pos_right ss.length (by omega : 0 < most)
    obtain ⟨hFactors, -⟩ := factors_upTo hs hss (by omega)
    have hSmall : (factors ss).value < 1 := by
      have := (less_iff_value hFactors.isFinite value_one.1).mp hLess
      rwa [value_one.2] at this
    have hPart := hFirst.mul_fraction hs ⟨hFactors.isFinite, hFactors.nonneg, hSmall.le⟩ (by omega)
    have hPart' := hPart.sub hs hGaps.within (by omega)
    obtain ⟨hSmaller, hLe⟩ := smaller_within hPart' hLeft
    exact ⟨hSmaller, fun i hi hOpen => hLe.trans (hEach i hi hOpen)⟩
  · exact ⟨hLeft, hEach⟩

/-- An item that has grown is not larger than the room, or as large as it asks to be. -/
theorem grown_le (hRoom : given.Within s room) (hFirst : first.Within s (room + ss.length * most))
    (hi : i ∈ ss) :
    let i' := i.grown (free given gaps first ss) (factors ss)
    i'.item.Within s n ∧ i'.extent.isFinite = true ∧ i'.extent.value ≤ most * 2 ^ s := by
  intro i'
  obtain ⟨hItem, hExtent⟩ := hss i hi
  have hOld : i.item.Within s n ∧ i.extent.isFinite = true ∧ i.extent.value ≤ most * 2 ^ s :=
    ⟨hItem, hExtent.isFinite, hExtent.le⟩
  have hLength := Nat.le_mul_of_pos_right ss.length (by omega : 0 < most)
  obtain ⟨hFree, hFreeLe⟩ := free_within hs hss hMost hRoomy hAll hGaps hRoom hFirst
  obtain ⟨hFactors, hGrow⟩ := factors_upTo hs hss (by omega)
  unfold i' grown
  split
  · exact hOld
  · rename_i hOpen
    rw [Bool.not_eq_true] at hOpen
    split
    · rename_i hShares
      have hPos : 0 < (factors ss).value := by
        have hLess := (less_iff_value isFinite_zero hFactors.isFinite).mp
          (Bool.and_eq_true_iff.mp hShares).2
        rwa [value_zero] at hLess
      have hShare := hItem.grow.fraction hFactors hPos (hGrow i hi hOpen)
      have hOne := Nat.le_mul_of_pos_left most (List.length_pos_of_mem hi)
      have hPart := hFree.mul_fraction hs hShare (by omega)
      have hPartLe := value_mul_fraction_le hs hFree hShare (by omega)
      have hSum := hItem.basis.within.add hs hPart (by omega)
      obtain ⟨c, hc, hValue⟩ := exists_value_eq hs (by omega : most ≤ topCount)
      refine ⟨hItem, hSum.1, ?_⟩
      rw [← hValue]
      refine (rounds_add hItem.basis.isFinite hPart.1).le hc ?_ hSum.1
      rw [hValue]
      have hBasis := hItem.basis.le
      have hRest := hFreeLe i hi hOpen
      have hGiven := (abs_le.mp hRoom.2).2
      have hUnit : (0 : ℚ) < 2 ^ s := by positivity
      have hWide : (n : ℚ) * 2 ^ s ≤ most * 2 ^ s := by gcongr
      have hWide' : ((room + 1 : ℕ) : ℚ) * 2 ^ s ≤ most * 2 ^ s := by gcongr
      push_cast at hWide'
      rcases max_choice (free given gaps first ss).value 0 with hMax | hMax <;> rw [hMax] at hPartLe
      · linarith
      · linarith
    · exact hOld

theorem round_within (hRoom : given.Within s room)
    (hFirst : first.Within s (room + ss.length * most)) :
    ∀ i ∈ round given gaps first ss, i.Within s n most := by
  intro i hi
  obtain ⟨j, hj, rfl⟩ := List.mem_map.mp hi
  obtain ⟨k, hk, rfl⟩ := List.mem_map.mp hj
  obtain ⟨hItem, hFinite, hLe⟩ := grown_le hs hss hMost hRoomy hAll hGaps hRoom hFirst hk
  cases hFinal : k.final with
  | true =>
    -- a final item stays as it is
    have hSame : k.grown (free given gaps first ss) (factors ss) = k := by simp [grown, hFinal]
    rw [hSame, settled, if_pos hFinal]
    exact hss k hk
  | false =>
    have hOpen : (k.grown (free given gaps first ss) (factors ss)).final = false := by
      unfold grown
      split
      · exact hFinal
      · split <;> exact hFinal
    rw [settled, if_neg (by simp [hOpen])]
    exact ⟨hItem, kept_upTo hItem hMost hFinite hLe⟩

end Round

/-- However often the room is shared out, all extents stay within bounds. -/
theorem rounds_within (hs : s ≤ topScale) (hss : ∀ i ∈ ss, i.Within s n most) (hMost : n ≤ most)
    (hRoomy : room + 1 ≤ most) (hAll : room + 2 * (ss.length * most) ≤ topCount)
    (hGaps : gaps.UpTo s 0) (hRoom : given.Within s room)
    (hFirst : first.Within s (room + ss.length * most)) (count : ℕ) :
    ∀ i ∈ rounds given gaps first count ss, i.Within s n most := by
  induction count generalizing ss with
  | zero => exact hss
  | succ count ih =>
    unfold rounds
    split
    · exact hss
    · have hLength : (round given gaps first ss).length = ss.length := by simp [round]
      refine ih (round_within hs hss hMost hRoomy hAll hGaps hRoom hFirst) ?_ ?_
      · rw [hLength]
        exact hAll
      · rw [hLength]
        exact hFirst

end Sharing

/-! ## Extents along the line -/

section Line

variable {f : Frame Single} {items : List (LineItem Single)} (hs : s ≤ topScale)
  (hf : f.Within s room) (hItems : ∀ i ∈ items, i.Within s n) (hMost : n ≤ most)
  (hRoomy : room + 1 ≤ most) (hAll : room + 2 * (items.length * most) ≤ topCount)
include hs hf hItems hMost hRoomy hAll

theorem extents_upTo : ∀ e ∈ f.extents items, e.UpTo s most := by
  have hBefore : ∀ e ∈ items.map LineItem.hypothetical, e.UpTo s most := by
    intro e he
    obtain ⟨i, hi, rfl⟩ := List.mem_map.mp he
    exact (hItems i hi).hypothetical.mono hMost
  have hLength := Nat.le_mul_of_pos_right items.length (by omega : 0 < most)
  unfold Frame.extents
  dsimp only
  split
  · intro e he
    obtain ⟨i, hi, rfl⟩ := List.mem_map.mp he
    have hStart : ∀ i ∈ items.map Sharing.ofItem, i.Within s n most := by
      intro i hi
      obtain ⟨j, hj, rfl⟩ := List.mem_map.mp hi
      exact ⟨hItems j hj, (hItems j hj).hypothetical.mono hMost⟩
    have hLength' : (items.map Sharing.ofItem).length = items.length := List.length_map _
    have hGaps : (f.gaps items.length).UpTo s 0 := hf.gaps (by omega)
    rw [← hLength'] at hAll
    have hTaken := Sharing.taken_upTo hs hStart hMost hAll hGaps
    have hFirst := hf.room.sub hs hTaken.1.within (by omega)
    exact (Sharing.rounds_within hs hStart hMost hRoomy hAll hGaps hf.room hFirst _ i hi).extent
  · exact hBefore

end Line

/-! ## Places -/

/-- The start of a span is within some number of units, and its extent within another one. -/
structure Span.Within (p : Span Single) (s n most : ℕ) : Prop where
  start : p.start.Within s n
  extent : p.extent.UpTo s most

theorem Span.Within.mono {p : Span Single} {m : ℕ} (h : p.Within s n most) (hn : n ≤ m) :
    p.Within s m most := ⟨h.start.mono hn, h.extent⟩

/-- Rounding both ends changes the extent by the rounding of each. -/
theorem Span.Within.rounded {p : Span Single} (h : p.Within s n most) (hs : s ≤ topScale)
    (hn : n + most + 3 < topCount) :
    p.rounded.start.Within s n ∧ p.rounded.extent.Within s (most + 3) := by
  have hFinish := h.start.add hs h.extent.within (by omega)
  have hStart' := h.start.round hs (by omega)
  have hFinish' := hFinish.round hs (by omega)
  refine ⟨hStart', Within.sub_of_le hs hFinish'.1 hStart'.1 (by omega) ?_⟩
  have hSum := h.start.add_near hs h.extent.within (by omega)
  have hLow := h.start.round_near hs (by omega)
  have hHigh := hFinish.round_near hs (by omega)
  have hExtent := h.extent.within.2
  show |(Binary.round (p.start + p.extent)).value - (Binary.round p.start).value| ≤ _
  push_cast
  rw [abs_le] at *
  constructor <;> linarith

section Place

variable (hs : s ≤ topScale) {start offset : Single} {xs : List (Single × Single)} {a b : ℕ}
include hs

theorem place_within (hStart : start.Within s a)
    (hxs : ∀ x ∈ xs, x.1.Within s 0 ∧ x.2.UpTo s most) (h : a + xs.length * most ≤ topCount) :
    ∀ p ∈ place start xs, p.Within s (a + xs.length * most) most := by
  induction xs generalizing start a with
  | nil =>
    intro p hp
    cases hp
  | cons x xs ih =>
    obtain ⟨hOffset, hExtent⟩ := hxs x List.mem_cons_self
    have hExtent' := hExtent.within.notNegative
    rw [List.length_cons, Nat.succ_mul] at h ⊢
    have hStart' := hStart.add hs hOffset (by omega)
    have hNext := hStart.add hs (hOffset.add hs hExtent'.within (by omega)) (by omega)
    intro p hp
    rcases List.mem_cons.mp hp with rfl | hp
    · exact ⟨hStart'.mono (by omega), hExtent'⟩
    · have hRest := ih hNext (fun y hy => hxs y (List.mem_cons_of_mem x hy)) (by omega) p hp
      exact hRest.mono (by omega)

/-- Only the first item has an offset. -/
theorem place_cons_within {e : Single} (hStart : start.Within s a) (hOffset : offset.Within s b)
    (hExtent : e.UpTo s most) (hxs : ∀ x ∈ xs, x.1.Within s 0 ∧ x.2.UpTo s most)
    (h : a + b + (xs.length + 1) * most ≤ topCount) :
    ∀ p ∈ place start ((offset, e) :: xs), p.Within s (a + b + (xs.length + 1) * most) most := by
  have hExtent' := hExtent.within.notNegative
  rw [Nat.succ_mul] at h ⊢
  have hStart' := hStart.add hs hOffset (by omega)
  have hNext := hStart.add hs (hOffset.add hs hExtent'.within (by omega)) (by omega)
  intro p hp
  rcases List.mem_cons.mp hp with rfl | hp
  · exact ⟨hStart'.mono (by omega), hExtent'⟩
  · exact (place_within hs hNext hxs (by omega) p hp).mono (by omega)

end Place

section Spans

variable {f : Frame Single} {items : List (LineItem Single)} {extents : List Single}
  (hs : s ≤ topScale) (hf : f.Within s room)
include hs hf

omit hf in
theorem firstOffset_within {free : Single} (hFree : free.Within s n) (hn : n ≤ topCount) :
    (f.firstOffset free).Within s n := by
  unfold Frame.firstOffset
  split
  · exact within_zero.mono (Nat.zero_le n)
  · exact within_zero.mono (Nat.zero_le n)
  · exact hFree
  · exact hFree
  · exact hFree.half hs hn

theorem spansAlong_within (hExtents : ∀ e ∈ extents, e.UpTo s most)
    (hLength : extents.length ≤ topCount)
    (hAll : 1 + room + 2 * (extents.length * most) ≤ topCount) :
    ∀ p ∈ f.spansAlong extents, p.Within s (1 + room + 2 * (extents.length * most)) most := by
  obtain ⟨hTotal, -⟩ := total_upTo hs extents hExtents (by omega)
  obtain ⟨hTaken, -⟩ := (hf.gaps hLength).add hs hTotal (by omega)
  have hFree := hf.room.sub hs hTaken.within (by omega)
  have hOffset := firstOffset_within (f := f) hs hFree (by omega)
  have hPlaced : ∀ ordered : List Single, ordered.length = extents.length →
      (∀ e ∈ ordered, e.UpTo s most) → ∀ p ∈ place f.start
        ((f.firstOffset (f.room - (f.gaps extents.length + total extents)) ::
          List.replicate (extents.length - 1) f.gap).zip ordered),
        p.Within s (1 + room + 2 * (extents.length * most)) most := by
    intro ordered hSame hOrdered
    cases ordered with
    | nil =>
      intro p hp
      cases hp
    | cons e es =>
      rw [List.zip_cons_cons]
      have hRest : ∀ x ∈ (List.replicate (extents.length - 1) f.gap).zip es,
          x.1.Within s 0 ∧ x.2.UpTo s most := by
        intro x hx
        obtain ⟨hGap, hExtent⟩ := List.of_mem_zip hx
        rw [List.eq_of_mem_replicate hGap, hf.gap]
        exact ⟨within_zero, hOrdered _ (List.mem_cons_of_mem e hExtent)⟩
      have hCount : ((List.replicate (extents.length - 1) f.gap).zip es).length + 1 =
          extents.length := by
        rw [List.length_cons] at hSame
        rw [List.length_zip, List.length_replicate]
        omega
      have hAll' := place_cons_within hs hf.start hOffset (hOrdered e List.mem_cons_self) hRest
        (by rw [hCount]; omega)
      rw [hCount] at hAll'
      exact fun p hp => (hAll' p hp).mono (by omega)
  unfold Frame.spansAlong
  dsimp only
  split
  · intro p hp
    exact hPlaced _ (List.length_reverse ..) (fun e he => hExtents e (List.mem_reverse.mp he)) p
      (List.mem_reverse.mp hp)
  · exact hPlaced _ rfl hExtents

/-- An item of a given extent across the line, at its place. -/
theorem acrossAt_within {extent : Single} (hExtent : extent.UpTo s most)
    (hAll : 1 + room + most ≤ topCount) (place : Placement) :
    (⟨f.startAcross + (match place with
      | .start => 0
      | .center => (f.roomAcross - extent) / (1 + 1)
      | .finish => f.roomAcross - extent), Measure.larger extent 0⟩ : Span Single).Within s
        (1 + room + most) most := by
  have hFree := hf.roomAcross.within.sub hs hExtent.within (by omega)
  refine ⟨?_, hExtent.within.notNegative⟩
  cases place with
  | start => exact (hf.startAcross.add hs within_zero (by omega)).mono (by omega)
  | center => exact (hf.startAcross.add hs (hFree.half hs (by omega)) (by omega)).mono (by omega)
  | finish => exact (hf.startAcross.add hs hFree (by omega)).mono (by omega)

theorem spanAcross_within {i : LineItem Single} (hi : i.Within s n) (hn : n ≤ most)
    (hRoomy : room ≤ most) (hAll : 1 + room + most ≤ topCount) :
    (f.spanAcross i).Within s (1 + room + most) most := by
  have hLeast := hi.leastAcross.mono hn
  unfold Frame.spanAcross
  dsimp only
  cases hAcross : i.across with
  | fixed e =>
    have hExtent := ((hi.fixed e hAcross).mono hn).within.larger_upTo hLeast
    exact acrossAt_within hs hf (hExtent.mono (by omega)) hAll i.place
  | least =>
    have hExtent := (within_zero (s := s)).larger_upTo hLeast
    exact acrossAt_within hs hf (hExtent.mono (by omega)) hAll i.place
  | whole =>
    have hExtent := (hf.roomAcross.mono hRoomy).within.larger_upTo hLeast
    exact acrossAt_within hs hf (hExtent.mono (by omega)) hAll i.place

/-- The places and the extents of all items of a line. -/
theorem spans_within (hItems : ∀ i ∈ items, i.Within s n) (hMost : n ≤ most)
    (hRoomy : room + 1 ≤ most) (hAll : 1 + room + most + 2 * (items.length * most) ≤ topCount) :
    ∀ p ∈ f.spans items,
      p.1.Within s (1 + room + most + 2 * (items.length * most)) most ∧
        p.2.Within s (1 + room + most + 2 * (items.length * most)) most := by
  intro p hp
  obtain ⟨hAlong, hAcross⟩ := List.of_mem_zip hp
  have hLength := Nat.le_mul_of_pos_right items.length (by omega : 0 < most)
  constructor
  · have hExtents := extents_upTo hs hf hItems hMost hRoomy (by omega)
    have hPlaced := spansAlong_within hs hf hExtents (by rw [Frame.length_extents]; omega)
      (by rw [Frame.length_extents]; omega) p.1 hAlong
    rw [Frame.length_extents] at hPlaced
    exact hPlaced.mono (by omega)
  · obtain ⟨i, hi, hEq⟩ := List.mem_map.mp hAcross
    rw [← hEq]
    exact (spanAcross_within hs hf (hItems i hi) hMost (by omega) (by omega)).mono (by omega)

end Spans

end AnchoredUi.Flow
