import AnchoredUi.Plane.TextAnchor

/-!
# Lines of items

Items are put on a line one behind the other. Each starts from its basis; if the line is longer
than all of them, those that may grow share what is left. The line places the items at its start,
its middle or its end, and each item stands in its own way across the line. Positions are rounded
to whole numbers, and extents so that neighbors still meet.

* `length_spans`: every item gets one span.
* `finish_rounded`: the rounded end of a span is its end, rounded.
-/

namespace AnchoredUi.Flow

open Number Plane

variable {α : Type} [Measure α]

/-- The sum of a list, from the left. -/
def total (xs : List α) : α := xs.foldl (· + ·) 0

/-- The smaller of two numbers. -/
def smaller (a b : α) : α := -Measure.larger (-a) (-b)

/-- What an item takes across the line: a given extent, nothing beyond its least extent, or the
whole line. -/
inductive Across (α : Type) where
  | fixed (extent : α)
  | least
  | whole
  deriving DecidableEq

/-- An item of a line. -/
structure LineItem (α : Type) where
  basis : α
  least : α
  grow : α
  across : Across α
  leastAcross : α
  place : Placement
  deriving DecidableEq

/-- The line itself: the free room with its start along and across, the gap between neighbors,
the direction, and where the items stand. -/
structure Frame (α : Type) where
  start : α
  room : α
  startAcross : α
  roomAcross : α
  gap : α
  reverse : Bool
  justify : Placement
  deriving DecidableEq

/-- What a thing takes of a line. -/
structure Span (α : Type) where
  start : α
  extent : α
  deriving DecidableEq

namespace Span

/-- The end of a span. -/
def finish (s : Span α) : α := s.start + s.extent

/-- The span between whole numbers. -/
def rounded (s : Span α) : Span α where
  start := Measure.round s.start
  extent := Measure.round s.finish - Measure.round s.start

theorem finish_rounded (s : Span Rat) : s.rounded.finish = Measure.round s.finish := by
  show Measure.round s.start + (Measure.round s.finish - Measure.round s.start) = _
  rw [Rat.sub_eq_add_neg, Rat.add_comm (Measure.round s.finish), ← Rat.add_assoc,
    Rat.add_neg_cancel, Rat.zero_add]

end Span

/-! ## Growth -/

/-- The extent of an item before it grows. -/
def LineItem.hypothetical (i : LineItem α) : α := Measure.larger i.basis i.least

/-- An item while the room is shared out: its extent so far, and whether it is final. -/
structure Sharing (α : Type) where
  item : LineItem α
  extent : α
  final : Bool

namespace Sharing

/-- An item before the room is shared out; one that does not grow is final. -/
def ofItem (i : LineItem α) : Sharing α := ⟨i, i.hypothetical, !Measure.less 0 i.grow⟩

/-- What is taken of the line: the gaps, the final extents, and the bases of the other items. -/
def taken (gaps : α) (ss : List (Sharing α)) : α :=
  gaps + total (ss.map fun s => if s.final then s.extent else s.item.basis)

/-- The factors of the items that still grow. -/
def factors (ss : List (Sharing α)) : α :=
  total ((ss.filter fun s => !s.final).map fun s => s.item.grow)

/-- The room to share out. If the factors do not add up to one, only that part of the first room
is shared. -/
def free (room gaps first : α) (ss : List (Sharing α)) : α :=
  let left := room - taken gaps ss
  if Measure.less (factors ss) 1 then smaller (first * factors ss - gaps) left else left

/-- The item with its share of the free room. -/
def grown (free factors : α) (s : Sharing α) : Sharing α :=
  if s.final then s
  else if Measure.divisible free && Measure.less 0 factors then
    { s with extent := s.item.basis + free * (s.item.grow / factors) }
  else s

/-- The extent of an item kept from falling below its least one. -/
def kept (s : Sharing α) : α := Measure.larger (Measure.larger s.extent s.item.least) 0

/-- By how much an item falls below its least extent. -/
def lack (s : Sharing α) : α := if s.final then 0 else s.kept - s.extent

/-- The item is final once its lack has the sign of the lack of all. -/
def settled (lacks : α) (s : Sharing α) : Sharing α :=
  if s.final then s
  else
    { s with
      extent := s.kept
      final :=
        if Measure.less 0 lacks then Measure.less 0 s.lack
        else if Measure.less lacks 0 then Measure.less s.lack 0
        else true }

/-- Shares out the room once. -/
def round (room gaps first : α) (ss : List (Sharing α)) : List (Sharing α) :=
  let ss := ss.map (grown (free room gaps first ss) (factors ss))
  ss.map (settled (total ((ss.filter fun s => !s.final).map lack)))

/-- Shares out the room until all items are final; every round makes one item final. -/
def rounds (room gaps first : α) : (count : Nat) → List (Sharing α) → List (Sharing α)
  | 0, ss => ss
  | count + 1, ss =>
    if ss.all Sharing.final then ss else rounds room gaps first count (round room gaps first ss)

end Sharing

/-- All gaps of a line together. -/
def Frame.gaps (f : Frame α) (count : Nat) : α :=
  if count ≤ 1 then 0 else f.gap * Measure.ofNat (count - 1)

/-- The extents of the items along the line. -/
def Frame.extents (f : Frame α) (items : List (LineItem α)) : List α :=
  let gaps := f.gaps items.length
  let before := items.map LineItem.hypothetical
  if Measure.less (gaps + total before) f.room then
    let start := items.map Sharing.ofItem
    let first := f.room - Sharing.taken gaps start
    (Sharing.rounds f.room gaps first items.length start).map Sharing.extent
  else before

/-! ## Places -/

/-- The distance of the first item from the start of the room; `free` is what is left over. -/
def Frame.firstOffset (f : Frame α) (free : α) : α :=
  match f.justify, f.reverse with
  | .start, false | .finish, true => 0
  | .start, true | .finish, false => free
  | .center, _ => free / (1 + 1)

/-- Puts extents one behind the other, each at its offset from the end of the one before. -/
def place (start : α) : List (α × α) → List (Span α)
  | [] => []
  | (offset, extent) :: rest =>
    ⟨start + offset, Measure.larger extent 0⟩ ::
      place (start + (offset + Measure.larger extent 0)) rest

/-- The spans of the items along the line, in the order of the items. -/
def Frame.spansAlong (f : Frame α) (extents : List α) : List (Span α) :=
  let free := f.room - (f.gaps extents.length + total extents)
  let ordered := if f.reverse then extents.reverse else extents
  let offsets := f.firstOffset free :: List.replicate (extents.length - 1) f.gap
  let spans := place f.start (offsets.zip ordered)
  if f.reverse then spans.reverse else spans

/-- The span of an item across the line. -/
def Frame.spanAcross (f : Frame α) (i : LineItem α) : Span α :=
  let extent := match i.across with
    | .fixed e => Measure.larger e i.leastAcross
    | .least => Measure.larger 0 i.leastAcross
    | .whole => Measure.larger f.roomAcross i.leastAcross
  let free := f.roomAcross - extent
  let offset := match i.place with
    | .start => 0
    | .center => free / (1 + 1)
    | .finish => free
  ⟨f.startAcross + offset, Measure.larger extent 0⟩

/-- The spans of the items along and across the line. -/
def Frame.spans (f : Frame α) (items : List (LineItem α)) : List (Span α × Span α) :=
  (f.spansAlong (f.extents items)).zip (items.map f.spanAcross)

/-! ## Counting -/

theorem Sharing.length_rounds (room gaps first : α) (count : Nat) (ss : List (Sharing α)) :
    (Sharing.rounds room gaps first count ss).length = ss.length := by
  induction count generalizing ss with
  | zero => rfl
  | succ count ih =>
    simp only [Sharing.rounds]
    split
    · rfl
    · rw [ih]
      simp [Sharing.round]

theorem Frame.length_extents (f : Frame α) (items : List (LineItem α)) :
    (f.extents items).length = items.length := by
  simp only [extents]
  split
  · simp [Sharing.length_rounds]
  · simp

theorem length_place (start : α) (xs : List (α × α)) : (place start xs).length = xs.length := by
  induction xs generalizing start with
  | nil => rfl
  | cons x xs ih => simp [place, ih]

theorem Frame.length_spansAlong (f : Frame α) (extents : List α) :
    (f.spansAlong extents).length = extents.length := by
  have h : (List.replicate (extents.length - 1) f.gap).length + 1 = extents.length ∨
      extents = [] := by
    cases extents with
    | nil => exact Or.inr rfl
    | cons e es => simp
  rcases h with h | rfl
  · simp only [spansAlong]
    split <;> simp [length_place] <;> omega
  · simp only [spansAlong]
    split <;> rfl

theorem Frame.length_spans (f : Frame α) (items : List (LineItem α)) :
    (f.spans items).length = items.length := by
  simp [spans, length_spansAlong, length_extents]

end AnchoredUi.Flow
