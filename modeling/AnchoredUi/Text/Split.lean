/-!
# Cutting texts

Finding a piece of text inside another, cutting at the first or last place of a character, and
cutting wrappers off either end.

* `append_of_cutAt`, `append_of_breakOn`: a cut loses nothing but the piece it is made at.
* `breakOn_eq_none_iff`: no cut is made exactly if the piece does not occur.
-/

namespace AnchoredUi.Text

/-- Cuts at the first place of a character, which is dropped. -/
def cutAt (d : Char) : List Char → Option (List Char × List Char)
  | [] => none
  | c :: cs => if c = d then some ([], cs) else (cutAt d cs).map fun r => (c :: r.1, r.2)

/-- Cuts at the last place of a character, which is dropped. -/
def cutAtLast (d : Char) (cs : List Char) : Option (List Char × List Char) :=
  (cutAt d cs.reverse).map fun r => (r.2.reverse, r.1.reverse)

/-- Cuts at the first place of a piece, which is dropped. -/
def breakOn (piece : List Char) : List Char → Option (List Char × List Char)
  | [] => if piece = [] then some ([], []) else none
  | c :: cs =>
    if piece.isPrefixOf (c :: cs) then some ([], (c :: cs).drop piece.length)
    else (breakOn piece cs).map fun r => (c :: r.1, r.2)

/-- The piece occurs in the text. -/
def occursIn (piece cs : List Char) : Bool := (breakOn piece cs).isSome

/-- The text behind a beginning. -/
def dropFront? (front cs : List Char) : Option (List Char) :=
  if front.isPrefixOf cs then some (cs.drop front.length) else none

/-- The text before an ending. -/
def dropBack? (back cs : List Char) : Option (List Char) :=
  if back.isSuffixOf cs then some (cs.take (cs.length - back.length)) else none

/-- The pieces between the places of a character. -/
def pieces (d : Char) (cs : List Char) : List (List Char) := cs.splitOnP (· == d)

/-! ## A cut loses nothing -/

theorem append_of_cutAt {d : Char} {cs a b : List Char} (h : cutAt d cs = some (a, b)) :
    cs = a ++ d :: b ∧ d ∉ a := by
  induction cs generalizing a b with
  | nil => simp [cutAt] at h
  | cons c cs ih =>
    simp only [cutAt] at h
    split at h
    · rename_i hc
      simp only [Option.some.injEq, Prod.mk.injEq] at h
      simp [← h.1, ← h.2, hc]
    · rename_i hc
      simp only [Option.map_eq_some_iff] at h
      obtain ⟨⟨x, y⟩, hxy, he⟩ := h
      simp only [Prod.mk.injEq] at he
      obtain ⟨rfl, rfl⟩ := he
      obtain ⟨h1, h2⟩ := ih hxy
      refine ⟨by simp [h1], ?_⟩
      simp only [List.mem_cons, not_or]
      exact ⟨fun e => hc e.symm, h2⟩

theorem cutAt_eq_none_iff {d : Char} {cs : List Char} : cutAt d cs = none ↔ d ∉ cs := by
  induction cs with
  | nil => simp [cutAt]
  | cons c cs ih =>
    by_cases h : c = d
    · simp [cutAt, h]
    · have h' : ¬ d = c := fun e => h e.symm
      rw [cutAt, if_neg h, Option.map_eq_none_iff, ih]
      simp [h']

theorem append_of_breakOn {piece cs a b : List Char} (h : breakOn piece cs = some (a, b)) :
    cs = a ++ piece ++ b := by
  induction cs generalizing a b with
  | nil =>
    simp only [breakOn] at h
    split at h
    · rename_i hp
      simp only [Option.some.injEq, Prod.mk.injEq] at h
      simp [← h.1, ← h.2, hp]
    · cases h
  | cons c cs ih =>
    simp only [breakOn] at h
    split at h
    · rename_i hp
      simp only [Option.some.injEq, Prod.mk.injEq] at h
      obtain ⟨t, ht⟩ := List.isPrefixOf_iff_prefix.mp hp
      obtain ⟨rfl, rfl⟩ := h
      rw [← ht]
      simp
    · simp only [Option.map_eq_some_iff] at h
      obtain ⟨⟨x, y⟩, hxy, he⟩ := h
      simp only [Prod.mk.injEq] at he
      obtain ⟨rfl, rfl⟩ := he
      simp [ih hxy]

theorem breakOn_eq_none_iff {piece cs : List Char} :
    breakOn piece cs = none ↔ ¬ piece <:+: cs := by
  induction cs with
  | nil => simp [breakOn]
  | cons c cs ih =>
    simp only [breakOn]
    split
    · rename_i hp
      have := List.isPrefixOf_iff_prefix.mp hp
      simp [this.isInfix]
    · rename_i hp
      rw [List.isPrefixOf_iff_prefix] at hp
      rw [Option.map_eq_none_iff, ih, List.infix_cons_iff]
      simp [hp]

end AnchoredUi.Text
