/-!
# Patterns of characters

Regular patterns over characters, the texts they match, and the longest beginning of a text that
a pattern matches. What may follow a character is again a pattern, so one pass over the text is
enough.

* `matches_after`: a pattern matches `c :: cs` exactly if its rest after `c` matches `cs`.
* `longest_matches`, `longest_max`: the longest beginning is matched, and no longer one is.
-/

namespace AnchoredUi.Style

/-- A regular pattern; `one` takes a single character of a class. -/
inductive Pattern where
  | never
  | nothing
  | one (p : Char → Bool)
  | seq (a b : Pattern)
  | either (a b : Pattern)
  | many (a : Pattern)

namespace Pattern

/-- The texts that a pattern matches. -/
inductive Matches : Pattern → List Char → Prop
  | nothing : Matches .nothing []
  | one {p : Char → Bool} {c : Char} (h : p c = true) : Matches (.one p) [c]
  | seq {a b : Pattern} {s t : List Char} (hs : Matches a s) (ht : Matches b t) :
      Matches (.seq a b) (s ++ t)
  | left {a b : Pattern} {s : List Char} (h : Matches a s) : Matches (.either a b) s
  | right {a b : Pattern} {s : List Char} (h : Matches b s) : Matches (.either a b) s
  | zero {a : Pattern} : Matches (.many a) []
  | more {a : Pattern} {s t : List Char} (hs : Matches a s) (ht : Matches (.many a) t) :
      Matches (.many a) (s ++ t)

/-! ## Building patterns -/

/-- One given character. -/
def char (c : Char) : Pattern := .one (· == c)

/-- One given text. -/
def literal : List Char → Pattern
  | [] => .nothing
  | c :: cs => .seq (char c) (literal cs)

/-- One of several patterns. -/
def anyOf : List Pattern → Pattern
  | [] => .never
  | a :: as => .either a (anyOf as)

/-- A pattern or nothing. -/
def optional (a : Pattern) : Pattern := .either a .nothing

/-- A pattern once or more often. -/
def oneOrMore (a : Pattern) : Pattern := .seq a (.many a)

/-- Patterns one after the other. -/
def sequence : List Pattern → Pattern
  | [] => .nothing
  | [a] => a
  | a :: as => .seq a (sequence as)

/-- A pattern at least `low` and at most `low + extra` times. -/
def repeated (a : Pattern) : (low extra : Nat) → Pattern
  | 0, 0 => .nothing
  | 0, extra + 1 => optional (.seq a (repeated a 0 extra))
  | low + 1, extra => .seq a (repeated a low extra)

/-! ## Reading a character -/

/-- The pattern matches the empty text. -/
def acceptsNothing : Pattern → Bool
  | never => false
  | nothing => true
  | one _ => false
  | seq a b => a.acceptsNothing && b.acceptsNothing
  | either a b => a.acceptsNothing || b.acceptsNothing
  | many _ => true

/-- Patterns one after the other, without useless parts. -/
def follow : Pattern → Pattern → Pattern
  | never, _ => never
  | nothing, b => b
  | a, b => seq a b

/-- A choice of patterns, without useless parts. -/
def choice : Pattern → Pattern → Pattern
  | never, b => b
  | a, never => a
  | a, b => either a b

/-- What remains to be matched after a character. -/
def after (c : Char) : Pattern → Pattern
  | never => never
  | nothing => never
  | one p => if p c then nothing else never
  | seq a b =>
    let rest := follow (a.after c) b
    if a.acceptsNothing then choice rest (b.after c) else rest
  | either a b => choice (a.after c) (b.after c)
  | many a => follow (a.after c) (many a)

/-- No text can be matched any more. -/
def isNever : Pattern → Bool
  | never => true
  | _ => false

/-- The length of the longest beginning that the pattern matches. -/
def longest (a : Pattern) : List Char → Option Nat
  | [] => if a.acceptsNothing then some 0 else none
  | c :: cs =>
    let next := a.after c
    match (if next.isNever then none else next.longest cs) with
    | some n => some (n + 1)
    | none => if a.acceptsNothing then some 0 else none

/-! ## Laws -/

theorem matches_seq_iff {a b : Pattern} {s : List Char} :
    Matches (.seq a b) s ↔ ∃ u v, s = u ++ v ∧ Matches a u ∧ Matches b v := by
  constructor
  · intro h
    cases h with
    | seq hs ht => exact ⟨_, _, rfl, hs, ht⟩
  · rintro ⟨u, v, rfl, hu, hv⟩
    exact .seq hu hv

theorem matches_either_iff {a b : Pattern} {s : List Char} :
    Matches (.either a b) s ↔ Matches a s ∨ Matches b s := by
  constructor
  · intro h
    cases h with
    | left h => exact .inl h
    | right h => exact .inr h
  · rintro (h | h)
    · exact .left h
    · exact .right h

theorem matches_one_iff {p : Char → Bool} {s : List Char} :
    Matches (.one p) s ↔ ∃ c, s = [c] ∧ p c = true := by
  constructor
  · intro h
    cases h with
    | one h => exact ⟨_, rfl, h⟩
  · rintro ⟨c, rfl, h⟩
    exact .one h

theorem matches_nothing_iff {s : List Char} : Matches .nothing s ↔ s = [] := by
  constructor
  · intro h
    cases h
    rfl
  · rintro rfl
    exact .nothing

theorem not_matches_never {s : List Char} : ¬ Matches .never s := by
  intro h
  cases h

theorem matches_nil_iff {a : Pattern} : Matches a [] ↔ a.acceptsNothing = true := by
  induction a with
  | never => simp [not_matches_never, acceptsNothing]
  | nothing => simp [matches_nothing_iff, acceptsNothing]
  | one p => simp [matches_one_iff, acceptsNothing]
  | seq a b iha ihb =>
    rw [matches_seq_iff]
    simp only [acceptsNothing, Bool.and_eq_true, ← iha, ← ihb]
    constructor
    · rintro ⟨u, v, h, hu, hv⟩
      obtain ⟨rfl, rfl⟩ := List.append_eq_nil_iff.mp h.symm
      exact ⟨hu, hv⟩
    · rintro ⟨hu, hv⟩
      exact ⟨[], [], rfl, hu, hv⟩
  | either a b iha ihb => simp [matches_either_iff, acceptsNothing, iha, ihb]
  | many a _ =>
    simp only [acceptsNothing, iff_true]
    exact .zero

theorem matches_follow {a b : Pattern} {s : List Char} :
    Matches (follow a b) s ↔ Matches (.seq a b) s := by
  unfold follow
  split
  · simp [matches_seq_iff, not_matches_never]
  · rw [matches_seq_iff]
    constructor
    · intro h
      exact ⟨[], s, rfl, .nothing, h⟩
    · rintro ⟨u, v, rfl, hu, hv⟩
      rw [matches_nothing_iff.mp hu]
      exact hv
  · rfl

theorem matches_choice {a b : Pattern} {s : List Char} :
    Matches (choice a b) s ↔ Matches (.either a b) s := by
  unfold choice
  split
  · simp [matches_either_iff, not_matches_never]
  · simp [matches_either_iff, not_matches_never]
  · rfl

/-- A non-empty match of a repetition starts with a non-empty match of what is repeated. -/
theorem matches_many_cons {a : Pattern} {c : Char} {cs : List Char} :
    Matches (.many a) (c :: cs) ↔
      ∃ u v, cs = u ++ v ∧ Matches a (c :: u) ∧ Matches (.many a) v := by
  constructor
  · intro h
    generalize hr : Pattern.many a = r at h
    generalize hl : c :: cs = l at h
    induction h with
    | zero => cases hl
    | @more b s t hs ht _ iht =>
      cases hr
      cases s with
      | nil => exact iht rfl hl
      | cons d u =>
        simp only [List.cons_append, List.cons.injEq] at hl
        obtain ⟨rfl, rfl⟩ := hl
        exact ⟨u, t, rfl, hs, ht⟩
    | _ => cases hr
  · rintro ⟨u, v, rfl, hu, hv⟩
    exact .more hu hv

theorem matches_after {a : Pattern} {c : Char} {cs : List Char} :
    Matches (a.after c) cs ↔ Matches a (c :: cs) := by
  induction a generalizing cs with
  | never => simp [after, not_matches_never]
  | nothing => simp [after, not_matches_never, matches_nothing_iff]
  | one p =>
    simp only [after, matches_one_iff]
    split
    · rename_i h
      constructor
      · intro hs
        exact ⟨c, by rw [matches_nothing_iff.mp hs], h⟩
      · rintro ⟨d, hd, _⟩
        rw [(List.cons.inj hd).2]
        exact .nothing
    · rename_i h
      simp only [not_matches_never, false_iff]
      rintro ⟨d, hd, hp⟩
      simp only [List.cons.injEq] at hd
      rw [hd.1] at h
      exact h hp
  | seq a b iha ihb =>
    have key : Matches (follow (a.after c) b) cs ↔
        ∃ u v, cs = u ++ v ∧ Matches a (c :: u) ∧ Matches b v := by
      simp [matches_follow, matches_seq_iff, iha]
    have split : Matches (.seq a b) (c :: cs) ↔
        (∃ u v, cs = u ++ v ∧ Matches a (c :: u) ∧ Matches b v) ∨
          (Matches a [] ∧ Matches b (c :: cs)) := by
      rw [matches_seq_iff]
      constructor
      · rintro ⟨u, v, h, hu, hv⟩
        cases u with
        | nil =>
          rw [List.nil_append] at h
          exact .inr ⟨hu, h ▸ hv⟩
        | cons d u =>
          simp only [List.cons_append, List.cons.injEq] at h
          obtain ⟨rfl, rfl⟩ := h
          exact .inl ⟨u, v, rfl, hu, hv⟩
      · rintro (⟨u, v, rfl, hu, hv⟩ | ⟨hu, hv⟩)
        · exact ⟨c :: u, v, rfl, hu, hv⟩
        · exact ⟨[], c :: cs, rfl, hu, hv⟩
    simp only [after]
    by_cases h : a.acceptsNothing
    · rw [if_pos h, matches_choice, matches_either_iff, key, ihb, split, matches_nil_iff]
      simp [h]
    · rw [if_neg h, key, split, matches_nil_iff]
      simp [h]
  | either a b iha ihb => simp [after, matches_choice, matches_either_iff, iha, ihb]
  | many a iha =>
    rw [matches_many_cons, after, matches_follow, matches_seq_iff]
    simp [iha]

theorem isNever_iff {a : Pattern} : a.isNever = true ↔ a = .never := by
  cases a <;> simp [isNever]

theorem longest_matches {a : Pattern} {cs : List Char} {n : Nat} (h : a.longest cs = some n) :
    n ≤ cs.length ∧ Matches a (cs.take n) := by
  induction cs generalizing a n with
  | nil =>
    simp only [longest] at h
    split at h
    · rename_i ha
      cases h
      exact ⟨Nat.le_refl _, matches_nil_iff.mpr ha⟩
    · cases h
  | cons c cs ih =>
    simp only [longest] at h
    split at h
    · rename_i m hm
      cases h
      split at hm
      · cases hm
      · obtain ⟨h1, h2⟩ := ih hm
        refine ⟨by simp only [List.length_cons]; omega, ?_⟩
        rw [List.take_succ_cons]
        exact matches_after.mp h2
    · split at h
      · rename_i ha
        cases h
        exact ⟨Nat.zero_le _, matches_nil_iff.mpr ha⟩
      · cases h

theorem longest_max {a : Pattern} {cs : List Char} {m : Nat} (hm : m ≤ cs.length)
    (h : Matches a (cs.take m)) : ∃ n, a.longest cs = some n ∧ m ≤ n := by
  induction cs generalizing a m with
  | nil =>
    have : m = 0 := by simpa using hm
    subst this
    exact ⟨0, by simp [longest, matches_nil_iff.mp h], Nat.le_refl _⟩
  | cons c cs ih =>
    cases m with
    | zero =>
      have ha := matches_nil_iff.mp h
      simp only [longest, ha, if_true]
      split
      · exact ⟨_, rfl, Nat.zero_le _⟩
      · exact ⟨0, rfl, Nat.le_refl _⟩
    | succ m =>
      rw [List.take_succ_cons, ← matches_after] at h
      obtain ⟨n, hn, hle⟩ := ih (by simpa using hm) h
      have hnever : (a.after c).isNever = false := by
        cases hx : (a.after c).isNever
        · rfl
        · rw [isNever_iff] at hx
          rw [hx] at h
          exact absurd h not_matches_never
      refine ⟨n + 1, ?_, by omega⟩
      simp [longest, hnever, hn]

end Pattern

end AnchoredUi.Style
