import Mathlib.Data.List.Infix
import AnchoredUi.Proofs.Number.Numeral
import AnchoredUi.Proofs.Style.Lexing

/-!
# The text of a token tells its kind

The patterns of the table are put together from a few constructions, and what each construction
matches is said here once. Most kinds of tokens take only characters of names, of numbers and single
marks; the two kinds of quoted texts take any character but their own quote in between.

No text is matched by the patterns of two kinds. Most kinds begin with a mark of their own, or have
one in them; numbers, lengths and names have none, but a name begins like no number, and what stands
behind the number of a length has letters or a percent sign. So the order of the kinds in the table
decides nothing: the longest match is of one kind only.

* `matches_many_one_iff`, `matches_anyOf_iff`, `matches_literal_iff`: what constructions match.
* `not_mem_of_avoids`: a pattern without certain characters matches no text with them.
* `matches_quotes_iff`: a quoted text ends at the second place of its quote.
* `matches_signedNumber_iff`, `matches_dimension_iff`, `matches_name_iff`: numbers, lengths, names.
* `TokenKind.eq_of_matches`: a text is matched by one kind at most.
-/

namespace AnchoredUi.Style

namespace Pattern

variable {a b : Pattern} {p : Char → Bool} {c q : Char} {s cs marks : List Char}

/-! ## Constructions -/

theorem matches_char_iff : Matches (char c) s ↔ s = [c] := by
  rw [char, matches_one_iff]
  constructor
  · rintro ⟨d, rfl, h⟩
    rw [beq_iff_eq.mp h]
  · rintro rfl
    exact ⟨c, rfl, beq_self_eq_true c⟩

theorem matches_literal_iff : Matches (literal cs) s ↔ s = cs := by
  induction cs generalizing s with
  | nil => exact matches_nothing_iff
  | cons c cs ih =>
    rw [literal, matches_seq_iff]
    constructor
    · rintro ⟨u, v, rfl, hu, hv⟩
      rw [matches_char_iff.mp hu, ih.mp hv]
      rfl
    · rintro rfl
      exact ⟨[c], cs, rfl, matches_char_iff.mpr rfl, ih.mpr rfl⟩

theorem matches_anyOf_iff {as : List Pattern} : Matches (anyOf as) s ↔ ∃ a ∈ as, Matches a s := by
  induction as with
  | nil => simp [anyOf, not_matches_never]
  | cons a as ih => simp [anyOf, matches_either_iff, ih]

theorem matches_optional_iff : Matches (optional a) s ↔ Matches a s ∨ s = [] := by
  rw [optional, matches_either_iff, matches_nothing_iff]

theorem matches_many_one_iff : Matches (.many (.one p)) s ↔ ∀ c ∈ s, p c = true := by
  induction s with
  | nil => exact iff_of_true .zero (List.forall_mem_nil _)
  | cons c s ih =>
    rw [matches_many_cons, List.forall_mem_cons, ← ih]
    constructor
    · rintro ⟨u, v, rfl, hu, hv⟩
      obtain ⟨d, hEq, hd⟩ := matches_one_iff.mp hu
      cases hEq
      exact ⟨hd, hv⟩
    · rintro ⟨hc, hs⟩
      exact ⟨[], s, rfl, .one hc, hs⟩

theorem matches_oneOrMore_one_iff :
    Matches (oneOrMore (.one p)) s ↔ s ≠ [] ∧ ∀ c ∈ s, p c = true := by
  rw [oneOrMore, matches_seq_iff]
  constructor
  · rintro ⟨u, v, rfl, hu, hv⟩
    obtain ⟨c, rfl, hc⟩ := matches_one_iff.mp hu
    exact ⟨List.cons_ne_nil c v, List.forall_mem_cons.mpr ⟨hc, matches_many_one_iff.mp hv⟩⟩
  · rintro ⟨hNe, hs⟩
    obtain ⟨c, t, rfl⟩ := List.exists_cons_of_ne_nil hNe
    obtain ⟨hc, ht⟩ := List.forall_mem_cons.mp hs
    exact ⟨[c], t, rfl, .one hc, matches_many_one_iff.mpr ht⟩

/-- A text between two quotes without a quote in it. -/
theorem matches_quotes_iff : Matches (.seq (char q) (.seq (.many (.one (· != q))) (char q))) s ↔
    ∃ inside, q ∉ inside ∧ s = q :: (inside ++ [q]) := by
  have hInside (inside : List Char) : (∀ c ∈ inside, (c != q) = true) ↔ q ∉ inside := by
    simp only [bne_iff_ne]
    exact ⟨fun h hMem => h q hMem rfl, fun h c hc hEq => h (hEq ▸ hc)⟩
  simp only [matches_seq_iff, matches_char_iff, matches_many_one_iff, hInside]
  constructor
  · rintro ⟨_, _, rfl, rfl, inside, _, rfl, hNot, rfl⟩
    exact ⟨inside, hNot, rfl⟩
  · rintro ⟨inside, hNot, rfl⟩
    exact ⟨[q], inside ++ [q], rfl, rfl, inside, [q], rfl, hNot, rfl⟩

/-! ## Characters that are not taken -/

/-- No part of the pattern takes one of the characters. -/
def avoids (marks : List Char) : Pattern → Bool
  | never => true
  | nothing => true
  | one p => marks.all fun c => !p c
  | seq a b => a.avoids marks && b.avoids marks
  | either a b => a.avoids marks && b.avoids marks
  | many a => a.avoids marks

theorem avoids_repeated (h : a.avoids marks = true) (low extra : Nat) :
    (repeated a low extra).avoids marks = true := by
  fun_induction repeated a low extra with
  | case1 => rfl
  | case2 extra ih => simp [optional, avoids, h, ih]
  | case3 low extra ih => simp [avoids, h, ih]

theorem not_mem_of_avoids (h : Matches a s) (hAvoids : a.avoids marks = true) :
    ∀ c ∈ marks, c ∉ s := by
  induction h with
  | nothing => exact fun _ _ => List.not_mem_nil
  | one hd =>
    intro c hc hMem
    rw [List.mem_singleton.mp hMem] at hc
    have hNot := List.all_eq_true.mp hAvoids _ hc
    rw [hd] at hNot
    cases hNot
  | seq _ _ ihs iht =>
    rw [avoids, Bool.and_eq_true] at hAvoids
    exact fun c hc hMem => (List.mem_append.mp hMem).elim (ihs hAvoids.1 c hc) (iht hAvoids.2 c hc)
  | left _ ih =>
    rw [avoids, Bool.and_eq_true] at hAvoids
    exact ih hAvoids.1
  | right _ ih =>
    rw [avoids, Bool.and_eq_true] at hAvoids
    exact ih hAvoids.2
  | zero => exact fun _ _ => List.not_mem_nil
  | more _ _ ihs iht =>
    exact fun c hc hMem => (List.mem_append.mp hMem).elim (ihs hAvoids c hc) (iht hAvoids c hc)

end Pattern

end AnchoredUi.Style

namespace AnchoredUi.Style

open Pattern Number Numeral

variable {s cs : List Char} {k j : TokenKind} {c q : Char}

/-! ## Numbers, lengths and names -/

theorem le_toNat_of_isAlpha (h : c.isAlpha = true) : 65 ≤ c.toNat := by
  rcases Bool.or_eq_true_iff.mp h with hUpper | hLower
  · have hRange : 'A'.val ≤ c.val ∧ c.val ≤ 'Z'.val := of_decide_eq_true hUpper
    exact UInt32.le_iff_toNat_le.mp hRange.1
  · have hLow : 'a'.val ≤ c.val := of_decide_eq_true (Bool.and_eq_true_iff.mp hLower).1
    exact (UInt32.le_iff_toNat_le.mp hLow).trans' (by decide)

theorem le_toNat_of_isNameStart (h : isNameStart c = true) : 65 ≤ c.toNat := by
  rcases Bool.or_eq_true_iff.mp h with hAlpha | hLine
  · exact le_toNat_of_isAlpha hAlpha
  · rw [beq_iff_eq.mp hLine]
    decide

theorem matches_digits_iff : Matches (oneOrMore digit) s ↔ Digits s :=
  matches_oneOrMore_one_iff.trans ⟨fun h => ⟨h.1, h.2⟩, fun h => ⟨h.1, h.2⟩⟩

theorem matches_fraction_iff :
    Matches (.seq (char '.') (oneOrMore digit)) s ↔ ∃ es, Digits es ∧ s = '.' :: es := by
  simp only [matches_seq_iff, matches_char_iff, matches_digits_iff]
  constructor
  · rintro ⟨_, es, rfl, rfl, hes⟩
    exact ⟨es, hes, rfl⟩
  · rintro ⟨es, hes, rfl⟩
    exact ⟨['.'], es, rfl, rfl, hes⟩

theorem matches_unsignedNumber_iff :
    Matches unsignedNumber s ↔ ∃ whole behind, Unsigned whole behind s := by
  rw [unsignedNumber, matches_either_iff, matches_seq_iff, matches_fraction_iff]
  simp only [matches_digits_iff, matches_optional_iff, matches_fraction_iff]
  constructor
  · rintro (⟨ds, _, rfl, hds, ⟨es, hes, rfl⟩ | rfl⟩ | ⟨es, hes, rfl⟩)
    · exact ⟨ds, es, .point hds hes⟩
    · exact ⟨ds, [], by rw [List.append_nil]; exact .whole hds⟩
    · exact ⟨[], es, .behind hes⟩
  · rintro ⟨whole, behind, hWhole | ⟨hWhole, hBehind⟩ | hBehind⟩
    · exact Or.inl ⟨s, [], (List.append_nil s).symm, hWhole, Or.inr rfl⟩
    · exact Or.inl ⟨whole, _, rfl, hWhole, Or.inl ⟨behind, hBehind, rfl⟩⟩
    · exact Or.inr ⟨behind, hBehind, rfl⟩

/-- A text with or without a hyphen in front. -/
theorem matches_hyphened_iff {a : Pattern} : Matches (.seq (optional (char '-')) a) s ↔
    ∃ negative text, Matches a text ∧ s = signed negative text := by
  simp only [matches_seq_iff, matches_optional_iff, matches_char_iff]
  constructor
  · rintro ⟨_, text, rfl, rfl | rfl, hText⟩
    · exact ⟨true, text, hText, rfl⟩
    · exact ⟨false, text, hText, rfl⟩
  · rintro ⟨negative, text, hText, rfl⟩
    cases negative with
    | false => exact ⟨[], text, rfl, Or.inr rfl, hText⟩
    | true => exact ⟨['-'], text, rfl, Or.inl rfl, hText⟩

theorem matches_signedNumber_iff : Matches signedNumber s ↔
    ∃ negative whole behind text, Unsigned whole behind text ∧ s = signed negative text := by
  rw [signedNumber, matches_hyphened_iff]
  simp only [matches_unsignedNumber_iff]
  constructor
  · rintro ⟨negative, text, ⟨whole, behind, h⟩, hs⟩
    exact ⟨negative, whole, behind, text, h, hs⟩
  · rintro ⟨negative, whole, behind, text, h, hs⟩
    exact ⟨negative, text, ⟨whole, behind, h⟩, hs⟩

theorem matches_dimension_iff : Matches TokenKind.dimension.pattern s ↔
    ∃ number, ∃ unit ∈ unitNames, Matches signedNumber number ∧ s = number ++ unit.toList := by
  rw [TokenKind.pattern, matches_seq_iff]
  simp only [matches_anyOf_iff, List.mem_map]
  constructor
  · rintro ⟨number, _, rfl, hNumber, _, ⟨unit, hUnit, rfl⟩, hText⟩
    rw [matches_literal_iff] at hText
    exact ⟨number, unit, hUnit, hNumber, hText ▸ rfl⟩
  · rintro ⟨number, unit, hUnit, hNumber, rfl⟩
    exact ⟨number, unit.toList, rfl, hNumber, _, ⟨unit, hUnit, rfl⟩, matches_literal_iff.mpr rfl⟩

theorem matches_name_iff : Matches TokenKind.name.pattern s ↔
    ∃ negative c cs, isNameStart c = true ∧ (∀ d ∈ cs, isNameChar d = true) ∧
      s = signed negative (c :: cs) := by
  rw [TokenKind.pattern, matches_hyphened_iff]
  simp only [matches_seq_iff, matches_one_iff, matches_many_one_iff]
  constructor
  · rintro ⟨negative, _, ⟨_, cs, rfl, ⟨c, rfl, hc⟩, hcs⟩, hs⟩
    exact ⟨negative, c, cs, hc, hcs, hs⟩
  · rintro ⟨negative, c, cs, hc, hcs, hs⟩
    exact ⟨negative, c :: cs, ⟨[c], cs, rfl, ⟨c, rfl, hc⟩, hcs⟩, hs⟩

namespace TokenKind

/-! ## Quoted texts and other tokens -/

/-- The quote at both ends of a kind of tokens. -/
def quote? : TokenKind → Option Char
  | doubleQuoted => some '"'
  | singleQuoted => some '\''
  | _ => none

theorem matches_of_quote (h : k.quote? = some q) :
    Matches k.pattern s ↔ ∃ inside, q ∉ inside ∧ s = q :: (inside ++ [q]) := by
  cases k <;> cases h <;> exact matches_quotes_iff

/-! ## Marks -/

/-- The character that begins a kind of tokens. -/
def mark? : TokenKind → Option Char
  | important => some '!'
  | hexColor => some '#'
  | doubleQuoted => some '"'
  | singleQuoted => some '\''
  | close => some ')'
  | comma => some ','
  | slash => some '/'
  | dimension | function | number | name => none

theorem mark?_of_quote (h : k.quote? = some q) : k.mark? = some q := by
  cases k <;> cases h <;> rfl

/-- The characters that begin tokens of one kind each. -/
def marks : List Char := ['!', '#', '"', '\'', ')', ',', '/']

theorem eq_of_mark (hk : k.mark? = some c) (hj : j.mark? = some c) : k = j := by
  cases k <;> cases hk <;> cases j <;> first | rfl | cases hj

theorem head_of_mark (hk : k.mark? = some c) (h : Matches k.pattern s) : s.head? = some c := by
  have hSeq {d : Char} {a : Pattern} (h : Matches (.seq (char d) a) s) : s.head? = some d := by
    obtain ⟨_, t, rfl, hd, -⟩ := matches_seq_iff.mp h
    rw [matches_char_iff.mp hd]
    rfl
  have hChar {d : Char} (h : Matches (char d) s) : s.head? = some d := by
    rw [matches_char_iff.mp h]
    rfl
  cases k <;> cases hk
  case important | hexColor | doubleQuoted | singleQuoted => exact hSeq h
  case close | comma | slash => exact hChar h

theorem not_mem_of_unmarked (hk : k.mark? = none) (h : Matches k.pattern s) :
    ∀ c ∈ marks, c ∉ s := by
  refine not_mem_of_avoids h ?_
  revert hk
  cases k <;> decide

/-! ## Kinds without a mark -/

theorem paren_mem_of_function (h : Matches function.pattern s) : '(' ∈ s := by
  rw [pattern, matches_seq_iff] at h
  obtain ⟨u, _, rfl, -, hRest⟩ := h
  obtain ⟨v, w, rfl, -, hParen⟩ := matches_seq_iff.mp hRest
  rw [matches_char_iff.mp hParen]
  simp

/-- A name does not begin like a number. -/
theorem not_name_of_number {number : List Char} (h : Matches signedNumber number)
    (rest : List Char) : ¬ Matches name.pattern (number ++ rest) := by
  rw [matches_name_iff]
  rintro ⟨negative, c, cs, hc, -, hSame⟩
  obtain ⟨negative', whole, behind, text, hText, rfl⟩ := matches_signedNumber_iff.mp h
  obtain ⟨d, ds, rfl⟩ := List.exists_cons_of_ne_nil hText.ne_nil
  have hBounds := hText.bounds d List.mem_cons_self
  have hName : ∀ e : Char, isNameStart e = true → ¬ (45 ≤ e.toNat ∧ e.toNat ≤ 57) := by
    intro e he hRange
    have := le_toNat_of_isNameStart he
    omega
  cases negative <;> cases negative' <;> rw [signed, signed] at hSame <;>
    simp only [Bool.false_eq_true, if_false, if_true, List.cons_append, List.cons.injEq] at hSame
  · exact hName c hc (by rw [← hSame.1]; omega)
  · exact hName c hc (by rw [← hSame.1]; decide)
  · rw [hSame.1] at hBounds
    exact absurd hBounds (by decide)
  · exact hName c hc (by rw [← hSame.2.1]; omega)

/-- No number has a unit behind it. -/
theorem not_number_of_dimension (h : Matches dimension.pattern s) : ¬ Matches number.pattern s := by
  intro hNumber
  obtain ⟨number, unit, hUnit, -, rfl⟩ := matches_dimension_iff.mp h
  have hHead : (unitNames.all fun unit => ['p', '%', 'e', 'r', 'v', 'd'].any
      unit.toList.contains) = true := by decide
  obtain ⟨c, hc, hMem⟩ := List.any_eq_true.mp (List.all_eq_true.mp hHead unit hUnit)
  exact not_mem_of_avoids hNumber (by decide) c hc
    (List.mem_append_right number (List.contains_iff_mem.mp hMem))

/-- What tells the kinds without a mark apart. -/
theorem unmarked_cases (hk : k.mark? = none) (h : Matches k.pattern s) :
    (k = function ∧ '(' ∈ s) ∨ (k = name ∧ '(' ∉ s) ∨
      (k = number ∧ '(' ∉ s ∧ ¬ Matches name.pattern s) ∨
      (k = dimension ∧ '(' ∉ s ∧ ¬ Matches name.pattern s ∧ ¬ Matches number.pattern s) := by
  have hParen (hAvoids : k.pattern.avoids ['('] = true) : '(' ∉ s :=
    not_mem_of_avoids h hAvoids '(' (List.mem_singleton_self _)
  cases k <;> cases hk
  case function => exact Or.inl ⟨rfl, paren_mem_of_function h⟩
  case name => exact Or.inr (Or.inl ⟨rfl, hParen (by decide)⟩)
  case number =>
    refine Or.inr (Or.inr (Or.inl ⟨rfl, hParen (by decide), ?_⟩))
    have hNot := not_name_of_number h []
    rwa [List.append_nil] at hNot
  case dimension =>
    refine Or.inr (Or.inr (Or.inr ⟨rfl, hParen (by decide), ?_, not_number_of_dimension h⟩))
    obtain ⟨number, unit, -, hNumber, rfl⟩ := matches_dimension_iff.mp h
    exact not_name_of_number hNumber _

/-- A text that begins with the mark of a kind is matched by no other kind. -/
theorem eq_of_head (hk : k.mark? = some c) (hHead : s.head? = some c) (hj : Matches j.pattern s) :
    j = k := by
  cases hMark : j.mark? with
  | some d =>
    have hSame := head_of_mark hMark hj
    rw [hHead] at hSame
    cases hSame
    exact eq_of_mark hMark hk
  | none =>
    have hMem : c ∈ marks := by cases k <;> cases hk <;> decide
    exact absurd (List.mem_of_mem_head? hHead) (not_mem_of_unmarked hMark hj c hMem)

/-- A text is matched by one kind at most. -/
theorem eq_of_matches (hk : Matches k.pattern s) (hj : Matches j.pattern s) : k = j := by
  cases hMark : k.mark? with
  | some c => exact (eq_of_head hMark (head_of_mark hMark hk) hj).symm
  | none =>
    cases hMark' : j.mark? with
    | some d => exact eq_of_head hMark' (head_of_mark hMark' hj) hk
    | none =>
      rcases unmarked_cases hMark hk with ⟨rfl, _⟩ | ⟨rfl, _⟩ | ⟨rfl, _, _⟩ | ⟨rfl, _, _, _⟩ <;>
        rcases unmarked_cases hMark' hj with
          ⟨rfl, _⟩ | ⟨rfl, _⟩ | ⟨rfl, _, _⟩ | ⟨rfl, _, _, _⟩ <;>
        first | rfl | contradiction

end TokenKind

end AnchoredUi.Style
