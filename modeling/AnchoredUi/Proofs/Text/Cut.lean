import AnchoredUi.Text.Case
import AnchoredUi.Text.Split
import AnchoredUi.Text.Trim
import Mathlib.Data.List.Chain
import Mathlib.Data.List.Infix
import Mathlib.Data.List.TakeWhile

/-!
# What cuts leave

What is cut out of a text, or left after trimming it, is a stretch of the text. So it has no
characters and no neighbors that the text does not have, and it is free of whatever the cut was
made at. The other way round, a text that is put together from such stretches is cut at the same
places again.

* `infix_of_cutAt`, `infix_of_mem_pieces`, `trimBy_isInfix`: cuts give stretches of the text.
* `cutAt_append`, `cutAtLast_append`, `pieces_append`, `trimBy_between`: cutting what was put
  together.
* `dropFront?_append`, `dropFront?_eq_none_iff`: dropping a beginning.
* `takeWhile_run`: taking a run off a text that starts with it.
* `not_infix_of_breakOn`: a cut at a piece is made at its first place.
* `not_pair_infix_iff`: a piece of two characters, as a condition on neighbors.
* `trim_lower`, `mem_lower_iff`: lowering the letters moves no blanks and no marks.
-/

namespace AnchoredUi.Text

variable {d : Char} {cs a b piece : List Char}

/-! ## Single characters -/

theorem infix_of_cutAt (h : cutAt d cs = some (a, b)) : a <:+: cs ∧ b <:+: cs := by
  obtain ⟨rfl, -⟩ := append_of_cutAt h
  exact ⟨⟨[], d :: b, rfl⟩, ⟨a ++ [d], [], by simp⟩⟩

theorem cutAt_append (h : d ∉ a) (b : List Char) : cutAt d (a ++ d :: b) = some (a, b) := by
  induction a with
  | nil => simp [cutAt]
  | cons c cs ih =>
    rw [List.mem_cons, not_or] at h
    rw [List.cons_append, cutAt, if_neg fun hc => h.1 hc.symm, ih h.2]
    rfl

theorem pieces_append (h : d ∉ a) (b : List Char) : pieces d (a ++ d :: b) = a :: pieces d b := by
  refine List.splitOnP_append_cons_of_forall_mem (fun c hc => ?_) d (by simp) b
  exact beq_eq_false_iff_ne.mpr fun hEq => h (hEq ▸ hc)

theorem pieces_of_not_mem (h : d ∉ cs) : pieces d cs = [cs] := by
  refine List.splitOnP_eq_singleton fun c hc => ?_
  exact beq_eq_false_iff_ne.mpr fun hEq => h (hEq ▸ hc)

theorem pieces_append_cons (d : Char) (a b : List Char) :
    pieces d (a ++ d :: b) = pieces d a ++ pieces d b :=
  List.splitOnP_append_cons a b (beq_self_eq_true d)

theorem intercalate_pieces (d : Char) (cs : List Char) : [d].intercalate (pieces d cs) = cs :=
  List.intercalate_splitOn d

/-- The pieces of a text are stretches of it without the character between them. -/
theorem infix_of_mem_pieces (h : piece ∈ pieces d cs) : piece <:+: cs ∧ d ∉ piece := by
  induction hn : cs.length using Nat.strongRecOn generalizing cs with
  | ind n ih =>
    cases hCut : cutAt d cs with
    | none =>
      have hNot := cutAt_eq_none_iff.mp hCut
      rw [pieces_of_not_mem hNot, List.mem_singleton] at h
      subst h
      exact ⟨List.infix_rfl, hNot⟩
    | some cut =>
      obtain ⟨front, back⟩ := cut
      obtain ⟨hText, hFront⟩ := append_of_cutAt hCut
      rw [hText, pieces_append hFront] at h
      rcases List.mem_cons.mp h with rfl | hBack
      · exact ⟨(infix_of_cutAt hCut).1, hFront⟩
      · have hShort : back.length < n := by
          rw [← hn, hText, List.length_append, List.length_cons]
          omega
        obtain ⟨hInfix, hNot⟩ := ih _ hShort hBack rfl
        exact ⟨hInfix.trans (infix_of_cutAt hCut).2, hNot⟩

/-- Each piece of a text is followed by the character between them, if this stands at the end. -/
theorem append_infix_of_mem_pieces (h : piece ∈ pieces d cs) : piece ++ [d] <:+: cs ++ [d] := by
  have hJoined : ∀ ls : List (List Char), ls ≠ [] →
      [d].intercalate ls ++ [d] = (ls.map (· ++ [d])).flatten := by
    intro ls hls
    induction ls with
    | nil => exact absurd rfl hls
    | cons l ls ih =>
      cases ls with
      | nil => simp
      | cons m ms =>
        rw [List.intercalate_cons_cons, List.append_assoc, ih (List.cons_ne_nil m ms)]
        simp
  rw [← intercalate_pieces d cs, hJoined (pieces d cs) (List.splitOnP_ne_nil _ _)]
  exact List.infix_of_mem_flatten (List.mem_map_of_mem h)

/-! ## Last places -/

theorem append_of_cutAtLast (h : cutAtLast d cs = some (a, b)) : cs = a ++ d :: b ∧ d ∉ b := by
  obtain ⟨⟨back, front⟩, hCut, hEq⟩ := Option.map_eq_some_iff.mp h
  cases hEq
  obtain ⟨hText, hBack⟩ := append_of_cutAt hCut
  have hReverse := congrArg List.reverse hText
  rw [List.reverse_reverse] at hReverse
  exact ⟨by simpa using hReverse, by simpa using hBack⟩

theorem cutAtLast_append (a : List Char) (h : d ∉ b) : cutAtLast d (a ++ d :: b) = some (a, b) := by
  have hReverse : (a ++ d :: b).reverse = b.reverse ++ d :: a.reverse := by simp
  rw [cutAtLast, hReverse, cutAt_append fun hd => h (List.mem_reverse.mp hd), Option.map_some,
    List.reverse_reverse, List.reverse_reverse]

theorem cutAtLast_eq_none_iff : cutAtLast d cs = none ↔ d ∉ cs := by
  rw [cutAtLast, Option.map_eq_none_iff, cutAt_eq_none_iff, List.mem_reverse]

/-! ## Beginnings and ends -/

theorem dropFront?_append (a b : List Char) : dropFront? a (a ++ b) = some b := by
  rw [dropFront?, if_pos (List.isPrefixOf_iff_prefix.mpr (List.prefix_append a b)), List.drop_left]

theorem dropFront?_eq_some_iff : dropFront? a cs = some b ↔ cs = a ++ b := by
  constructor
  · intro h
    rw [dropFront?, Option.ite_none_right_eq_some, List.isPrefixOf_iff_prefix] at h
    obtain ⟨⟨rest, rfl⟩, hRest⟩ := h
    rw [← Option.some.inj hRest, List.drop_left]
  · rintro rfl
    exact dropFront?_append a b

theorem dropFront?_eq_none_iff : dropFront? piece cs = none ↔ ¬ piece <+: cs := by
  rw [dropFront?, ite_eq_right_iff, ← List.isPrefixOf_iff_prefix]
  simp

theorem dropBack?_append (a b : List Char) : dropBack? b (a ++ b) = some a := by
  rw [dropBack?, if_pos (List.isSuffixOf_iff_suffix.mpr (List.suffix_append a b)),
    List.length_append, Nat.add_sub_cancel, List.take_left]

theorem dropBack?_eq_some_iff : dropBack? b cs = some a ↔ cs = a ++ b := by
  constructor
  · intro h
    rw [dropBack?, Option.ite_none_right_eq_some, List.isSuffixOf_iff_suffix] at h
    obtain ⟨⟨front, rfl⟩, hFront⟩ := h
    rw [← Option.some.inj hFront, List.length_append, Nat.add_sub_cancel, List.take_left]
  · rintro rfl
    exact dropBack?_append a b

theorem dropBack?_eq_none_iff : dropBack? piece cs = none ↔ ¬ piece <:+ cs := by
  rw [dropBack?, ite_eq_right_iff, ← List.isSuffixOf_iff_suffix]
  simp

/-! ## Runs -/

/-- A run of characters ends at the first character that is none of them. -/
theorem takeWhile_run {p : Char → Bool} (ha : ∀ c ∈ a, p c = true)
    (hb : ∀ c ∈ b.head?, p c = false) :
    (a ++ b).takeWhile p = a ∧ (a ++ b).dropWhile p = b := by
  rw [List.takeWhile_append_of_pos ha, List.dropWhile_append_of_pos ha]
  cases b with
  | nil => exact ⟨List.append_nil a, rfl⟩
  | cons c cs => simp [hb c rfl]

/-! ## Trimming -/

/-- What is trimmed off stands around what is left. -/
theorem exists_append_trimBy (p : Char → Bool) (cs : List Char) :
    ∃ front back, (∀ c ∈ front, p c = true) ∧ (∀ c ∈ back, p c = true) ∧
      cs = front ++ trimBy p cs ++ back := by
  have hEnd : ∀ xs : List Char, xs = trimEndBy p xs ++ (xs.reverse.takeWhile p).reverse := by
    intro xs
    rw [trimEndBy, ← List.reverse_append, List.takeWhile_append_dropWhile, List.reverse_reverse]
  refine ⟨cs.takeWhile p, ((cs.dropWhile p).reverse.takeWhile p).reverse, fun c hc => ?_,
    fun c hc => ?_, ?_⟩
  · exact List.mem_takeWhile_imp hc
  · exact List.mem_takeWhile_imp (List.mem_reverse.mp hc)
  · rw [List.append_assoc, trimBy, ← hEnd, List.takeWhile_append_dropWhile]

/-- Nothing is trimmed off a text whose ends stay. -/
theorem trimBy_eq_self {p : Char → Bool} (hHead : ∀ c ∈ cs.head?, p c = false)
    (hLast : ∀ c ∈ cs.getLast?, p c = false) : trimBy p cs = cs := by
  rw [trimBy, dropWhile_eq_self_of_head hHead, trimEndBy, dropWhile_eq_self_of_head,
    List.reverse_reverse]
  rwa [List.head?_reverse]

theorem trimBy_isInfix (p : Char → Bool) (cs : List Char) : trimBy p cs <:+: cs := by
  have hEnd : trimEndBy p (cs.dropWhile p) <+: cs.dropWhile p := by
    rw [trimEndBy, ← List.reverse_suffix, List.reverse_reverse]
    exact List.dropWhile_suffix p
  exact hEnd.isInfix.trans (List.dropWhile_suffix p).isInfix

theorem trimBy_dropWhile (p : Char → Bool) (cs : List Char) :
    trimBy p (cs.dropWhile p) = trimBy p cs := by
  unfold trimBy
  rw [dropWhile_eq_self_of_head fun c hc => head_dropWhile hc]

/-- Whatever is put around a text is trimmed off again. -/
theorem trimBy_between {p : Char → Bool} (ha : ∀ c ∈ a, p c = true) (hb : ∀ c ∈ b, p c = true)
    (cs : List Char) : trimBy p (a ++ cs ++ b) = trimBy p cs := by
  have hEnd : ∀ xs : List Char, trimEndBy p (xs ++ b) = trimEndBy p xs := by
    intro xs
    unfold trimEndBy
    rw [List.reverse_append, List.dropWhile_append_of_pos fun c hc => hb c (List.mem_reverse.mp hc)]
  unfold trimBy
  rw [List.append_assoc, List.dropWhile_append_of_pos ha, List.dropWhile_append]
  split
  · rename_i hEmpty
    have hNil : b.dropWhile p = [] := dropWhile_eq_nil.mpr hb
    rw [hNil, List.isEmpty_iff.mp hEmpty]
  · exact hEnd _

/-! ## Longer pieces -/

theorem occursIn_iff : occursIn piece cs = true ↔ piece <:+: cs := by
  rw [occursIn, Option.isSome_iff_ne_none, ne_eq, breakOn_eq_none_iff, not_not]

/-- The cut at a piece is made at its first place. -/
theorem not_infix_of_breakOn (hPiece : piece ≠ []) (h : breakOn piece cs = some (a, b)) :
    ¬ piece <:+: a := by
  induction cs generalizing a b with
  | nil => simp [breakOn, hPiece] at h
  | cons c cs ih =>
    rw [breakOn] at h
    split at h
    · cases h
      exact fun hNil => hPiece (List.infix_nil.mp hNil)
    · rename_i hHere
      obtain ⟨⟨x, y⟩, hRest, hEq⟩ := Option.map_eq_some_iff.mp h
      cases hEq
      rw [List.infix_cons_iff, not_or]
      refine ⟨fun hPrefix => hHere ?_, ih hRest⟩
      rw [List.isPrefixOf_iff_prefix, append_of_breakOn hRest, List.append_assoc,
        ← List.cons_append]
      exact hPrefix.trans (List.prefix_append _ _)

/-- A piece that ends in a mark and has no other mark does not overlap itself. So of two places of
it, the one in front of which it does not occur comes first. -/
theorem length_le_of_mark {body front back front' back' : List Char} (hBody : d ∉ body)
    (hNot : ¬ body ++ [d] <:+: front)
    (h : front ++ (body ++ [d]) ++ back = front' ++ (body ++ [d]) ++ back') :
    front.length ≤ front'.length := by
  by_contra hLonger
  by_cases hInside : (front' ++ (body ++ [d])).length ≤ front.length
  · have hPrefix : front' ++ (body ++ [d]) <+: front ++ (body ++ [d]) ++ back :=
      h ▸ List.prefix_append _ _
    have hFront : front <+: front ++ (body ++ [d]) ++ back := by
      rw [List.append_assoc]
      exact List.prefix_append _ _
    obtain ⟨rest, hRest⟩ := List.prefix_of_prefix_length_le hPrefix hFront hInside
    exact hNot ⟨front', rest, hRest⟩
  · -- the mark of the second place falls into the first one, before its own mark
    refine hBody (List.mem_of_getElem? (i := front'.length + body.length - front.length) ?_)
    simp only [List.length_append, List.length_singleton] at hInside
    have hMark : (front' ++ (body ++ [d]) ++ back')[front'.length + body.length]? = some d := by
      rw [← List.append_assoc, List.append_assoc _ [d], ← List.length_append,
        List.getElem?_append_right (Nat.le_refl _), Nat.sub_self]
      rfl
    rw [← h, List.append_assoc, List.append_assoc,
      List.getElem?_append_right (by omega), List.getElem?_append_left (by omega)] at hMark
    exact hMark

theorem breakOn_of_mark {body : List Char} (hBody : d ∉ body) (hNot : ¬ body ++ [d] <:+: a)
    (b : List Char) : breakOn (body ++ [d]) (a ++ (body ++ [d]) ++ b) = some (a, b) := by
  cases hBreak : breakOn (body ++ [d]) (a ++ (body ++ [d]) ++ b) with
  | none => exact absurd ⟨a, b, rfl⟩ (breakOn_eq_none_iff.mp hBreak)
  | some cut =>
    obtain ⟨x, y⟩ := cut
    have hText := append_of_breakOn hBreak
    have hFirst := not_infix_of_breakOn (by simp) hBreak
    have hLength := Nat.le_antisymm (length_le_of_mark hBody hNot hText)
      (length_le_of_mark hBody hFirst hText.symm)
    simp only [List.append_assoc] at hText
    obtain ⟨rfl, hRest⟩ := List.append_inj hText hLength
    rw [List.append_cancel_left (List.append_cancel_left hRest)]

theorem not_pair_infix_iff {x y : Char} :
    ¬ [x, y] <:+: cs ↔ cs.IsChain fun c d => ¬ (c = x ∧ d = y) := by
  induction cs with
  | nil => simp
  | cons c cs ih =>
    rw [List.infix_cons_iff, not_or, ih]
    cases cs with
    | nil => simp
    | cons d cs =>
      simp only [List.isChain_cons_cons, List.cons_prefix_cons, List.nil_prefix, and_true,
        @eq_comm _ x, @eq_comm _ y]

/-! ## Lowering -/

/-- Only capital letters are lowered, and they become small letters. -/
theorem toLower_cases (c : Char) :
    c.toLower = c ∨ 65 ≤ c.toNat ∧ c.toNat ≤ 90 ∧ c.toLower.toNat = c.toNat + 32 := by
  unfold Char.toLower
  split
  · rename_i h
    have hLow : 65 ≤ c.toNat := UInt32.le_iff_toNat_le.mp h.1
    have hHigh : c.toNat ≤ 90 := UInt32.le_iff_toNat_le.mp h.2
    refine Or.inr ⟨hLow, hHigh, ?_⟩
    show (c.val + 32).toNat = c.val.toNat + 32
    rw [UInt32.toNat_add]
    exact Nat.mod_eq_of_lt (by have : c.val.toNat ≤ 90 := hHigh; simp; omega)
  · exact Or.inl rfl

theorem isBlank_of_letter {c : Char} (hLow : 65 ≤ c.toNat) (hHigh : c.toNat ≤ 122) :
    isBlank c = false := by
  simp only [isBlank, Bool.or_eq_false_iff, Bool.and_eq_false_iff, decide_eq_false_iff_not,
    beq_eq_false_iff_ne]
  omega

theorem isBlank_toLower (c : Char) : isBlank c.toLower = isBlank c := by
  rcases toLower_cases c with hSame | ⟨hLow, hHigh, hLower⟩
  · rw [hSame]
  · rw [isBlank_of_letter (by omega) (by omega), isBlank_of_letter hLow (by omega)]

theorem trim_lower (cs : List Char) : trim (lower cs) = lower (trim cs) := by
  have hBlank : isBlank ∘ Char.toLower = isBlank := funext isBlank_toLower
  simp only [trim, trimBy, trimEndBy, lower, List.dropWhile_map, ← List.map_reverse, hBlank]

theorem trimmed_lowered (s : String) : trimmed (lowered s) = lowered (trimmed s) := by
  simp only [trimmed, lowered, String.toList_ofList, trim_lower]

/-- A mark in front of the letters or behind them comes from itself only. -/
theorem toLower_eq_iff {c d : Char} (hd : d.toNat < 65 ∨ 122 < d.toNat) :
    c.toLower = d ↔ c = d := by
  rcases toLower_cases c with hSame | ⟨hLow, hHigh, hLower⟩
  · rw [hSame]
  · constructor <;> rintro rfl <;> omega

theorem mem_lower_iff (hd : d.toNat < 65 ∨ 122 < d.toNat) : d ∈ lower cs ↔ d ∈ cs := by
  simp only [lower, List.mem_map, toLower_eq_iff hd, exists_eq_right]

end AnchoredUi.Text
