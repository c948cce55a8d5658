import Mathlib.Data.List.TakeWhile
import AnchoredUi.Style.Token

/-!
# Nothing is lost between tokens

Reading tokens cuts a text into pieces: each token is the longest beginning of what is left that
any pattern matches, and between the tokens there are separators only. So the text is its tokens
with separators around them. Where reading stops at a fault, this holds of the text in front of it.

At a fault no pattern matches, with one exception. A hyphen takes the characters of names behind it
along, and a match that ends inside of that piece does not count: reading stops at `-1x`, although
`-1` is a number.

* `scan_spec`: what one step of reading finds.
* `cutUp_tokens`: the text is cut into its tokens, up to the end or up to a fault.
* `not_cutUp_misread`: a fault does not mean that no pattern matches.
-/

namespace AnchoredUi.Style

open Pattern

variable {cs front rest fragment : List Char} {ts : List Token} {t : Token} {k : TokenKind}
  {n : Nat}

/-! ## Cutting a text -/

/-- Only characters that separate tokens. -/
def Gap (cs : List Char) : Prop := ∀ c ∈ cs, isSkipped c = true

/-- The token stands at the start of the text, and no pattern matches a longer beginning. -/
structure Token.Longest (t : Token) (cs : List Char) : Prop where
  ne_nil : t.text ≠ []
  start : t.text <+: cs
  fits : Matches t.kind.pattern t.text
  longest : ∀ (k : TokenKind) (p : List Char), p <+: cs → Matches k.pattern p →
    p.length ≤ t.text.length

/-- The text is cut into tokens with gaps around them, up to a rest. -/
inductive Lexed : List Char → List Token → List Char → Prop
  | gap {w rest : List Char} (hGap : Gap w) : Lexed (w ++ rest) [] rest
  | token {w next rest : List Char} {t : Token} {ts : List Token} (hGap : Gap w)
      (hToken : t.Longest (t.text ++ next)) (hNext : Lexed next ts rest) :
      Lexed (w ++ (t.text ++ next)) (t :: ts) rest

/-- No pattern matches a beginning of the text. -/
def Unfit (cs : List Char) : Prop :=
  ∀ (k : TokenKind) (p : List Char), p <+: cs → ¬ Matches k.pattern p

/-- The fragment begins the rest, and no pattern matches there. -/
structure Misread (fragment rest : List Char) : Prop where
  ne_nil : fragment ≠ []
  start : fragment <+: rest
  unfit : Unfit rest

/-- A hyphen starts the rest, and the fragment is the run of it, beyond all that match. -/
structure Overrun (fragment rest : List Char) : Prop where
  ne_nil : fragment ≠ []
  start : fragment <+: rest
  run : fragment = hyphenRun rest
  shorter : ∀ (k : TokenKind) (p : List Char), p <+: rest → Matches k.pattern p →
    p.length < fragment.length

/-- A text, from a byte position on, is cut into the tokens that are read, up to its end; or up to
the place of a fault, of whose fragment and of the rest from there on something is true. -/
def CutUp (atFault : List Char → List Char → Prop) (position : Nat) (cs : List Char) :
    Except LexFault (List Token) → Prop
  | .ok ts => Lexed cs ts []
  | .error f => ∃ ts front rest, cs = front ++ rest ∧ f.position = position + byteLength front ∧
      Lexed cs ts rest ∧ atFault f.fragment rest

/-! ## Lengths -/

@[simp] theorem byteLength_nil : byteLength [] = 0 := rfl

theorem foldl_utf8Size (cs : List Char) (n : Nat) :
    cs.foldl (fun n c => n + c.utf8Size) n = n + byteLength cs := by
  unfold byteLength
  induction cs generalizing n with
  | nil => rfl
  | cons c cs ih =>
    rw [List.foldl_cons, List.foldl_cons, ih, ih (0 + c.utf8Size)]
    omega

@[simp] theorem byteLength_append (a b : List Char) :
    byteLength (a ++ b) = byteLength a + byteLength b := by
  rw [byteLength, List.foldl_append, foldl_utf8Size]
  rfl

theorem eq_nil_of_byteLength (h : byteLength cs = 0) : cs = [] := by
  cases cs with
  | nil => rfl
  | cons c cs =>
    rw [byteLength, List.foldl_cons, foldl_utf8Size] at h
    have := c.utf8Size_pos
    omega

/-! ## One step -/

theorem hyphenRun_isPrefix (cs : List Char) : hyphenRun cs <+: cs := by
  unfold hyphenRun
  split
  · exact (List.prefix_cons_inj _).mpr (List.takeWhile_prefix _)
  · exact List.nil_prefix

theorem misfit_isPrefix (cs : List Char) : misfit cs <+: cs := by
  unfold misfit
  split
  · exact List.prefix_rfl
  · split
    · exact List.prefix_rfl
    · split
      · exact hyphenRun_isPrefix _
      · exact ⟨_, rfl⟩

theorem misfit_ne_nil (h : cs ≠ []) : misfit cs ≠ [] := by
  cases cs with
  | nil => exact absurd rfl h
  | cons c cs =>
    rw [misfit]
    split
    · exact List.cons_ne_nil c cs
    · split
      · rename_i hHyphen
        rw [hHyphen]
        exact List.cons_ne_nil _ _
      · exact List.cons_ne_nil c []

/-- Where a hyphen runs on, all of its run is the misfit. -/
theorem misfit_eq_hyphenRun (h : hyphenRun cs ≠ []) : misfit cs = hyphenRun cs := by
  unfold hyphenRun at h
  split at h
  · rfl
  · exact absurd rfl h

theorem matches_ne_nil {p : List Char} (h : Matches k.pattern p) : p ≠ [] := by
  rintro rfl
  rw [matches_nil_iff] at h
  cases k <;> revert h <;> decide

/-- What is matched at the start of a text is not longer than what is picked. -/
theorem length_le_of_pick {p : List Char} (hPick : pick cs = some (k, n)) (hp : p <+: cs)
    {j : TokenKind} (h : Matches j.pattern p) : p.length ≤ n := by
  rw [List.prefix_iff_eq_take] at hp
  rw [hp] at h
  have hLength : p.length ≤ cs.length := by
    rw [hp]
    exact List.length_take_le' _ _
  obtain ⟨k', n', hSame, hLe⟩ := pick_max hLength h
  rw [hPick] at hSame
  cases hSame
  exact hLe

/-- Where nothing is picked, or nothing but the empty beginning, no pattern matches. -/
theorem unfit_of_pick (h : ∀ k n, pick cs ≠ some (k, n + 1)) : Unfit cs := by
  intro k p hp hMatch
  have hTake := List.prefix_iff_eq_take.mp hp
  have hLength : p.length ≤ cs.length := hp.length_le
  obtain ⟨k', n', hPick, hLe⟩ := pick_max hLength (hTake ▸ hMatch)
  have hPos := List.length_pos_iff.mpr (matches_ne_nil hMatch)
  obtain ⟨m, rfl⟩ := Nat.exists_eq_succ_of_ne_zero (by omega : n' ≠ 0)
  exact h k' m hPick

theorem scan_spec (cs : List Char) :
    match scan cs with
    | .finished => cs = []
    | .token k n => Token.Longest ⟨k, cs.take n⟩ cs
    | .fault fragment => Misread fragment cs ∨ Overrun fragment cs := by
  by_cases hNil : cs = []
  · simp [scan, hNil]
  have hNe := misfit_ne_nil hNil
  have hStart := misfit_isPrefix cs
  rw [scan, if_neg hNil]
  rcases hPick : pick cs with _ | ⟨k, _ | n⟩
  · exact Or.inl ⟨hNe, hStart, unfit_of_pick (by simp [hPick])⟩
  · exact Or.inl ⟨hNe, hStart, unfit_of_pick (by simp [hPick])⟩
  obtain ⟨hLe, hFits⟩ := pick_matches hPick
  have hLength : (cs.take (n + 1)).length = n + 1 := List.length_take_of_le hLe
  by_cases hRun : n + 1 < (hyphenRun cs).length
  · have hSame : misfit cs = hyphenRun cs :=
      misfit_eq_hyphenRun (List.length_pos_iff.mp (by omega))
    simp only [if_pos hRun]
    refine Or.inr ⟨hNe, hStart, hSame, fun j p hp hMatch => ?_⟩
    rw [hSame]
    exact Nat.lt_of_le_of_lt (length_le_of_pick hPick hp hMatch) hRun
  · simp only [if_neg hRun]
    refine ⟨?_, List.take_prefix _ _, hFits, fun j p hp hMatch => ?_⟩
    · exact List.length_pos_iff.mp (by rw [hLength]; omega)
    · rw [hLength]
      exact length_le_of_pick hPick hp hMatch

/-! ## A whole text -/

/-- A token behind a gap, in front of a text that is cut up. -/
theorem CutUp.token {atFault : List Char → List Char → Prop} {w next : List Char} {position : Nat}
    {read : Except LexFault (List Token)} (hGap : Gap w) (hToken : t.Longest (t.text ++ next))
    (h : CutUp atFault (position + byteLength w + byteLength t.text) next read) :
    CutUp atFault position (w ++ (t.text ++ next)) (read.map (t :: ·)) := by
  cases read with
  | ok ts => exact Lexed.token hGap hToken h
  | error f =>
    obtain ⟨ts, front, rest, rfl, hPosition, hLexed, hFault⟩ := h
    refine ⟨t :: ts, w ++ (t.text ++ front), rest, by simp, ?_, hLexed.token hGap hToken, hFault⟩
    rw [hPosition, byteLength_append, byteLength_append]
    omega

/-- Reading from a byte position on cuts the text up. At a fault no pattern matches, or a hyphen
runs on beyond all that match. -/
theorem cutUp_tokensFrom (position : Nat) (cs : List Char) :
    CutUp (fun fragment rest => Misread fragment rest ∨ Overrun fragment rest) position cs
      (tokensFrom position cs) := by
  have hGap (cs : List Char) : Gap (cs.takeWhile isSkipped) := fun _ hc => List.mem_takeWhile_imp hc
  have hCut (cs : List Char) : cs = cs.takeWhile isSkipped ++ cs.dropWhile isSkipped :=
    List.takeWhile_append_dropWhile.symm
  fun_induction tokensFrom position cs with
  | case1 position cs rest hScan =>
    have hRest := scan_spec rest
    rw [hScan] at hRest
    have hLexed : Lexed (cs.takeWhile isSkipped ++ rest) [] rest := .gap (hGap cs)
    rw [← hCut cs, hRest] at hLexed
    exact hLexed
  | case2 position cs rest start fragment hScan =>
    have hStuck := scan_spec rest
    rw [hScan] at hStuck
    have hLexed : Lexed (cs.takeWhile isSkipped ++ rest) [] rest := .gap (hGap cs)
    rw [← hCut cs] at hLexed
    exact ⟨[], cs.takeWhile isSkipped, rest, hCut cs, rfl, hLexed, hStuck⟩
  | case3 position cs rest start k n hScan text hLt ih =>
    have hToken := scan_spec rest
    rw [hScan] at hToken
    have hRest : text ++ rest.drop n = rest := List.take_append_drop n rest
    have hWhole := CutUp.token (t := ⟨k, text⟩) (hGap cs) (hRest.symm ▸ hToken) ih
    rwa [hRest, ← hCut cs] at hWhole

/-- A text is its tokens with separators around them, up to its end or up to a fault. Each token is
a longest match. At a fault no pattern matches, or a hyphen runs on beyond all that match. -/
theorem cutUp_tokens (cs : List Char) :
    CutUp (fun fragment rest => Misread fragment rest ∨ Overrun fragment rest) 0 cs (tokens cs) :=
  cutUp_tokensFrom 0 cs

theorem tokensFrom_of_fault (h : scan (cs.dropWhile isSkipped) = .fault fragment)
    (position : Nat) :
    tokensFrom position cs = .error ⟨position + byteLength (cs.takeWhile isSkipped), fragment⟩ := by
  rw [tokensFrom]
  split <;> rename_i hScan <;> rw [h] at hScan <;> cases hScan
  rfl

/-- At `-1x` reading stops, and `-1` is a number. -/
theorem not_cutUp_misread : ¬ ∀ cs : List Char, CutUp Misread 0 cs (tokens cs) := by
  intro h
  have hScan : scan (['-', '1', 'x'].dropWhile isSkipped) = .fault ['-', '1', 'x'] := rfl
  have hFault : tokens ['-', '1', 'x'] = .error ⟨0, ['-', '1', 'x']⟩ :=
    tokensFrom_of_fault hScan 0
  have hRead := h ['-', '1', 'x']
  rw [hFault] at hRead
  obtain ⟨ts, front, rest, hCut, hPosition, -, hMisread⟩ := hRead
  have hFront : front = [] := eq_nil_of_byteLength (by simpa using hPosition.symm)
  rw [hFront, List.nil_append] at hCut
  have hLongest : TokenKind.number.pattern.longest ['-', '1', 'x'] = some 2 := by decide
  refine hMisread.unfit .number _ ?_ (longest_matches hLongest).2
  rw [← hCut]
  exact List.take_prefix _ _

end AnchoredUi.Style
