import AnchoredUi.Proofs.Style.Kinds
import AnchoredUi.Proofs.Text.Cut

/-!
# Tokens with a space between them

Where a token ends could depend on what follows it: the longest match goes on as long as any pattern
matches. But no pattern goes on over a character that separates tokens, the quoted texts apart, and
a quoted text ends at its second quote whatever follows. So every text of a token is read as this
token in front of a separator, and the texts of the tokens that were read, with single spaces
between them, are read as the same tokens again.

* `length_le_of_parted`: behind the text of a token, no match goes on over a separator.
* `scan_of_longest`, `scan_parted`: what is read as a token.
* `tokens_eq_ok_iff`: a text is read if it is scanned, token by token, up to its end.
* `Scans.append`: two texts one after the other.
* `tokens_respaced`: tokens are read from their own texts.
-/

namespace AnchoredUi.Style

open Pattern Text

variable {cs rest text p s w : List Char} {ts us : List Token} {k j : TokenKind} {n : Nat}

/-! ## Separators -/

/-- The characters that separate tokens. -/
def separators : List Char := [' ', '\t', '\n', '\r', '\x0c']

theorem isSkipped_iff {c : Char} : isSkipped c = true ↔ c ∈ separators := by
  simp [isSkipped, separators, or_assoc]

/-- The separators, and the character that starts a flag. -/
def stops : List Char := separators ++ ['!']

theorem isNameChar_of_mem_stops {c : Char} (h : c ∈ stops) : isNameChar c = false := by
  have hAll : (stops.all fun c => !isNameChar c) = true := by decide
  exact (Bool.not_eq_true' _).mp (List.all_eq_true.mp hAll c h)

/-- No token but the quoted texts has separators in it, and a flag has its mark only in front. -/
theorem plain_of_matches (hk : k.quote? = none) (h : Matches k.pattern s) :
    (∀ c ∈ separators, c ∉ s) ∧ '!' ∉ s.tail := by
  have hHex {marks : List Char} (hChar : (char '#').avoids marks = true)
      (hDigit : (one isHexDigit).avoids marks = true) :
      TokenKind.hexColor.pattern.avoids marks = true :=
    (Bool.and_eq_true _ _).mpr ⟨hChar, avoids_repeated hDigit 3 5⟩
  constructor
  · refine not_mem_of_avoids h ?_
    cases k with
    | hexColor => exact hHex (by decide) (by decide)
    | _ => revert hk; decide
  by_cases hImportant : k = .important
  · subst hImportant
    rw [matches_literal_iff.mp h]
    decide
  · have hMark : k.pattern.avoids ['!'] = true := by
      cases k with
      | hexColor => exact hHex (by decide) (by decide)
      | _ => revert hk hImportant; decide
    exact fun hMem => not_mem_of_avoids h hMark '!' (List.mem_singleton_self _)
      (List.mem_of_mem_tail hMem)

theorem isSkipped_head {c : Char} (h : Matches k.pattern (c :: s)) : isSkipped c = false := by
  rw [← Bool.not_eq_true, isSkipped_iff]
  intro hMem
  cases hk : k.quote? with
  | none => exact (plain_of_matches hk h).1 c hMem List.mem_cons_self
  | some q =>
    obtain ⟨inside, -, hEq⟩ := (TokenKind.matches_of_quote hk).mp h
    rw [(List.cons.inj hEq).1] at hMem
    cases k <;> cases hk <;> exact absurd hMem (by decide)

/-! ## In front of a stop -/

/-- The text is empty or starts with a stop. -/
def Parted (rest : List Char) : Prop := ∀ c ∈ rest.head?, c ∈ stops

/-- Behind the text of a token, no match goes on over a stop, even if there is more in front of the
stop. -/
theorem length_le_of_parted (hText : Matches k.pattern text) (hParted : Parted rest)
    (hp : p <+: text ++ w ++ rest) (hMatch : Matches j.pattern p) :
    p.length ≤ (text ++ w).length := by
  by_contra hLonger
  have hBegins : text ++ w <+: p :=
    List.prefix_of_prefix_length_le (List.prefix_append (text ++ w) rest) hp (by omega)
  obtain ⟨_ | ⟨c, more⟩, rfl⟩ := hBegins
  · simp at hLonger
  have hStop : c ∈ stops := by
    obtain ⟨others, hRest⟩ := (List.prefix_append_right_inj (text ++ w)).mp hp
    exact hParted c (by rw [← hRest]; rfl)
  obtain ⟨d, t, rfl⟩ := List.exists_cons_of_ne_nil (matches_ne_nil hText)
  cases hj : j.quote? with
  | none =>
    obtain ⟨hSeparators, hMark⟩ := plain_of_matches hj hMatch
    have hMem : c ∈ t ++ w ++ c :: more := List.mem_append_right _ List.mem_cons_self
    rcases List.mem_append.mp hStop with hSeparator | hFlag
    · exact hSeparators c hSeparator (List.mem_cons_of_mem d hMem)
    · exact hMark (List.mem_singleton.mp hFlag ▸ hMem)
  | some q =>
    -- both are quoted texts, and end at the first place where the quote comes again
    obtain ⟨inside, hNot, hEq⟩ := (TokenKind.matches_of_quote hj).mp hMatch
    obtain ⟨rfl, hInside⟩ := List.cons.inj hEq
    obtain rfl := TokenKind.eq_of_head (TokenKind.mark?_of_quote hj) rfl hText
    obtain ⟨inside', hNot', hEq'⟩ := (TokenKind.matches_of_quote hj).mp hText
    obtain ⟨-, rfl⟩ := List.cons.inj hEq'
    have hCut := cutAt_append hNot' (w ++ c :: more)
    have hSame : inside' ++ d :: (w ++ c :: more) = inside ++ [d] := by
      rw [← hInside]
      simp
    rw [hSame, cutAt_append hNot []] at hCut
    simp at hCut

/-! ## One token -/

theorem hyphenRun_append (hs : s ≠ []) (hParted : Parted rest) :
    hyphenRun (s ++ rest) = hyphenRun s := by
  obtain ⟨c, t, rfl⟩ := List.exists_cons_of_ne_nil hs
  have hTake : rest.takeWhile isNameChar = [] := by
    cases rest with
    | nil => rfl
    | cons d ds => simp [isNameChar_of_mem_stops (hParted d rfl)]
  have hRun : (t ++ rest).takeWhile isNameChar = t.takeWhile isNameChar := by
    rw [List.takeWhile_append, hTake, List.append_nil]
    split
    · rename_i hAll
      exact ((List.takeWhile_prefix isNameChar).eq_of_length hAll).symm
    · rfl
  by_cases hHyphen : c = '-'
  · subst hHyphen
    rw [List.cons_append, hyphenRun, hyphenRun, hRun]
  · simp [hyphenRun, hHyphen]

theorem length_hyphenRun_le (s : List Char) : (hyphenRun s).length ≤ s.length := by
  unfold hyphenRun
  split
  · exact Nat.succ_le_succ (List.takeWhile_prefix isNameChar).length_le
  · exact Nat.zero_le _

/-- A token is read from its text if no match goes on over the end of it. -/
theorem scan_of_longest (hText : Matches k.pattern text)
    (hLongest : ∀ (j : TokenKind) (p : List Char), p <+: text ++ rest → Matches j.pattern p →
      p.length ≤ text.length)
    (hRun : (hyphenRun (text ++ rest)).length ≤ text.length) :
    scan (text ++ rest) = .token k text.length := by
  have hTake : Matches k.pattern ((text ++ rest).take text.length) := by rwa [List.take_left]
  obtain ⟨j, n, hPick, hLe⟩ := pick_max (by simp) hTake
  obtain ⟨hFits, hMatch⟩ := pick_matches hPick
  have hLength : n ≤ text.length := by
    rw [← List.length_take_of_le hFits]
    exact hLongest j _ (List.take_prefix n _) hMatch
  obtain rfl : n = text.length := Nat.le_antisymm hLength hLe
  rw [List.take_left] at hMatch
  obtain rfl := TokenKind.eq_of_matches hMatch hText
  obtain ⟨c, t, rfl⟩ := List.exists_cons_of_ne_nil (matches_ne_nil hText)
  have hNe : c :: t ++ rest ≠ [] := List.cons_ne_nil c (t ++ rest)
  rw [scan, if_neg hNe, hPick]
  exact if_neg (Nat.not_lt.mpr hRun)

/-- In front of a stop, a token is read from its own text. -/
theorem scan_parted (hText : Matches k.pattern text) (hParted : Parted rest) :
    scan (text ++ rest) = .token k text.length := by
  refine scan_of_longest hText (fun j p hp hMatch => ?_) ?_
  · have hLe := length_le_of_parted (w := []) hText hParted (by simpa using hp) hMatch
    simpa using hLe
  · rw [hyphenRun_append (matches_ne_nil hText) hParted]
    exact length_hyphenRun_le text

/-! ## A whole text -/

/-- The text is read as tokens with gaps around them. -/
inductive Scans : List Char → List Token → Prop
  | gap {w : List Char} (hGap : Gap w) : Scans w []
  | token {w next : List Char} {t : Token} {ts : List Token} (hGap : Gap w)
      (hScan : scan (t.text ++ next) = .token t.kind t.text.length) (hNext : Scans next ts) :
      Scans (w ++ (t.text ++ next)) (t :: ts)

theorem matches_of_scan (h : scan cs = .token k n) :
    n ≤ cs.length ∧ Matches k.pattern (cs.take n) := by
  unfold scan at h
  split at h
  · cases h
  · split at h
    · rename_i hPick
      split at h
      · cases h
      · cases h
        exact pick_matches hPick
    · cases h

theorem matches_text_of_scan (h : scan (text ++ rest) = .token k text.length) :
    Matches k.pattern text := by
  have hText := (matches_of_scan h).2
  rwa [List.take_left] at hText

theorem length_hyphenRun_le_of_scan (h : scan cs = .token k n) : (hyphenRun cs).length ≤ n := by
  unfold scan at h
  split at h
  · cases h
  · split at h
    · split at h
      · cases h
      · rename_i hRun
        cases h
        exact Nat.not_lt.mp hRun
    · cases h

/-- A token that is read is also read if a stop follows later on. -/
theorem scan_append (h : scan (text ++ w) = .token k text.length) (hParted : Parted rest) :
    scan (text ++ (w ++ rest)) = .token k text.length := by
  have hText := matches_text_of_scan h
  have hSpec := scan_spec (text ++ w)
  rw [h] at hSpec
  refine scan_of_longest hText (fun j p hp hMatch => ?_) ?_
  · rw [← List.append_assoc] at hp
    have hLe := length_le_of_parted hText hParted hp hMatch
    have hWithin := List.prefix_of_prefix_length_le hp (List.prefix_append (text ++ w) rest) hLe
    simpa using hSpec.longest j p hWithin hMatch
  · have hNe : text ++ w ≠ [] := List.append_ne_nil_of_left_ne_nil (matches_ne_nil hText) w
    rw [← List.append_assoc, hyphenRun_append hNe hParted]
    exact length_hyphenRun_le_of_scan h

theorem Scans.after_gap (h : Scans cs ts) (hGap : Gap w) : Scans (w ++ cs) ts := by
  cases h with
  | gap hGap' => exact .gap (List.forall_mem_append.mpr ⟨hGap, hGap'⟩)
  | token hGap' hScan hNext =>
    rw [← List.append_assoc]
    exact .token (List.forall_mem_append.mpr ⟨hGap, hGap'⟩) hScan hNext

/-- Two texts one after the other are read as their tokens one after the other, if the second one
starts with a stop. -/
theorem Scans.append (h : Scans cs ts) (hParted : Parted rest) (hRest : Scans rest us) :
    Scans (cs ++ rest) (ts ++ us) := by
  induction h with
  | gap hGap => exact hRest.after_gap hGap
  | token hGap hScan _ ih =>
    rw [List.append_assoc, List.append_assoc]
    exact .token hGap (scan_append hScan hParted) ih

theorem Scans.fits (h : Scans cs ts) : ∀ t ∈ ts, Matches t.kind.pattern t.text := by
  induction h with
  | gap _ => exact List.forall_mem_nil _
  | token _ hScan _ ih => exact List.forall_mem_cons.mpr ⟨matches_text_of_scan hScan, ih⟩

theorem scans_of_tokensFrom {position : Nat} (h : tokensFrom position cs = .ok ts) :
    Scans cs ts := by
  have hCut (cs : List Char) : cs.takeWhile isSkipped ++ cs.dropWhile isSkipped = cs :=
    List.takeWhile_append_dropWhile
  fun_induction tokensFrom position cs generalizing ts with
  | case1 position cs rest =>
    rename_i hScan
    have hRest := scan_spec rest
    rw [hScan] at hRest
    cases h
    exact .gap (dropWhile_eq_nil.mp hRest)
  | case2 => cases h
  | case3 position cs rest start k n hScan text _ =>
    rename_i ih
    cases hNext : tokensFrom (start + byteLength text) (rest.drop n) with
    | error f => rw [hNext] at h; cases h
    | ok others =>
      rw [hNext] at h
      cases h
      have hLength : text.length = n := List.length_take_of_le (matches_of_scan hScan).1
      have hRest : text ++ rest.drop n = rest := List.take_append_drop n rest
      have hToken : scan (text ++ rest.drop n) = .token k text.length := by
        rw [hRest, hLength, hScan]
      have hGap : Gap (cs.takeWhile isSkipped) := fun _ hc => List.mem_takeWhile_imp hc
      have hScans := Scans.token (t := ⟨k, text⟩) hGap hToken (ih hNext)
      rwa [hRest, hCut] at hScans

theorem tokensFrom_of_gap (hGap : Gap cs) (position : Nat) : tokensFrom position cs = .ok [] := by
  have hNil : cs.dropWhile isSkipped = [] := dropWhile_eq_nil.mpr hGap
  have hEnd : scan (cs.dropWhile isSkipped) = .finished := by rw [hNil]; rfl
  rw [tokensFrom]
  split <;> rename_i hScan <;> rw [hEnd] at hScan <;> cases hScan

theorem tokensFrom_of_token (h : scan (cs.dropWhile isSkipped) = .token k n) (position : Nat) :
    ∃ next, tokensFrom position cs = (tokensFrom next ((cs.dropWhile isSkipped).drop n)).map
      (⟨k, (cs.dropWhile isSkipped).take n⟩ :: ·) := by
  rw [tokensFrom]
  split <;> rename_i hScan <;> rw [h] at hScan <;> cases hScan
  exact ⟨_, rfl⟩

theorem Scans.tokensFrom_eq (h : Scans cs ts) (position : Nat) :
    tokensFrom position cs = .ok ts := by
  induction h generalizing position with
  | gap hGap => exact tokensFrom_of_gap hGap position
  | @token w next t ts hGap hToken _ ih =>
    have hText := matches_text_of_scan hToken
    have hDrop : (w ++ (t.text ++ next)).dropWhile isSkipped = t.text ++ next := by
      rw [List.dropWhile_append_of_pos hGap]
      refine dropWhile_eq_self_of_head fun c hc => ?_
      obtain ⟨d, s, hCons⟩ := List.exists_cons_of_ne_nil (matches_ne_nil hText)
      rw [hCons] at hText hc
      cases hc
      exact isSkipped_head hText
    obtain ⟨position', hRead⟩ := tokensFrom_of_token (hDrop.symm ▸ hToken) position
    rw [hDrop, List.take_left, List.drop_left, ih] at hRead
    exact hRead

theorem tokens_eq_ok_iff : tokens cs = .ok ts ↔ Scans cs ts :=
  ⟨scans_of_tokensFrom, fun h => h.tokensFrom_eq 0⟩

theorem scans_spaced (h : ∀ t ∈ ts, Matches t.kind.pattern t.text) {w : List Char} (hGap : Gap w) :
    Scans (w ++ [' '].intercalate (ts.map Token.text)) ts := by
  have hSpace : Gap [' '] := List.forall_mem_singleton.mpr rfl
  induction ts generalizing w with
  | nil => 
    rw [List.map_nil, List.intercalate_nil, List.append_nil]
    exact .gap hGap
  | cons t ts ih =>
    obtain ⟨ht, hts⟩ := List.forall_mem_cons.mp h
    cases ts with
    | nil =>
      have hEnd : Parted [] := fun _ hc => nomatch hc
      rw [List.map_singleton, List.intercalate_singleton, ← List.append_nil t.text]
      exact .token hGap (scan_parted ht hEnd) (.gap (List.forall_mem_nil _))
    | cons u us =>
      have hParted : Parted ([' '] ++ [' '].intercalate ((u :: us).map Token.text)) := by
        rintro c ⟨⟩
        decide
      rw [List.map_cons, List.map_cons, List.intercalate_cons_cons, ← List.map_cons]
      rw [List.append_assoc]
      exact .token hGap (scan_parted ht hParted) (ih hts hSpace)

/-- The texts of the tokens that were read, with single spaces between them, are read as the same
tokens. -/
theorem tokens_respaced (h : tokens cs = .ok ts) :
    tokens ([' '].intercalate (ts.map Token.text)) = .ok ts := by
  rw [tokens_eq_ok_iff] at h ⊢
  exact scans_spaced h.fits (List.forall_mem_nil _)

/-- Tokens that stand next to each other, and a quoted text with spaces in it. -/
theorem tokens_respaced_url :
    let ts : List Token := [⟨.dimension, "-2.5em".toList⟩, ⟨.important, "!important".toList⟩,
      ⟨.function, "url(".toList⟩, ⟨.doubleQuoted, "\"a  b\"".toList⟩, ⟨.close, [')']⟩,
      ⟨.slash, ['/']⟩]
    tokens "-2.5em!important url(\"a  b\")/".toList = .ok ts ∧
      tokens ([' '].intercalate (ts.map Token.text)) = .ok ts := by
  intro ts
  have hTokens : tokens "-2.5em!important url(\"a  b\")/".toList = .ok ts := by decide +kernel
  exact ⟨hTokens, tokens_respaced hTokens⟩

end AnchoredUi.Style
