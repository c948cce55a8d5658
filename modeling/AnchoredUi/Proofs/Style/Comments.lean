import AnchoredUi.Proofs.Style.Rendering

/-!
# Comments

Dropping the comments of a text looks for the marks of comments one after the other, each behind the
one before. Marks may share a character with what stands around them: a slash in front of a mark
that opens a comment, a star in front of one that closes it, or both marks together in `/*/`, which
opens a comment and does not close it. None of these shifts a mark. A mark that opens a comment
ends in a character with which it does not begin, and so does one that closes it; so the first place
of a mark behind a text in which it does not occur is the end of that text. And a space is no part
of a mark, so no mark comes up where a comment was.

The block of a rule and a `style` attribute are cut into declarations alike, but only a sheet is
freed of its comments before that. So the block of a rule says what its text says with a space in
place of each comment, and a `style` attribute with the same text says something else as soon as a
comment stands next to a name or a value: the comment becomes a part of it. The two agree where
every comment stands alone between semicolons.

* `withoutComments_append`: where no comment is open, a text can be cut before its comments are
  dropped.
* `Sheet.commentLaws_withoutComments`: what dropping comments does to every text.
* `Sheet.CommentLaws.eq_withoutComments`: nothing else does the same.
* `Declarations.ofChars_withoutComments`: comments that stand alone declare nothing.
* `Sheet.entries_parse_block`: what the block of a rule says, and when an attribute agrees.
* `Sheet.not_entries_parse_block`: an attribute that does not.
-/

namespace AnchoredUi.Text

variable {piece cs a b : List Char}

/-- A cut that is made in a text is made in it also where more text follows. -/
theorem breakOn_append (hPiece : piece ≠ []) (h : breakOn piece cs = some (a, b))
    (rest : List Char) : breakOn piece (cs ++ rest) = some (a, b ++ rest) := by
  induction cs generalizing a b with
  | nil => simp [breakOn, hPiece] at h
  | cons c cs ih =>
    rw [breakOn] at h
    rw [List.cons_append, breakOn]
    split at h
    · rename_i hHere
      rw [List.isPrefixOf_iff_prefix] at hHere
      cases h
      have hThere : piece.isPrefixOf (c :: (cs ++ rest)) = true :=
        List.isPrefixOf_iff_prefix.mpr (hHere.trans (List.prefix_append (c :: cs) rest))
      rw [if_pos hThere, ← List.cons_append, List.drop_append_of_le_length hHere.length_le]
    · rename_i hNot
      rw [List.isPrefixOf_iff_prefix] at hNot
      obtain ⟨⟨x, y⟩, hRest, hEq⟩ := Option.map_eq_some_iff.mp h
      cases hEq
      have hShort : piece.length ≤ (c :: cs).length := by
        rw [append_of_breakOn hRest]
        simp only [List.length_cons, List.length_append]
        omega
      have hNowhere : ¬ piece.isPrefixOf (c :: (cs ++ rest)) = true := by
        rw [List.isPrefixOf_iff_prefix]
        exact fun hThere => hNot
          (List.prefix_of_prefix_length_le hThere (List.prefix_append (c :: cs) rest) hShort)
      rw [if_neg hNowhere, ih hRest]
      rfl

end AnchoredUi.Text

namespace AnchoredUi.Style

open Markup Text

variable {cs rest front inside body : List Char} {c : Char}

namespace Sheet

/-! ## Dropping comments -/

/-- Behind each mark that opens a comment there is one that closes it. -/
def Closed (cs : List Char) : Prop := ∀ t, commentOpen ++ t <:+ cs → commentClose <:+: t

theorem Closed.suffix (h : Closed cs) (hRest : rest <:+ cs) : Closed rest :=
  fun t ht => h t (ht.trans hRest)

theorem closed_iff : Closed cs ↔
    ∀ t ∈ cs.tails, commentOpen <+: t → commentClose <:+: t.drop commentOpen.length := by
  simp only [List.mem_tails]
  constructor
  · rintro h _ ht ⟨t, rfl⟩
    exact h t ht
  · exact fun h t ht => h _ ht (List.prefix_append _ t)

instance (cs : List Char) : Decidable (Closed cs) := decidable_of_iff _ closed_iff.symm

theorem withoutComments_of_breakOn {dropped : List Char}
    (hOpen : breakOn commentOpen cs = some (front, inside))
    (hClose : breakOn commentClose inside = some (dropped, rest)) :
    withoutComments cs = front ++ ' ' :: withoutComments rest := by
  rw [withoutComments]
  split
  · rename_i hNone
    rw [hOpen] at hNone
    cases hNone
  · rename_i hSome
    rw [hOpen] at hSome
    cases hSome
    split
    · rename_i hNone
      rw [hClose] at hNone
      cases hNone
    · rename_i hSome
      rw [hClose] at hSome
      cases hSome
      rfl

theorem withoutComments_of_open (hOpen : breakOn commentOpen cs = some (front, inside))
    (hClose : breakOn commentClose inside = none) : withoutComments cs = front ++ [' '] := by
  rw [withoutComments]
  split
  · rename_i hNone
    rw [hOpen] at hNone
    cases hNone
  · rename_i hSome
    rw [hOpen] at hSome
    cases hSome
    split
    · rfl
    · rename_i hSome
      rw [hClose] at hSome
      cases hSome

/-- A character with which no comment begins stays in front. -/
theorem withoutComments_cons (h : ¬ commentOpen <+: c :: cs) :
    withoutComments (c :: cs) = c :: withoutComments cs := by
  have hCut : breakOn commentOpen (c :: cs) =
      (breakOn commentOpen cs).map fun r => (c :: r.1, r.2) := by
    rw [breakOn, if_neg (by rwa [List.isPrefixOf_iff_prefix])]
  cases hOpen : breakOn commentOpen cs with
  | none =>
    have hNone : breakOn commentOpen (c :: cs) = none := by rw [hCut, hOpen]; rfl
    rw [withoutComments_eq_self (uncommented_iff.mpr hNone),
      withoutComments_eq_self (uncommented_iff.mpr hOpen)]
  | some cut =>
    obtain ⟨front, inside⟩ := cut
    have hSome : breakOn commentOpen (c :: cs) = some (c :: front, inside) := by
      rw [hCut, hOpen]
      rfl
    cases hClose : breakOn commentClose inside with
    | none => rw [withoutComments_of_open hSome hClose, withoutComments_of_open hOpen hClose]; rfl
    | some rest =>
      rw [withoutComments_of_breakOn hSome hClose, withoutComments_of_breakOn hOpen hClose]
      rfl

theorem withoutComments_cons_of_ne (h : c ≠ '/') :
    withoutComments (c :: cs) = c :: withoutComments cs :=
  withoutComments_cons fun hOpen => h (List.cons_prefix_cons.mp hOpen).1.symm

theorem withoutComments_append_of_not_mem (h : '/' ∉ front) (cs : List Char) :
    withoutComments (front ++ cs) = front ++ withoutComments cs := by
  induction front with
  | nil => rfl
  | cons c front ih =>
    obtain ⟨hc, hFront⟩ := not_or.mp (List.mem_cons.not.mp h)
    rw [List.cons_append, withoutComments_cons_of_ne (Ne.symm hc), ih hFront, List.cons_append]

/-- A comment neither goes on over the end of a text in which all comments are closed, nor begins
there. -/
theorem withoutComments_append (h : Closed cs) (hc : c ≠ '*') (rest : List Char) :
    withoutComments (cs ++ c :: rest) = withoutComments cs ++ withoutComments (c :: rest) := by
  have hNeOpen : commentOpen ≠ [] := by decide
  have hNeClose : commentClose ≠ [] := by decide
  fun_induction withoutComments cs with
  | case1 cs hNone =>
    have hFree := uncommented_iff.mpr hNone
    clear h hNone
    induction cs with
    | nil => rfl
    | cons d ds ih =>
      have hNot : ¬ commentOpen <+: d :: (ds ++ c :: rest) := by
        intro hOpen
        cases ds with
        | nil => exact hc (List.cons_prefix_cons.mp (List.cons_prefix_cons.mp hOpen).2).1.symm
        | cons e es =>
          obtain ⟨hSlash, hOpen⟩ := List.cons_prefix_cons.mp hOpen
          exact (List.isChain_cons_cons.mp hFree).1
            ⟨hSlash.symm, (List.cons_prefix_cons.mp hOpen).1.symm⟩
      rw [List.cons_append, withoutComments_cons hNot,
        ih (hFree.part (List.suffix_cons d ds).isInfix)]
      rfl
  | case2 cs front inside hOpen hNone =>
    have hCut := append_of_breakOn hOpen
    have hClose := h inside ⟨front, by rw [hCut, List.append_assoc]⟩
    exact absurd hClose (breakOn_eq_none_iff.mp hNone)
  | case3 cs front inside hOpen dropped behind hClose _ ih =>
    have hSuffix : behind <:+ cs := by
      rw [append_of_breakOn hOpen, append_of_breakOn hClose]
      exact (List.suffix_append _ behind).trans (List.suffix_append _ _)
    rw [withoutComments_of_breakOn (breakOn_append hNeOpen hOpen _)
      (breakOn_append hNeClose hClose _), ih (h.suffix hSuffix), List.append_assoc,
      List.cons_append]

theorem mem_of_mem_withoutComments (h : c ∈ withoutComments cs) : c = ' ' ∨ c ∈ cs := by
  fun_induction withoutComments cs with
  | case1 cs _ => exact Or.inr h
  | case2 cs front inside hOpen _ =>
    rw [append_of_breakOn hOpen]
    rcases List.mem_append.mp h with hFront | hSpace
    · exact Or.inr (by simp [hFront])
    · exact Or.inl (List.mem_singleton.mp hSpace)
  | case3 cs front inside hOpen dropped behind hClose _ ih =>
    rw [append_of_breakOn hOpen, append_of_breakOn hClose]
    rcases List.mem_append.mp h with hFront | hRest
    · exact Or.inr (by simp [hFront])
    · rcases List.mem_cons.mp hRest with hSpace | hBehind
      · exact Or.inl hSpace
      · exact (ih hBehind).imp_right fun hMem => by simp [hMem]

/-! ### The laws of dropping comments -/

/-- The cut at a mark that opens a comment, behind a text in which none does. -/
theorem breakOn_commentOpen (h : ¬ commentOpen <:+: front) (rest : List Char) :
    breakOn commentOpen (front ++ commentOpen ++ rest) = some (front, rest) :=
  breakOn_of_mark (show '*' ∉ ['/'] by decide) h rest

/-- The cut at a mark that closes a comment, behind a text in which none does. -/
theorem breakOn_commentClose (h : ¬ commentClose <:+: inside) (rest : List Char) :
    breakOn commentClose (inside ++ commentClose ++ rest) = some (inside, rest) :=
  breakOn_of_mark (show '/' ∉ ['*'] by decide) h rest

/-- What is in front of the first comment stays, a space stands for the comment, and the text behind
it is freed of its comments alone. -/
theorem withoutComments_closed (hFront : ¬ commentOpen <:+: front)
    (hInside : ¬ commentClose <:+: inside) (rest : List Char) :
    withoutComments (front ++ commentOpen ++ inside ++ commentClose ++ rest) =
      front ++ ' ' :: withoutComments rest := by
  have hText : front ++ commentOpen ++ inside ++ commentClose ++ rest =
      front ++ commentOpen ++ (inside ++ commentClose ++ rest) := by
    simp only [List.append_assoc]
  rw [hText]
  exact withoutComments_of_breakOn (breakOn_commentOpen hFront _)
    (breakOn_commentClose hInside rest)

/-- A comment that is not closed reaches to the end. -/
theorem withoutComments_unclosed (hFront : ¬ commentOpen <:+: front)
    (hInside : ¬ commentClose <:+: inside) :
    withoutComments (front ++ commentOpen ++ inside) = front ++ [' '] :=
  withoutComments_of_open (breakOn_commentOpen hFront inside) (breakOn_eq_none_iff.mpr hInside)

theorem not_commentOpen_infix_iff : ¬ commentOpen <:+: cs ↔ Uncommented cs :=
  breakOn_eq_none_iff.symm.trans uncommented_iff.symm

/-- What a function does that drops the comments of texts. -/
structure CommentLaws (strip : List Char → List Char) : Prop where
  uncommented : ∀ cs, ¬ commentOpen <:+: strip cs
  eq_self_iff : ∀ cs, strip cs = cs ↔ ¬ commentOpen <:+: cs
  idempotent : ∀ cs, strip (strip cs) = strip cs
  closed : ∀ a c b, ¬ commentOpen <:+: a → ¬ commentClose <:+: c →
    strip (a ++ commentOpen ++ c ++ commentClose ++ b) = a ++ ' ' :: strip b
  unclosed : ∀ a c, ¬ commentOpen <:+: a → ¬ commentClose <:+: c →
    strip (a ++ commentOpen ++ c) = a ++ [' ']

theorem commentLaws_withoutComments : CommentLaws withoutComments := by
  have hFree : ∀ cs, ¬ commentOpen <:+: withoutComments cs := fun cs =>
    not_commentOpen_infix_iff.mpr (uncommented_withoutComments cs)
  have hSame : ∀ cs, ¬ commentOpen <:+: cs → withoutComments cs = cs := fun cs h =>
    withoutComments_eq_self (not_commentOpen_infix_iff.mp h)
  refine ⟨hFree, fun cs => ⟨fun hEq => ?_, hSame cs⟩, fun cs => ?_, fun a c b ha hc => ?_,
    fun a c ha hc => ?_⟩
  · rw [← hEq]
    exact hFree cs
  · exact hSame _ (hFree cs)
  · exact withoutComments_closed ha hc b
  · exact withoutComments_unclosed ha hc

/-- The laws leave no choice: each text is free of comments, or has a first one. -/
theorem CommentLaws.eq_withoutComments {strip : List Char → List Char} (h : CommentLaws strip) :
    strip = withoutComments := by
  funext cs
  fun_induction withoutComments cs with
  | case1 cs hNone => exact (h.eq_self_iff cs).mpr (breakOn_eq_none_iff.mp hNone)
  | case2 cs front inside hOpen hNone =>
    rw [append_of_breakOn hOpen]
    exact h.unclosed front inside (not_infix_of_breakOn (by decide) hOpen)
      (breakOn_eq_none_iff.mp hNone)
  | case3 cs front inside hOpen dropped rest hClose _ ih =>
    have hText : cs = front ++ commentOpen ++ dropped ++ commentClose ++ rest := by
      rw [append_of_breakOn hOpen, append_of_breakOn hClose]
      simp only [List.append_assoc]
    rw [hText, ← ih]
    exact h.closed front dropped rest (not_infix_of_breakOn (by decide) hOpen)
      (not_infix_of_breakOn (by decide) hClose)

/-- Marks that share characters with each other and with what stands around them. -/
example : withoutComments "//*/ x **/*".toList = "/ *".toList := by cbv

/-- A sheet does not change when the comments of its text are dropped. -/
theorem parse_withoutComments (text : String) :
    parse (String.ofList (withoutComments text.toList)) = parse text := by
  rw [parse, parse, String.toList_ofList, withoutComments_eq_self (uncommented_withoutComments _)]

end Sheet

/-! ## Comments between declarations -/

open Sheet

instance (cs : List Char) : Decidable (Uncommented cs) :=
  inferInstanceAs (Decidable (cs.IsChain _))

theorem Uncommented.closed (h : Uncommented cs) : Closed cs := by
  rintro t ⟨s, hs⟩
  refine absurd ⟨s, t, ?_⟩ (breakOn_eq_none_iff.mp (uncommented_iff.mp h))
  rw [List.append_assoc, hs]

theorem pieces_withoutComments (h : ∀ piece ∈ pieces ';' cs, Closed piece) :
    pieces ';' (withoutComments cs) = (pieces ';' cs).map withoutComments := by
  have hNot : ∀ ds : List Char, ';' ∉ ds → ';' ∉ withoutComments ds := fun ds hds hMem =>
    (mem_of_mem_withoutComments hMem).elim (by decide) hds
  induction hn : cs.length using Nat.strongRecOn generalizing cs with
  | ind n ih =>
    cases hCut : cutAt ';' cs with
    | none =>
      have hNone := cutAt_eq_none_iff.mp hCut
      rw [pieces_of_not_mem hNone, pieces_of_not_mem (hNot cs hNone), List.map_singleton]
    | some cut =>
      obtain ⟨front, back⟩ := cut
      obtain ⟨hText, hFront⟩ := append_of_cutAt hCut
      have hPieces := pieces_append hFront back
      rw [hText, hPieces] at h
      obtain ⟨hClosed, hRest⟩ := List.forall_mem_cons.mp h
      have hShort : back.length < n := hn ▸ length_lt_of_cutAt hCut
      rw [hText, hPieces, withoutComments_append hClosed (by decide),
        withoutComments_cons_of_ne (by decide), pieces_append (hNot front hFront),
        ih _ hShort hRest rfl, List.map_cons]

theorem Declarations.ofPiece?_eq_none (h : ':' ∉ cs) : ofPiece? cs = none := by
  rw [ofPiece?, cutAt_eq_none_iff.mpr h]

/-- Comments that stand alone between semicolons declare nothing, and neither do the spaces in place
of them. -/
theorem Declarations.ofChars_withoutComments
    (h : ∀ piece ∈ pieces ';' cs, Uncommented piece ∨ Closed piece ∧ ':' ∉ piece) :
    ofChars (withoutComments cs) = ofChars cs := by
  have hClosed : ∀ piece ∈ pieces ';' cs, Closed piece := fun piece hMem =>
    (h piece hMem).elim Uncommented.closed And.left
  have hSame : ∀ piece ∈ pieces ';' cs, (ofPiece? ∘ withoutComments) piece = ofPiece? piece := by
    intro piece hMem
    rcases h piece hMem with hFree | ⟨-, hColon⟩
    · exact congrArg ofPiece? (withoutComments_eq_self hFree)
    · have hColon' : ':' ∉ withoutComments piece := fun hMem =>
        (mem_of_mem_withoutComments hMem).elim (by decide) hColon
      exact (ofPiece?_eq_none hColon').trans (ofPiece?_eq_none hColon).symm
  rw [ofChars, ofChars, pieces_withoutComments hClosed, List.filterMap_map,
    List.filterMap_congr hSame]

/-! ## A single rule -/

namespace Sheet

theorem withoutComments_block (h : Closed body) :
    withoutComments (".x \x7b".toList ++ body ++ ['\x7d']) =
      ".x ".toList ++ '\x7b' :: (withoutComments body ++ ['\x7d']) := by
  have hEnd : withoutComments ['\x7d'] = ['\x7d'] :=
    withoutComments_eq_self (List.isChain_singleton _)
  rw [List.append_assoc, withoutComments_append_of_not_mem (by decide),
    withoutComments_append h (by decide), hEnd]
  rfl

/-- The rule of a single block declares what the block says with a space in place of each
comment. -/
theorem entries_parse {text : String} (hBrace : '\x7d' ∉ text.toList)
    (hClosed : Closed text.toList) :
    (parse (".x \x7b" ++ text ++ "\x7d")).entries =
      [⟨".x", Declarations.ofChars (withoutComments text.toList)⟩] := by
  have hBody : '\x7d' ∉ withoutComments text.toList := fun hMem =>
    (mem_of_mem_withoutComments hMem).elim (by decide) hBrace
  have hBlocks : blocks (withoutComments (".x \x7b" ++ text ++ "\x7d").toList) =
      [(".x ".toList, withoutComments text.toList)] := by
    rw [String.toList_append, String.toList_append]
    have hText := withoutComments_block hClosed
    have hNone : blocks [] = [] := by
      rw [blocks]
      rfl
    rw [show "\x7d".toList = ['\x7d'] from rfl, hText, blocks_append (by decide) hBody, hNone]
  rw [parse, hBlocks]
  rfl

/-- A `style` attribute without comments, or with comments that stand alone between semicolons,
declares what the block of a rule with its text does. -/
theorem entries_parse_block {e : Element} {text : String} (hStyle : e.attr? "style" = some text)
    (hBrace : '\x7d' ∉ text.toList) (hClosed : Closed text.toList) :
    (parse (".x \x7b" ++ text ++ "\x7d")).entries =
        [⟨".x", Declarations.ofChars (withoutComments text.toList)⟩] ∧
      ((∀ piece ∈ pieces ';' text.toList, Uncommented piece ∨ Closed piece ∧ ':' ∉ piece) →
        (parse (".x \x7b" ++ text ++ "\x7d")).entries = [⟨".x", inlineStyle e⟩]) := by
  have hEntries := entries_parse hBrace hClosed
  refine ⟨hEntries, fun hPieces => ?_⟩
  rw [hEntries, Declarations.ofChars_withoutComments hPieces, inlineStyle, hStyle]
  rfl

/-- A comment that stands alone between two declarations. -/
theorem entries_parse_block_note :
    let text := "width: 10px; /* wide */; height: 5px"
    let e : Element := .mk "Label" none ⟨[⟨"style", text⟩]⟩ [] none
    (parse (".x \x7b" ++ text ++ "\x7d")).entries = [⟨".x", inlineStyle e⟩] := by
  intro text e
  have hPieces : ∀ piece ∈ pieces ';' text.toList,
      Uncommented piece ∨ Closed piece ∧ ':' ∉ piece := by
    decide +kernel
  exact (entries_parse_block (e := e) rfl (by decide) (by decide)).2 hPieces

/-- The attribute takes a comment in front of a name for a part of the name. -/
theorem not_entries_parse_block :
    ¬ ∀ (e : Element) (text : String), e.attr? "style" = some text →
      '\x7b' ∉ text.toList → '\x7d' ∉ text.toList → Closed text.toList →
      (parse (".x \x7b" ++ text ++ "\x7d")).entries = [⟨".x", inlineStyle e⟩] := by
  intro h
  let text := "/* wide */ width: 10px"
  let e : Element := .mk "Label" none ⟨[⟨"style", text⟩]⟩ [] none
  have hSame := h e text rfl (by decide) (by decide) (by decide)
  rw [entries_parse (by decide) (by decide)] at hSame
  have hDeclared := (Rule.mk.inj (List.cons.inj hSame).1).2
  revert hDeclared
  decide +kernel

end Sheet

end AnchoredUi.Style
