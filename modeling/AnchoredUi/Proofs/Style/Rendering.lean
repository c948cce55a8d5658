import AnchoredUi.Proofs.Catalog
import AnchoredUi.Proofs.Text.Cut
import AnchoredUi.Style.Sheet

/-!
# Printing a sheet

A sheet is printed rule by rule, each on a line of its own. Not every sheet can be read back from
that: a value with a semicolon would become two declarations, and a name with a capital letter
would lose it. But a sheet that was read from a text has no such parts. All its texts are trimmed
stretches between the marks that they were cut at, of a text without comments, and the catalogs
hold each selector and each property once. That is all that reading needs in order to cut at the
same places again.

* `tidy_parse`: a sheet that was read is tidy.
* `parse_render`: a tidy sheet is read back from its print.
* `parse_render_parse`: printing and reading a sheet that was read gives the same sheet.
-/

namespace AnchoredUi.Style

open Text

/-! ## The print -/

/-- A declaration with a semicolon and a space behind it. -/
def Declaration.print (d : Declaration) : List Char :=
  d.property.toList ++ [':', ' '] ++ d.value.toList ++ [';', ' ']

/-- A rule on a line of its own. -/
def Rule.print (r : Rule) : List Char :=
  r.selectorText.toList ++ [' ', '\x7b', ' '] ++
    r.declarations.entries.flatMap Declaration.print ++ ['\x7d', '\n']

/-- The text of a sheet: its rules in order. -/
def Sheet.render (s : Sheet) : String := String.ofList (s.entries.flatMap Rule.print)

/-! ## Tidy sheets -/

/-- Nowhere does a comment begin. -/
def Uncommented (cs : List Char) : Prop := cs.IsChain fun a b => ¬ (a = '/' ∧ b = '*')

/-- A trimmed text in which no comment begins. -/
structure TidyText (cs : List Char) : Prop where
  trimmed : trim cs = cs
  uncommented : Uncommented cs

/-- A declaration as it is read: the name is lowered, and neither part holds a mark at which
declarations are cut. -/
structure Declaration.Tidy (d : Declaration) : Prop where
  name : TidyText d.property.toList
  value : TidyText d.value.toList
  name_ne_nil : d.property.toList ≠ []
  lower_name : lower d.property.toList = d.property.toList
  colon : ':' ∉ d.property.toList
  semicolon : ';' ∉ d.property.toList ∧ ';' ∉ d.value.toList
  brace : '\x7d' ∉ d.property.toList ∧ '\x7d' ∉ d.value.toList

/-- Declarations as they are read. -/
structure Declarations.Tidy (ds : Declarations) : Prop where
  nodup : ds.keys.Nodup
  each : ∀ d ∈ ds.entries, d.Tidy

/-- A rule as it is read: a brace opens the block, so there is none in front of it. -/
structure Rule.Tidy (r : Rule) : Prop where
  selector : TidyText r.selectorText.toList
  selector_ne_nil : r.selectorText.toList ≠ []
  brace : '\x7b' ∉ r.selectorText.toList
  declarations : r.declarations.Tidy

/-- A sheet as it is read. -/
structure Sheet.Tidy (s : Sheet) : Prop where
  nodup : s.keys.Nodup
  each : ∀ r ∈ s.entries, r.Tidy

/-! ## Texts without comments -/

theorem Uncommented.part {cs part : List Char} (h : Uncommented cs) (hPart : part <:+: cs) :
    Uncommented part := List.IsChain.infix h hPart

theorem uncommented_iff {cs : List Char} : Uncommented cs ↔ breakOn Sheet.commentOpen cs = none :=
  not_pair_infix_iff.symm.trans breakOn_eq_none_iff.symm

/-- Any other character keeps the two characters that begin a comment apart. -/
theorem uncommented_append_cons {a b : List Char} {c : Char} (hSlash : c ≠ '/') (hStar : c ≠ '*') :
    Uncommented (a ++ c :: b) ↔ Uncommented a ∧ Uncommented b := by
  simp [Uncommented, List.isChain_append, List.isChain_cons, hSlash, hStar]

theorem uncommented_cons {cs : List Char} {c : Char} (hSlash : c ≠ '/') (hStar : c ≠ '*') :
    Uncommented (c :: cs) ↔ Uncommented cs := by
  simpa [Uncommented] using uncommented_append_cons (a := []) (b := cs) hSlash hStar

theorem uncommented_lower {cs : List Char} : Uncommented (lower cs) ↔ Uncommented cs := by
  have hSlash : ∀ c : Char, c.toLower = '/' ↔ c = '/' := fun c => toLower_eq_iff (by decide)
  have hStar : ∀ c : Char, c.toLower = '*' ↔ c = '*' := fun c => toLower_eq_iff (by decide)
  simp only [Uncommented, lower, List.isChain_map, hSlash, hStar]

/-- A space stands for each comment, so no comment begins where one was. -/
theorem uncommented_withoutComments (cs : List Char) : Uncommented (Sheet.withoutComments cs) := by
  have hFront : ∀ {cs front inside : List Char},
      breakOn Sheet.commentOpen cs = some (front, inside) → Uncommented front := fun h =>
    not_pair_infix_iff.mp (not_infix_of_breakOn (by decide) h)
  fun_induction Sheet.withoutComments cs with
  | case1 cs h => exact uncommented_iff.mpr h
  | case2 cs front inside h _ =>
    exact (uncommented_append_cons (by decide) (by decide)).mpr ⟨hFront h, List.isChain_nil⟩
  | case3 cs front inside h _ rest _ _ ih =>
    exact (uncommented_append_cons (by decide) (by decide)).mpr ⟨hFront h, ih⟩

theorem withoutComments_eq_self {cs : List Char} (h : Uncommented cs) :
    Sheet.withoutComments cs = cs := by
  rw [Sheet.withoutComments]
  split
  · rfl
  · rename_i hCut
    rw [uncommented_iff.mp h] at hCut
    cases hCut

/-! ## What is read is tidy -/

theorem tidyText_trim {cs : List Char} (h : Uncommented cs) : TidyText (trim cs) :=
  ⟨trimBy_trimBy isBlank cs, h.part (trimBy_isInfix isBlank cs)⟩

theorem TidyText.lower {cs : List Char} (h : TidyText cs) : TidyText (lower cs) :=
  ⟨by rw [trim_lower, h.trimmed], uncommented_lower.mpr h.uncommented⟩

theorem Declarations.tidy_of_ofPiece? {piece : List Char} {d : Declaration}
    (h : ofPiece? piece = some d) (hText : Uncommented piece) (hSemicolon : ';' ∉ piece)
    (hBrace : '\x7d' ∉ piece) : d.Tidy := by
  unfold ofPiece? at h
  split at h
  · cases h
  · rename_i name value hCut
    obtain ⟨hName, hValue⟩ := infix_of_cutAt hCut
    simp only [Option.ite_none_left_eq_some, Option.some.injEq] at h
    obtain ⟨hNe, rfl⟩ := h
    have hTrim := trimBy_isInfix isBlank name
    have hValueTrim := trimBy_isInfix isBlank value
    have hLower : ∀ c : Char, (c.toNat < 65 ∨ 122 < c.toNat) → c ∉ name → c ∉ lower (trim name) :=
      fun c hc hNot hMem => hNot (hTrim.mem ((mem_lower_iff hc).mp hMem))
    constructor <;> simp only [String.toList_ofList]
    · exact (tidyText_trim (hText.part hName)).lower
    · exact tidyText_trim (hText.part hValue)
    · simpa [Text.lower] using hNe
    · exact lower_lower _
    · exact hLower _ (by decide) (append_of_cutAt hCut).2
    · exact ⟨hLower _ (by decide) fun hMem => hSemicolon (hName.mem hMem),
        fun hMem => hSemicolon (hValue.mem (hValueTrim.mem hMem))⟩
    · exact ⟨hLower _ (by decide) fun hMem => hBrace (hName.mem hMem),
        fun hMem => hBrace (hValue.mem (hValueTrim.mem hMem))⟩

theorem Declarations.tidy_ofChars {block : List Char} (hText : Uncommented block)
    (hBrace : '\x7d' ∉ block) : (ofChars block).Tidy where
  nodup := Catalog.nodup_keys_ofList _
  each d hd := by
    obtain ⟨piece, hPiece, hOf⟩ := List.mem_filterMap.mp (Catalog.mem_of_mem_ofList hd)
    obtain ⟨hInfix, hSemicolon⟩ := infix_of_mem_pieces hPiece
    exact tidy_of_ofPiece? hOf (hText.part hInfix) hSemicolon fun hMem => hBrace (hInfix.mem hMem)

/-- Both parts of a block are stretches of the text without the brace that ends them. -/
theorem Sheet.infix_of_mem_blocks {cs front body : List Char} (h : (front, body) ∈ blocks cs) :
    front <:+: cs ∧ body <:+: cs ∧ '\x7b' ∉ front ∧ '\x7d' ∉ body := by
  fun_induction blocks cs with
  | case1 => cases h
  | case2 => cases h
  | case3 cs first inside hOpen inner rest hClose _ ih =>
    obtain ⟨hFirst, hInside⟩ := infix_of_cutAt hOpen
    obtain ⟨hInner, hRest⟩ := infix_of_cutAt hClose
    rcases List.mem_cons.mp h with hEq | hLater
    · cases hEq
      exact ⟨hFirst, hInner.trans hInside, (append_of_cutAt hOpen).2, (append_of_cutAt hClose).2⟩
    · obtain ⟨hFront, hBody, hNot⟩ := ih hLater
      exact ⟨hFront.trans (hRest.trans hInside), hBody.trans (hRest.trans hInside), hNot⟩

theorem Sheet.tidy_of_ofBlock? {cs : List Char} {block : List Char × List Char} {r : Rule}
    (hText : Uncommented cs) (hBlock : block ∈ blocks cs) (h : ofBlock? block = some r) :
    r.Tidy := by
  obtain ⟨hFront, hBody, hOpen, hClose⟩ := infix_of_mem_blocks hBlock
  simp only [ofBlock?, Option.ite_none_left_eq_some, Option.some.injEq] at h
  obtain ⟨hNe, rfl⟩ := h
  constructor <;> simp only [String.toList_ofList]
  · exact tidyText_trim (hText.part hFront)
  · exact hNe
  · exact fun hMem => hOpen ((trimBy_isInfix isBlank block.1).mem hMem)
  · exact Declarations.tidy_ofChars (hText.part hBody) hClose

/-- A sheet that was read is tidy. -/
theorem Sheet.tidy_parse (text : String) : (parse text).Tidy where
  nodup := Catalog.nodup_keys_ofList _
  each r hr := by
    obtain ⟨block, hBlock, hOf⟩ := List.mem_filterMap.mp (Catalog.mem_of_mem_ofList hr)
    exact tidy_of_ofBlock? (uncommented_withoutComments text.toList) hBlock hOf

/-! ## What is tidy is read back -/

/-- What a declaration is cut out of: its print without the semicolon, behind a space. -/
def Declaration.piece (d : Declaration) : List Char :=
  [' '] ++ d.property.toList ++ ':' :: ([' '] ++ d.value.toList)

theorem Declarations.ofPiece?_piece {d : Declaration} (h : d.Tidy) :
    ofPiece? d.piece = some d := by
  have hColon : ':' ∉ [' '] ++ d.property.toList := by simpa using h.colon
  have hSpace : ∀ c ∈ [' '], isBlank c = true := List.forall_mem_singleton.mpr rfl
  have hTrim : ∀ cs : List Char, trim ([' '] ++ cs) = trim cs := fun cs => by
    simpa [trim] using trimBy_between hSpace (b := []) (by simp) cs
  rw [ofPiece?, Declaration.piece, cutAt_append hColon]
  simp only [hTrim, h.name.trimmed, h.value.trimmed, h.name_ne_nil, if_false, h.lower_name,
    String.ofList_toList]

theorem Declarations.pieces_print {ds : List Declaration} (h : ∀ d ∈ ds, d.Tidy) :
    pieces ';' (' ' :: ds.flatMap Declaration.print) = ds.map Declaration.piece ++ [[' ']] := by
  induction ds with
  | nil => rfl
  | cons d ds ih =>
    have hd := h d List.mem_cons_self
    have hSemicolon : ';' ∉ d.piece := by
      simpa [Declaration.piece] using hd.semicolon
    have hCut : ' ' :: (d :: ds).flatMap Declaration.print =
        d.piece ++ ';' :: ' ' :: ds.flatMap Declaration.print := by
      simp [Declaration.print, Declaration.piece]
    rw [hCut, pieces_append hSemicolon, ih fun e he => h e (List.mem_cons_of_mem d he)]
    rfl

theorem Declarations.ofChars_print {ds : Declarations} (h : ds.Tidy) :
    ofChars (' ' :: ds.entries.flatMap Declaration.print) = ds := by
  have hRead : (ds.entries.map Declaration.piece).filterMap ofPiece? = ds.entries := by
    rw [List.filterMap_map]
    exact (List.filterMap_congr fun d hd => ofPiece?_piece (h.each d hd)).trans List.filterMap_some
  have hLast : [[' ']].filterMap ofPiece? = [] := rfl
  rw [ofChars, pieces_print h.each, List.filterMap_append, hRead, hLast, List.append_nil]
  exact Catalog.ofList_entries h.nodup

theorem Sheet.blocks_append {front body : List Char} (hFront : '\x7b' ∉ front)
    (hBody : '\x7d' ∉ body) (rest : List Char) :
    blocks (front ++ '\x7b' :: (body ++ '\x7d' :: rest)) = (front, body) :: blocks rest := by
  rw [blocks]
  split
  · rename_i hOpen
    rw [cutAt_append hFront] at hOpen
    cases hOpen
  · rename_i hOpen
    rw [cutAt_append hFront] at hOpen
    cases hOpen
    split
    · rename_i hClose
      rw [cutAt_append hBody] at hClose
      cases hClose
    · rename_i hClose
      rw [cutAt_append hBody] at hClose
      cases hClose
      rfl

/-- The rules are read back from their lines, whatever blanks stand in front of the first. -/
theorem Sheet.rules_print {rs : List Rule} (h : ∀ r ∈ rs, r.Tidy) {lead : List Char}
    (hLead : ∀ c ∈ lead, isBlank c = true) :
    (blocks (lead ++ rs.flatMap Rule.print)).filterMap ofBlock? = rs := by
  have hBrace : isBlank '\x7b' = false := rfl
  induction rs generalizing lead with
  | nil =>
    have hOpen : '\x7b' ∉ lead := fun hMem => Bool.eq_false_iff.mp hBrace (hLead _ hMem)
    have hNone : cutAt '\x7b' lead = none := cutAt_eq_none_iff.mpr hOpen
    rw [List.flatMap_nil, List.append_nil, blocks]
    split
    · rfl
    · rename_i hSome
      rw [hNone] at hSome
      cases hSome
  | cons r rs ih =>
    have hr := h r List.mem_cons_self
    have hOpen : '\x7b' ∉ lead := fun hMem => Bool.eq_false_iff.mp hBrace (hLead _ hMem)
    have hFront : '\x7b' ∉ lead ++ r.selectorText.toList ++ [' '] := by
      simpa [hOpen] using hr.brace
    have hBody : '\x7d' ∉ ' ' :: r.declarations.entries.flatMap Declaration.print := by
      simp only [List.mem_cons, List.mem_flatMap, not_or, not_exists, not_and]
      refine ⟨by decide, fun d hd => ?_⟩
      simpa [Declaration.print] using (hr.declarations.each d hd).brace
    have hCut : lead ++ (r :: rs).flatMap Rule.print =
        (lead ++ r.selectorText.toList ++ [' ']) ++ '\x7b' ::
          ((' ' :: r.declarations.entries.flatMap Declaration.print) ++ '\x7d' ::
            (['\n'] ++ rs.flatMap Rule.print)) := by
      simp [Rule.print]
    have hRule : ofBlock? (lead ++ r.selectorText.toList ++ [' '],
        ' ' :: r.declarations.entries.flatMap Declaration.print) = some r := by
      have hTrim : trim (lead ++ r.selectorText.toList ++ [' ']) = r.selectorText.toList :=
        (trimBy_between hLead (List.forall_mem_singleton.mpr rfl) _).trans hr.selector.trimmed
      simp only [ofBlock?, hTrim, hr.selector_ne_nil, if_false, Declarations.ofChars_print
        hr.declarations, String.ofList_toList]
    rw [hCut, blocks_append hFront hBody, List.filterMap_cons_some hRule,
      ih (fun q hq => h q (List.mem_cons_of_mem r hq)) (List.forall_mem_singleton.mpr rfl)]

section Uncommented

variable {rest : List Char} (hRest : Uncommented rest)
include hRest

theorem Declaration.Tidy.uncommented_print {d : Declaration} (h : d.Tidy) :
    Uncommented (d.print ++ rest) := by
  simp only [Declaration.print, List.append_assoc, List.cons_append, List.nil_append]
  rw [uncommented_append_cons (by decide) (by decide), uncommented_cons (by decide) (by decide),
    uncommented_append_cons (by decide) (by decide), uncommented_cons (by decide) (by decide)]
  exact ⟨h.name.uncommented, h.value.uncommented, hRest⟩

theorem Rule.Tidy.uncommented_print {r : Rule} (h : r.Tidy) : Uncommented (r.print ++ rest) := by
  have hEach := h.declarations.each
  have hBody : Uncommented (r.declarations.entries.flatMap Declaration.print ++
      '\x7d' :: '\n' :: rest) := by
    generalize r.declarations.entries = ds at hEach ⊢
    induction ds with
    | nil =>
      exact (uncommented_cons (by decide) (by decide)).mpr
        ((uncommented_cons (by decide) (by decide)).mpr hRest)
    | cons d ds ih =>
      rw [List.flatMap_cons, List.append_assoc]
      exact Declaration.Tidy.uncommented_print
        (ih fun e he => hEach e (List.mem_cons_of_mem d he)) (hEach d List.mem_cons_self)
  simp only [Rule.print, List.append_assoc, List.cons_append, List.nil_append]
  rw [uncommented_append_cons (by decide) (by decide), uncommented_cons (by decide) (by decide),
    uncommented_cons (by decide) (by decide)]
  exact ⟨h.selector.uncommented, hBody⟩

end Uncommented

theorem Sheet.Tidy.uncommented_print {s : Sheet} (h : s.Tidy) :
    Uncommented (s.entries.flatMap Rule.print) := by
  have hEach := h.each
  generalize s.entries = rs at hEach ⊢
  induction rs with
  | nil => exact List.isChain_nil
  | cons r rs ih =>
    rw [List.flatMap_cons]
    exact Rule.Tidy.uncommented_print (ih fun q hq => hEach q (List.mem_cons_of_mem r hq))
      (hEach r List.mem_cons_self)

/-- A tidy sheet is read back from its print. -/
theorem Sheet.parse_render {s : Sheet} (h : s.Tidy) : parse s.render = s := by
  have hRules : (blocks (s.entries.flatMap Rule.print)).filterMap ofBlock? = s.entries :=
    rules_print h.each (List.forall_mem_nil _)
  rw [parse, render, String.toList_ofList, withoutComments_eq_self h.uncommented_print, hRules,
    Catalog.ofList_entries h.nodup]

/-- Whatever the text, the sheet that is read from it is read again from its own print. -/
theorem Sheet.parse_render_parse (text : String) : parse (parse text).render = parse text :=
  parse_render (tidy_parse text)

end AnchoredUi.Style
