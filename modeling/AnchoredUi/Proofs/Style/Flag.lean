import AnchoredUi.Asset.Address
import AnchoredUi.Proofs.Style.Length

/-!
# Values with the flag behind them

The flag `!important` is to be read and ignored, but each way of reading sees to that by itself.
Where a value is cut into tokens, the flag is one of them and is dropped. A color has the flag cut
off its end; another flag in front of it is cut off too, unless there is a blank between the two.
Words and addresses are looked up with the flag in them, and no table has such a word.

* `valueTokens_flagged`: the tokens that matter are the same.
* `readColor_flagged`, `exists_readColor_flagged`: the flag is cut off a color once.
* `exists_readKeyword_flagged`, `exists_readWeight_flagged`, `exists_readTextAlign_flagged`: a word
  with the flag behind it is in no table.
* `normalPath_flagged`: an address keeps the flag.
-/

namespace AnchoredUi.Style

open Pattern Number Plane Text Asset

variable {cs word : List Char} {value : String} {ts : List Token}

/-- The value with the flag behind it. -/
def flagged (value : String) : String := value ++ " !important"

theorem toList_flagged (value : String) :
    (flagged value).toList = (value.toList ++ [' ']) ++ flagText := by
  rw [flagged, String.toList_append, List.append_assoc]
  rfl

/-! ## Tokens -/

/-- Dropping flags, the tokens of a value are those without the flag behind it. -/
theorem valueTokens_flagged (h : valueTokens value = .ok ts) :
    valueTokens (flagged value) = .ok ts := by
  obtain ⟨us, hScans, hFilter⟩ := (valueTokens_eq_ok_iff value).mp h
  have hSpace : Gap [' '] := List.forall_mem_singleton.mpr rfl
  have hEnd : scan (flagText ++ []) = .token .important flagText.length := scan_flag []
  have hFlag : Scans ([' '] ++ (flagText ++ [])) [⟨.important, flagText⟩] :=
    .token (t := ⟨.important, flagText⟩) hSpace hEnd (.gap (List.forall_mem_nil _))
  have hParted : Parted ([' '] ++ (flagText ++ [])) := by
    rintro c ⟨⟩
    decide
  refine (valueTokens_eq_ok_iff _).mpr ⟨us ++ [⟨.important, flagText⟩], ?_, ?_⟩
  · rw [toList_flagged, List.append_assoc]
    exact hScans.append hParted hFlag
  · rw [List.filter_append, hFilter]
    exact List.append_nil ts

theorem readScalar_flagged {x : Scalar} (h : readScalar value = .ok x) :
    readScalar (flagged value) = .ok x := by
  obtain ⟨t, hTokens, hScalar⟩ := (readScalar_eq_ok_iff_token value).mp h
  exact (readScalar_eq_ok_iff_token _).mpr ⟨t, valueTokens_flagged hTokens, hScalar⟩

theorem readBox_flagged {box : Spacing Scalar} (h : readBox value = .ok box) :
    readBox (flagged value) = .ok box := by
  rw [readBox] at h ⊢
  cases hTokens : valueTokens value with
  | error f =>
    rw [hTokens] at h
    cases h
  | ok ts =>
    rw [hTokens] at h
    rw [valueTokens_flagged hTokens]
    exact h

theorem readNumber_flagged {x : Single} (h : readNumber value = .ok x) :
    readNumber (flagged value) = .ok x := by
  rw [readNumber] at h ⊢
  cases hTokens : valueTokens value with
  | error f =>
    rw [hTokens] at h
    cases h
  | ok ts =>
    rw [hTokens] at h
    rw [valueTokens_flagged hTokens]
    revert h
    -- the two differ only in what they report
    rcases ts with _ | ⟨⟨kind, text⟩, _ | ⟨u, us⟩⟩
    · nofun
    · cases kind with
      | number => exact id
      | dimension =>
        simp only
        split
        · exact id
        · nofun
      | _ => nofun
    · nofun

/-! ## Ends of texts -/

/-- Trimming stops at the flag. -/
theorem trim_append_flag (cs : List Char) :
    trim (cs ++ flagText) = cs.dropWhile isBlank ++ flagText := by
  have hFlag : flagText.dropWhile isBlank = flagText := rfl
  have hReverse : flagText.reverse.dropWhile isBlank = flagText.reverse := rfl
  have hDrop : (cs ++ flagText).dropWhile isBlank = cs.dropWhile isBlank ++ flagText := by
    rw [List.dropWhile_append, hFlag]
    split
    · rename_i hEmpty
      rw [List.isEmpty_iff.mp hEmpty, List.nil_append]
    · rfl
  have hNot : flagText.reverse.isEmpty = false := rfl
  rw [trim, trimBy, hDrop, trimEndBy, List.reverse_append, List.dropWhile_append, hReverse, hNot,
    if_neg Bool.false_ne_true, List.reverse_append, List.reverse_reverse, List.reverse_reverse]

theorem trim_flagged (value : String) :
    trim (flagged value).toList = (value.toList ++ [' ']).dropWhile isBlank ++ flagText := by
  rw [toList_flagged, trim_append_flag]

/-- The mark of the flag stays in what is trimmed. -/
theorem mark_mem_trim_flagged (value : String) : '!' ∈ trim (flagged value).toList := by
  rw [trim_flagged]
  exact List.mem_append_right _ List.mem_cons_self

/-- A text with the mark of the flag in it agrees with no word without it. -/
theorem sameLetters_of_mark (hMark : '!' ∈ cs) (hWord : '!' ∉ word) :
    sameLetters cs word = false := by
  have hNot : '!'.toNat < 65 ∨ 122 < '!'.toNat := Or.inl (by decide)
  rw [Bool.eq_false_iff]
  intro hSame
  refine hWord ((mem_lower_iff hNot).mp ?_)
  rw [← (sameLetters_iff cs word).mp hSame]
  exact (mem_lower_iff hNot).mpr hMark

theorem getLast?_of_flag (h : flagText <:+ cs) : cs.getLast? = some 't' := by
  obtain ⟨front, rfl⟩ := h
  rw [List.getLast?_append]
  rfl

/-! ## Colors -/

theorem dropBackAll_eq_self {back : List Char} (h : ¬ back <:+ cs) : dropBackAll back cs = cs := by
  rw [dropBackAll]
  split
  · rename_i hBack
    rw [dropBack?_eq_none_iff.mpr h] at hBack
    cases hBack
  · rfl

theorem dropBackAll_append {back : List Char} (hBack : back ≠ []) (cs : List Char) :
    dropBackAll back (cs ++ back) = dropBackAll back cs := by
  rw [dropBackAll]
  split
  · rename_i rest hRest
    rw [dropBack?_append] at hRest
    obtain rfl := Option.some.inj hRest
    rw [dif_neg hBack]
  · rename_i hNone
    rw [dropBack?_append] at hNone
    cases hNone

/-- The flag behind a color is cut off; the blank in front of it keeps other flags from being cut
off with it. -/
theorem trim_dropBackAll_flagged (value : String) :
    trim (dropBackAll flagText (trim (flagged value).toList)) = trim value.toList := by
  have hSpace : ∀ c ∈ [' '], isBlank c = true := List.forall_mem_singleton.mpr rfl
  have hEnd : ¬ flagText <:+ (value.toList ++ [' ']).dropWhile isBlank := by
    intro hFlag
    have hLast := getLast?_of_flag (hFlag.trans (List.dropWhile_suffix isBlank))
    rw [List.getLast?_append] at hLast
    exact absurd hLast (by simp)
  have hNe : flagText ≠ [] := List.cons_ne_nil _ _
  rw [trim_flagged, dropBackAll_append hNe, dropBackAll_eq_self hEnd, trim,
    trimBy_dropWhile]
  exact trimBy_between (a := []) (List.forall_mem_nil _) hSpace value.toList

theorem readColor_eq (value : String) : readColor value =
    (parseColor (trim (dropBackAll flagText (trim value.toList)))).mapError
      ValueFault.badColor := by
  have hText : "!important".toList = flagText := rfl
  simp only [readColor, hText]
  cases parseColor (trim (dropBackAll flagText (trim value.toList))) <;> rfl

/-- The mark of the flag is no digit. -/
theorem parseHex_of_mark (hMark : '!' ∈ cs) : parseHex cs = none := by
  have hValue : hexValue? '!' = none := by decide
  have hDouble : hexDouble? '!' = none := by decide
  have hFront (b : Char) : hexPair? '!' b = none := by
    rw [hexPair?, if_neg (by decide), hValue]
  have hBack (a : Char) : hexPair? a '!' = none := by
    rw [hexPair?, hValue]
    cases hexValue? a <;> exact ite_self none
  -- whichever part the mark is in, that part is missing
  fun_cases parseHex cs with
  | case5 => rfl
  | _ =>
    simp only [List.mem_cons, List.not_mem_nil, or_false] at hMark
    casesm* _ ∨ _ <;> subst_vars <;> simp [hDouble, hFront, hBack]

theorem namedColor?_of_mark (hMark : '!' ∈ cs) : namedColor? (String.ofList cs) = none := by
  have hNone : colorNames.find? (fun e => e.1 == String.ofList cs) = none := by
    have hTable : (colorNames.all fun e => !e.1.toList.contains '!') = true := by decide +kernel
    refine List.find?_eq_none.mpr fun e he hSame => ?_
    have hFree := List.all_eq_true.mp hTable e he
    rw [beq_iff_eq.mp hSame, String.toList_ofList] at hFree
    simp [hMark] at hFree
  rw [namedColor?, hNone]
  rfl

/-- The mark of the flag is in no color but those that end with a bracket. -/
theorem exists_colorParts_error (hMark : '!' ∈ cs) (hEnd : cs.getLast? ≠ some ')') :
    ∃ f, colorParts cs = .error f := by
  have hWord : sameLetters cs "transparent".toList = false := sameLetters_of_mark hMark (by decide)
  have hCall : call? cs = none := by
    have hBack : ¬ [')'] <:+ cs := by
      rintro ⟨front, rfl⟩
      exact hEnd (by rw [List.getLast?_append]; rfl)
    rw [call?, dropBack?_eq_none_iff.mpr hBack]
  have hSmall : '!' ∈ cs.map smallLetter := List.mem_map.mpr ⟨'!', hMark, rfl⟩
  obtain ⟨c, t, rfl⟩ := List.exists_cons_of_ne_nil (List.ne_nil_of_mem hMark)
  unfold colorParts
  rw [if_neg (by rw [hWord]; exact Bool.false_ne_true)]
  by_cases hHash : c = '#'
  · subst hHash
    have hDigits : '!' ∈ t := (List.mem_cons.mp hMark).resolve_left (by decide)
    simp only [parseHex_of_mark hDigits]
    exact ⟨_, rfl⟩
  · split
    · rename_i hCons
      exact absurd (List.cons.inj hCons).1 hHash
    · simp only [hCall, parseHex_of_mark hMark, namedColor?_of_mark hSmall]
      exact ⟨_, rfl⟩

/-- A flag behind a color is ignored, unless it is the second one. -/
theorem readColor_flagged {c : Color} (h : readColor value = .ok c)
    (hFlag : ¬ flagText <:+ trim value.toList) : readColor (flagged value) = .ok c := by
  rw [readColor_eq, trim_dropBackAll_flagged]
  rw [readColor_eq, dropBackAll_eq_self hFlag, trim, trim, trimBy_trimBy] at h
  exact h

theorem exists_readColor_flagged (hFlag : flagText <:+ trim value.toList) :
    ∃ f, readColor (flagged value) = .error f := by
  have hMark : '!' ∈ trim value.toList := hFlag.subset List.mem_cons_self
  have hEnd : (trim value.toList).getLast? ≠ some ')' := by
    rw [getLast?_of_flag hFlag]
    decide
  obtain ⟨f, hError⟩ := exists_colorParts_error hMark hEnd
  rw [readColor_eq, trim_dropBackAll_flagged, parseColor, hError]
  exact ⟨_, rfl⟩

/-! ## Words -/

theorem mark_mem_keywordForm (value : String) : '!' ∈ (keywordForm (flagged value)).toList := by
  rw [keywordForm, lowered, trimmed, String.toList_ofList, String.toList_ofList]
  exact (mem_lower_iff (Or.inl (by decide))).mpr (mark_mem_trim_flagged value)

/-- No word of the table has the mark of the flag in it. -/
def Unmarked {α : Type} (table : List (String × α)) : Bool :=
  table.all fun e => !e.1.toList.contains '!'

theorem lookWord_of_mark {α : Type} {table : List (String × α)} (hTable : Unmarked table = true)
    {word : String} (hMark : '!' ∈ word.toList) : lookWord table word = none := by
  have hNone : table.find? (fun e => e.1 == word) = none := by
    refine List.find?_eq_none.mpr fun e he hSame => ?_
    have hFree := List.all_eq_true.mp hTable e he
    rw [beq_iff_eq.mp hSame] at hFree
    simp [hMark] at hFree
  rw [lookWord, hNone]
  rfl

theorem exists_readKeyword_flagged {α : Type} {table : List (String × α)}
    (hTable : Unmarked table = true) (value : String) :
    ∃ f, readKeyword table (flagged value) = .error f := by
  simp only [readKeyword, lookWord_of_mark hTable (mark_mem_keywordForm value)]
  exact ⟨_, rfl⟩

theorem exists_readTextAlign_flagged (value : String) :
    ∃ f, readTextAlign (flagged value) = .error f := by
  have hTable : Unmarked textAlignWords = true := by decide
  simp only [readTextAlign, lookWord_of_mark hTable (mark_mem_keywordForm value)]
  exact ⟨_, rfl⟩

theorem readNat?_of_mark {limit : ℕ} (hMark : '!' ∈ cs) : readNat? limit cs = none := by
  have hTail : '!' ∈ (if cs.head? = some '+' then cs.tail else cs) := by
    split
    · rename_i hPlus
      obtain ⟨c, t, rfl⟩ := List.exists_cons_of_ne_nil (List.ne_nil_of_mem hMark)
      cases hPlus
      exact (List.mem_cons.mp hMark).resolve_left (by decide)
    · exact hMark
  rw [readNat?]
  refine if_neg fun hDigits => ?_
  exact absurd (List.all_eq_true.mp hDigits.2 '!' hTail) (by decide)

theorem exists_readWeight_flagged (value : String) :
    ∃ f, readWeight (flagged value) = .error f := by
  have hTable : Unmarked weightWords = true := by decide
  have hMark := mark_mem_keywordForm value
  simp only [readWeight, lookWord_of_mark hTable hMark, readNat?_of_mark hMark]
  exact ⟨_, rfl⟩

/-! ## Addresses -/

/-- A wrapper that ends with another letter than the flag is not there. -/
theorem unwrap_of_flag {d : Char} (hd : d ≠ 't') (hFlag : flagText <:+ cs) (front : List Char) :
    unwrap front [d] cs = cs := by
  have hNone : between? front [d] cs = none := by
    refine Option.bind_eq_none_iff.mpr fun rest hRest => dropBack?_eq_none_iff.mpr fun hEnd => hd ?_
    have hRest : rest <:+ cs := by
      rw [dropFront?, Option.ite_none_right_eq_some] at hRest
      exact Option.some.inj hRest.2 ▸ List.drop_suffix _ cs
    obtain ⟨before, hBefore⟩ := hEnd.trans hRest
    have hLast := getLast?_of_flag hFlag
    rw [← hBefore, List.getLast?_append] at hLast
    exact Option.some.inj hLast
  rw [unwrap, hNone]

/-- Nothing is taken off an address with the flag behind it but the blanks around both. -/
theorem normalPath_flagged (value : String) :
    normalPath (flagged value) = trimmed (flagged value) := by
  have hFlag : flagText <:+ trim (flagged value).toList := by
    rw [trim_flagged]
    exact List.suffix_append _ _
  have hUrl : unwrapUrl (trim (flagged value).toList) = trim (flagged value).toList := by
    rw [unwrapUrl]
    split
    · exact unwrap_of_flag (by decide) hFlag _
    · exact unwrap_of_flag (by decide) hFlag _
  rw [normalPath, normalChars, hUrl, unwrap_of_flag (by decide) hFlag,
    unwrap_of_flag (by decide) hFlag, trimmed]

end AnchoredUi.Style
