import AnchoredUi.Proofs.Style.Respaced
import AnchoredUi.Style.Value

/-!
# Which texts are lengths

A length is read in steps: the text is cut into tokens, flags are dropped, a single token has to be
left, and its text is cut again into a number and a unit. What passes all of them is said here as a
grammar: the word `auto`, or digits with a sign, a point and a unit, with nothing but separators and
flags around it. A flag is read wherever it stands, even next to a number, since no other token has
its mark in it.

* `LengthText`: the grammar.
* `writes_of_tokenScalar`, `exists_kind_of_writes`: which tokens are lengths.
* `Scans.exists_idle`, `Idle.scans`: what may stand around them.
* `lengthOf_iff`: a text is read as the length that it writes, and all others are rejected.
-/

namespace AnchoredUi.Style

open Pattern Number Numeral Text

variable {cs a b whole behind text suffix : List Char} {ts : List Token} {t : Token}
  {x : Scalar} {unit : LengthUnit}

/-! ## The grammar -/

/-- The text of the flag that is dropped. -/
def flagText : List Char := "!important".toList

/-- Nothing but separators and flags. -/
inductive Idle : List Char → Prop
  | nil : Idle []
  | separator {c : Char} {cs : List Char} (hc : c ∈ separators) (hRest : Idle cs) : Idle (c :: cs)
  | flag {cs : List Char} (hRest : Idle cs) : Idle (flagText ++ cs)

/-- What may stand behind the number of a length, and the unit that it says. -/
inductive UnitText : List Char → LengthUnit → Prop
  | none : UnitText [] .px
  | named {unit : LengthUnit} (hUnit : unit ∈ LengthUnit.measured) :
      UnitText unit.suffix.toList unit

/-- The text writes a length: as a word, or as a finite number with or without a unit. -/
inductive Writes : List Char → Scalar → Prop
  | auto {word : List Char} (hWord : lower word = "auto".toList) : Writes word .auto
  | measured {negative : Bool} {whole behind text suffix : List Char} {unit : LengthUnit}
      (hText : Unsigned whole behind text) (hUnit : UnitText suffix unit)
      (hFinite : (Binary.ofDecimal negative whole behind : Single).isFinite = true) :
      Writes (signed negative text ++ suffix) ⟨.ofDecimal negative whole behind, unit⟩

/-- The text writes a length and has nothing but separators and flags around it. -/
def LengthText (cs : List Char) (x : Scalar) : Prop :=
  ∃ a c b, cs = a ++ (c ++ b) ∧ Idle a ∧ Writes c x ∧ Idle b

/-! ## Tokens -/

theorem readFinite_signed (h : Unsigned whole behind text) (negative : Bool) :
    readFinite (signed negative text) =
      if (Binary.ofDecimal negative whole behind : Single).isFinite then
        .ok (.ofDecimal negative whole behind)
      else .error (.notFinite (String.ofList (signed negative text))) := by
  obtain ⟨n, hRead, hValue⟩ := Option.map_eq_some_iff.mp
    (toBinary_read? (F := Format.single) h negative)
  rw [readFinite, hRead]
  simp only [hValue]

theorem named?_eq_some_iff : LengthUnit.named? suffix = some unit ↔
    unit ∈ LengthUnit.measured ∧ suffix = unit.suffix.toList := by
  constructor
  · intro h
    have hFind : LengthUnit.measured.find? (fun u => u.suffix.toList == suffix) = some unit := h
    have hSame := List.find?_some hFind
    exact ⟨List.mem_of_find?_eq_some hFind, (beq_iff_eq.mp hSame).symm⟩
  · rintro ⟨hUnit, rfl⟩
    refine LengthUnit.named?_suffix ?_
    rintro rfl
    exact absurd hUnit (by decide)

/-- No unit starts within a number. -/
theorem not_isUnitStart (h : Unsigned whole behind text) (negative : Bool) :
    ∀ c ∈ signed negative text, (!isUnitStart c) = true := by
  have hNot {c : Char} (hLow : 45 ≤ c.toNat) (hHigh : c.toNat ≤ 57) :
      (!isUnitStart c) = true := by
    simp only [isUnitStart, Bool.not_or, Bool.and_eq_true, Bool.not_eq_true', beq_eq_false_iff_ne]
    refine ⟨Bool.eq_false_iff.mpr fun hAlpha => ?_, ?_⟩
    · have := le_toNat_of_isAlpha hAlpha
      omega
    · rintro rfl
      exact absurd hLow (by decide)
  have hText : ∀ c ∈ text, (!isUnitStart c) = true := fun c hc =>
    hNot ((h.bounds c hc).1.trans' (by decide)) (h.bounds c hc).2
  cases negative with
  | false => exact hText
  | true => exact List.forall_mem_cons.mpr ⟨hNot (by decide) (by decide), hText⟩

theorem tokenScalar_dimension (h : Unsigned whole behind text) (negative : Bool)
    (hSuffix : ∀ c ∈ suffix.head?, isUnitStart c = true) :
    tokenScalar ⟨.dimension, signed negative text ++ suffix⟩ = .ok x ↔
      (Binary.ofDecimal negative whole behind : Single).isFinite = true ∧
        ∃ unit ∈ LengthUnit.measured, suffix = unit.suffix.toList ∧
          x = ⟨.ofDecimal negative whole behind, unit⟩ := by
  obtain ⟨hTake, hDrop⟩ := takeWhile_run (not_isUnitStart h negative) (b := suffix)
    fun c hc => by rw [hSuffix c hc]; rfl
  simp only [tokenScalar, hTake, hDrop, readFinite_signed h]
  by_cases hFinite : (Binary.ofDecimal negative whole behind : Single).isFinite = true
  · simp only [hFinite, true_and, ← and_assoc, ← named?_eq_some_iff]
    cases LengthUnit.named? suffix with
    | none => simp
    | some unit => simp [eq_comm]
  · simp [hFinite]

theorem tokenScalar_number (h : Unsigned whole behind text) (negative : Bool) :
    tokenScalar ⟨.number, signed negative text⟩ = .ok x ↔
      (Binary.ofDecimal negative whole behind : Single).isFinite = true ∧
        x = ⟨.ofDecimal negative whole behind, .px⟩ := by
  simp only [tokenScalar, readFinite_signed h]
  by_cases hFinite : (Binary.ofDecimal negative whole behind : Single).isFinite = true
  · simp [hFinite, Except.map, Scalar.px, eq_comm]
  · simp [hFinite, Except.map]

/-- A unit that is read as a part of a number starts with one of its characters. -/
theorem isUnitStart_head {unit : String} (h : unit ∈ unitNames) :
    ∀ c ∈ unit.toList.head?, isUnitStart c = true := by
  have hAll : (unitNames.all fun unit => unit.toList.head?.all isUnitStart) = true := by decide
  have hHead := List.all_eq_true.mp hAll unit h
  intro c hc
  rwa [Option.mem_def.mp hc] at hHead

theorem writes_of_tokenScalar (hText : Matches t.kind.pattern t.text) (h : tokenScalar t = .ok x) :
    Writes t.text x := by
  obtain ⟨kind, text⟩ := t
  cases kind with
  | number =>
    obtain ⟨negative, whole, behind, digits, hDigits, rfl⟩ := matches_signedNumber_iff.mp hText
    obtain ⟨hFinite, rfl⟩ := (tokenScalar_number hDigits negative).mp h
    have hWrites := Writes.measured hDigits .none hFinite
    rwa [List.append_nil] at hWrites
  | dimension =>
    obtain ⟨_, suffix, hSuffix, hNumber, rfl⟩ := matches_dimension_iff.mp hText
    obtain ⟨negative, whole, behind, digits, hDigits, rfl⟩ := matches_signedNumber_iff.mp hNumber
    obtain ⟨hFinite, unit, hUnit, hSame, rfl⟩ :=
      (tokenScalar_dimension hDigits negative (isUnitStart_head hSuffix)).mp h
    simp only [hSame]
    exact .measured hDigits (.named hUnit) hFinite
  | name =>
    simp only [tokenScalar] at h
    split at h
    · rename_i hWord
      cases h
      exact .auto ((sameLetters_iff _ _).mp hWord)
    · cases h
  | _ => cases h

/-- A word that says `auto` in any case is a name. -/
theorem matches_name_of_auto (h : lower text = "auto".toList) :
    Matches TokenKind.name.pattern text := by
  have hLetters : ∀ c ∈ text, c.isAlpha = true := by
    intro c hc
    have hLower : c.toLower ∈ "auto".toList := h ▸ List.mem_map_of_mem hc
    have hAlpha : ("auto".toList.all Char.isAlpha) = true := by decide
    rcases toLower_cases c with hSame | ⟨hLow, hHigh, -⟩
    · rw [← hSame]
      exact List.all_eq_true.mp hAlpha _ hLower
    · have hUpper : c.isUpper = true := decide_eq_true
        ⟨UInt32.le_iff_toNat_le.mpr hLow, UInt32.le_iff_toNat_le.mpr hHigh⟩
      exact Bool.or_eq_true_iff.mpr (Or.inl hUpper)
  have hNe : text ≠ [] := by
    rintro rfl
    cases h
  obtain ⟨c, cs, rfl⟩ := List.exists_cons_of_ne_nil hNe
  obtain ⟨hc, hcs⟩ := List.forall_mem_cons.mp hLetters
  refine matches_name_iff.mpr ⟨false, c, cs, ?_, fun d hd => ?_, rfl⟩
  · rw [isNameStart, hc, Bool.true_or]
  · have hAlphanum : d.isAlphanum = true := Bool.or_eq_true_iff.mpr (Or.inl (hcs d hd))
    rw [isNameChar, hAlphanum, Bool.true_or, Bool.true_or]

theorem exists_kind_of_writes (h : Writes text x) :
    ∃ k : TokenKind, Matches k.pattern text ∧ tokenScalar ⟨k, text⟩ = .ok x := by
  cases h with
  | auto hWord =>
    exact ⟨.name, matches_name_of_auto hWord, if_pos ((sameLetters_iff _ _).mpr hWord)⟩
  | @measured negative whole behind digits suffix unit hText hUnit hFinite =>
    have hNumber : Matches signedNumber (signed negative digits) :=
      matches_signedNumber_iff.mpr ⟨negative, whole, behind, digits, hText, rfl⟩
    cases hUnit with
    | none =>
      rw [List.append_nil]
      exact ⟨.number, hNumber, (tokenScalar_number hText negative).mpr ⟨hFinite, rfl⟩⟩
    | named hUnit =>
      have hName : unit.suffix ∈ unitNames := by
        revert hUnit
        cases unit <;> decide
      exact ⟨.dimension, matches_dimension_iff.mpr ⟨_, _, hName, hNumber, rfl⟩,
        (tokenScalar_dimension hText negative (isUnitStart_head hName)).mpr
          ⟨hFinite, _, hUnit, rfl, rfl⟩⟩

/-! ## Separators and flags -/

theorem Idle.parted (h : Idle cs) : Parted cs := by
  cases h with
  | nil => exact fun _ hc => nomatch hc
  | separator hc _ =>
    rintro _ ⟨⟩
    exact List.mem_append_left _ hc
  | flag _ =>
    rintro _ ⟨⟩
    decide

theorem Idle.append (ha : Idle a) (hb : Idle b) : Idle (a ++ b) := by
  induction ha with
  | nil => exact hb
  | separator hc _ ih => exact .separator hc ih
  | flag _ ih =>
    rw [List.append_assoc]
    exact .flag ih

theorem idle_of_gap (h : Gap cs) : Idle cs := by
  induction cs with
  | nil => exact .nil
  | cons c cs ih =>
    obtain ⟨hc, hcs⟩ := List.forall_mem_cons.mp h
    exact .separator (isSkipped_iff.mp hc) (ih hcs)

theorem eq_flag_of_scan (h : scan (t.text ++ cs) = .token t.kind t.text.length)
    (hFlag : t.kind = .important) : t.text = flagText := by
  have hText := matches_text_of_scan h
  rw [hFlag] at hText
  exact matches_literal_iff.mp hText

theorem idle_of_scans (h : Scans cs ts) (hFlags : ∀ t ∈ ts, t.kind = .important) : Idle cs := by
  induction h with
  | gap hGap => exact idle_of_gap hGap
  | token hGap hScan _ ih =>
    obtain ⟨hFlag, hRest⟩ := List.forall_mem_cons.mp hFlags
    rw [eq_flag_of_scan hScan hFlag]
    exact (idle_of_gap hGap).append (.flag (ih hRest))

/-- In front of a token that is no flag there are separators and flags. -/
theorem Scans.exists_idle {fs us : List Token} (h : Scans cs (fs ++ t :: us))
    (hFlags : ∀ f ∈ fs, f.kind = .important) :
    ∃ a next, cs = a ++ (t.text ++ next) ∧ Idle a ∧ Matches t.kind.pattern t.text ∧
      Scans next us := by
  induction fs generalizing cs with
  | nil =>
    cases h with
    | @token w next _ _ hGap hScan hNext =>
      exact ⟨w, next, rfl, idle_of_gap hGap, matches_text_of_scan hScan, hNext⟩
  | cons f fs ih =>
    obtain ⟨hFlag, hRest⟩ := List.forall_mem_cons.mp hFlags
    cases h with
    | @token w next _ _ hGap hScan hNext =>
      obtain ⟨a, behind, rfl, ha, hText, hBehind⟩ := ih hNext hRest
      rw [eq_flag_of_scan hScan hFlag]
      exact ⟨w ++ (flagText ++ a), behind, by simp, (idle_of_gap hGap).append (.flag ha), hText,
        hBehind⟩

/-- A flag is read whatever follows it. -/
theorem scan_flag (rest : List Char) :
    scan (flagText ++ rest) = .token .important flagText.length := by
  refine scan_of_longest (matches_literal_iff.mpr rfl) (fun j p hp hMatch => ?_) (Nat.zero_le _)
  obtain ⟨c, q, rfl⟩ := List.exists_cons_of_ne_nil (matches_ne_nil hMatch)
  obtain ⟨rfl, -⟩ := List.cons_prefix_cons.mp hp
  have hKind : j = .important := TokenKind.eq_of_head (k := .important) rfl rfl hMatch
  rw [hKind] at hMatch
  rw [matches_literal_iff.mp hMatch]
  rfl

theorem Scans.separator (h : Scans cs ts) {c : Char} (hc : c ∈ separators) :
    Scans (c :: cs) ts :=
  h.after_gap (w := [c]) (List.forall_mem_singleton.mpr (isSkipped_iff.mpr hc))

theorem Idle.scans (h : Idle a) (hScans : Scans cs ts) :
    ∃ fs : List Token, (∀ f ∈ fs, f.kind = .important) ∧ Scans (a ++ cs) (fs ++ ts) := by
  induction h with
  | nil => exact ⟨[], List.forall_mem_nil _, hScans⟩
  | separator hc _ ih =>
    obtain ⟨fs, hFlags, hRead⟩ := ih
    exact ⟨fs, hFlags, hRead.separator hc⟩
  | flag _ ih =>
    obtain ⟨fs, hFlags, hRead⟩ := ih
    rw [List.append_assoc]
    exact ⟨⟨.important, flagText⟩ :: fs, List.forall_mem_cons.mpr ⟨rfl, hFlags⟩,
      .token (w := []) (t := ⟨.important, flagText⟩) (List.forall_mem_nil _) (scan_flag _) hRead⟩

/-! ## Whole texts -/

theorem valueTokens_eq_ok_iff (s : String) : valueTokens s = .ok ts ↔
    ∃ us, Scans s.toList us ∧ us.filter (fun t => t.kind != .important) = ts := by
  rw [valueTokens]
  simp only [← tokens_eq_ok_iff]
  cases tokens s.toList <;> simp

/-- A length is a single token. -/
theorem readScalar_eq_ok_iff_token (s : String) :
    readScalar s = .ok x ↔ ∃ t, valueTokens s = .ok [t] ∧ tokenScalar t = .ok x := by
  rw [readScalar]
  rcases valueTokens s with f | _ | ⟨t, _ | ⟨u, us⟩⟩ <;> simp

theorem readScalar_eq_ok_iff (s : String) : readScalar s = .ok x ↔ LengthText s.toList x := by
  have hFlags {fs : List Token} (h : ∀ f ∈ fs, f.kind = .important) :
      fs.filter (fun t => t.kind != .important) = [] :=
    List.filter_eq_nil_iff.mpr fun f hf => by simp [h f hf]
  simp only [readScalar_eq_ok_iff_token, valueTokens_eq_ok_iff]
  constructor
  · rintro ⟨t, ⟨us, hScans, hFilter⟩, hScalar⟩
    obtain ⟨front, back, rfl, hFront, -, hBack⟩ := List.filter_eq_cons_iff.mp hFilter
    obtain ⟨a, next, hText, ha, hMatch, hNext⟩ := hScans.exists_idle fun f hf => by
      simpa using hFront f hf
    have hb : Idle next := idle_of_scans hNext fun f hf => by
      simpa using List.filter_eq_nil_iff.mp hBack f hf
    exact ⟨a, t.text, next, hText, ha, writes_of_tokenScalar hMatch hScalar, hb⟩
  · rintro ⟨a, c, b, hText, ha, hWrites, hb⟩
    obtain ⟨k, hMatch, hScalar⟩ := exists_kind_of_writes hWrites
    obtain ⟨bs, hbs, hBack⟩ := hb.scans (.gap (List.forall_mem_nil _))
    rw [List.append_nil, List.append_nil] at hBack
    have hToken := Scans.token (w := []) (t := ⟨k, c⟩) (List.forall_mem_nil _)
      (scan_parted hMatch hb.parted) hBack
    obtain ⟨as, has, hRead⟩ := ha.scans hToken
    refine ⟨⟨k, c⟩, ⟨_, hText ▸ hRead, ?_⟩, hScalar⟩
    have hKind : k ≠ .important := by
      rintro rfl
      cases hScalar
    rw [List.filter_append, List.filter_cons_of_pos (by simpa using hKind), hFlags has, hFlags hbs]
    rfl

/-- The length that a text gives a property. -/
def lengthOf (property text : String) : Except StyleFault Scalar :=
  (readScalar text).mapError (.invalidValue property)

/-- A text is read as the length that it writes, whatever the property is. A text that writes none
is reported as an invalid value of the property. -/
theorem lengthOf_iff (property text : String) :
    (∀ x, lengthOf property text = .ok x ↔ LengthText text.toList x) ∧
      ((∃ fault, lengthOf property text = .error (.invalidValue property fault)) ↔
        ¬ ∃ x, LengthText text.toList x) := by
  have hOk (x : Scalar) : lengthOf property text = .ok x ↔ LengthText text.toList x := by
    rw [← readScalar_eq_ok_iff, lengthOf]
    cases readScalar text <;> simp [Except.mapError]
  refine ⟨hOk, ?_⟩
  simp only [← hOk]
  rw [lengthOf]
  cases readScalar text <;> simp [Except.mapError]

end AnchoredUi.Style
