import AnchoredUi.Asset.Address
import AnchoredUi.Proofs.Text.Cut

/-!
# Addresses and their wrappers

Wrappers are taken off an address in one order, from the outside: `url(..)`, double quotes, single
quotes, each of them once. What is left is in a wrapper again if the wrappers stood in another order
or one of them twice: single quotes in double quotes go, but double quotes in single quotes stay.
So an address that is read twice may differ from the one that is read once. It is the same exactly
for the texts that write a bare address in this order.

* `Peeled`: what is left of a text when a wrapper of some kind is taken off.
* `writes_normalChars`, `normalChars_of_writes`: what is read is written, and conversely.
* `normalPath_normalPath_iff`: when reading twice is reading once.
* `not_normalPath_normalPath`: double quotes in single quotes.
-/

namespace AnchoredUi.Asset

open Text

/-! ## Wrappers -/

/-- What is put around an address: a beginning, not empty, and a character behind it. -/
structure Wrapper where
  first : Char
  more : List Char
  last : Char
  first_not_blank : isBlank first = false := by decide
  last_not_blank : isBlank last = false := by decide
  deriving DecidableEq

namespace Wrapper

/-- A text inside the wrapper. -/
def around (w : Wrapper) (cs : List Char) : List Char := (w.first :: w.more) ++ cs ++ [w.last]

/-- The function `url(..)` in small letters. -/
def smallUrl : Wrapper := { first := 'u', more := "rl(".toList, last := ')' }

/-- The function `url(..)` in capital letters. -/
def capitalUrl : Wrapper := { first := 'U', more := "RL(".toList, last := ')' }

/-- Double quotes. -/
def doubleQuotes : Wrapper := { first := '"', more := [], last := '"' }

/-- Single quotes. -/
def singleQuotes : Wrapper := { first := '\'', more := [], last := '\'' }

theorem trim_around (w : Wrapper) (cs : List Char) : trim (w.around cs) = w.around cs := by
  refine trimBy_eq_self (fun c hc => ?_) fun c hc => ?_
  · obtain rfl : w.first = c := by simpa [around] using hc
    exact w.first_not_blank
  · rw [around, List.getLast?_concat] at hc
    cases hc
    exact w.last_not_blank

theorem length_lt_around (w : Wrapper) (cs : List Char) : cs.length < (w.around cs).length := by
  simp only [around, List.length_append, List.length_cons]
  omega

theorem around_inj {w : Wrapper} {a b : List Char} (h : w.around a = w.around b) : a = b :=
  List.append_cancel_left (List.append_cancel_right h)

theorem first_eq_of_around {w v : Wrapper} {a b : List Char} (h : w.around a = v.around b) :
    w.first = v.first := Option.some.inj (congrArg List.head? h)

end Wrapper

variable {ws vs : List Wrapper} {w : Wrapper} {cs inside raw address front back : List Char}

/-- A text is in one of some wrappers. -/
def Wrapped (ws : List Wrapper) (cs : List Char) : Prop := ∃ w ∈ ws, ∃ inside, cs = w.around inside

/-- A text is another one with blanks around it. -/
def Padded (inside cs : List Char) : Prop :=
  ∃ a b, (∀ c ∈ a, isBlank c = true) ∧ (∀ c ∈ b, isBlank c = true) ∧ cs = a ++ inside ++ b

/-- A text is another one, or this one with blanks around it in one of some wrappers. -/
def MayWrap (ws : List Wrapper) (inside cs : List Char) : Prop :=
  cs = inside ∨ ∃ w ∈ ws, ∃ padded, Padded inside padded ∧ cs = w.around padded

theorem Padded.refl (cs : List Char) : Padded cs cs :=
  ⟨[], [], List.forall_mem_nil _, List.forall_mem_nil _, by simp⟩

theorem padded_trim (cs : List Char) : Padded (trim cs) cs := exists_append_trimBy isBlank cs

theorem Padded.trim_eq (h : Padded inside cs) : trim cs = trim inside := by
  obtain ⟨a, b, ha, hb, rfl⟩ := h
  exact trimBy_between ha hb inside

theorem MayWrap.trim_eq (h : MayWrap ws inside cs) (hTrim : trim inside = inside) :
    trim cs = cs := by
  rcases h with rfl | ⟨w, -, padded, -, rfl⟩
  · exact hTrim
  · exact w.trim_around padded

/-- A wrapper keeps a text out of all those that start with another character. -/
theorem MayWrap.not_wrapped (h : MayWrap ws inside cs)
    (hApart : ∀ w ∈ ws, ∀ v ∈ vs, w.first ≠ v.first) (hNot : ¬ Wrapped vs inside) :
    ¬ Wrapped vs cs := by
  rcases h with rfl | ⟨w, hw, padded, -, rfl⟩
  · exact hNot
  · rintro ⟨v, hv, other, hEq⟩
    exact hApart w hw v hv (Wrapper.first_eq_of_around hEq)

/-! ## Taking off a wrapper -/

/-- What is left of a text after one of some wrappers is taken off it, if it is in one. -/
inductive Peeled (ws : List Wrapper) : (cs inside : List Char) → Prop
  | off {w : Wrapper} {cs : List Char} (hw : w ∈ ws) : Peeled ws (w.around cs) (trim cs)
  | bare {cs : List Char} (hBare : ¬ Wrapped ws cs) : Peeled ws cs cs

theorem Peeled.mayWrap (h : Peeled ws cs inside) : MayWrap ws inside cs := by
  cases h with
  | off hw => exact .inr ⟨_, hw, _, padded_trim _, rfl⟩
  | bare => exact .inl rfl

theorem Peeled.trim_eq (h : Peeled ws cs inside) (hTrim : trim cs = cs) : trim inside = inside := by
  cases h with
  | off => exact trimBy_trimBy isBlank _
  | bare => exact hTrim

theorem Peeled.length_le (h : Peeled ws cs inside) : inside.length ≤ cs.length := by
  cases h with
  | @off w cs _ => exact (length_trim_le cs).trans (w.length_lt_around cs).le
  | bare => exact Nat.le_refl _

/-- Taking off a wrapper makes a text shorter. -/
theorem Peeled.eq_of_length_le (h : Peeled ws cs inside) (hLength : cs.length ≤ inside.length) :
    inside = cs ∧ ¬ Wrapped ws cs := by
  cases h with
  | @off w cs _ =>
    have hShort := Nat.lt_of_le_of_lt (length_trim_le cs) (w.length_lt_around cs)
    exact absurd hLength (Nat.not_le_of_lt hShort)
  | bare hBare => exact ⟨rfl, hBare⟩

/-- Of a text that may be in a wrapper, what is in it is left. -/
theorem Peeled.unique {left : List Char} (h : Peeled ws cs left)
    (hOne : ∀ w ∈ ws, ∀ v ∈ ws, w.first = v.first → w = v) (hMay : MayWrap ws inside cs)
    (hTrim : trim inside = inside) (hNot : ¬ Wrapped ws inside) : left = inside := by
  cases h with
  | off hw =>
    rcases hMay with hSame | ⟨v, hv, padded, hPadded, hEq⟩
    · exact absurd ⟨_, hw, _, hSame.symm⟩ hNot
    · obtain rfl := hOne _ hw v hv (Wrapper.first_eq_of_around hEq)
      rw [Wrapper.around_inj hEq, hPadded.trim_eq, hTrim]
  | bare hBare =>
    rcases hMay with hSame | ⟨v, hv, padded, -, hEq⟩
    · exact hSame
    · exact absurd ⟨v, hv, padded, hEq⟩ hBare

/-! ## Reading addresses -/

theorem between?_eq_some_iff :
    between? front back cs = some inside ↔ cs = front ++ inside ++ back := by
  rw [between?, Option.bind_eq_some_iff]
  constructor
  · rintro ⟨middle, hFront, hBack⟩
    rw [dropFront?_eq_some_iff.mp hFront, dropBack?_eq_some_iff.mp hBack, List.append_assoc]
  · rintro rfl
    exact ⟨inside ++ back, dropFront?_eq_some_iff.mpr (List.append_assoc ..),
      dropBack?_append inside back⟩

theorem unwrap_eq_self (h : ∀ inside, cs ≠ front ++ inside ++ back) :
    unwrap front back cs = cs := by
  rw [unwrap, Option.eq_none_iff_forall_ne_some.mpr fun inside hInside =>
    h inside (between?_eq_some_iff.mp hInside)]

theorem unwrap_of_not_front (h : ¬ front <+: cs) : unwrap front back cs = cs :=
  unwrap_eq_self fun inside hEq => h ⟨inside ++ back, by rw [hEq, List.append_assoc]⟩

/-- A wrapper that no other of some wrappers can be mistaken for is taken off as one of these. -/
theorem peeled_unwrap (hw : w ∈ ws) (hOther : ∀ v ∈ ws, ∀ inside, cs = v.around inside → v = w) :
    Peeled ws cs (unwrap (w.first :: w.more) [w.last] cs) := by
  by_cases h : ∃ inside, cs = w.around inside
  · obtain ⟨inside, rfl⟩ := h
    have hBetween : between? (w.first :: w.more) [w.last] (w.around inside) = some inside :=
      between?_eq_some_iff.mpr rfl
    rw [unwrap, hBetween]
    exact .off hw
  · rw [unwrap_eq_self fun inside hEq => h ⟨inside, hEq⟩]
    refine .bare ?_
    rintro ⟨v, hv, inside, hEq⟩
    obtain rfl := hOther v hv inside hEq
    exact h ⟨inside, hEq⟩

theorem peeled_unwrapUrl (cs : List Char) :
    Peeled [.smallUrl, .capitalUrl] cs (unwrapUrl cs) := by
  rw [unwrapUrl]
  cases hSmall : dropFront? "url(".toList cs with
  | some rest =>
    refine peeled_unwrap (w := .smallUrl) (by simp) fun v hv inside hEq => ?_
    rcases List.mem_pair.mp hv with rfl | rfl
    · rfl
    · rw [dropFront?_eq_some_iff.mp hSmall] at hEq
      cases hEq
  | none =>
    refine peeled_unwrap (w := .capitalUrl) (by simp) fun v hv inside hEq => ?_
    rcases List.mem_pair.mp hv with rfl | rfl
    · exact absurd ⟨inside ++ [')'], hEq.symm⟩ (dropFront?_eq_none_iff.mp hSmall)
    · rfl

/-- An address is read in three steps. -/
theorem peeled_normalChars (raw : List Char) :
    ∃ u d, Peeled [.smallUrl, .capitalUrl] (trim raw) u ∧ Peeled [.doubleQuotes] u d ∧
      Peeled [.singleQuotes] d (normalChars raw) :=
  ⟨_, _, peeled_unwrapUrl _, peeled_unwrap (w := .doubleQuotes) (List.mem_singleton_self _)
      fun _ hv _ _ => List.mem_singleton.mp hv,
    peeled_unwrap (w := .singleQuotes) (List.mem_singleton_self _)
      fun _ hv _ _ => List.mem_singleton.mp hv⟩

/-! ## Writing addresses -/

/-- A bare address has no blanks around it and is in no wrapper. -/
structure Bare (address : List Char) : Prop where
  trim_eq : trim address = address
  not_url : ¬ Wrapped [.smallUrl, .capitalUrl] address
  not_double : ¬ Wrapped [.doubleQuotes] address
  not_single : ¬ Wrapped [.singleQuotes] address

/-- A text writes an address: in single quotes or not, in double quotes around these or not, in
`url(..)` around these or not, and with blanks anywhere between. -/
def Writes (raw address : List Char) : Prop :=
  ∃ d u trimmed, MayWrap [.singleQuotes] address d ∧ MayWrap [.doubleQuotes] d u ∧
    MayWrap [.smallUrl, .capitalUrl] u trimmed ∧ Padded trimmed raw

theorem Writes.refl (address : List Char) : Writes address address :=
  ⟨address, address, address, .inl rfl, .inl rfl, .inl rfl, .refl address⟩

theorem writes_normalChars (raw : List Char) : Writes raw (normalChars raw) := by
  obtain ⟨u, d, hUrl, hDouble, hSingle⟩ := peeled_normalChars raw
  exact ⟨d, u, trim raw, hSingle.mayWrap, hDouble.mayWrap, hUrl.mayWrap, padded_trim raw⟩

theorem trim_normalChars (raw : List Char) : trim (normalChars raw) = normalChars raw := by
  obtain ⟨u, d, hUrl, hDouble, hSingle⟩ := peeled_normalChars raw
  exact hSingle.trim_eq (hDouble.trim_eq (hUrl.trim_eq (trimBy_trimBy isBlank raw)))

/-- A bare address is read from each text that writes it. -/
theorem normalChars_of_writes (hBare : Bare address) (h : Writes raw address) :
    normalChars raw = address := by
  obtain ⟨d, u, trimmed, hMaySingle, hMayDouble, hMayUrl, hPadded⟩ := h
  obtain ⟨u', d', hUrl, hDouble, hSingle⟩ := peeled_normalChars raw
  have hTrimD := hMaySingle.trim_eq hBare.trim_eq
  have hTrimU := hMayDouble.trim_eq hTrimD
  have hNotUrl : ¬ Wrapped [.smallUrl, .capitalUrl] u :=
    hMayDouble.not_wrapped (by decide) (hMaySingle.not_wrapped (by decide) hBare.not_url)
  have hNotDouble : ¬ Wrapped [.doubleQuotes] d :=
    hMaySingle.not_wrapped (by decide) hBare.not_double
  rw [hPadded.trim_eq, hMayUrl.trim_eq hTrimU] at hUrl
  obtain rfl := hUrl.unique (by decide) hMayUrl hTrimU hNotUrl
  obtain rfl := hDouble.unique (by decide) hMayDouble hTrimD hNotDouble
  exact hSingle.unique (by decide) hMaySingle hBare.trim_eq hBare.not_single

/-- An address that reading leaves as it is, is bare: each wrapper that is taken off makes it
shorter, and no step makes it longer. -/
theorem bare_of_normalChars_eq (h : normalChars address = address) : Bare address := by
  have hTrim : trim address = address := h ▸ trim_normalChars address
  obtain ⟨u, d, hUrl, hDouble, hSingle⟩ := peeled_normalChars address
  rw [hTrim] at hUrl
  rw [h] at hSingle
  obtain ⟨rfl, hNotUrl⟩ := hUrl.eq_of_length_le (hSingle.length_le.trans hDouble.length_le)
  obtain ⟨rfl, hNotDouble⟩ := hDouble.eq_of_length_le hSingle.length_le
  obtain ⟨-, hNotSingle⟩ := hSingle.eq_of_length_le (Nat.le_refl _)
  exact ⟨hTrim, hNotUrl, hNotDouble, hNotSingle⟩

/-- Reading an address twice is reading it once exactly for the texts that write a bare address,
and this is what is read from them. -/
theorem normalPath_normalPath_iff (raw : String) :
    (normalPath (normalPath raw) = normalPath raw ↔
      ∃ address, Bare address ∧ Writes raw.toList address) ∧
    ∀ address, Bare address → Writes raw.toList address →
      normalPath raw = String.ofList address := by
  have hRead : ∀ address, Bare address → Writes raw.toList address →
      normalPath raw = String.ofList address := fun address hBare hWrites =>
    congrArg String.ofList (normalChars_of_writes hBare hWrites)
  refine ⟨⟨fun hTwice => ?_, ?_⟩, hRead⟩
  · refine ⟨normalChars raw.toList, bare_of_normalChars_eq ?_, writes_normalChars _⟩
    rw [normalPath, normalPath, String.toList_ofList] at hTwice
    exact String.ofList_injective hTwice
  · rintro ⟨address, hBare, hWrites⟩
    rw [hRead address hBare hWrites, normalPath, String.toList_ofList,
      normalChars_of_writes hBare (.refl address)]

/-- An address in all its wrappers. -/
example : normalPath " url( \" 'Assets/a b.png' \") " = "Assets/a b.png" := by decide +kernel

/-- Double quotes in single quotes are taken off by the second reading only. -/
theorem not_normalPath_normalPath : ¬ ∀ raw, normalPath (normalPath raw) = normalPath raw := by
  intro h
  have hQuotes := h "'\"icon.png\"'"
  revert hQuotes
  decide +kernel

end AnchoredUi.Asset
