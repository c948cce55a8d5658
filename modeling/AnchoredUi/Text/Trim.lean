/-!
# Blanks and trimming

A blank is any space, line or paragraph separator of any script, or one of the layout controls.

* `trimBy_trimBy`: trimming twice is trimming once.
* `trimBy_eq_nil_iff`: what trims to nothing holds nothing but the trimmed characters.
-/

namespace AnchoredUi.Text

/-- A character that separates words. -/
def isBlank (c : Char) : Bool :=
  let n := c.toNat
  (9 ≤ n && n ≤ 13) || n == 0x20 || n == 0x85 || n == 0xA0 || n == 0x1680 ||
    (0x2000 ≤ n && n ≤ 0x200A) || n == 0x2028 || n == 0x2029 || n == 0x202F || n == 0x205F ||
    n == 0x3000

/-- The text without the characters of a class at its end. -/
def trimEndBy (p : Char → Bool) (cs : List Char) : List Char := (cs.reverse.dropWhile p).reverse

/-- The text without the characters of a class at either end. -/
def trimBy (p : Char → Bool) (cs : List Char) : List Char := trimEndBy p (cs.dropWhile p)

/-- The text without blanks at either end. -/
def trim (cs : List Char) : List Char := trimBy isBlank cs

/-- A text without blanks at either end. -/
def trimmed (s : String) : String := String.ofList (trim s.toList)

/-- A text of blanks only. -/
def isBlankText (s : String) : Bool := s.toList.all isBlank

/-- The maximal runs of other characters between the characters of a class. -/
def runsOutside (p : Char → Bool) (cs : List Char) : List (List Char) :=
  (cs.splitOnP p).filter (· ≠ [])

/-- The words of a text: its maximal runs without blanks. -/
def words (cs : List Char) : List (List Char) := runsOutside isBlank cs

/-! ## Laws of trimming -/

theorem dropWhile_eq_self_of_head {p : Char → Bool} {cs : List Char}
    (h : ∀ c, cs.head? = some c → p c = false) : cs.dropWhile p = cs := by
  cases cs with
  | nil => rfl
  | cons c cs => simp [h c rfl]

theorem dropWhile_eq_nil {p : Char → Bool} {cs : List Char} :
    cs.dropWhile p = [] ↔ ∀ c ∈ cs, p c = true := by
  induction cs with
  | nil => simp
  | cons c cs ih => by_cases h : p c <;> simp [h, ih]

theorem head_dropWhile {p : Char → Bool} {cs : List Char} {c : Char}
    (h : (cs.dropWhile p).head? = some c) : p c = false := by
  induction cs with
  | nil => simp at h
  | cons d cs ih =>
    rw [List.dropWhile_cons] at h
    split at h
    · exact ih h
    · rename_i hd
      simp only [List.head?_cons, Option.some.injEq] at h
      subst h
      simpa using hd

theorem trimEndBy_trimEndBy {p : Char → Bool} (cs : List Char) :
    trimEndBy p (trimEndBy p cs) = trimEndBy p cs := by
  simp only [trimEndBy, List.reverse_reverse]
  rw [dropWhile_eq_self_of_head fun c h => head_dropWhile h]

/-- Trimming the end leaves the first character, unless nothing is left. -/
theorem head_trimEndBy {p : Char → Bool} {cs : List Char} {c : Char}
    (h : (trimEndBy p cs).head? = some c) : cs.head? = some c := by
  obtain ⟨t, ht⟩ := List.dropWhile_suffix (l := cs.reverse) p
  have hcs : cs = trimEndBy p cs ++ t.reverse := by
    have := congrArg List.reverse ht
    rw [List.reverse_append, List.reverse_reverse] at this
    exact this.symm
  rw [hcs]
  cases hd : trimEndBy p cs with
  | nil => simp [hd] at h
  | cons d ds =>
    rw [hd] at h
    simpa using h

theorem trimBy_trimBy (p : Char → Bool) (cs : List Char) :
    trimBy p (trimBy p cs) = trimBy p cs := by
  unfold trimBy
  have h : (trimEndBy p (cs.dropWhile p)).dropWhile p = trimEndBy p (cs.dropWhile p) :=
    dropWhile_eq_self_of_head fun c hc => head_dropWhile (head_trimEndBy hc)
  rw [h, trimEndBy_trimEndBy]

theorem trimBy_eq_nil_iff (p : Char → Bool) (cs : List Char) :
    trimBy p cs = [] ↔ ∀ c ∈ cs, p c = true := by
  constructor
  · intro h
    have h1 : (cs.dropWhile p).reverse.dropWhile p = [] := by
      simpa [trimBy, trimEndBy] using h
    have h2 : ∀ c ∈ cs.dropWhile p, p c = true := by
      intro c hc
      have := (dropWhile_eq_nil.mp h1) c
      exact this (List.mem_reverse.mpr hc)
    cases hd : cs.dropWhile p with
    | nil => exact dropWhile_eq_nil.mp hd
    | cons d ds =>
      have hf : p d = false := head_dropWhile (by rw [hd]; rfl)
      have ht : p d = true := h2 d (by rw [hd]; exact List.mem_cons_self)
      rw [hf] at ht
      cases ht
  · intro h
    have : cs.dropWhile p = [] := dropWhile_eq_nil.mpr h
    simp [trimBy, trimEndBy, this]

end AnchoredUi.Text
