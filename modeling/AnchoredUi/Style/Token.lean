import AnchoredUi.Style.Pattern
import AnchoredUi.Text.Quoted

/-!
# Tokens of style values

A style value is a sequence of tokens with skipped characters between them. The table gives each
kind of token its pattern; the longest match wins, and of equally long ones the first in the
table. A hyphen binds the characters of names behind it into one piece: where the longest match
is shorter than that piece, as the number in `-1x`, no token fits.

* `pick_matches`, `pick_max`: the match found is one, and no pattern matches a longer beginning
  of the text.
* `scan_length_lt`: every token is non-empty, so reading goes on to the end of the text.
-/

namespace AnchoredUi.Style

open Text Pattern

/-- The kinds of tokens. -/
inductive TokenKind where
  | important
  | hexColor
  | dimension
  | function
  | doubleQuoted
  | singleQuoted
  | number
  | name
  | close
  | comma
  | slash
  deriving DecidableEq, Repr

/-- A token with its text. -/
structure Token where
  kind : TokenKind
  text : List Char
  deriving DecidableEq, Repr

/-- The place where no token fits, counted in bytes, and the text found there. -/
structure LexFault where
  position : Nat
  fragment : List Char
  deriving DecidableEq, Repr

/-- What is reported about a place where no token fits. -/
def LexFault.message (f : LexFault) : String :=
  "unexpected " ++ String.ofList (quote f.fragment) ++ " at byte " ++ toString f.position

/-! ## The token table -/

/-- A decimal digit. -/
def digit : Pattern := .one Char.isDigit

/-- A character that may start a name. -/
def isNameStart (c : Char) : Bool := c.isAlpha || c == '_'

/-- A character that may go on a name. -/
def isNameChar (c : Char) : Bool := c.isAlphanum || c == '_' || c == '-'

/-- A digit to the base sixteen. -/
def isHexDigit (c : Char) : Bool :=
  c.isDigit || ('a' ≤ c && c ≤ 'f') || ('A' ≤ c && c ≤ 'F')

/-- Digits with or without a fraction, or a fraction alone. -/
def unsignedNumber : Pattern :=
  .either (.seq (oneOrMore digit) (optional (.seq (char '.') (oneOrMore digit))))
    (.seq (char '.') (oneOrMore digit))

/-- A number with an optional minus sign. -/
def signedNumber : Pattern := .seq (optional (char '-')) unsignedNumber

/-- The units that are read as part of a number. -/
def unitNames : List String := ["px", "%", "em", "rem", "vw", "vh", "deg"]

namespace TokenKind

/-- The pattern of a kind of token. -/
def pattern : TokenKind → Pattern
  | important => literal "!important".toList
  | hexColor => .seq (char '#') (repeated (.one isHexDigit) 3 5)
  | dimension => .seq signedNumber (anyOf (unitNames.map fun u => literal u.toList))
  | function =>
    .seq (.one fun c => isNameStart c || c == '-') (.seq (.many (.one isNameChar)) (char '('))
  | doubleQuoted => .seq (char '"') (.seq (.many (.one (· != '"'))) (char '"'))
  | singleQuoted => .seq (char '\'') (.seq (.many (.one (· != '\''))) (char '\''))
  | number => signedNumber
  | name => .seq (optional (char '-')) (.seq (.one isNameStart) (.many (.one isNameChar)))
  | close => char ')'
  | comma => char ','
  | slash => char '/'

/-- All kinds, the preferred ones first. -/
def table : List TokenKind :=
  [important, hexColor, dimension, function, doubleQuoted, singleQuoted, number, name, close,
    comma, slash]

theorem mem_table (k : TokenKind) : k ∈ table := by
  cases k <;> decide

end TokenKind

/-! ## Taking a token -/

/-- The longest match of the kinds, the first of equally long ones. -/
def pickFrom (cs : List Char) : List TokenKind → Option (TokenKind × Nat)
  | [] => none
  | k :: ks =>
    match k.pattern.longest cs, pickFrom cs ks with
    | none, rest => rest
    | some n, none => some (k, n)
    | some n, some (k', n') => if n < n' then some (k', n') else some (k, n)

/-- The kind and the length of the token at the start of a text. -/
def pick (cs : List Char) : Option (TokenKind × Nat) := pickFrom cs TokenKind.table

theorem pickFrom_matches {cs : List Char} {ks : List TokenKind} {k : TokenKind} {n : Nat}
    (h : pickFrom cs ks = some (k, n)) : k ∈ ks ∧ k.pattern.longest cs = some n := by
  induction ks with
  | nil => simp [pickFrom] at h
  | cons j ks ih =>
    simp only [pickFrom] at h
    split at h
    · obtain ⟨h1, h2⟩ := ih h
      exact ⟨List.mem_cons_of_mem _ h1, h2⟩
    · rename_i m hj _
      simp only [Option.some.injEq, Prod.mk.injEq] at h
      obtain ⟨rfl, rfl⟩ := h
      exact ⟨List.mem_cons_self, hj⟩
    · rename_i m k' n' hj hrest
      split at h
      · rw [← hrest] at h
        obtain ⟨h1, h2⟩ := ih h
        exact ⟨List.mem_cons_of_mem _ h1, h2⟩
      · simp only [Option.some.injEq, Prod.mk.injEq] at h
        obtain ⟨rfl, rfl⟩ := h
        exact ⟨List.mem_cons_self, hj⟩

theorem pickFrom_max {cs : List Char} {ks : List TokenKind} {j : TokenKind} {m : Nat}
    (hj : j ∈ ks) (h : j.pattern.longest cs = some m) :
    ∃ k n, pickFrom cs ks = some (k, n) ∧ m ≤ n := by
  induction ks with
  | nil => cases hj
  | cons i ks ih =>
    rcases List.mem_cons.mp hj with rfl | hmem
    · cases hr : pickFrom cs ks with
      | none => exact ⟨j, m, by simp [pickFrom, h, hr], Nat.le_refl _⟩
      | some r =>
        by_cases hlt : m < r.2
        · exact ⟨r.1, r.2, by simp [pickFrom, h, hr, hlt], by omega⟩
        · exact ⟨j, m, by simp [pickFrom, h, hr, hlt], Nat.le_refl _⟩
    · obtain ⟨k, n, hk, hle⟩ := ih hmem
      cases hi : i.pattern.longest cs with
      | none => exact ⟨k, n, by simp [pickFrom, hi, hk], hle⟩
      | some r =>
        by_cases hlt : r < n
        · exact ⟨k, n, by simp [pickFrom, hi, hk, hlt], hle⟩
        · exact ⟨i, r, by simp [pickFrom, hi, hk, hlt], by omega⟩

theorem pick_matches {cs : List Char} {k : TokenKind} {n : Nat} (h : pick cs = some (k, n)) :
    n ≤ cs.length ∧ Matches k.pattern (cs.take n) :=
  longest_matches (pickFrom_matches h).2

theorem pick_max {cs : List Char} {j : TokenKind} {m : Nat} (hm : m ≤ cs.length)
    (h : Matches j.pattern (cs.take m)) : ∃ k n, pick cs = some (k, n) ∧ m ≤ n := by
  obtain ⟨n', hn', hle⟩ := longest_max hm h
  obtain ⟨k, n, hk, hle'⟩ := pickFrom_max (TokenKind.mem_table j) hn'
  exact ⟨k, n, hk, by omega⟩

/-! ## Reading a text -/

/-- A character that separates tokens. -/
def isSkipped (c : Char) : Bool :=
  c == ' ' || c == '\t' || c == '\n' || c == '\r' || c == '\x0c'

/-- The length of a text in bytes. -/
def byteLength (cs : List Char) : Nat := cs.foldl (fun n c => n + c.utf8Size) 0

/-- The hyphen at the start of a text with all characters of names behind it; a text that starts
otherwise has none. It is one piece: a token that covers only a part of it is no token. -/
def hyphenRun : List Char → List Char
  | '-' :: cs => '-' :: cs.takeWhile isNameChar
  | _ => []

/-- The text that no token fits: an unclosed quote reaches to the end, a hyphen takes the name
behind it along, anything else is a single character. -/
def misfit : List Char → List Char
  | [] => []
  | c :: cs =>
    if c = '"' ∨ c = '\'' then c :: cs
    else if c = '-' then hyphenRun (c :: cs)
    else [c]

/-- What stands at the start of a text: nothing, a token and what follows it, or a misfit. -/
inductive Scanned where
  | finished
  | token (kind : TokenKind) (length : Nat)
  | fault (fragment : List Char)

/-- Reads one token: the longest match, unless it ends inside the run of a leading hyphen. -/
def scan (cs : List Char) : Scanned :=
  if cs = [] then .finished
  else
    match pick cs with
    | some (k, n + 1) =>
      if n + 1 < (hyphenRun cs).length then .fault (misfit cs) else .token k (n + 1)
    | _ => .fault (misfit cs)

theorem scan_length_lt {cs : List Char} {k : TokenKind} {n : Nat} (h : scan cs = .token k n) :
    cs.length - n < cs.length := by
  unfold scan at h
  split at h
  · cases h
  · rename_i hne
    split at h
    · split at h
      · cases h
      · simp only [Scanned.token.injEq] at h
        have := List.length_pos_iff.mpr hne
        omega
    · cases h

/-- Reads the tokens of a text that starts at a byte position. -/
def tokensFrom (position : Nat) (cs : List Char) : Except LexFault (List Token) :=
  let rest := cs.dropWhile isSkipped
  let start := position + byteLength (cs.takeWhile isSkipped)
  match h : scan rest with
  | .finished => .ok []
  | .fault fragment => .error ⟨start, fragment⟩
  | .token kind n =>
    let text := rest.take n
    have : (cs.dropWhile isSkipped).length - n < cs.length :=
      Nat.lt_of_lt_of_le (scan_length_lt h) (List.dropWhile_suffix isSkipped).length_le
    (tokensFrom (start + byteLength text) (rest.drop n)).map (⟨kind, text⟩ :: ·)
termination_by cs.length

/-- The tokens of a text, or the first place where no token fits. -/
def tokens (cs : List Char) : Except LexFault (List Token) := tokensFrom 0 cs

end AnchoredUi.Style
