import AnchoredUi.Text.Hidden

/-!
# Quoted texts

A text in double quotes: quotes and backslashes are escaped, the common controls have letters of
their own, and hidden characters are shown by their code points.

* `quote_plain`: a text of plain characters is only wrapped in quotes.
-/

namespace AnchoredUi.Text

/-- The digits of a number to the base sixteen, in small letters. -/
def hexDigits (n : Nat) : List Char := Nat.toDigits 16 n

/-- How a character is written inside quotes. -/
def quoteChar (c : Char) : List Char :=
  if c = '"' then ['\\', '"']
  else if c = '\\' then ['\\', '\\']
  else if c = '\t' then ['\\', 't']
  else if c = '\n' then ['\\', 'n']
  else if c = '\r' then ['\\', 'r']
  else if c.toNat = 0 then ['\\', '0']
  else if isHidden c then ['\\', 'u', '\x7b'] ++ hexDigits c.toNat ++ ['\x7d']
  else [c]

/-- The text in double quotes. -/
def quote (cs : List Char) : List Char := '"' :: cs.flatMap quoteChar ++ ['"']

/-- A text in double quotes. -/
def quoted (s : String) : String := String.ofList (quote s.toList)

/-- A character that stands for itself inside quotes. -/
def isPlain (c : Char) : Bool := quoteChar c == [c]

theorem quote_plain {cs : List Char} (h : ∀ c ∈ cs, isPlain c = true) :
    quote cs = '"' :: cs ++ ['"'] := by
  have : cs.flatMap quoteChar = cs := by
    induction cs with
    | nil => rfl
    | cons c cs ih =>
      have hc : quoteChar c = [c] := by simpa [isPlain] using h c List.mem_cons_self
      rw [List.flatMap_cons, hc, ih fun d hd => h d (List.mem_cons_of_mem _ hd)]
      rfl
  simp [quote, this]

end AnchoredUi.Text
