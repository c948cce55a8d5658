/-!
# Catalogs

A catalog is a list of entries, each filed under a key. An entry with a new key goes to the end;
an entry with a known key takes the place of the old one.

* `find?_put_self`, `find?_put_other`: an entry is found under its key, and all other keys keep
  theirs.
* `keys_put`: filing an entry adds its key at the end, or nothing if the key is known.
-/

namespace AnchoredUi

/-- Entries in the order in which their keys first came. -/
structure Catalog {α κ : Type} (key : α → κ) where
  entries : List α
  deriving DecidableEq

namespace Catalog

variable {α κ : Type} {key : α → κ}

/-- No entries. -/
def empty : Catalog key := ⟨[]⟩

instance : Inhabited (Catalog key) := ⟨empty⟩

/-- The number of entries. -/
def size (c : Catalog key) : Nat := c.entries.length

/-- There are no entries. -/
def isEmpty (c : Catalog key) : Bool := c.entries.isEmpty

/-- The keys in order. -/
def keys (c : Catalog key) : List κ := c.entries.map key

variable [DecidableEq κ]

/-- A list of entries with one more entry filed. -/
def place (key : α → κ) (e : α) : List α → List α
  | [] => [e]
  | x :: xs => if key x = key e then e :: xs else x :: place key e xs

/-- The catalog with one more entry filed. -/
def put (c : Catalog key) (e : α) : Catalog key := ⟨place key e c.entries⟩

/-- The catalog of a list of entries, filed one after the other. -/
def ofList (es : List α) : Catalog key := es.foldl put empty

/-- The entry under a key. -/
def find? (c : Catalog key) (k : κ) : Option α := c.entries.find? fun e => key e = k

/-- There is an entry under a key. -/
def contains (c : Catalog key) (k : κ) : Bool := (c.find? k).isSome

/-! ## Filing and finding -/

@[simp] theorem find?_empty (k : κ) : (empty : Catalog key).find? k = none := rfl

theorem find?_put_self (c : Catalog key) (e : α) : (c.put e).find? (key e) = some e := by
  show (place key e c.entries).find? _ = some e
  induction c.entries with
  | nil => simp [place]
  | cons x xs ih =>
    by_cases h : key x = key e
    · simp [place, h]
    · simpa [place, h] using ih

theorem find?_put_other (c : Catalog key) {e : α} {k : κ} (hk : key e ≠ k) :
    (c.put e).find? k = c.find? k := by
  show (place key e c.entries).find? _ = c.entries.find? _
  induction c.entries with
  | nil => simp [place, hk]
  | cons x xs ih =>
    by_cases h : key x = key e
    · have hx : key x ≠ k := fun hx => hk (h ▸ hx)
      simp [place, h, hk]
    · by_cases hx : key x = k
      · subst hx
        simp [place, h]
      · simpa [place, h, hx] using ih

theorem keys_put (c : Catalog key) (e : α) :
    (c.put e).keys = if key e ∈ c.keys then c.keys else c.keys ++ [key e] := by
  show (place key e c.entries).map key = _
  unfold keys
  induction c.entries with
  | nil => simp [place]
  | cons x xs ih =>
    by_cases h : key x = key e
    · simp [place, h]
    · have h' : ¬ key e = key x := fun he => h he.symm
      simp only [place, h, if_false, List.map_cons, ih, List.mem_cons, h', false_or]
      split <;> simp

end Catalog

end AnchoredUi
