/-!
# Arenas

An arena keeps values in slots. A key is the place of a slot together with its version; emptying
a slot makes its key useless for ever, since a slot that is filled again gets a higher version.
The slot emptied last is filled first.

* `find?_modify`: changing a value changes what its key finds, and nothing else.
* `find?_erase_self`: an erased key finds nothing.
* `find?_add_self`: a key finds the value that it was given for.
-/

namespace AnchoredUi.SceneGraph

/-- The key of a node: a slot, counted from zero, and its version. -/
structure NodeId where
  slot : Nat
  version : Nat
  deriving DecidableEq, Repr

/-- A key in short, with the slot counted from one. -/
def NodeId.toText (id : NodeId) : String :=
  toString (id.slot + 1) ++ "v" ++ toString id.version

/-- A place for a value, with the version of its last key. -/
structure Slot (α : Type) where
  version : Nat
  value : Option α
  deriving DecidableEq

/-- Slots, and the places of the empty ones, the last emptied first. -/
structure Arena (α : Type) where
  slots : List (Slot α)
  free : List Nat
  deriving DecidableEq

namespace Arena

variable {α : Type}

/-- No slots. -/
def empty : Arena α := ⟨[], []⟩

instance : Inhabited (Arena α) := ⟨empty⟩

/-- The value of a key. -/
def find? (a : Arena α) (id : NodeId) : Option α :=
  match a.slots[id.slot]? with
  | some s => if s.version = id.version then s.value else none
  | none => none

/-- The key has a value. -/
def contains (a : Arena α) (id : NodeId) : Bool := (a.find? id).isSome

/-- The number of values. -/
def size (a : Arena α) : Nat := a.slots.countP fun s => s.value.isSome

/-- The version of a slot. -/
def versionAt (a : Arena α) (slot : Nat) : Nat :=
  match a.slots[slot]? with
  | some s => s.version
  | none => 0

/-- The first version of a slot. -/
def firstVersion : Nat := 1

/-- How far the version of a slot rises when it is filled again. -/
def versionStep : Nat := 2

/-- The key that the next value gets. -/
def nextKey (a : Arena α) : NodeId :=
  match a.free with
  | [] => ⟨a.slots.length, firstVersion⟩
  | slot :: _ => ⟨slot, a.versionAt slot + versionStep⟩

/-- The arena with one more value, under the next key. -/
def add (a : Arena α) (value : α) : Arena α :=
  match a.free with
  | [] => { a with slots := a.slots ++ [⟨firstVersion, some value⟩] }
  | slot :: free => ⟨a.slots.set slot ⟨a.versionAt slot + versionStep, some value⟩, free⟩

/-- The arena without the value of a key. -/
def erase (a : Arena α) (id : NodeId) : Arena α :=
  if a.contains id then ⟨a.slots.set id.slot ⟨id.version, none⟩, id.slot :: a.free⟩ else a

/-- The arena with the value of a key changed. -/
def modify (a : Arena α) (id : NodeId) (f : α → α) : Arena α :=
  match a.find? id with
  | some value => { a with slots := a.slots.set id.slot ⟨id.version, some (f value)⟩ }
  | none => a

/-! ## What keys find -/

theorem slot_of_find? {a : Arena α} {id : NodeId} {value : α} (h : a.find? id = some value) :
    a.slots[id.slot]? = some ⟨id.version, some value⟩ := by
  unfold find? at h
  split at h
  · rename_i s hs
    split at h
    · rename_i hv
      rw [hs]
      obtain ⟨v, x⟩ := s
      simp only at hv h
      rw [hv, h]
    · cases h
  · cases h

theorem find?_modify (a : Arena α) (id other : NodeId) (f : α → α) :
    (a.modify id f).find? other =
      if other = id then (a.find? other).map f else a.find? other := by
  unfold modify
  split
  · rename_i value hv
    have hs := slot_of_find? hv
    have hlt : id.slot < a.slots.length := (List.getElem?_eq_some_iff.mp hs).1
    by_cases ho : other = id
    · subst ho
      rw [if_pos rfl, hv]
      simp [find?, hlt]
    · rw [if_neg ho]
      by_cases hslot : other.slot = id.slot
      · have hver : ¬ id.version = other.version := fun e => ho (by
          cases other
          cases id
          simp only at hslot e
          rw [hslot, e])
        have hnone : a.find? other = none := by
          unfold find?
          rw [hslot, hs]
          simp [hver]
        rw [hnone]
        simp [find?, hslot, hver, hlt]
      · have : ¬ id.slot = other.slot := fun e => hslot e.symm
        simp [find?, this]
  · rename_i hn
    by_cases ho : other = id
    · subst ho
      simp [hn]
    · rw [if_neg ho]

theorem find?_erase_self (a : Arena α) (id : NodeId) : (a.erase id).find? id = none := by
  unfold erase
  split
  · rename_i h
    obtain ⟨value, hv⟩ := Option.isSome_iff_exists.mp h
    have hlt : id.slot < a.slots.length :=
      (List.getElem?_eq_some_iff.mp (slot_of_find? hv)).1
    simp [find?, hlt]
  · rename_i h
    simpa [contains] using h

theorem find?_erase_other (a : Arena α) {id other : NodeId} (h : other.slot ≠ id.slot) :
    (a.erase id).find? other = a.find? other := by
  unfold erase
  split
  · have : ¬ id.slot = other.slot := fun e => h e.symm
    simp [find?, this]
  · rfl

theorem find?_add_self (a : Arena α) (value : α) (h : ∀ slot ∈ a.free, slot < a.slots.length) :
    (a.add value).find? a.nextKey = some value := by
  obtain ⟨slots, free⟩ := a
  cases free with
  | nil => simp [add, nextKey, find?]
  | cons slot free =>
    have hlt : slot < slots.length := h slot List.mem_cons_self
    simp [add, nextKey, find?, hlt]

end Arena

end AnchoredUi.SceneGraph
