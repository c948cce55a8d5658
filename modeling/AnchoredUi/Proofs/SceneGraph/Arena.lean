import Mathlib.Data.List.Nodup
import Mathlib.Data.List.Perm.Subperm
import AnchoredUi.SceneGraph.Arena

/-!
# Sound arenas

In an arena that was filled and emptied only by its own operations, exactly the empty slots wait
to be filled again. Then the next key finds nothing yet, and a new value changes what no other key
finds.

* `Sound.find?_add`, `find?_erase`: what keys find after a value was added or erased.
* `length_le_size`: there are no more distinct keys with a value than values.
* `size_foldl_erase`: each erased key takes one value away.
-/

namespace AnchoredUi.SceneGraph.Arena

variable {α : Type}

/-- Each empty slot waits to be filled once, and no other slot does. -/
structure Sound (a : Arena α) : Prop where
  free_nodup : a.free.Nodup
  mem_free_iff : ∀ slot, slot ∈ a.free ↔ ∃ v, a.slots[slot]? = some ⟨v, none⟩

theorem find?_eq_some_iff {a : Arena α} {id : NodeId} {value : α} :
    a.find? id = some value ↔ a.slots[id.slot]? = some ⟨id.version, some value⟩ := by
  refine ⟨slot_of_find?, fun h => ?_⟩
  simp [find?, h]

theorem contains_iff {a : Arena α} {id : NodeId} :
    a.contains id = true ↔ ∃ value, a.find? id = some value := Option.isSome_iff_exists

theorem contains_of_find? {a : Arena α} {id : NodeId} {value : α} (h : a.find? id = some value) :
    a.contains id = true := contains_iff.mpr ⟨value, h⟩

/-! ## Erasing -/

theorem find?_erase (a : Arena α) (id other : NodeId) :
    (a.erase id).find? other = if other = id then none else a.find? other := by
  by_cases hId : other = id
  · rw [if_pos hId, hId]
    exact find?_erase_self a id
  rw [if_neg hId]
  by_cases hSlot : other.slot = id.slot
  · have hVersion : id.version ≠ other.version := fun h => hId (by
      cases other; cases id; simp_all)
    unfold erase
    split
    · rename_i hLive
      obtain ⟨value, hValue⟩ := contains_iff.mp hLive
      obtain ⟨hLt, hOld⟩ := List.getElem?_eq_some_iff.mp (slot_of_find? hValue)
      simp [find?, hSlot, hOld, hVersion, hLt]
    · rfl
  · exact find?_erase_other a hSlot

theorem find?_foldl_erase (ids : List NodeId) (a : Arena α) (other : NodeId) :
    (ids.foldl erase a).find? other = if other ∈ ids then none else a.find? other := by
  induction ids generalizing a with
  | nil => simp
  | cons id ids ih =>
    rw [List.foldl_cons, ih, find?_erase]
    by_cases hIds : other ∈ ids
    · simp [hIds]
    · by_cases hId : other = id <;> simp [hIds, hId]

/-! ## What keeps an arena sound -/

theorem sound_empty : (empty : Arena α).Sound := ⟨List.nodup_nil, by simp [empty]⟩

theorem Sound.nextKey_slot {a : Arena α} (h : a.Sound) :
    a.free = [] ∧ a.nextKey = ⟨a.slots.length, firstVersion⟩ ∨
      ∃ slot free v, a.free = slot :: free ∧ a.slots[slot]? = some ⟨v, none⟩ ∧
        a.nextKey = ⟨slot, v + versionStep⟩ := by
  rcases hFree : a.free with _ | ⟨slot, free⟩
  · exact Or.inl ⟨rfl, by simp [nextKey, hFree]⟩
  · obtain ⟨v, hv⟩ := (h.mem_free_iff slot).mp (by simp [hFree])
    exact Or.inr ⟨slot, free, v, rfl, hv, by simp [nextKey, hFree, versionAt, hv]⟩

/-- The next key finds nothing yet. -/
theorem Sound.find?_nextKey {a : Arena α} (h : a.Sound) : a.find? a.nextKey = none := by
  rcases h.nextKey_slot with ⟨-, hKey⟩ | ⟨slot, free, v, -, hv, hKey⟩
  · simp [find?, hKey]
  · simp [find?, hKey, hv, versionStep]

theorem Sound.nextKey_ne {a : Arena α} (h : a.Sound) {id : NodeId}
    (hLive : a.contains id = true) : id ≠ a.nextKey := by
  rintro rfl
  simp [contains, h.find?_nextKey] at hLive

theorem Sound.find?_add {a : Arena α} (h : a.Sound) (value : α) (id : NodeId) :
    (a.add value).find? id = if id = a.nextKey then some value else a.find? id := by
  have hFresh := find?_add_self a value fun slot hSlot => by
    obtain ⟨v, hv⟩ := (h.mem_free_iff slot).mp hSlot
    exact (List.getElem?_eq_some_iff.mp hv).1
  by_cases hId : id = a.nextKey
  · rw [if_pos hId, hId, hFresh]
  rw [if_neg hId]
  rcases h.nextKey_slot with ⟨hFree, hKey⟩ | ⟨slot, free, v, hFree, hv, hKey⟩
  · -- the new slot is the last one
    simp only [find?, add, hFree]
    rcases Nat.lt_trichotomy id.slot a.slots.length with hLt | hEq | hGt
    · rw [List.getElem?_append_left hLt]
    · have hVersion : firstVersion ≠ id.version := fun hv => hId (by
        rw [hKey]; cases id; simp_all)
      simp [hEq, hVersion]
    · rw [List.getElem?_eq_none (by simp; omega), List.getElem?_eq_none (by omega)]
  · -- the slot is one that had no value
    have hAt : a.versionAt slot = v := by simp [versionAt, hv]
    simp only [find?, add, hFree, hAt]
    by_cases hSlot : slot = id.slot
    · have hVersion : v + versionStep ≠ id.version := fun hv => hId (by
        rw [hKey]; cases id; simp_all)
      obtain ⟨hLt, hOld⟩ := List.getElem?_eq_some_iff.mp hv
      subst hSlot
      simp [hVersion, hOld, hLt]
    · simp [hSlot]

theorem Sound.add {a : Arena α} (h : a.Sound) (value : α) : (a.add value).Sound := by
  rcases h.nextKey_slot with ⟨hFree, -⟩ | ⟨slot, free, v, hFree, hv, -⟩
  · refine ⟨by simp [Arena.add, hFree], fun i => ?_⟩
    have hNone := h.mem_free_iff i
    simp only [Arena.add, hFree, List.not_mem_nil, false_iff] at hNone ⊢
    rintro ⟨w, hw⟩
    rcases Nat.lt_or_ge i a.slots.length with hLt | hGe
    · rw [List.getElem?_append_left hLt] at hw
      exact hNone ⟨w, hw⟩
    · rw [List.getElem?_append_right hGe] at hw
      cases hk : i - a.slots.length <;> simp [hk] at hw
  · have hNodup := h.free_nodup
    rw [hFree, List.nodup_cons] at hNodup
    have hLt := (List.getElem?_eq_some_iff.mp hv).1
    refine ⟨by simp [Arena.add, hFree, hNodup.2], fun i => ?_⟩
    have hMem := h.mem_free_iff i
    simp only [hFree, List.mem_cons] at hMem
    simp only [Arena.add, hFree, List.getElem?_set]
    by_cases hi : slot = i
    · subst hi
      simp [hNodup.1, hLt]
    · rw [if_neg hi, ← hMem]
      simp [Ne.symm hi]

theorem Sound.erase {a : Arena α} (h : a.Sound) (id : NodeId) : (a.erase id).Sound := by
  unfold Arena.erase
  split
  · rename_i hLive
    obtain ⟨value, hValue⟩ := contains_iff.mp hLive
    have hOld := slot_of_find? hValue
    have hLt := (List.getElem?_eq_some_iff.mp hOld).1
    have hFull : id.slot ∉ a.free := fun hMem => by
      obtain ⟨v, hv⟩ := (h.mem_free_iff _).mp hMem
      rw [hOld] at hv
      cases hv
    refine ⟨List.nodup_cons.mpr ⟨hFull, h.free_nodup⟩, fun i => ?_⟩
    simp only [List.mem_cons, List.getElem?_set]
    by_cases hi : id.slot = i
    · subst hi
      simp [hLt]
    · rw [if_neg hi, ← h.mem_free_iff i]
      simp [Ne.symm hi]
  · exact h

theorem Sound.foldl_erase {a : Arena α} (h : a.Sound) (ids : List NodeId) :
    (ids.foldl Arena.erase a).Sound := by
  induction ids generalizing a with
  | nil => exact h
  | cons id ids ih => exact ih (h.erase id)

theorem Sound.modify {a : Arena α} (h : a.Sound) (id : NodeId) (f : α → α) :
    (a.modify id f).Sound := by
  unfold Arena.modify
  split
  · rename_i value hValue
    obtain ⟨hLt, hOld⟩ := List.getElem?_eq_some_iff.mp (slot_of_find? hValue)
    refine ⟨h.free_nodup, fun i => ?_⟩
    rw [h.mem_free_iff i]
    simp only [List.getElem?_set]
    by_cases hi : id.slot = i
    · subst hi
      simp [hOld, hLt]
    · rw [if_neg hi]
  · exact h

/-- Changing a value into itself changes nothing. -/
theorem modify_eq_self {a : Arena α} {id : NodeId} {f : α → α}
    (h : ∀ value, a.find? id = some value → f value = value) : a.modify id f = a := by
  unfold modify
  split
  · rename_i value hFind
    obtain ⟨hLt, hGet⟩ := List.getElem?_eq_some_iff.mp (slot_of_find? hFind)
    rw [h value hFind, ← hGet, List.set_getElem_self]
  · rfl

/-! ## Counting -/

/-- The keys with a value in slots that are counted from a given place on. -/
def keysFrom : Nat → List (Slot α) → List NodeId
  | _, [] => []
  | i, s :: slots =>
    match s.value with
    | some _ => ⟨i, s.version⟩ :: keysFrom (i + 1) slots
    | none => keysFrom (i + 1) slots

/-- The keys with a value, in the order of their slots. -/
def keys (a : Arena α) : List NodeId := keysFrom 0 a.slots

theorem length_keys (a : Arena α) : a.keys.length = a.size := by
  suffices h : ∀ (slots : List (Slot α)) (i : Nat),
      (keysFrom i slots).length = slots.countP fun s => s.value.isSome from h _ _
  intro slots
  induction slots with
  | nil => intro i; rfl
  | cons s slots ih =>
    intro i
    obtain ⟨v, x⟩ := s
    cases x <;> simp [keysFrom, ih]

theorem mem_keysFrom {slots : List (Slot α)} {i : Nat} {id : NodeId} :
    id ∈ keysFrom i slots ↔
      ∃ k value, id.slot = i + k ∧ slots[k]? = some ⟨id.version, some value⟩ := by
  induction slots generalizing i with
  | nil => simp [keysFrom]
  | cons s slots ih =>
    have hTail : id ∈ keysFrom (i + 1) slots ↔ ∃ k value, id.slot = i + (k + 1) ∧
        slots[k]? = some ⟨id.version, some value⟩ := by
      rw [ih]
      simp only [Nat.add_assoc, Nat.add_comm 1]
    have hHead : id = ⟨i, s.version⟩ ∧ s.value.isSome = true ↔ ∃ value, id.slot = i ∧
        s = ⟨id.version, some value⟩ := by
      obtain ⟨v, x⟩ := s
      obtain ⟨j, w⟩ := id
      cases x <;> simp [eq_comm]
    have hCons : id ∈ keysFrom i (s :: slots) ↔
        (id = ⟨i, s.version⟩ ∧ s.value.isSome = true) ∨ id ∈ keysFrom (i + 1) slots := by
      obtain ⟨v, x⟩ := s
      cases x <;> simp [keysFrom]
    rw [hCons, hHead, hTail]
    constructor
    · rintro (⟨value, hi, hs⟩ | ⟨k, value, hi, hk⟩)
      · exact ⟨0, value, hi, by simp [hs]⟩
      · exact ⟨k + 1, value, hi, by simpa using hk⟩
    · rintro ⟨k, value, hi, hk⟩
      cases k with
      | zero => exact Or.inl ⟨value, hi, by simpa using hk⟩
      | succ k => exact Or.inr ⟨k, value, hi, by simpa using hk⟩

theorem mem_keys {a : Arena α} {id : NodeId} : id ∈ a.keys ↔ a.contains id = true := by
  rw [contains_iff, keys, mem_keysFrom]
  simp [find?_eq_some_iff]

/-- Distinct keys with a value are at most as many as the values. -/
theorem length_le_size {a : Arena α} {ids : List NodeId} (hNodup : ids.Nodup)
    (hLive : ∀ id ∈ ids, a.contains id = true) : ids.length ≤ a.size := by
  rw [← length_keys]
  exact (hNodup.subperm fun id hId => mem_keys.mpr (hLive id hId)).length_le

/-- How many values there are when a full slot is replaced. -/
theorem size_replace {a : Arena α} {id : NodeId} {value : α} (h : a.find? id = some value)
    (slot : Slot α) :
    ((a.slots.set id.slot slot).countP fun s => s.value.isSome) + 1 =
      a.size + if slot.value.isSome then 1 else 0 := by
  obtain ⟨hLt, hGet⟩ := List.getElem?_eq_some_iff.mp (slot_of_find? h)
  have hPos : 0 < a.slots.countP fun s => s.value.isSome :=
    List.countP_pos_iff.mpr ⟨_, List.getElem_mem hLt, by simp [hGet]⟩
  rw [List.countP_set hLt, size]
  simp only [hGet, Option.isSome_some, if_true]
  omega

theorem size_modify (a : Arena α) (id : NodeId) (f : α → α) : (a.modify id f).size = a.size := by
  unfold modify
  split
  · rename_i value hValue
    have hSize := size_replace hValue ⟨id.version, some (f value)⟩
    simpa [size] using hSize
  · rfl

theorem size_erase {a : Arena α} {id : NodeId} (h : a.contains id = true) :
    (a.erase id).size + 1 = a.size := by
  obtain ⟨value, hValue⟩ := contains_iff.mp h
  have hSize := size_replace hValue ⟨id.version, none⟩
  rw [erase, if_pos h]
  simpa [size] using hSize

/-- Erasing distinct keys that all have a value takes as many values away. -/
theorem size_foldl_erase {ids : List NodeId} {a : Arena α} (hNodup : ids.Nodup)
    (hLive : ∀ id ∈ ids, a.contains id = true) :
    (ids.foldl erase a).size + ids.length = a.size := by
  induction ids generalizing a with
  | nil => rfl
  | cons id ids ih =>
    obtain ⟨hNew, hNodup⟩ := List.nodup_cons.mp hNodup
    have hFirst := size_erase (hLive id List.mem_cons_self)
    have hRest := ih (a := a.erase id) hNodup fun other hOther => by
      have hNe : other ≠ id := fun hEq => hNew (hEq ▸ hOther)
      have hOld := hLive other (List.mem_cons_of_mem _ hOther)
      rwa [contains, find?_erase, if_neg hNe]
    rw [List.foldl_cons, List.length_cons]
    omega

end AnchoredUi.SceneGraph.Arena
