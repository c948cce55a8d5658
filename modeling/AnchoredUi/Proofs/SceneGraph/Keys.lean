import AnchoredUi.Proofs.SceneGraph.Operation

/-!
# Keys that were given out

A slot that is filled again gets a higher version, and versions are counted without bound, so the
slots of an arena only grow older. A key is issued once its slot has come to its version. The next
key is never an issued one, and only the next key ever gets a new node; so a key whose node is gone
stays dead, whatever lies in its slot now.

* `Outcome.ages`, `Outcome.contains`: what one operation does to slots and to keys.
* `Forest.nodup_keys`: along a run, no key is given out twice.
* `dead_of_gone`: along a run, the keys of removed nodes stay dead.
-/

namespace AnchoredUi.SceneGraph

namespace Arena

variable {α : Type} {a b c : Arena α} {id : NodeId}

/-- No slot is lost, and the version of no slot falls. -/
def Ages (a b : Arena α) : Prop :=
  ∀ (i : Nat) (slot : Slot α), a.slots[i]? = some slot →
    ∃ later : Slot α, b.slots[i]? = some later ∧ slot.version ≤ later.version

theorem Ages.refl (a : Arena α) : a.Ages a := fun _ slot h => ⟨slot, h, Nat.le_refl _⟩

theorem Ages.trans (h : a.Ages b) (h' : b.Ages c) : a.Ages c := by
  intro i slot hSlot
  obtain ⟨later, hLater, hLe⟩ := h i slot hSlot
  obtain ⟨last, hLast, hLe'⟩ := h' i later hLater
  exact ⟨last, hLast, Nat.le_trans hLe hLe'⟩

theorem ages_set {i : Nat} {old new : Slot α} (hOld : a.slots[i]? = some old)
    (hVersion : old.version ≤ new.version) (free : List Nat) :
    a.Ages ⟨a.slots.set i new, free⟩ := by
  intro j slot hSlot
  obtain ⟨hLt, -⟩ := List.getElem?_eq_some_iff.mp hOld
  by_cases hij : i = j
  · subst hij
    rw [hOld] at hSlot
    cases hSlot
    exact ⟨new, by simp [hLt], hVersion⟩
  · exact ⟨slot, by simpa [hij] using hSlot, Nat.le_refl _⟩

theorem ages_modify (a : Arena α) (id : NodeId) (f : α → α) : a.Ages (a.modify id f) := by
  unfold modify
  split
  · rename_i value hValue
    exact ages_set (slot_of_find? hValue) (Nat.le_refl id.version) _
  · exact .refl a

theorem ages_erase (a : Arena α) (id : NodeId) : a.Ages (a.erase id) := by
  unfold erase
  split
  · rename_i hLive
    obtain ⟨value, hValue⟩ := contains_iff.mp hLive
    exact ages_set (slot_of_find? hValue) (Nat.le_refl id.version) _
  · exact .refl a

theorem ages_foldl_erase (ids : List NodeId) (a : Arena α) : a.Ages (ids.foldl erase a) := by
  induction ids generalizing a with
  | nil => exact .refl a
  | cons id ids ih => exact (ages_erase a id).trans (ih _)

theorem Sound.ages_add (h : a.Sound) (value : α) : a.Ages (a.add value) := by
  rcases h.nextKey_slot with ⟨hFree, -⟩ | ⟨slot, free, v, hFree, hv, -⟩
  · intro i old hOld
    obtain ⟨hLt, -⟩ := List.getElem?_eq_some_iff.mp hOld
    refine ⟨old, ?_, Nat.le_refl _⟩
    simp only [Arena.add, hFree]
    rwa [List.getElem?_append_left hLt]
  · have hAt : a.versionAt slot = v := by simp [versionAt, hv]
    simp only [Arena.add, hFree, hAt]
    exact ages_set hv (Nat.le_add_right v versionStep) free

/-- The slot of a key has come to its version. -/
def Issued (a : Arena α) (id : NodeId) : Prop :=
  ∃ slot : Slot α, a.slots[id.slot]? = some slot ∧ id.version ≤ slot.version

theorem Issued.ages (h : a.Issued id) (hAges : a.Ages b) : b.Issued id := by
  obtain ⟨slot, hSlot, hLe⟩ := h
  obtain ⟨later, hLater, hLe'⟩ := hAges id.slot slot hSlot
  exact ⟨later, hLater, Nat.le_trans hLe hLe'⟩

theorem issued_of_contains (h : a.contains id = true) : a.Issued id := by
  obtain ⟨value, hValue⟩ := contains_iff.mp h
  exact ⟨_, slot_of_find? hValue, Nat.le_refl _⟩

/-- The next key was never given out before. -/
theorem Sound.not_issued_nextKey (h : a.Sound) : ¬ a.Issued a.nextKey := by
  rintro ⟨slot, hSlot, hLe⟩
  rcases h.nextKey_slot with ⟨-, hKey⟩ | ⟨i, free, v, -, hv, hKey⟩
  · rw [hKey] at hSlot
    simp at hSlot
  · rw [hKey, hv] at hSlot
    cases hSlot
    rw [hKey] at hLe
    exact absurd hLe (Nat.not_le.mpr (Nat.lt_add_of_pos_right Nat.two_pos))

end Arena

namespace Operation

/-- The keys that operations answer, one after the other. -/
def keys : List Operation → Scene → List NodeId
  | [], _ => []
  | op :: ops, s => (op.key? s).toList ++ keys ops (op.run s)

end Operation

namespace Scene

variable {s t : Scene} {key : Option NodeId} {id : NodeId}

/-! ## One operation -/

theorem Edited.ages (h : Edited s t) : s.nodes.Ages t.nodes := by
  induction h with
  | refl => exact .refl _
  | modify _ id f ih => exact ih.trans (Arena.ages_modify _ id _)

theorem Edited.contains (h : Edited s t) : t.contains id = s.contains id := by
  induction h with
  | refl => rfl
  | modify _ other f ih => rw [contains_modify, ih]

/-- Whatever an operation does, slots only grow older. -/
theorem Outcome.ages (h : Outcome s key t) (hs : s.nodes.Sound) : s.nodes.Ages t.nodes := by
  cases h with
  | edited hEdited => exact hEdited.ages
  | inserted n => exact hs.ages_add _
  | withChild _ n => exact (hs.ages_add _).trans (Arena.ages_modify _ _ _)
  | @without id _ =>
    have hUnlink : s.nodes.Ages (s.unlink id) := by
      unfold unlink
      split
      · exact Arena.ages_modify _ _ _
      · exact .refl _
    exact hUnlink.trans (Arena.ages_foldl_erase _ _)

/-- A node that is there after an operation was there before, or its key was just answered. -/
theorem Outcome.contains (h : Outcome s key t) (hs : s.Forest) (hId : t.contains id = true) :
    s.contains id = true ∨ key = some id := by
  cases h with
  | edited hEdited => exact Or.inl (hEdited.contains ▸ hId)
  | inserted n =>
    obtain ⟨e, he⟩ := find?_of_contains hId
    rw [find?_insert hs.sound] at he
    split at he
    · rename_i hEq
      exact Or.inr (congrArg some hEq.symm)
    · exact Or.inl (contains_of_find? he)
  | withChild hLive n =>
    rw [contains_withChild hs.sound hLive, Bool.or_eq_true, decide_eq_true_eq] at hId
    exact hId.symm.imp_right fun hEq => congrArg some hEq.symm
  | without hLive =>
    rw [contains_without hs, Bool.and_eq_true] at hId
    exact Or.inl hId.2

/-- The key that an operation answers is new, and its node is there. -/
theorem Outcome.fresh (h : Outcome s key t) (hs : s.Forest) (hKey : key = some id) :
    ¬ s.nodes.Issued id ∧ t.contains id = true := by
  cases h with
  | edited | without => cases hKey
  | inserted n =>
    cases hKey
    refine ⟨hs.sound.not_issued_nextKey, contains_of_find? (e := ⟨n, none, []⟩) ?_⟩
    rw [find?_insert hs.sound, if_pos rfl]
  | withChild hLive n =>
    cases hKey
    exact ⟨hs.sound.not_issued_nextKey, contains_of_find? (find?_withChild_self hs.sound hLive n)⟩

/-! ## Runs -/

theorem Forest.ages_runAll (h : s.Forest) (ops : List Operation) :
    s.nodes.Ages (Operation.runAll ops s).nodes := by
  induction ops generalizing s with
  | nil => exact .refl _
  | cons op ops ih => exact ((outcome_run op s).ages h.sound).trans (ih (forest_run h op))

/-- A key that was given out and has no node will never have one again. -/
theorem Forest.not_contains_runAll (h : s.Forest) (hIssued : s.nodes.Issued id)
    (hDead : s.contains id = false) (ops : List Operation) :
    (Operation.runAll ops s).contains id = false := by
  induction ops generalizing s with
  | nil => exact hDead
  | cons op ops ih =>
    have hOutcome := outcome_run op s
    refine ih (forest_run h op) (hIssued.ages (hOutcome.ages h.sound)) ?_
    by_contra hLive
    -- a node that is there again would have got a new key
    rcases hOutcome.contains h (Bool.of_not_eq_false hLive) with hOld | hKey
    · rw [hDead] at hOld
      cases hOld
    · exact (hOutcome.fresh h hKey).1 hIssued

/-- A run gives out distinct keys, and none that was given out before. -/
theorem Forest.nodup_keys (h : s.Forest) (ops : List Operation) :
    (Operation.keys ops s).Nodup ∧ ∀ id ∈ Operation.keys ops s, ¬ s.nodes.Issued id := by
  induction ops generalizing s with
  | nil => exact ⟨List.nodup_nil, by simp [Operation.keys]⟩
  | cons op ops ih =>
    have hOutcome := outcome_run op s
    have hAges := hOutcome.ages h.sound
    obtain ⟨hNodup, hLater⟩ := ih (forest_run h op)
    rw [Operation.keys]
    cases hKey : op.key? s with
    | none => exact ⟨hNodup, fun id hId hOld => hLater id hId (hOld.ages hAges)⟩
    | some id =>
      obtain ⟨hNew, hLive⟩ := hOutcome.fresh h hKey
      have hIssued : (op.run s).nodes.Issued id := Arena.issued_of_contains hLive
      refine ⟨List.nodup_cons.mpr ⟨fun hMem => hLater id hMem hIssued, hNodup⟩, ?_⟩
      intro other hOther
      rcases List.mem_cons.mp hOther with rfl | hOther
      · exact hNew
      · exact fun hOld => hLater other hOther (hOld.ages hAges)

/-- A node that is there after a run was there before, or its key was given out on the way. -/
theorem Forest.mem_keys (h : s.Forest) (ops : List Operation)
    (hId : (Operation.runAll ops s).contains id = true) :
    s.contains id = true ∨ id ∈ Operation.keys ops s := by
  induction ops generalizing s with
  | nil => exact Or.inl hId
  | cons op ops ih =>
    rw [Operation.keys]
    rcases ih (forest_run h op) hId with hMid | hMem
    · rcases (outcome_run op s).contains h hMid with hOld | hKey
      · exact Or.inl hOld
      · exact Or.inr (List.mem_append_left _ (by simp [hKey]))
    · exact Or.inr (List.mem_append_right _ hMem)

/-- Along every run from an empty scene on, no key is given out twice, all nodes have keys that were
given out, and a key whose node was there and then is not stays dead for the rest of the run. -/
theorem dead_of_gone (ops : List Operation) :
    (Operation.keys ops empty).Nodup ∧
      (∀ id, (Operation.runAll ops empty).contains id = true → id ∈ Operation.keys ops empty) ∧
      ∀ id before between after, ops = before ++ between ++ after →
        (Operation.runAll before empty).contains id = true →
        (Operation.runAll (before ++ between) empty).contains id = false →
        (Operation.runAll ops empty).Dead id := by
  refine ⟨(forest_empty.nodup_keys ops).1, fun id hId => ?_, ?_⟩
  · rcases forest_empty.mem_keys ops hId with hOld | hMem
    · simp [empty, contains, Arena.contains, Arena.empty, Arena.find?] at hOld
    · exact hMem
  · rintro id before between after rfl hLive hGone
    have hFirst := forest_runAll forest_empty before
    have hMiddle := forest_runAll forest_empty (before ++ between)
    have hIssued : (Operation.runAll (before ++ between) empty).nodes.Issued id := by
      rw [Operation.runAll_append]
      exact (Arena.issued_of_contains hLive).ages (hFirst.ages_runAll between)
    apply dead_of_not_contains
    rw [Operation.runAll_append]
    exact hMiddle.not_contains_runAll hIssued hGone after

/-- A node is removed with its parent, and the next node comes into its slot. -/
theorem dead_of_gone_refilled :
    let before : List Operation :=
      [.insert (.fresh "Top"), .create "Middle" ⟨0, 1⟩, .create "Low" ⟨1, 1⟩]
    let between : List Operation := [.destroy ⟨1, 1⟩]
    let after : List Operation := [.create "New" ⟨0, 1⟩]
    let ops := before ++ between ++ after
    Operation.keys ops empty = [⟨0, 1⟩, ⟨1, 1⟩, ⟨2, 1⟩, ⟨2, 3⟩] ∧
      (Operation.runAll before empty).contains ⟨2, 1⟩ = true ∧
      (Operation.runAll (before ++ between) empty).contains ⟨2, 1⟩ = false ∧
      (Operation.runAll ops empty).contains ⟨2, 3⟩ = true ∧
      (Operation.runAll ops empty).Dead ⟨2, 1⟩ := by
  intro before between after ops
  have hLive : (Operation.runAll before empty).contains ⟨2, 1⟩ = true := rfl
  have hGone : (Operation.runAll (before ++ between) empty).contains ⟨2, 1⟩ = false := rfl
  obtain ⟨-, -, hDead⟩ := dead_of_gone ops
  exact ⟨rfl, hLive, hGone, rfl, hDead ⟨2, 1⟩ before between after rfl hLive hGone⟩

end Scene

end AnchoredUi.SceneGraph
