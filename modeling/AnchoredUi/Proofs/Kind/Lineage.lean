import Mathlib.Data.List.Nodup
import AnchoredUi.Kind.TypeTable

/-!
# Lineages go up as far as they can

A lineage goes from base to base. It ends at a type that is unknown or has no base, and before a
base whose type it has passed already. The steps of a lineage are counted, but they never run out:
each one passes a type under a name that was not passed before, and only the last of these types can
be missing in the table. So whatever the types of a table refer to, to themselves, in a circle or to
nothing, a lineage ends where it has to.

* `Climbs`: going up without a count of steps.
* `climbs_climb`: so many steps as there are types that were not passed, and one more, are enough.
* `Climbs.fresh`, `Climbs.linked`, `Climbs.stopped`: what is passed, and where the way ends.
* `lineage_goesUp`: all of this for the lineage of a type, in the table or not.
-/

namespace AnchoredUi.Kind.TypeTable

variable {table : TypeTable} {seen rest : List String} {next : Option String} {ref : String}

/-- The base of the type that a reference names, if the table has the type. -/
def baseOf? (table : TypeTable) (ref : String) : Option String :=
  (table.get? ref).bind TypeInfo.base

/-- From the reference `next` the references `rest` are passed, until there is none any more or its
type is one of those in `seen` or passed already. -/
inductive Climbs (table : TypeTable) : (seen : List String) → (next : Option String) →
    (rest : List String) → Prop
  | top {seen : List String} : Climbs table seen none []
  | again {seen : List String} {ref : String} (hSeen : definition ref ∈ seen.map definition) :
      Climbs table seen (some ref) []
  | up {seen rest : List String} {ref : String} (hNew : definition ref ∉ seen.map definition)
      (hRest : Climbs table (ref :: seen) (table.baseOf? ref) rest) :
      Climbs table seen (some ref) (ref :: rest)

/-! ## Steps do not run out -/

/-- The types of a table that were not passed. -/
def unseen (table : TypeTable) (seen : List String) : List TypeInfo :=
  table.entries.filter fun t => t.fullName ∉ seen.map definition

theorem length_unseen_le (table : TypeTable) (seen : List String) :
    (table.unseen seen).length ≤ table.size := List.length_filter_le _ _

/-- Passing a type that the table has leaves fewer others. -/
theorem length_unseen_lt {t : TypeInfo} (hFound : table.get? ref = some t)
    (hNew : definition ref ∉ seen.map definition) :
    (table.unseen (ref :: seen)).length < (table.unseen seen).length := by
  have hName : t.fullName = definition ref := by
    simpa using List.find?_some (p := fun x : TypeInfo => x.fullName = definition ref) hFound
  have hLeft : table.unseen (ref :: seen) =
      (table.unseen seen).filter fun x => x.fullName ≠ definition ref := by
    simp only [unseen, List.filter_filter, List.map_cons, List.mem_cons, not_or,
      Bool.decide_and]
  have hThere : t ∈ table.unseen seen := by
    refine List.mem_filter.mpr ⟨List.mem_of_find?_eq_some hFound, ?_⟩
    rw [hName]
    exact decide_eq_true hNew
  rw [hLeft, List.length_filter_lt_length_iff_exists]
  exact ⟨t, hThere, by simp [hName]⟩

theorem any_sameType_iff :
    seen.any (sameType ref) = true ↔ definition ref ∈ seen.map definition := by
  rw [List.any_eq_true, List.mem_map]
  exact exists_congr fun _ => and_congr_right' (beq_iff_eq.trans eq_comm)

/-- With a step for each type that was not passed and one more, no way is cut off. -/
theorem climbs_climb {steps : ℕ} (h : next = none ∨ (table.unseen seen).length < steps) :
    Climbs table seen next (climb table steps seen next) := by
  induction steps generalizing seen next with
  | zero =>
    obtain rfl := h.resolve_right (Nat.not_lt_zero _)
    exact .top
  | succ steps ih =>
    cases next with
    | none => exact .top
    | some ref =>
      have hSteps := h.resolve_left (Option.some_ne_none ref)
      rw [climb]
      split
      · exact .again (any_sameType_iff.mp ‹_›)
      · have hNew : definition ref ∉ seen.map definition := fun hSeen =>
          absurd (any_sameType_iff.mpr hSeen) ‹_›
        refine .up hNew (ih ?_)
        cases hFound : table.get? ref with
        | none => exact .inl (by rw [baseOf?, hFound, Option.bind_none])
        | some t =>
          have hFewer := length_unseen_lt hFound hNew
          exact .inr (by omega)

theorem climbs_lineage (table : TypeTable) (t : TypeInfo) :
    ∃ rest, table.lineage t = t.fullName :: rest ∧ Climbs table [t.fullName] t.base rest :=
  ⟨_, rfl, climbs_climb (.inr (Nat.lt_succ_of_le (length_unseen_le table _)))⟩

/-! ## The way up -/

/-- No type is passed twice. -/
theorem Climbs.fresh (h : Climbs table seen next rest) :
    (rest.map definition).Nodup ∧ ∀ ref ∈ rest, definition ref ∉ seen.map definition := by
  induction h with
  | top | again => exact ⟨List.nodup_nil, fun _ hMem => nomatch hMem⟩
  | @up seen rest ref hNew _ ih =>
    obtain ⟨hDistinct, hOther⟩ := ih
    refine ⟨List.nodup_cons.mpr ⟨fun hAgain => ?_, hDistinct⟩, List.forall_mem_cons.mpr ⟨hNew, ?_⟩⟩
    · obtain ⟨again, hMem, hSame⟩ := List.mem_map.mp hAgain
      exact hOther again hMem (hSame ▸ List.mem_cons_self)
    · exact fun after hMem hSeen => hOther after hMem (List.mem_cons_of_mem _ hSeen)

/-- The base behind the reference at a place of a way that starts with a type: the given base of
that type at the first place, and later what the table has for the reference. -/
def baseAt? (table : TypeTable) (base : Option String) : ℕ → String → Option String
  | 0, _ => base
  | _ + 1, ref => table.baseOf? ref

theorem baseAt?_baseOf? (table : TypeTable) {i : ℕ} {after : String}
    (h : (ref :: rest)[i]? = some after) :
    table.baseAt? (table.baseOf? ref) i after = table.baseOf? after := by
  cases i with
  | zero =>
    obtain rfl : ref = after := by simpa using h
    rfl
  | succ i => rfl

/-- Each reference that is passed is the base behind the one before. -/
theorem Climbs.linked (h : Climbs table seen next rest) (first : String) {i : ℕ}
    {here after : String} (hHere : (first :: rest)[i]? = some here)
    (hAfter : (first :: rest)[i + 1]? = some after) : table.baseAt? next i here = some after := by
  induction h generalizing first i with
  | top | again => simp at hAfter
  | @up seen rest ref hNew _ ih =>
    cases i with
    | zero => simpa [baseAt?] using hAfter
    | succ i =>
      rw [List.getElem?_cons_succ] at hHere
      have hBase := ih ref hHere hAfter
      rwa [baseAt?_baseOf? table hHere] at hBase

/-- Where the way ends, there is no base, or its type was passed. -/
theorem Climbs.stopped (h : Climbs table seen next rest) (first : String) {i : ℕ}
    {here base : String} (hHere : (first :: rest)[i]? = some here)
    (hEnd : (first :: rest)[i + 1]? = none) (hBase : table.baseAt? next i here = some base) :
    definition base ∈ (seen ++ rest).map definition := by
  induction h generalizing first i with
  | top =>
    cases i with
    | zero => cases hBase
    | succ i => simp at hHere
  | again hSeen =>
    cases i with
    | zero =>
      cases hBase
      rwa [List.append_nil]
    | succ i => simp at hHere
  | @up seen rest ref hNew _ ih =>
    cases i with
    | zero => simp at hEnd
    | succ i =>
      rw [List.getElem?_cons_succ] at hHere
      have hPassed := ih ref hHere hEnd ((baseAt?_baseOf? table hHere).trans hBase)
      exact (List.perm_middle.map definition).mem_iff.mpr hPassed

/-- Whatever is filed in a table, the lineage of any type ends: it has at most two entries more than
the table. It starts with the type, refers to no type twice, and each further entry is the base
behind the one before. It ends only where there is no such base, or where the base refers to a type
of the lineage. -/
theorem lineage_goesUp (start : TypeTable) (types : List TypeInfo) (t : TypeInfo) :
    let table : TypeTable := types.foldl Catalog.put start
    let chain := table.lineage t
    chain.length ≤ table.size + 2 ∧ chain[0]? = some t.fullName ∧ (chain.map definition).Nodup ∧
      (∀ i here after, chain[i]? = some here → chain[i + 1]? = some after →
        table.baseAt? t.base i here = some after) ∧
      ∀ i here base, chain[i]? = some here → chain[i + 1]? = none →
        table.baseAt? t.base i here = some base → definition base ∈ chain.map definition := by
  intro table chain
  obtain ⟨rest, hChain, hClimbs⟩ := climbs_lineage table t
  have hLength := length_lineage_le table t
  obtain ⟨hDistinct, hOther⟩ := hClimbs.fresh
  simp only [chain, hChain] at hLength ⊢
  refine ⟨hLength, rfl, List.nodup_cons.mpr ⟨fun hAgain => ?_, hDistinct⟩, ?_, ?_⟩
  · obtain ⟨ref, hRef, hSame⟩ := List.mem_map.mp hAgain
    exact hOther ref hRef (hSame ▸ List.mem_cons_self)
  · exact fun i here after hHere hAfter => hClimbs.linked _ hHere hAfter
  · exact fun i here base hHere hEnd hBase => hClimbs.stopped _ hHere hEnd hBase

/-- Two types that are based on each other: the second reference to the first one is left out. -/
example :
    let a : TypeInfo := ⟨"Game", "A`1", some "Game.B", []⟩
    let b : TypeInfo := ⟨"Game", "B", some "Game.A`1[System.String]", []⟩
    TypeTable.lineage (Catalog.ofList [a, b]) a = ["Game.A`1", "Game.B"] := by
  decide +kernel

end AnchoredUi.Kind.TypeTable
