import AnchoredUi.Proofs.Catalog
import AnchoredUi.Proofs.Sprite.Answer
import Mathlib.Data.List.Dedup
import Mathlib.Data.List.Induction

/-!
# What a finder remembers

The memory of a finder holds one outcome for each address that was searched for since it last
forgot, and that outcome is what the search gives. One call keeps it so, whichever it is: a search
that is answered from the memory adds no address that was not there, and one that asks for nothing
is not remembered. So after all calls the finder answers like one without a memory, and its memory
tells which addresses were asked for.

* `holds_run`: what one call does to the memory.
* `holds_runAll`: what the memory holds after all calls.
* `transparent_runAll`: the answers, the remembered outcomes and their number.
-/

namespace AnchoredUi.Sprite

open Asset

/-! ## Runs of calls -/

/-- A call of a finder: a search for an address, a look into the memory, or forgetting it. -/
inductive Call where
  | find (raw : String)
  | known (raw : String)
  | forget
  deriving DecidableEq

namespace Call

/-- The finder after a call. -/
def run : Call → Finder → Finder
  | find raw, f => (f.find raw).2
  | known _, f => f
  | forget, f => f.forget

/-- The finder after calls, one after the other. -/
def runAll (calls : List Call) (f : Finder) : Finder := calls.foldl (fun f call => call.run f) f

/-- The address that a call searches for, if there is one to search for. -/
def address? : Call → Option String
  | find raw => if Finder.asksNothing (normalPath raw) then none else some (normalPath raw)
  | known _ => none
  | forget => none

/-- The addresses searched for since the memory was last forgotten, the last one first. -/
def asked (calls : List Call) : List String :=
  (calls.reverse.takeWhile (· ≠ forget)).filterMap address?

theorem asked_append_forget (calls : List Call) : asked (calls ++ [forget]) = [] := by
  simp [asked]

theorem asked_append {call : Call} (h : call ≠ forget) (calls : List Call) :
    asked (calls ++ [call]) = call.address?.toList ++ asked calls := by
  have hTest : ([call] ++ calls.reverse).takeWhile (· ≠ forget) =
      call :: calls.reverse.takeWhile (· ≠ forget) :=
    List.takeWhile_cons_of_pos (decide_eq_true h)
  rw [asked, List.reverse_append, List.reverse_singleton, hTest, List.filterMap_cons]
  cases call.address? <;> rfl

theorem asks_of_mem_asked {calls : List Call} {address : String} (h : address ∈ asked calls) :
    ¬ Finder.asksNothing address = true := by
  obtain ⟨call, -, hAddress⟩ := List.mem_filterMap.mp h
  cases call with
  | find raw =>
    obtain ⟨hAsks, hEq⟩ := Option.ite_none_left_eq_some.mp hAddress
    cases hEq
    exact hAsks
  | known raw => cases hAddress
  | forget => cases hAddress

end Call

namespace Finder

/-- A finder that has not searched yet, with a memory or without. -/
def fresh (source : AssetSource) (options : SearchOptions) (remember : Bool) : Finder :=
  (ofSource source).configure { options with remember := remember }

/-- The remembered outcome for an address, as far as sprites go. -/
def remembered? (f : Finder) (raw : String) : Option (Option Sprite) :=
  (f.known? raw).map fun found => found.map FoundSprite.sprite

/-! ## What the memory holds -/

/-- The finder remembers one outcome for each of the addresses, which is that of its search. -/
structure Holds (source : AssetSource) (options : SearchOptions) (addresses : List String)
    (f : Finder) : Prop where
  source_eq : f.source = source
  options_eq : f.options = options
  nodup : f.memory.keys.Nodup
  keys_iff : ∀ address, address ∈ f.memory.keys ↔ address ∈ addresses
  outcome : ∀ o ∈ f.memory.entries,
    o.found.map FoundSprite.sprite = search? source options o.address

variable {source : AssetSource} {options : SearchOptions} {addresses : List String} {f : Finder}

theorem holds_forget (h : Holds source options addresses f) : Holds source options [] f.forget where
  source_eq := h.source_eq
  options_eq := h.options_eq
  nodup := List.nodup_nil
  keys_iff _ := Iff.rfl
  outcome _ ho := nomatch ho

/-- A search that is not answered from the memory is remembered. -/
theorem holds_searchAnew (h : Holds source options addresses f)
    (hRemember : options.remember = true) (address : String) :
    Holds source options (address :: addresses) (f.searchAnew address).2 := by
  obtain ⟨rfl, rfl, hNodup, hKeys, hOutcome⟩ := h
  simp only [searchAnew, hRemember, if_true]
  refine ⟨rfl, rfl, Catalog.nodup_keys_put hNodup _, fun a => ?_, fun o ho => ?_⟩
  · rw [Catalog.keys_put, List.mem_cons, ← hKeys]
    split
    · rename_i hOld
      exact ⟨Or.inr, fun ha => ha.elim (fun hEq => hEq ▸ hOld) id⟩
    · rw [List.mem_append, List.mem_singleton, or_comm]
  · rcases Catalog.mem_of_mem_place ho with rfl | hOld
    · simp [Function.comp_def]
    · exact hOutcome o hOld

/-- What one call does to the memory. -/
theorem holds_run (hRemember : options.remember = true) {calls : List Call}
    (h : Holds source options (Call.asked calls) f) (call : Call) :
    Holds source options (Call.asked (calls ++ [call])) (call.run f) := by
  cases call with
  | forget =>
    rw [Call.asked_append_forget]
    exact holds_forget h
  | known raw => rwa [Call.asked_append (by simp)]
  | find raw =>
    rw [Call.asked_append (by simp), Call.address?, Call.run, find]
    have hOptions : f.options.remember = true := by rw [h.options_eq, hRemember]
    by_cases hNothing : asksNothing (normalPath raw) = true
    · simp only [hNothing, if_true]
      exact h
    · simp only [hNothing, if_false, hOptions, if_true, Bool.false_eq_true]
      cases hFind : f.memory.find? (normalPath raw) with
      | none => exact holds_searchAnew h hRemember (normalPath raw)
      | some o =>
        -- the address is one of those that were asked for before
        have hOld : normalPath raw ∈ Call.asked calls := by
          rw [← h.keys_iff]
          by_contra hNot
          rw [Catalog.find?_eq_none_iff.mpr hNot] at hFind
          cases hFind
        refine ⟨h.source_eq, h.options_eq, h.nodup, fun a => ?_, h.outcome⟩
        rw [h.keys_iff, Option.toList_some, List.singleton_append, List.mem_cons]
        exact ⟨Or.inr, fun ha => ha.elim (fun hEq => hEq ▸ hOld) id⟩

/-- After calls of a fresh finder, the memory holds what was asked for since it last forgot. -/
theorem holds_runAll (hRemember : options.remember = true) (calls : List Call) :
    Holds source options (Call.asked calls)
      (Call.runAll calls ((ofSource source).configure options)) := by
  induction calls using List.reverseRecOn with
  | nil => exact ⟨rfl, rfl, List.nodup_nil, fun _ => Iff.rfl, fun _ ho => nomatch ho⟩
  | append_singleton calls call ih =>
    rw [Call.runAll, List.foldl_append]
    exact holds_run hRemember ih call

theorem Holds.recalled_eq (h : Holds source options addresses f) (address : String) :
    f.recalled address = search? source options address := by
  unfold recalled
  split
  · rename_i o hFind
    obtain ⟨hKey, hMem⟩ := Catalog.key_of_find? hFind
    rw [h.outcome o hMem, hKey]
  · rw [h.source_eq, h.options_eq]

theorem Holds.remembered?_eq (h : Holds source options addresses f) (raw : String) :
    f.remembered? raw =
      if normalPath raw ∈ addresses then some (search? source options (normalPath raw))
      else none := by
  simp only [remembered?, known?, Option.map_map, ← h.keys_iff]
  cases hFind : f.memory.find? (normalPath raw) with
  | none => rw [if_neg (Catalog.find?_eq_none_iff.mp hFind), Option.map_none]
  | some o =>
    obtain ⟨hKey, hMem⟩ := Catalog.key_of_find? hFind
    rw [if_pos (hKey ▸ List.mem_map_of_mem hMem), Option.map_some, Function.comp_apply,
      h.outcome o hMem, hKey]

theorem Holds.size_eq (h : Holds source options addresses f) :
    f.memory.size = addresses.dedup.length := by
  have hPerm : f.memory.keys.Perm addresses.dedup :=
    (List.perm_ext_iff_of_nodup h.nodup addresses.nodup_dedup).mpr fun a =>
      (h.keys_iff a).trans List.mem_dedup.symm
  rw [Catalog.size, ← hPerm.length_eq, Catalog.keys, List.length_map]

/-! ## Without a memory -/

/-- A finder without a memory stays so, with the same source and options. -/
theorem runAll_of_forgetful (hForgets : f.options.remember = false) (calls : List Call) :
    (Call.runAll calls f).source = f.source ∧ (Call.runAll calls f).options = f.options := by
  induction calls using List.reverseRecOn with
  | nil => exact ⟨rfl, rfl⟩
  | append_singleton calls call ih =>
    rw [Call.runAll, List.foldl_append]
    change (call.run (Call.runAll calls f)).source = _ ∧
      (call.run (Call.runAll calls f)).options = _
    cases call with
    | forget => exact ih
    | known raw => exact ih
    | find raw =>
      unfold Call.run find searchAnew
      simp only [ih.2, hForgets, Bool.false_eq_true, if_false]
      split
      · exact ih
      · exact ⟨ih.1, rfl⟩

/-- The memory changes no answer: after any calls of a fresh finder, a search gives what it gives
without a memory. What is remembered for an address is that answer, if the address was searched
for since the memory was last forgotten, and nothing otherwise; and there is one entry for each
such address. -/
theorem transparent_runAll (source : AssetSource) (options : SearchOptions) (calls : List Call)
    (raw : String) :
    let f := Call.runAll calls (fresh source options true)
    let g := Call.runAll calls (fresh source options false)
    f.answer raw = g.answer raw ∧
      f.remembered? raw =
        (if normalPath raw ∈ Call.asked calls then some (g.answer raw) else none) ∧
      f.memory.size = (Call.asked calls).dedup.length := by
  intro f g
  have h : Holds source { options with remember := true } (Call.asked calls) f :=
    holds_runAll rfl calls
  obtain ⟨hSource, hOptions⟩ := runAll_of_forgetful (f := fresh source options false) rfl calls
  have hSearch : ∀ address, search? source { options with remember := true } address =
      search? source { options with remember := false } address := fun _ => rfl
  have hWithout : g.answer raw = if asksNothing (normalPath raw) then none
      else search? source { options with remember := true } (normalPath raw) := by
    rw [answer_eq, hSource, hOptions, hSearch]
    rfl
  refine ⟨?_, ?_, h.size_eq⟩
  · rw [answer_eq, hWithout, h.recalled_eq, h.options_eq]
    rfl
  · rw [h.remembered?_eq, hWithout]
    split
    · rename_i hAsked
      rw [if_neg (Call.asks_of_mem_asked hAsked)]
    · rfl

end Finder

end AnchoredUi.Sprite
