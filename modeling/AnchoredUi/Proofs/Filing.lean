import Mathlib.Data.Finset.Card
import Mathlib.Data.List.Sort
import AnchoredUi.Proofs.Catalog
import AnchoredUi.Proofs.Kind.Inherited
import AnchoredUi.Style.Sheet

/-!
# What was filed

Declarations, attributes, rules and types are filed in catalogs, each kind under a key of its own.
For a rule and a declaration the key is a part of what is filed; the full name of a type is put
together from two parts, so that two types which differ in both can have one key. What is said here
of catalogs does not depend on where the key comes from.

A catalog is told by the list of the entries that were filed, one after the other. Each of their
keys is a key once. Of two keys, the one whose first entry was filed earlier comes first, although
the entry that stands there may be the last of all: an entry under a known key goes to its place.

* `Filed.put`: one more entry is filed.
* `filed_iff`: what holds of the filed entries determines the catalog.
* `filed_insertions`: the four kinds of catalogs, with the questions that are put to them.
-/

namespace AnchoredUi.Catalog

variable {α κ : Type} {key : α → κ} [DecidableEq κ] {es : List α} {c d : Catalog key}

/-! ## Entries by their keys -/

/-- Under distinct keys, the entries are those that are found under the keys. -/
theorem entries_eq_filterMap (h : c.keys.Nodup) : c.entries = c.keys.filterMap c.find? := by
  have hFound : ∀ e ∈ c.entries, (c.find? ∘ key) e = some e := fun e he => find?_of_mem h he
  rw [keys, List.filterMap_map, List.filterMap_congr hFound, List.filterMap_some]

/-! ## The contract -/

/-- The first entry under one key was filed before the first one under another key. -/
def Earlier (key : α → κ) (es : List α) (k l : κ) : Prop :=
  (es.map key).idxOf k < (es.map key).idxOf l

/-- What a catalog holds after some entries were filed, one after the other and in an empty one: the
keys are those of the entries, each once, in the order in which they first came; under each key the
entry is stored and found that came last; and nothing is found under any other key. -/
structure Filed (es : List α) (c : Catalog key) : Prop where
  mem_keys_iff : ∀ k, k ∈ c.keys ↔ k ∈ es.map key
  nodup : c.keys.Nodup
  ordered : c.keys.Pairwise (Earlier key es)
  size_eq : c.size = (es.map key).toFinset.card
  stored : ∀ e ∈ c.entries, (es.filter fun x => key x = key e).getLast? = some e
  found : ∀ k, c.find? k = (es.filter fun x => key x = k).getLast?
  contains_iff : ∀ k, c.contains k = true ↔ k ∈ es.map key

/-- The order of the keys and the entries that are found make up the contract. -/
theorem filed_of_ordered (hKeys : ∀ k, k ∈ c.keys ↔ k ∈ es.map key)
    (hOrdered : c.keys.Pairwise (Earlier key es))
    (hFound : ∀ k, c.find? k = (es.filter fun x => key x = k).getLast?) : Filed es c := by
  have hNodup : c.keys.Nodup := by
    refine hOrdered.imp fun {k l} hLt hEq => ?_
    exact Nat.lt_irrefl _ (hEq ▸ hLt : Earlier key es k k)
  refine ⟨hKeys, hNodup, hOrdered, ?_, ?_, hFound, ?_⟩
  · have hSame : (es.map key).toFinset = c.keys.toFinset := by
      ext k
      rw [List.mem_toFinset, List.mem_toFinset, hKeys]
    rw [hSame, List.toFinset_card_of_nodup hNodup, keys, List.length_map, size]
  · intro e he
    rw [← hFound, find?_of_mem hNodup he]
  · intro k
    rw [contains, Option.isSome_iff_ne_none, ne_eq, find?_eq_none_iff, not_not, hKeys]

/-! ## Filing -/

theorem filed_empty : Filed [] (empty : Catalog key) :=
  filed_of_ordered (fun _ => Iff.rfl) .nil fun _ => rfl

/-- A new key came later than all others, and a known one has come already. -/
theorem Filed.ordered_put (h : Filed es c) (e : α) :
    (c.put e).keys.Pairwise (Earlier key (es ++ [e])) := by
  have hKnown : ∀ k ∈ c.keys, ((es ++ [e]).map key).idxOf k = (es.map key).idxOf k := by
    intro k hk
    rw [List.map_append, List.idxOf_append_of_mem ((h.mem_keys_iff k).mp hk)]
  have hOld : c.keys.Pairwise (Earlier key (es ++ [e])) := by
    refine h.ordered.imp_of_mem fun {k l} hk hl hLt => ?_
    rwa [Earlier, hKnown k hk, hKnown l hl]
  rw [keys_put]
  split
  · exact hOld
  · rename_i hNew
    rw [h.mem_keys_iff] at hNew
    refine List.pairwise_append.mpr ⟨hOld, List.pairwise_singleton _ _, ?_⟩
    intro k hk l hl
    rw [List.mem_singleton.mp hl, Earlier, hKnown k hk, List.map_append,
      List.idxOf_append_of_notMem hNew]
    exact Nat.lt_add_right _ (List.idxOf_lt_length_of_mem ((h.mem_keys_iff k).mp hk))

/-- One more entry is filed. -/
theorem Filed.put (h : Filed es c) (e : α) : Filed (es ++ [e]) (c.put e) := by
  apply filed_of_ordered
  · intro k
    rw [keys_put, List.map_append, List.mem_append, ← h.mem_keys_iff]
    split
    · rename_i hOld
      exact ⟨Or.inl, fun hk => hk.elim id fun hk => List.mem_singleton.mp hk ▸ hOld⟩
    · exact List.mem_append
  · exact h.ordered_put e
  · intro k
    rw [List.filter_append, List.getLast?_append, ← h.found]
    by_cases hk : key e = k
    · subst hk
      simp [find?_put_self]
    · simp [find?_put_other c hk, hk]

/-- The contract holds of all entries that are filed. -/
theorem filed_foldl_put (es : List α) : Filed es (es.foldl Catalog.put (empty : Catalog key)) := by
  induction es using List.reverseRecOn with
  | nil => exact filed_empty
  | append_singleton es e ih =>
    rw [List.foldl_concat]
    exact ih.put e

theorem Filed.unique (hc : Filed es c) (hd : Filed es d) : c = d := by
  have : Std.Irrefl (Earlier key es) := ⟨fun _ => Nat.lt_irrefl _⟩
  have : Std.Antisymm (Earlier key es) := ⟨fun _ _ hkl hlk => absurd hlk (Nat.lt_asymm hkl)⟩
  have hKeys : c.keys = d.keys := hc.ordered.eq_of_mem_iff hd.ordered fun k =>
    (hc.mem_keys_iff k).trans (hd.mem_keys_iff k).symm
  have hFound : c.find? = d.find? := funext fun k => (hc.found k).trans (hd.found k).symm
  have hEntries : c.entries = d.entries := by
    rw [entries_eq_filterMap hc.nodup, entries_eq_filterMap hd.nodup, hKeys, hFound]
  exact congrArg Catalog.mk hEntries

/-- There is one catalog of which the contract holds. -/
theorem filed_iff : Filed es c ↔ c = ofList es := by
  constructor
  · intro h
    exact h.unique (filed_foldl_put es)
  · rintro rfl
    exact filed_foldl_put es

/-- The entries stand as they were filed if no two were filed under one key, and only then. -/
theorem Filed.entries_eq_iff (h : Filed es c) : c.entries = es ↔ (es.map key).Nodup := by
  constructor
  · intro hSame
    have hNodup : (c.entries.map key).Nodup := h.nodup
    rwa [hSame] at hNodup
  · intro hNodup
    rw [filed_iff.mp h]
    exact foldl_put_of_nodup (c := empty) hNodup

end AnchoredUi.Catalog

namespace AnchoredUi

open Catalog Kind Markup Style

/-! ## The four kinds of catalogs -/

/-- Whatever is filed, catalogs of declarations, attributes, rules and types keep the contract. The
question for the value of a property or an attribute is answered by the value that came last, and so
is the question for a rule by its selector text and for a type by its full name, if that has no
bracket in it. -/
theorem filed_insertions :
    (∀ ds : List Declaration, let style : Declarations := ds.foldl put empty
      Filed ds style ∧ ∀ name, style.get? name =
        ((ds.filter fun d => d.property = name).getLast?).map Declaration.value) ∧
    (∀ as : List Attribute, let attributes : Attributes := as.foldl put empty
      Filed as attributes ∧ ∀ tag space children text name,
        (Element.mk tag space attributes children text).attr? name =
          ((as.filter fun a => a.name = name).getLast?).map Attribute.value) ∧
    (∀ rs : List Rule, let sheet : Sheet := rs.foldl put empty
      Filed rs sheet ∧ ∀ text, sheet.find? text =
        (rs.filter fun r => r.selectorText = text).getLast?) ∧
    (∀ ts : List TypeInfo, let table : TypeTable := ts.foldl put empty
      Filed ts table ∧ ∀ name, '[' ∉ name.toList → table.get? name =
        (ts.filter fun t => t.fullName = name).getLast?) := by
  refine ⟨fun ds => ?_, fun as => ?_, fun rs => ?_, fun ts => ?_⟩
  · have hFiled : Filed ds (ds.foldl put empty : Declarations) := filed_foldl_put ds
    refine ⟨hFiled, fun name => ?_⟩
    rw [Declarations.get?, hFiled.found]
  · have hFiled : Filed as (as.foldl put empty : Attributes) := filed_foldl_put as
    refine ⟨hFiled, fun tag space children text name => ?_⟩
    rw [Element.attr?, Element.attributes, hFiled.found]
  · have hFiled : Filed rs (rs.foldl put empty : Sheet) := filed_foldl_put rs
    exact ⟨hFiled, hFiled.found⟩
  · have hFiled : Filed ts (ts.foldl put empty : TypeTable) := filed_foldl_put ts
    refine ⟨hFiled, fun name hName => ?_⟩
    rw [TypeTable.get?, definition_eq_self hName, hFiled.found]

/-- Two types with different spaces and short names that have one full name. -/
example :
    let types : List TypeInfo := [⟨"Game", "Hud.Bar", none, []⟩, ⟨"", "Frame", none, []⟩,
      ⟨"Game.Hud", "Bar", some "Frame", []⟩]
    let table : TypeTable := types.foldl put empty
    table.keys = ["Game.Hud.Bar", "Frame"] ∧
      table.get? "Game.Hud.Bar" = some ⟨"Game.Hud", "Bar", some "Frame", []⟩ := by
  decide +kernel

end AnchoredUi
