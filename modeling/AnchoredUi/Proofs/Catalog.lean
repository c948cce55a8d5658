import Mathlib.Data.List.Nodup
import AnchoredUi.Catalog

/-!
# What catalogs hold

Filing an entry moves no entry of another key, and each key stays the key of one entry. So what is
seen of some keys only depends on the entries under these, and entries with distinct keys are kept
in their order.

* `filter_foldl_put`, `foldl_put_of_nodup`, `mem_of_mem_foldl_put`: what filing several entries
  does.
* `find?_foldl_put`: of the entries that are filed under a key, the last one is found.
* `nodup_keys_ofList`, `ofList_entries`: catalogs have distinct keys, and are made of entries with
  distinct keys.
-/

namespace AnchoredUi.Catalog

variable {α κ : Type} {key : α → κ} [DecidableEq κ]

/-! ## Finding -/

theorem key_of_find? {c : Catalog key} {k : κ} {e : α} (h : c.find? k = some e) :
    key e = k ∧ e ∈ c.entries :=
  ⟨by simpa using List.find?_some h, List.mem_of_find?_eq_some h⟩

theorem find?_eq_none_iff {c : Catalog key} {k : κ} : c.find? k = none ↔ k ∉ c.keys := by
  simp [find?, keys]

/-- Under distinct keys, each entry is found. -/
theorem find?_of_mem {c : Catalog key} (h : c.keys.Nodup) {e : α} (he : e ∈ c.entries) :
    c.find? (key e) = some e := by
  cases hFind : c.find? (key e) with
  | none => exact absurd (List.mem_map_of_mem he) (find?_eq_none_iff.mp hFind)
  | some e' =>
    obtain ⟨hKey, hMem⟩ := key_of_find? hFind
    rw [List.inj_on_of_nodup_map h hMem he hKey]

/-- Of the entries that are filed under a key, the last one is found. -/
theorem find?_foldl_put (es : List α) (c : Catalog key) (k : κ) :
    (es.foldl put c).find? k = ((es.filter fun e => key e = k).getLast?).or (c.find? k) := by
  induction es generalizing c with
  | nil => rfl
  | cons e es ih =>
    rw [List.foldl_cons, ih, List.filter_cons]
    by_cases he : key e = k
    · subst he
      rw [find?_put_self, if_pos (by simp), List.getLast?_cons]
      cases (es.filter fun x => key x = key e).getLast? <;> rfl
    · rw [find?_put_other c he, if_neg (by simpa using he)]

/-! ## Other keys -/

/-- The entries under other keys. -/
def others (c : Catalog key) (k : κ) : List α := c.entries.filter fun e => key e ≠ k

theorem find?_others (c : Catalog key) (k n : κ) :
    (⟨c.others k⟩ : Catalog key).find? n = if n = k then none else c.find? n := by
  have hTest : (fun e => decide (decide (key e ≠ k) = true ∧ decide (key e = n) = true)) =
      fun e => if n = k then false else decide (key e = n) := by
    funext e
    by_cases he : key e = n
    · by_cases hn : n = k <;> simp [he, hn]
    · simp [he]
  simp only [find?, others, List.find?_filter, hTest]
  split
  · exact List.find?_eq_none.mpr fun _ _ => Bool.false_ne_true
  · rfl

theorem find?_eq_of_others {c d : Catalog key} {k n : κ} (h : c.others k = d.others k)
    (hn : n ≠ k) : c.find? n = d.find? n := by
  have hc := c.find?_others k n
  rw [h, d.find?_others, if_neg hn, if_neg hn] at hc
  exact hc.symm

/-- Of the entries under some keys, only those under the same key see a new entry. -/
theorem filter_place (p : κ → Bool) (xs : List α) (e : α) :
    (place key e xs).filter (fun x => p (key x)) =
      if p (key e) then place key e (xs.filter fun x => p (key x))
      else xs.filter fun x => p (key x) := by
  induction xs with
  | nil => by_cases he : p (key e) <;> simp [place, he]
  | cons x xs ih =>
    by_cases hx : key x = key e
    · by_cases he : p (key e) <;> simp [place, hx, he]
    · rw [place, if_neg hx, List.filter_cons, List.filter_cons, ih]
      by_cases he : p (key e) <;> by_cases hk : p (key x) <;> simp [he, hk, hx, place]

theorem filter_foldl_put (p : κ → Bool) (es : List α) (c : Catalog key) :
    (es.foldl put c).entries.filter (fun x => p (key x)) =
      ((es.filter fun x => p (key x)).foldl put
        ⟨c.entries.filter fun x => p (key x)⟩ : Catalog key).entries := by
  induction es generalizing c with
  | nil => rfl
  | cons e es ih =>
    have hPut : (place key e c.entries).filter (fun x => p (key x)) = _ :=
      filter_place p c.entries e
    rw [List.foldl_cons, ih]
    by_cases he : p (key e)
    · rw [if_pos he] at hPut
      rw [List.filter_cons, if_pos he, List.foldl_cons, put, put, hPut]
    · rw [if_neg he] at hPut
      rw [List.filter_cons, if_neg he, put, hPut]

theorem others_foldl_put (es : List α) (c : Catalog key) (k : κ) :
    (es.foldl put c).others k =
      ((es.filter fun e => key e ≠ k).foldl put ⟨c.others k⟩ : Catalog key).entries :=
  filter_foldl_put (fun n => decide (n ≠ k)) es c

/-! ## New keys -/

theorem place_of_not_mem {e : α} {xs : List α} (h : key e ∉ xs.map key) :
    place key e xs = xs ++ [e] := by
  induction xs with
  | nil => rfl
  | cons x xs ih =>
    rw [List.map_cons, List.mem_cons, not_or] at h
    rw [place, if_neg fun hEq => h.1 hEq.symm, ih h.2, List.cons_append]

/-- Filing entries with new and distinct keys appends them. -/
theorem foldl_put_of_nodup {es : List α} {c : Catalog key}
    (h : ((c.entries ++ es).map key).Nodup) : (es.foldl put c).entries = c.entries ++ es := by
  induction es generalizing c with
  | nil => simp
  | cons e es ih =>
    have hNew : key e ∉ c.entries.map key := by
      rw [List.map_append, List.map_cons, List.nodup_append] at h
      exact fun hMem => h.2.2 _ hMem _ List.mem_cons_self rfl
    have hPut : (c.put e).entries = c.entries ++ [e] := place_of_not_mem hNew
    have hRest : (((c.put e).entries ++ es).map key).Nodup := by
      rwa [hPut, List.append_assoc, List.singleton_append]
    rw [List.foldl_cons, ih hRest, hPut, List.append_assoc, List.singleton_append]

theorem mem_of_mem_place {x e : α} {xs : List α} (h : x ∈ place key e xs) : x = e ∨ x ∈ xs := by
  induction xs with
  | nil => exact Or.inl (List.mem_singleton.mp h)
  | cons y ys ih =>
    rw [place] at h
    split at h
    · exact (List.mem_cons.mp h).imp_right (List.mem_cons_of_mem y)
    · rcases List.mem_cons.mp h with rfl | h
      · exact Or.inr List.mem_cons_self
      · exact (ih h).imp_right (List.mem_cons_of_mem y)

theorem mem_of_mem_foldl_put {x : α} {es : List α} {c : Catalog key}
    (h : x ∈ (es.foldl put c).entries) : x ∈ es ∨ x ∈ c.entries := by
  induction es generalizing c with
  | nil => exact Or.inr h
  | cons e es ih =>
    rcases ih h with hMem | hMem
    · exact Or.inl (List.mem_cons_of_mem e hMem)
    · rcases mem_of_mem_place hMem with rfl | hOld
      · exact Or.inl List.mem_cons_self
      · exact Or.inr hOld

/-! ## Distinct keys -/

theorem nodup_keys_put {c : Catalog key} (h : c.keys.Nodup) (e : α) : (c.put e).keys.Nodup := by
  rw [keys_put]
  split
  · exact h
  · rename_i hNew
    exact List.nodup_append.mpr ⟨h, List.pairwise_singleton _ _,
      fun k hk l hl hEq => hNew (List.mem_singleton.mp hl ▸ hEq ▸ hk)⟩

theorem nodup_keys_ofList (es : List α) : (ofList es : Catalog key).keys.Nodup := by
  have hFold : ∀ c : Catalog key, c.keys.Nodup → (es.foldl put c).keys.Nodup := by
    induction es with
    | nil => exact fun c hc => hc
    | cons e es ih => exact fun c hc => ih (c.put e) (nodup_keys_put hc e)
  exact hFold empty List.nodup_nil

theorem ofList_entries {c : Catalog key} (h : c.keys.Nodup) : ofList c.entries = c :=
  congrArg mk (foldl_put_of_nodup h)

/-- Under distinct keys, the entry that is found is the last one under its key as well. -/
theorem find?_eq_getLast? {c : Catalog key} (h : c.keys.Nodup) (k : κ) :
    c.find? k = (c.entries.filter fun e => key e = k).getLast? := by
  have hFold : (ofList c.entries : Catalog key).find? k = _ := find?_foldl_put c.entries empty k
  rwa [ofList_entries h, find?_empty, Option.or_none] at hFold

theorem mem_of_mem_ofList {x : α} {es : List α} (h : x ∈ (ofList es : Catalog key).entries) :
    x ∈ es := (mem_of_mem_foldl_put h).resolve_right List.not_mem_nil

end AnchoredUi.Catalog
