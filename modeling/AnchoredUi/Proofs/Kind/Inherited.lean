import AnchoredUi.Kind.Lookup
import AnchoredUi.Proofs.Catalog
import AnchoredUi.Proofs.Kind.Lineage

/-!
# Kinds are inherited

A type whose base is in the table goes up like its base, from one step below. The two ways have not
passed the same types, since that of the base has not passed the type; but this makes a difference
only if the base comes back to the type. If it does not, each matcher that accepts the base accepts
the type, with one exception: a matcher by full name is looking for the text of a reference, and a
reference to the base may carry type arguments. Without these the type is decided by the matcher
of its base or by an earlier one.

* `Climbs.unique`, `Climbs.pass_more`: a way up is determined by where it starts, and it stays the
  same if more types were passed that it does not come to.
* `lineage_of_base`: the lineage of a type is made of that of its base.
* `KindRules.classify_inherits`: what this means for matchers and kinds.
-/

namespace AnchoredUi.Kind

open Text

/-! ## References -/

theorem bracket_not_mem_definition (ref : String) : '[' ∉ (definition ref).toList := by
  rw [definition]
  split
  · rename_i hCut
    rw [String.toList_ofList]
    exact (append_of_cutAt hCut).2
  · rename_i hCut
    exact cutAt_eq_none_iff.mp hCut

theorem definition_eq_self {ref : String} (h : '[' ∉ ref.toList) : definition ref = ref := by
  rw [definition, cutAt_eq_none_iff.mpr h]

namespace TypeTable

variable {table : TypeTable} {seen more rest rest' : List String} {next : Option String}
  {t s : TypeInfo} {ref : String}

/-! ## Two ways up -/

theorem Climbs.unique (h : Climbs table seen next rest) (h' : Climbs table seen next rest') :
    rest = rest' := by
  induction h generalizing rest' with
  | top =>
    cases h'
    rfl
  | again hSeen =>
    cases h' with
    | again => rfl
    | up hNew => exact absurd hSeen hNew
  | up hNew _ ih =>
    cases h' with
    | again hSeen => exact absurd hSeen hNew
    | up _ hRest => rw [ih hRest]

/-- A way up stays the same if more types were passed, none of which it comes to. -/
theorem Climbs.pass_more (h : Climbs table seen next rest)
    (hSeen : seen.map definition ⊆ more.map definition)
    (hAside : ∀ ref ∈ rest, definition ref ∈ more.map definition →
      definition ref ∈ seen.map definition) : Climbs table more next rest := by
  induction h generalizing more with
  | top => exact .top
  | again hHere => exact .again (hSeen hHere)
  | @up seen rest ref hNew _ ih =>
    obtain ⟨hHere, hLater⟩ := List.forall_mem_cons.mp hAside
    refine .up (fun hPassed => hNew (hHere hPassed)) (ih ?_ fun after hAfter hPassed => ?_)
    · exact List.cons_subset_cons _ hSeen
    · rcases List.mem_cons.mp hPassed with hSame | hPassed
      · exact List.mem_cons.mpr (.inl hSame)
      · exact List.mem_cons_of_mem _ (hLater after hAfter hPassed)

/-- The lineage of a type goes on behind its base like that of the base, unless that one comes to
the type. -/
theorem lineage_of_base (hName : '[' ∉ t.fullName.toList) (hBase : t.base = some ref)
    (hRef : table.get? ref = some s) (hSame : definition ref = s.fullName)
    (hApart : ∀ r ∈ table.lineage s, definition r ≠ t.fullName) :
    table.lineage t = t.fullName :: ref :: (table.lineage s).tail := by
  have hPlain : definition s.fullName = s.fullName :=
    definition_eq_self (hSame ▸ bracket_not_mem_definition ref)
  obtain ⟨above, hLineage, hClimbs⟩ := table.climbs_lineage t
  obtain ⟨rest, hOfBase, hRest⟩ := table.climbs_lineage s
  rw [hOfBase] at hApart
  obtain ⟨hOther, hLater⟩ := List.forall_mem_cons.mp hApart
  rw [hBase] at hClimbs
  rw [hLineage, hOfBase, List.tail_cons]
  cases hClimbs with
  | again hSeen =>
    rw [List.map_singleton, List.mem_singleton, hSame, definition_eq_self hName] at hSeen
    exact absurd (hPlain.trans hSeen) hOther
  | up _ hAbove =>
    have hNext : table.baseOf? ref = s.base := by rw [baseOf?, hRef, Option.bind_some]
    rw [hNext] at hAbove
    have hMore : Climbs table [ref, t.fullName] s.base rest := by
      refine hRest.pass_more ?_ fun r hr hPassed => ?_
      · rw [List.map_singleton, hPlain, ← hSame]
        exact List.cons_subset_cons _ (List.nil_subset _)
      · rcases List.mem_cons.mp hPassed with hFirst | hFirst
        · rw [List.map_singleton, List.mem_singleton, hPlain, hFirst, hSame]
        · rw [List.map_singleton, List.mem_singleton, definition_eq_self hName] at hFirst
          exact absurd hFirst (hLater r hr)
    rw [hAbove.unique hMore]

theorem mem_interfacesOf_iff {interface : String} : interface ∈ table.interfacesOf t ↔
    ∃ r ∈ table.lineage t, ∃ u, table.get? r = some u ∧ interface ∈ u.interfaces := by
  simp only [interfacesOf, List.mem_flatMap, List.mem_filterMap]
  constructor
  · rintro ⟨u, ⟨r, hr, hu⟩, hMem⟩
    exact ⟨r, hr, u, hu, hMem⟩
  · rintro ⟨r, hr, u, hu, hMem⟩
    exact ⟨u, ⟨r, hr, hu⟩, hMem⟩

end TypeTable

/-! ## Matchers -/

namespace KindRules

variable {rules : KindRules} {t s : TypeInfo} {ref : String}

/-- A matcher accepts a type, by its lineage and its interfaces. -/
def takes (rules : KindRules) (t : TypeInfo) (m : TypeMatcher) : Bool :=
  accepts (rules.types.lineage t) (rules.types.interfacesOf t) m

/-- The place of the matcher that decides the kind of a type. -/
def decidedAt? (rules : KindRules) (t : TypeInfo) : Option ℕ :=
  rules.matchers.findIdx? fun m => rules.takes t m.1

theorem classify_eq (rules : KindRules) (t : TypeInfo) : rules.classify t =
    ((rules.matchers.find? fun m => rules.takes t m.1).map Prod.snd).getD .unrecognized := by
  simp only [classify, takes]
  cases rules.matchers.find? fun m =>
    accepts (rules.types.lineage t) (rules.types.interfacesOf t) m.1 <;> rfl

theorem matcher_of_decidedAt? {i : ℕ} (h : rules.decidedAt? t = some i) :
    rules.matchers[i]?.map Prod.snd = some (rules.classify t) := by
  have hFind : rules.matchers.find? (fun m => rules.takes t m.1) = rules.matchers[i]? := by
    rw [List.find?_eq_bind_findIdx?_getElem?]
    exact congrArg (Option.bind · (rules.matchers[·]?)) h
  obtain ⟨hi, -⟩ := List.findIdx?_eq_some_iff_getElem.mp h
  rw [List.getElem?_eq_getElem hi] at hFind ⊢
  rw [classify_eq, hFind, Option.map_some, Option.getD_some]

/-- Each reference to a base of the base is one to a base of the type, up to type arguments. -/
theorem exists_mem_lineage (hRef : definition ref = definition s.fullName)
    (hLineage : rules.types.lineage t = t.fullName :: ref :: (rules.types.lineage s).tail)
    {r : String} (hr : r ∈ rules.types.lineage s) :
    ∃ r' ∈ rules.types.lineage t, definition r' = definition r := by
  rw [hLineage]
  rcases List.mem_cons.mp hr with rfl | hr
  · exact ⟨ref, by simp, hRef⟩
  · exact ⟨r, List.mem_cons_of_mem _ (List.mem_cons_of_mem _ hr), rfl⟩

/-- A matcher that accepts the base accepts the type; a matcher by full name does so if the
reference to the base has no type arguments. -/
theorem takes_of_takes_base (hRef : definition ref = s.fullName)
    (hLineage : rules.types.lineage t = t.fullName :: ref :: (rules.types.lineage s).tail)
    {m : TypeMatcher} (hPlain : ∀ name, m = .exact name → '[' ∉ ref.toList)
    (h : rules.takes s m) : rules.takes t m := by
  have hSame : definition ref = definition s.fullName := by
    rw [← hRef, definition_eq_self (bracket_not_mem_definition ref)]
  cases m with
  | exact name =>
    -- without type arguments the reference is the full name of the base
    refine List.contains_iff_mem.mpr ?_
    rw [hLineage, ← definition_eq_self (hPlain name rfl), hRef]
    exact List.mem_cons_of_mem _ (List.contains_iff_mem.mp h)
  | openGeneric name =>
    obtain ⟨r, hr, hMatch⟩ := List.any_eq_true.mp h
    obtain ⟨r', hr', hDef⟩ := exists_mem_lineage hSame hLineage hr
    exact List.any_eq_true.mpr ⟨r', hr', hDef ▸ hMatch⟩
  | interface name =>
    obtain ⟨r, hr, u, hu, hMem⟩ :=
      TypeTable.mem_interfacesOf_iff.mp (List.contains_iff_mem.mp h)
    obtain ⟨r', hr', hDef⟩ := exists_mem_lineage hSame hLineage hr
    refine List.contains_iff_mem.mpr (TypeTable.mem_interfacesOf_iff.mpr ⟨r', hr', u, ?_, hMem⟩)
    rw [← hu, TypeTable.get?, hDef, TypeTable.get?]

/-- A type whose base is in the table and does not come back to it has the lineage of its base, and
is accepted by the matchers that accept its base; only matchers by full name may miss a base that
is given type arguments. Without type arguments, the type has a deciding matcher if its base has
one, and not a later one. -/
theorem classify_inherits {types : List TypeInfo} (hTypes : rules.types = Catalog.ofList types)
    (hNames : ∀ u ∈ types, '[' ∉ u.fullName.toList) (ht : t ∈ rules.types.entries)
    (hs : s ∈ rules.types.entries) (hBase : t.base = some ref) (hRef : definition ref = s.fullName)
    (hApart : ∀ r ∈ rules.types.lineage s, definition r ≠ t.fullName) :
    rules.types.lineage t = t.fullName :: ref :: (rules.types.lineage s).tail ∧
    (∀ name, rules.takes s (.openGeneric name) → rules.takes t (.openGeneric name)) ∧
    (∀ name, rules.takes s (.interface name) → rules.takes t (.interface name)) ∧
    ('[' ∉ ref.toList →
      (∀ name, rules.takes s (.exact name) → rules.takes t (.exact name)) ∧
      ∀ i, rules.decidedAt? s = some i → ∃ j ≤ i, rules.decidedAt? t = some j ∧
        rules.matchers[j]?.map Prod.snd = some (rules.classify t)) := by
  have hName : '[' ∉ t.fullName.toList := hNames t (Catalog.mem_of_mem_ofList (hTypes ▸ ht))
  have hFound : rules.types.get? ref = some s := by
    rw [TypeTable.get?, hRef]
    exact Catalog.find?_of_mem (hTypes ▸ Catalog.nodup_keys_ofList types) hs
  have hLineage := TypeTable.lineage_of_base hName hBase hFound hRef hApart
  refine ⟨hLineage, fun _ => takes_of_takes_base hRef hLineage nofun,
    fun _ => takes_of_takes_base hRef hLineage nofun, fun hPlain => ?_⟩
  have hAll : ∀ m, rules.takes s m → rules.takes t m := fun m =>
    takes_of_takes_base hRef hLineage fun _ _ => hPlain
  refine ⟨fun name => hAll (.exact name), fun i hi => ?_⟩
  obtain ⟨j, hj, hDecided⟩ := List.findIdx?_eq_some_le_of_findIdx?_eq_some
    (q := fun m => rules.takes t m.1) (fun m _ => hAll m.1) hi
  exact ⟨j, hj, hDecided, matcher_of_decidedAt? hDecided⟩

/-- A tile whose base goes round in a circle without it: what a reference gives as a type argument
is not a base. -/
theorem classify_inherits_tile :
    let cell : TypeInfo := ⟨"Game", "Cell`1", some "Game.Grid", []⟩
    let grid : TypeInfo := ⟨"Game", "Grid", some "Game.Cell`1[Game.Tile]", ["IClickable"]⟩
    let tile : TypeInfo := ⟨"Game", "Tile", some "Game.Grid", []⟩
    let rules : KindRules := { KindRules.standard (Catalog.ofList [cell, tile, grid]) with
      matchers := [(.exact "Game.Tile", .toggle), (.openGeneric "Game.Cell`1", .slider),
        (.interface "IClickable", .button)] }
    rules.types.lineage tile = ["Game.Tile", "Game.Grid", "Game.Cell`1[Game.Tile]"] ∧
      rules.decidedAt? grid = some 1 ∧ ∃ j ≤ 1, rules.decidedAt? tile = some j ∧
        rules.matchers[j]?.map Prod.snd = some (rules.classify tile) := by
  intro cell grid tile rules
  have hTypes : rules.types = Catalog.ofList [cell, tile, grid] := rfl
  have hTile : tile ∈ rules.types.entries := by decide +kernel
  have hBase : grid ∈ rules.types.entries := by decide +kernel
  obtain ⟨hLineage, -, -, hPlain⟩ := classify_inherits hTypes (by decide +kernel) hTile hBase rfl
    (by decide +kernel) (by decide +kernel)
  have hGrid : rules.decidedAt? grid = some 1 := by decide +kernel
  refine ⟨?_, hGrid, (hPlain (by decide +kernel)).2 1 hGrid⟩
  rw [hLineage]
  decide +kernel

end KindRules

end AnchoredUi.Kind
