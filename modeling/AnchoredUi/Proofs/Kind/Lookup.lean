import AnchoredUi.Asset.Address
import AnchoredUi.Kind.Lookup
import AnchoredUi.Proofs.Catalog
import AnchoredUi.Proofs.Kind.Inherited
import AnchoredUi.Proofs.Text.Cut

/-!
# What tags find

Rules are set up from a table of types by adding types, matchers and spaces. None of this makes a
type lose its own name: a full name with a point in it is looked up before anything else is tried,
the table has one type for it, and the only alias is a name without a point. A type that is found
because its names contain that of the tag is found at last only, where no display name is that of
the tag, and nothing is found only where no name contains it either.

* `KindRules.short?_cases`: a short name that finds no type of this name.
* `KindRules.findType?_fullName`: a type is found under its full name.
* `KindRules.findType?_faithful`: all that a tag can find.
-/

namespace AnchoredUi.Kind.KindRules

open Text Asset

variable {rules : KindRules} {tag short : String} {t : TypeInfo}

/-! ## Setting up rules -/

/-- A step of setting up rules: one more type, matcher or space. -/
inductive Step where
  | register (t : TypeInfo)
  | withMatcher (m : TypeMatcher) (kind : WidgetKind)
  | withSpace (space : String)

/-- The rules after a step. -/
def Step.run : Step → KindRules → KindRules
  | register t, rules => rules.register t
  | withMatcher m kind, rules => rules.withMatcher m kind
  | withSpace space, rules => rules.withSpace space

/-- The rules that are set up from a table of types by steps, one after the other. -/
def equipped (types : List TypeInfo) (steps : List Step) : KindRules :=
  steps.foldl (fun rules step => step.run rules) (standard (Catalog.ofList types))

/-- Whatever was added, a full name has one type, and there is the usual alias alone. -/
theorem equipped_keeps (types : List TypeInfo) (steps : List Step) :
    (equipped types steps).types.keys.Nodup ∧
      (equipped types steps).aliases = [⟨"UXML", TypeTable.inToolkit "TemplateContainer"⟩] := by
  suffices hAll : ∀ rules : KindRules, rules.types.keys.Nodup ∧
      rules.aliases = [⟨"UXML", TypeTable.inToolkit "TemplateContainer"⟩] →
      (steps.foldl (fun rules step => step.run rules) rules).types.keys.Nodup ∧
      (steps.foldl (fun rules step => step.run rules) rules).aliases =
        [⟨"UXML", TypeTable.inToolkit "TemplateContainer"⟩] from
    hAll (standard (Catalog.ofList types)) ⟨Catalog.nodup_keys_ofList types, rfl⟩
  induction steps with
  | nil => exact fun _ h => h
  | cons step steps ih =>
    intro rules ⟨hKeys, hAliases⟩
    refine ih _ ?_
    cases step with
    | register t => exact ⟨Catalog.nodup_keys_put hKeys t, hAliases⟩
    | withMatcher m kind => exact ⟨hKeys, hAliases⟩
    | withSpace space => exact ⟨hKeys, hAliases⟩

/-! ## Short names -/

/-- The part of the meant name behind its last point. -/
def lastPart (rules : KindRules) (tag : String) : String :=
  String.ofList (behindLast '.' (rules.meant tag).toList)

theorem agreeing_iff {a b : String} : agreeing a b = true ↔ lowered a = lowered b := by
  rw [agreeing, sameLetters_iff, lowered, lowered, String.ofList_inj]

theorem isPartOf_iff : isPartOf short t = true ↔
    lower short.toList <:+: lower t.displayName.toList ∨
      lower short.toList <:+: lower t.fullName.toList := by
  rw [isPartOf, Bool.or_eq_true, occursIn_iff, occursIn_iff]

/-- A short name finds a type of this name, or there is none and it is searched for in names. -/
theorem short?_cases (rules : KindRules) (short : String) :
    (∃ t tier, rules.short? short = some (t, tier) ∧ tier ≠ .part) ∨
    (∀ t ∈ rules.types.entries, lowered t.displayName ≠ lowered short) ∧
      rules.short? short = if short.utf8ByteSize < leastPart then none
        else (rules.types.entries.find? (isPartOf short)).map fun t => (t, .part) := by
  rw [short?]
  cases rules.inSpaces? short with
  | some t => exact .inl ⟨t, .space, rfl, nofun⟩
  | none =>
    cases rules.types.entries.find? fun t => t.displayName == short with
    | some t => exact .inl ⟨t, .exact, rfl, nofun⟩
    | none =>
      cases hAny : rules.types.entries.find? fun t => agreeing t.displayName short with
      | some t => exact .inl ⟨t, .anyCase, rfl, nofun⟩
      | none =>
        refine .inr ⟨fun t ht hSame => ?_, rfl⟩
        exact List.find?_eq_none.mp hAny t ht (agreeing_iff.mpr hSame)

theorem findType?_cases (rules : KindRules) (h : trimmed tag ≠ "") :
    (∃ t, rules.findType? tag = some (t, .qualified)) ∨
      rules.findType? tag = rules.short? (rules.lastPart tag) := by
  rw [findType?, if_neg h, lastPart, behindLast]
  simp only
  cases cutAtLast '.' (rules.meant tag).toList with
  | none => exact .inr (by rw [String.ofList_toList])
  | some cut =>
    cases rules.qualified? (rules.meant tag) with
    | some t => exact .inl ⟨t, rfl⟩
    | none => exact .inr rfl

/-! ## Full names -/

theorem point_mem_fullName (h : t.space ≠ "") : '.' ∈ t.fullName.toList := by
  rw [TypeInfo.fullName, if_neg h, String.toList_append, String.toList_append]
  simp

theorem findType?_fullName (hKeys : rules.types.keys.Nodup)
    (hAliases : ∀ a ∈ rules.aliases, '.' ∉ a.name.toList) (ht : t ∈ rules.types.entries)
    (hSpace : t.space ≠ "") (hName : '[' ∉ t.fullName.toList)
    (hTrim : trimmed t.fullName = t.fullName) :
    rules.findType? t.fullName = some (t, .qualified) := by
  have hPoint := point_mem_fullName hSpace
  have hNotEmpty : trimmed t.fullName ≠ "" := by
    rw [hTrim]
    exact fun hEmpty => List.not_mem_nil (hEmpty ▸ hPoint)
  have hMeant : rules.meant t.fullName = t.fullName := by
    have hNone : rules.aliases.find? (fun a => a.name == t.fullName) = none :=
      List.find?_eq_none.mpr fun a ha hSame => hAliases a ha (beq_iff_eq.mp hSame ▸ hPoint)
    rw [meant, hTrim]
    simp only [hNone]
  have hFound : rules.qualified? t.fullName = some t := by
    rw [qualified?, TypeTable.get?, definition_eq_self hName, Catalog.find?_of_mem hKeys ht]
  rw [findType?, if_neg hNotEmpty]
  simp only [hMeant, hFound]
  cases hCut : cutAtLast '.' t.fullName.toList with
  | none => exact absurd hPoint (cutAtLast_eq_none_iff.mp hCut)
  | some cut => rfl

/-! ## Searching in names -/

/-- What is found in names has them, and the tag is nobody's name. -/
theorem findType?_part (h : rules.findType? tag = some (t, .part)) :
    (∀ u ∈ rules.types.entries, lowered u.displayName ≠ lowered (rules.lastPart tag)) ∧
      (lower (rules.lastPart tag).toList <:+: lower t.displayName.toList ∨
        lower (rules.lastPart tag).toList <:+: lower t.fullName.toList) := by
  have hTag : trimmed tag ≠ "" := by
    intro hEmpty
    rw [findType?, if_pos hEmpty] at h
    cases h
  rcases rules.findType?_cases hTag with ⟨u, hQualified⟩ | hShort
  · cases h.symm.trans hQualified
  rw [hShort] at h
  rcases rules.short?_cases (rules.lastPart tag) with ⟨u, tier, hFound, hTier⟩ | ⟨hUnknown, hFound⟩
  · cases h.symm.trans hFound
    exact absurd rfl hTier
  · rw [h] at hFound
    split at hFound
    · cases hFound
    · obtain ⟨u, hu, hEq⟩ := Option.map_eq_some_iff.mp hFound.symm
      cases hEq
      exact ⟨hUnknown, isPartOf_iff.mp (List.find?_some hu)⟩

/-- A tag that finds nothing is nobody's name, and too short or in no name. -/
theorem findType?_none (hTag : trimmed tag ≠ "") (h : rules.findType? tag = none) :
    (∀ u ∈ rules.types.entries, lowered u.displayName ≠ lowered (rules.lastPart tag)) ∧
      ((rules.lastPart tag).utf8ByteSize < leastPart ∨ ∀ u ∈ rules.types.entries,
        ¬ lower (rules.lastPart tag).toList <:+: lower u.displayName.toList ∧
          ¬ lower (rules.lastPart tag).toList <:+: lower u.fullName.toList) := by
  rcases rules.findType?_cases hTag with ⟨u, hQualified⟩ | hShort
  · cases h.symm.trans hQualified
  rw [hShort] at h
  rcases rules.short?_cases (rules.lastPart tag) with ⟨u, tier, hFound, -⟩ | ⟨hUnknown, hFound⟩
  · cases h.symm.trans hFound
  · refine ⟨hUnknown, ?_⟩
    rw [h] at hFound
    split at hFound
    · exact .inl ‹_›
    · refine .inr fun u hu => not_or.mp fun hPart => ?_
      have hNowhere := List.find?_eq_none.mp (Option.map_eq_none_iff.mp hFound.symm) u hu
      exact hNowhere (isPartOf_iff.mpr hPart)

/-! ## All tags -/

/-- Whatever types, matchers and spaces were added, a type of a space is found under its full name.
A tag finds types of the table only. It finds one by a part of its names only if no display name is
the last part of the tag, in any case, and nothing only if the last part is shorter than three bytes
or no name contains it. -/
theorem findType?_faithful (types : List TypeInfo) (steps : List Step) :
    let rules := equipped types steps
    let entries := rules.types.entries
    (∀ t ∈ entries, t.space ≠ "" → '[' ∉ t.fullName.toList → trimmed t.fullName = t.fullName →
      rules.findType? t.fullName = some (t, .qualified)) ∧
    (∀ tag t tier, rules.findType? tag = some (t, tier) → t ∈ entries) ∧
    ∀ tag, let part := rules.lastPart tag
      (∀ t, rules.findType? tag = some (t, .part) →
        (∀ u ∈ entries, lowered u.displayName ≠ lowered part) ∧
        (lower part.toList <:+: lower t.displayName.toList ∨
          lower part.toList <:+: lower t.fullName.toList)) ∧
      (trimmed tag ≠ "" → rules.findType? tag = none →
        (∀ u ∈ entries, lowered u.displayName ≠ lowered part) ∧
        (part.utf8ByteSize < 3 ∨ ∀ u ∈ entries,
          ¬ lower part.toList <:+: lower u.displayName.toList ∧
            ¬ lower part.toList <:+: lower u.fullName.toList)) := by
  intro rules entries
  obtain ⟨hKeys, hAliases⟩ := equipped_keeps types steps
  have hPoints : ∀ a ∈ rules.aliases, '.' ∉ a.name.toList := by
    rw [hAliases]
    decide
  exact ⟨fun t ht => findType?_fullName hKeys hPoints ht,
    fun _ _ _ hFound => mem_of_findType? hFound,
    fun _ => ⟨fun _ hPart => findType?_part hPart, fun hTag hNone => findType?_none hTag hNone⟩⟩

/-- A tag that is a part of two full names, of which the first one counts. -/
example :
    let rules := equipped [⟨"Game.Hud", "Bar", none, []⟩, ⟨"Game.Hud", "Frame", none, []⟩] []
    rules.findType? " my.hUd" = some (⟨"Game.Hud", "Bar", none, []⟩, .part) ∧
      rules.findType? "Game.Hud.Frame" = some (⟨"Game.Hud", "Frame", none, []⟩, .qualified) ∧
      rules.findType? "ud" = none := by
  decide +kernel

end AnchoredUi.Kind.KindRules
