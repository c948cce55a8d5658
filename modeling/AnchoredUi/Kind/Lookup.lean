import AnchoredUi.Kind.Basic
import AnchoredUi.Kind.TypeTable
import AnchoredUi.Text.Case
import AnchoredUi.Text.Trim

/-!
# From tags to kinds

A tag names a type, found in tiers: by its full name, in the known spaces, by its display name,
by its display name in any case, and at last as a part of some name. The type decides the kind:
the first matcher that accepts it or one of its bases.

* `mem_of_findType?`: what is found is a type of the table.
-/

namespace AnchoredUi.Kind

open Text

/-- How a type was found, the surest way first. -/
inductive Tier where
  | qualified
  | space
  | exact
  | anyCase
  | part
  deriving DecidableEq, Repr

/-- A test of a type. -/
inductive TypeMatcher where
  | exact (name : String)
  | openGeneric (name : String)
  | interface (name : String)
  deriving DecidableEq, Repr

/-- Another name for a type. -/
structure Alias where
  name : String
  target : String
  deriving DecidableEq, Repr

/-- Everything by which a tag is given a kind. -/
structure KindRules where
  types : TypeTable
  spaces : List String
  matchers : List (TypeMatcher × WidgetKind)
  aliases : List Alias

/-- What is found for a tag. -/
structure Resolution where
  kind : WidgetKind
  type : Option TypeInfo
  tier : Option Tier
  deriving DecidableEq

namespace KindRules

/-! ## Rules -/

/-- The usual rules over a table of types. -/
def standard (types : TypeTable) : KindRules where
  types := types
  spaces := [TypeTable.toolkit, "UnityEngine.UI"]
  matchers := [
    (.exact (TypeTable.inToolkit "Button"), .button),
    (.exact (TypeTable.inToolkit "TextField"), .textField),
    (.exact (TypeTable.inToolkit "DropdownField"), .dropdown),
    (.openGeneric (TypeTable.inToolkit "BaseSlider`1"), .slider),
    (.exact (TypeTable.inToolkit "Toggle"), .toggle),
    (.exact (TypeTable.inToolkit "Label"), .label),
    (.exact (TypeTable.inToolkit "Image"), .image),
    (.exact (TypeTable.inToolkit "ScrollView"), .scrollView),
    (.openGeneric (TypeTable.inToolkit "BaseField`1"), .genericField),
    (.exact (TypeTable.inToolkit "VisualElement"), .container)]
  aliases := [⟨"UXML", TypeTable.inToolkit "TemplateContainer"⟩]

instance : Inhabited KindRules := ⟨standard TypeTable.builtin⟩

/-- The rules with one more type. -/
def register (rules : KindRules) (t : TypeInfo) : KindRules :=
  { rules with types := rules.types.put t }

/-- The rules with a matcher that goes before all others. -/
def withMatcher (rules : KindRules) (m : TypeMatcher) (kind : WidgetKind) : KindRules :=
  { rules with matchers := (m, kind) :: rules.matchers }

/-- The rules with one more space to search. -/
def withSpace (rules : KindRules) (space : String) : KindRules :=
  { rules with spaces := rules.spaces ++ [space] }

/-! ## The type of a tag -/

/-- The type with a full name; else the first one of that space with that display name. -/
def qualified? (rules : KindRules) (name : String) : Option TypeInfo :=
  match rules.types.get? name with
  | some t => some t
  | none =>
    match cutAtLast '.' name.toList with
    | none => none
    | some (space, short) =>
      rules.types.entries.find? fun t =>
        t.space == String.ofList space && t.displayName == String.ofList short

/-- The type with a short name, or with that name raised, in one of the known spaces. -/
def inSpaces? (rules : KindRules) (short : String) : Option TypeInfo :=
  rules.spaces.findSome? fun space =>
    match rules.qualified? (space ++ "." ++ short) with
    | some t => some t
    | none => rules.qualified? (space ++ "." ++ String.ofList (capitalized short.toList))

/-- The fewest bytes of a name that is searched for inside other names. -/
def leastPart : Nat := 3

/-- A name occurs in the names of a type, in any case. -/
def isPartOf (part : String) (t : TypeInfo) : Bool :=
  occursIn (lower part.toList) (lower t.displayName.toList) ||
    occursIn (lower part.toList) (lower t.fullName.toList)

/-- The type that a short name finds, and how. -/
def short? (rules : KindRules) (short : String) : Option (TypeInfo × Tier) :=
  match rules.inSpaces? short with
  | some t => some (t, .space)
  | none =>
    match rules.types.entries.find? fun t => t.displayName == short with
    | some t => some (t, .exact)
    | none =>
      match rules.types.entries.find? fun t => agreeing t.displayName short with
      | some t => some (t, .anyCase)
      | none =>
        if short.utf8ByteSize < leastPart then none
        else (rules.types.entries.find? (isPartOf short)).map fun t => (t, .part)

/-- The name that a tag stands for. -/
def meant (rules : KindRules) (tag : String) : String :=
  let name := trimmed tag
  match rules.aliases.find? fun a => a.name == name with
  | some a => a.target
  | none => name

/-- The type that a tag names, and how it was found. -/
def findType? (rules : KindRules) (tag : String) : Option (TypeInfo × Tier) :=
  if trimmed tag = "" then none
  else
    let name := rules.meant tag
    match cutAtLast '.' name.toList with
    | none => rules.short? name
    | some (_, short) =>
      match rules.qualified? name with
      | some t => some (t, .qualified)
      | none => rules.short? (String.ofList short)

/-! ## The kind of a type -/

/-- A matcher accepts a type with the given lineage and interfaces. -/
def accepts (lineage interfaces : List String) : TypeMatcher → Bool
  | .exact name => lineage.contains name
  | .openGeneric name => lineage.any fun ref => definition ref == name
  | .interface name => interfaces.contains name

/-- The kind of a type. -/
def classify (rules : KindRules) (t : TypeInfo) : WidgetKind :=
  let lineage := rules.types.lineage t
  let interfaces := rules.types.interfacesOf t
  match rules.matchers.find? fun m => accepts lineage interfaces m.1 with
  | some m => m.2
  | none => .unrecognized

/-- The type and the kind of a tag. -/
def resolve (rules : KindRules) (tag : String) : Resolution :=
  match rules.findType? tag with
  | some (t, tier) => ⟨rules.classify t, some t, some tier⟩
  | none => ⟨.unrecognized, none, none⟩

/-! ## What is found -/

theorem mem_of_qualified? {rules : KindRules} {name : String} {t : TypeInfo}
    (h : rules.qualified? name = some t) : t ∈ rules.types.entries := by
  unfold qualified? at h
  split at h
  · rename_i u hu
    cases h
    exact List.mem_of_find?_eq_some hu
  · split at h
    · cases h
    · exact List.mem_of_find?_eq_some h

theorem mem_of_inSpaces? {rules : KindRules} {short : String} {t : TypeInfo}
    (h : rules.inSpaces? short = some t) : t ∈ rules.types.entries := by
  obtain ⟨space, _, hs⟩ := List.exists_of_findSome?_eq_some h
  split at hs
  · rename_i u hu
    cases hs
    exact mem_of_qualified? hu
  · exact mem_of_qualified? hs

theorem mem_of_short? {rules : KindRules} {short : String} {t : TypeInfo} {tier : Tier}
    (h : rules.short? short = some (t, tier)) : t ∈ rules.types.entries := by
  unfold short? at h
  split at h
  · rename_i u hu
    cases h
    exact mem_of_inSpaces? hu
  · split at h
    · rename_i u hu
      cases h
      exact List.mem_of_find?_eq_some hu
    · split at h
      · rename_i u hu
        cases h
        exact List.mem_of_find?_eq_some hu
      · split at h
        · cases h
        · obtain ⟨u, hu, he⟩ := Option.map_eq_some_iff.mp h
          cases he
          exact List.mem_of_find?_eq_some hu

theorem mem_of_findType? {rules : KindRules} {tag : String} {t : TypeInfo} {tier : Tier}
    (h : rules.findType? tag = some (t, tier)) : t ∈ rules.types.entries := by
  unfold findType? at h
  split at h
  · cases h
  · simp only at h
    split at h
    · exact mem_of_short? h
    · split at h
      · rename_i u hu
        cases h
        exact mem_of_qualified? hu
      · exact mem_of_short? h

end KindRules

end AnchoredUi.Kind
