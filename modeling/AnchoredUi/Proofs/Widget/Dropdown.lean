import AnchoredUi.Asset.Shelf
import AnchoredUi.Proofs.Text.Cut
import AnchoredUi.Proofs.Widget.Raised
import AnchoredUi.Proofs.Widget.Text
import AnchoredUi.Proofs.Widget.Wiring

/-!
# Dropdowns that were built

The options of a dropdown are cut out of an attribute, and there is always one. The chosen one is
looked up twice while the nodes are made, for the text outside the list and for the text in it; it
is always one of the options.

* `isOption_of_mem_options`: what the options of a dropdown are like.
* `placeOf_cases`: the place of an option is the first one at which it stands.
* `dropdown_shows_chosen`: every dropdown that was built.
-/

namespace AnchoredUi.Widget

open Number Plane SceneGraph Markup Kind Sprite Styling Text

/-! ## Options -/

/-- A text that can stand between two commas as an option. -/
structure IsOption (o : String) : Prop where
  ne_empty : o ≠ ""
  trimmed_eq : trimmed o = o
  noComma : ',' ∉ o.toList

theorem isOption_of_mem_listedOptions {list o : String} (h : o ∈ listedOptions list) :
    IsOption o := by
  obtain ⟨cs, hCs, rfl⟩ := List.mem_map.mp h
  obtain ⟨hMem, hNe⟩ := List.mem_filter.mp hCs
  obtain ⟨piece, hPiece, rfl⟩ := List.mem_map.mp hMem
  have hComma := (infix_of_mem_pieces hPiece).2
  have hStretch : trim piece <:+: piece := trimBy_isInfix isBlank piece
  refine ⟨fun hEmpty => ?_, ?_, ?_⟩
  · rw [String.ofList_eq_empty_iff] at hEmpty
    simp [hEmpty] at hNe
  · have hTwice : trim (trim piece) = trim piece := trimBy_trimBy isBlank piece
    rw [trimmed, String.toList_ofList, hTwice]
  · rw [String.toList_ofList]
    exact fun hMem => hComma (hStretch.subset hMem)

instance (o : String) : Decidable (IsOption o) :=
  decidable_of_iff (o ≠ "" ∧ trimmed o = o ∧ ',' ∉ o.toList)
    ⟨fun ⟨h, h', h''⟩ => ⟨h, h', h''⟩, fun h => ⟨h.ne_empty, h.trimmed_eq, h.noComma⟩⟩

theorem isOption_of_mem_options {e : Element} {o : String} (h : o ∈ options e) : IsOption o := by
  unfold options at h
  split at h
  · have hUsual : ∀ o ∈ usualOptions, IsOption o := by decide
    exact hUsual o h
  · exact isOption_of_mem_listedOptions h

/-! ## The chosen option -/

/-- The first place of an option among several. -/
def FirstAt (options : List String) (o : String) (i : Nat) : Prop :=
  options[i]? = some o ∧ ∀ j < i, options[j]? ≠ some o

/-- An option stands at its place for the first time; what is no option has the first place. -/
theorem placeOf_cases (os : List String) (o : String) :
    FirstAt os o (placeOf os o) ∨ o ∉ os ∧ placeOf os o = 0 := by
  unfold placeOf
  cases hi : os.findIdx? (· == o) with
  | none =>
    have hNone := List.findIdx?_eq_none_iff.mp hi
    exact .inr ⟨fun hMem => by simpa using hNone o hMem, rfl⟩
  | some i =>
    obtain ⟨hLt, hHere, hBefore⟩ := List.findIdx?_eq_some_iff_getElem.mp hi
    refine .inl ⟨?_, fun j hj hThere => ?_⟩
    · rw [Option.getD_some, List.getElem?_eq_getElem hLt, eq_of_beq hHere]
    · obtain ⟨hLt', rfl⟩ := List.getElem?_eq_some_iff.mp hThere
      exact hBefore j hj (beq_self_eq_true _)

/-- Without an index the value is looked up among the options. -/
theorem chosen_without_index {e : Element} {os : List String} {i : Nat} (h : chosen e os = .ok i)
    (hIndex : e.attr? "index" = none) :
    (∃ v, e.attr? "value" = some v ∧ FirstAt os (trimmed v) i) ∨
      (∀ v, e.attr? "value" = some v → trimmed v ∉ os) ∧ i = 0 := by
  unfold chosen at h
  rw [hIndex] at h
  obtain rfl := Except.ok.inj h
  cases e.attr? "value" with
  | none => exact .inr ⟨fun _ hv => (nomatch hv), rfl⟩
  | some v =>
    rcases placeOf_cases os (trimmed v) with hFirst | ⟨hNot, hZero⟩
    · exact .inl ⟨v, rfl, hFirst⟩
    · refine .inr ⟨?_, hZero⟩
      rintro _ ⟨⟩
      exact hNot

/-! ## Building -/

/-- A node is referred to that shows a text. -/
def Shows (t : Scene) (reference : Option NodeId) (text : String) : Prop :=
  ∃ id block, reference = some id ∧ t.component? TextBlock id = some block ∧ block.text = text

/-- A part to which a text was attached has it. -/
theorem Stands.component?_text {b : Blueprint} {answers : String → Option Sprite} {name : String}
    {parent : NodeId} {s t : Scene} {nodes : Part → NodeId}
    (h : Stands b answers name parent s t nodes) {p : Part} {block : TextBlock}
    (hText : textOn? (b.stepsFor answers) p = some block) :
    t.component? TextBlock (nodes p) = some block := by
  obtain ⟨c, hc, -⟩ := List.exists_of_findSome?_eq_some hText
  have hp := h.furnished.there p c (mem_attachedTo.mp hc)
  exact (component?_furnished h.furnished hp).trans hText

/-- A dropdown that was built has options, which are proper texts, and shows the one of them that
is chosen, outside the list and in it. Without an index that is the first one that is the value, if
there is one, else the first one of all. -/
theorem dropdown_shows_chosen {l : Lettering} {e : Element} {parent : NodeId} {st st' : Stage}
    {w : Built} (hs : st.host.scene.Reachable)
    (h : build .dropdown l e parent st = (.ok w, st')) :
    ∃ d : Dropdown NodeId,
      st'.host.scene.components w.root = [.graphic (.colored .white), .dropdown d] ∧
      d.options = options e ∧ d.options ≠ [] ∧ (∀ o ∈ d.options, IsOption o) ∧
      (∃ hLt : d.chosen < d.options.length,
        Shows st'.host.scene d.caption d.options[d.chosen] ∧
        Shows st'.host.scene d.item d.options[d.chosen]) ∧
      (e.attr? "index" = none →
        (∃ v, e.attr? "value" = some v ∧ FirstAt d.options (trimmed v) d.chosen) ∨
          (∀ v, e.attr? "value" = some v → trimmed v ∉ d.options) ∧ d.chosen = 0) := by
  obtain ⟨b, nodes, hBlueprint, hStands, rfl⟩ := exists_stands_of_build hs.forest h
  obtain ⟨i, hChosen, rfl⟩ := exists_of_map_eq_ok hBlueprint
  have hLt := chosen_lt (options_ne_nil e) hChosen
  have hOption : (options e).getD i "" = (options e)[i] := by
    rw [List.getD_eq_getElem?_getD, List.getElem?_eq_getElem hLt, Option.getD_some]
  have hShows : ∀ p, textOn? (dropdownSteps l (options e) i) p =
      some (l.text ((options e).getD i "")) →
      Shows st'.host.scene (some (nodes p)) (options e)[i] := fun p hText =>
    ⟨_, _, rfl, hStands.component?_text hText, hOption⟩
  have hComponents := hStands.furnished.filled_eq
    (wired_of_isWired (isWired_dropdownSteps l (options e) i)).orderly .root List.mem_cons_self
  refine ⟨⟨some (nodes .root), some (nodes .template), some (nodes .label), some (nodes .itemLabel),
    options e, i⟩, ?_, rfl, options_ne_nil e, fun o => isOption_of_mem_options,
    ⟨hLt, hShows .label rfl, hShows .itemLabel rfl⟩, chosen_without_index hChosen⟩
  rw [hComponents]
  rfl

/-- The options are cut out of a list with blanks and a gap, and the value has a blank behind it. -/
theorem dropdown_shows_green :
    let st : Stage := ⟨Host.ofScene (Scene.withCanvas 800 600),
      .ofSource Asset.Shelf.empty.source, []⟩
    let e : Element := .mk "DropdownField" none
      (Catalog.ofList [⟨"choices", " red,, green , blue"⟩, ⟨"value", "green "⟩]) [] none
    let run : Except BuildFault Built × Stage :=
      build .dropdown ⟨"", 14⟩ e Scene.empty.nodes.nextKey st
    st.host.scene.Reachable ∧ ∃ w d, run = (.ok w, run.2) ∧
      run.2.host.scene.components w.root = [.graphic (.colored .white), .dropdown d] ∧
      d.options = ["red", "green", "blue"] ∧ Shows run.2.host.scene d.caption "green" ∧
      Shows run.2.host.scene d.item "green" := by
  intro st e run
  have hs : st.host.scene.Reachable := ⟨[], Or.inr ⟨800, 600, rfl⟩⟩
  let root := st.host.scene.nodes.nextKey
  have hBuilt : run.1 = .ok ⟨root, root, []⟩ := by decide +kernel
  have hRun : run = (.ok ⟨root, root, []⟩, run.2) := by
    rw [← hBuilt, Prod.eta]
  obtain ⟨d, hComponents, hOptions, -, -, ⟨hLt, hCaption, hItem⟩, hChosen⟩ :=
    dropdown_shows_chosen hs hRun
  have hList : options e = ["red", "green", "blue"] := by decide +kernel
  have hThere : "green" ∈ d.options := by
    rw [hOptions, hList]
    decide
  have hGreen : d.options[d.chosen] = "green" := by
    have hTrimmed : trimmed "green " = "green" := by decide +kernel
    have hIndex : e.attr? "index" = none := by decide +kernel
    have hValue : e.attr? "value" = some "green " := by decide +kernel
    rcases hChosen hIndex with ⟨v, hv, hFirst, -⟩ | ⟨hNone, -⟩
    · obtain rfl := Option.some.inj (hValue.symm.trans hv)
      rw [hTrimmed, List.getElem?_eq_getElem hLt] at hFirst
      exact Option.some.inj hFirst
    · have hNot := hNone _ hValue
      rw [hTrimmed] at hNot
      exact absurd hThere hNot
  rw [hGreen] at hCaption hItem
  exact ⟨hs, _, d, hRun, hComponents, hOptions.trans hList, hCaption, hItem⟩

end AnchoredUi.Widget
