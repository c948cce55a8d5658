import AnchoredUi.Markup.Document
import AnchoredUi.Proofs.Filing

/-!
# The tree of a document

A markup document is read from the tree of an XML document. Its elements are the element nodes of
that tree, in their order and each below the same one. Comments, instructions and blank texts leave
no trace, wherever they stand.

An attribute is known by its plain name, without the namespace. So two attributes of one element can
fall together, and the later value stands at the place of the earlier one. What a document says in
its attributes is kept word by word if no element has two attributes with one plain name.

* `Mirrors`: an element stands for an element node.
* `mirrors_iff`: an element node is read as the one element that stands for it.
* `Mirrors.elements`: two trees of which one stands for the other, node by node.
* `mirrors_parseMarkup`: the documents that are read.
-/

namespace AnchoredUi.Markup

open Text

/-! ## Nodes -/

namespace Xml.Node

mutual

/-- The element nodes of a part of a document, parents first. -/
def elements : Node → List Node
  | element name attributes content => element name attributes content :: elementsOf content
  | _ => []

/-- The element nodes of several parts, one part after the other. -/
def elementsOf : List Node → List Node
  | [] => []
  | n :: ns => elements n ++ elementsOf ns

end

/-- The attributes of an element node. -/
def attributes : Node → List NodeAttribute
  | element _ as _ => as
  | _ => []

/-- No two attributes of an element node have one plain name. -/
def DistinctNames (n : Node) : Prop := (n.attributes.map fun a => a.name.plain).Nodup

instance (n : Node) : Decidable n.DistinctNames :=
  inferInstanceAs (Decidable (List.Nodup _))

end Xml.Node

/-! ## Attributes -/

/-- An attribute of an element node under its plain name. -/
def Attribute.ofNode (a : Xml.NodeAttribute) : Attribute :=
  ⟨String.ofList a.name.plain, String.ofList a.value⟩

/-- All attributes are kept, in their order and each with its value. -/
def Verbatim (as : List Xml.NodeAttribute) (kept : Attributes) : Prop :=
  kept.entries = as.map Attribute.ofNode

/-- The attributes are filed by their plain names: each name is kept once, at the place where it
first came and with the value that came last. -/
def Latest (as : List Xml.NodeAttribute) (kept : Attributes) : Prop :=
  Catalog.Filed (as.map Attribute.ofNode) kept

theorem latest_iff {as : List Xml.NodeAttribute} {kept : Attributes} :
    Latest as kept ↔ kept = Element.plainAttributes as := Catalog.filed_iff

theorem Latest.verbatim_iff {as : List Xml.NodeAttribute} {kept : Attributes}
    (h : Latest as kept) : Verbatim as kept ↔ (as.map fun a => a.name.plain).Nodup := by
  have hNames : (as.map Attribute.ofNode).map Attribute.name =
      (as.map fun a => a.name.plain).map String.ofList := by
    rw [List.map_map, List.map_map]
    rfl
  have hInjective : Function.Injective String.ofList := fun _ _ => String.ofList_inj.mp
  rw [Verbatim, h.entries_eq_iff, hNames, List.nodup_map_iff hInjective]

/-! ## Texts -/

/-- A part of a document that is no text, or a text of blanks. -/
def Xml.Node.Silent : Xml.Node → Prop
  | text cs => ∀ c ∈ cs, isBlank c
  | _ => True

/-- The text of an element with some content: of the texts that stand directly in the content the
last one that is more than blanks, without the blanks at either end. -/
inductive OwnText : List Xml.Node → Option String → Prop
  | none {content : List Xml.Node} (hSilent : ∀ n ∈ content, n.Silent) : OwnText content none
  | last {before after : List Xml.Node} {cs : List Char} (hText : ¬ (Xml.Node.text cs).Silent)
      (hSilent : ∀ n ∈ after, n.Silent) :
      OwnText (before ++ .text cs :: after) (some (String.ofList (trim cs)))

theorem silent_text_iff {cs : List Char} : (Xml.Node.text cs).Silent ↔ trim cs = [] :=
  (trimBy_eq_nil_iff isBlank cs).symm

theorem partText?_text {cs : List Char} (h : ¬ (Xml.Node.text cs).Silent) :
    Element.partText? (.text cs) = some (String.ofList (trim cs)) :=
  if_neg (silent_text_iff.not.mp h)

theorem partText?_eq_none_iff {n : Xml.Node} : Element.partText? n = none ↔ n.Silent := by
  cases n with
  | text cs =>
    by_cases h : (Xml.Node.text cs).Silent
    · exact iff_of_true (if_pos (silent_text_iff.mp h)) h
    · rw [partText?_text h]
      exact iff_of_false nofun h
  | element | comment | instruction => exact iff_of_true rfl trivial

theorem filterMap_partText?_eq_nil {content : List Xml.Node} (h : ∀ n ∈ content, n.Silent) :
    content.filterMap Element.partText? = [] :=
  List.filterMap_eq_nil_iff.mpr fun n hn => partText?_eq_none_iff.mpr (h n hn)

theorem OwnText.getLast?_eq {content : List Xml.Node} {t : Option String} (h : OwnText content t) :
    (content.filterMap Element.partText?).getLast? = t := by
  cases h with
  | none hSilent => rw [filterMap_partText?_eq_nil hSilent, List.getLast?_nil]
  | last hText hSilent =>
    rw [List.filterMap_append, List.filterMap_cons_some (partText?_text hText),
      filterMap_partText?_eq_nil hSilent, List.getLast?_concat]

/-- A part behind the others gives the text, or leaves it as it was. -/
theorem OwnText.concat {content : List Xml.Node} {t : Option String} (h : OwnText content t)
    (n : Xml.Node) : OwnText (content ++ [n]) ((Element.partText? n).or t) := by
  -- A part that is silent makes `after` longer, whatever kind it is of. Any other is a text, and
  -- then nothing is behind it.
  by_cases hLast : n.Silent
  · have hMore : ∀ ns : List Xml.Node, (∀ m ∈ ns, m.Silent) → ∀ m ∈ ns ++ [n], m.Silent :=
      fun ns hns => List.forall_mem_append.mpr ⟨hns, List.forall_mem_singleton.mpr hLast⟩
    rw [partText?_eq_none_iff.mpr hLast, Option.none_or]
    cases h with
    | none hSilent => exact .none (hMore content hSilent)
    | last hText hSilent =>
      rw [List.append_assoc, List.cons_append]
      exact .last hText (hMore _ hSilent)
  · cases n with
    | text cs =>
      rw [partText?_text hLast]
      exact .last hLast (List.forall_mem_nil _)
    | element | comment | instruction => exact absurd trivial hLast

theorem ownText_getLast? (content : List Xml.Node) :
    OwnText content (content.filterMap Element.partText?).getLast? := by
  induction content using List.reverseRecOn with
  | nil => exact .none (List.forall_mem_nil _)
  | append_singleton content n ih =>
    have hLast : ((content ++ [n]).filterMap Element.partText?).getLast? =
        (Element.partText? n).or (content.filterMap Element.partText?).getLast? := by
      rw [List.filterMap_append, List.getLast?_append]
      cases hPart : Element.partText? n <;> simp [hPart]
    rw [hLast]
    exact ih.concat n

/-! ## Trees -/

/-- An element stands for an element node. It has the plain name and the namespace of the node, what
`Keeps` asks for of the attributes, the own text of the content, and one child for each element
node directly in the content, in the order of these. -/
inductive Mirrors (Keeps : List Xml.NodeAttribute → Attributes → Prop) : Xml.Node → Element → Prop
  | element {name : Xml.FullName} {as : List Xml.NodeAttribute} {content : List Xml.Node}
      {attributes : Attributes} {children : List Element} {text : Option String}
      (hAttributes : Keeps as attributes)
      (hText : OwnText content text)
      (hChildren : List.Forall₂ (Mirrors Keeps) (content.filter Xml.Node.isElement) children) :
      Mirrors Keeps (.element name as content)
        (.mk (String.ofList name.plain) (name.space.map String.ofList) attributes children text)

variable {Keeps : List Xml.NodeAttribute → Attributes → Prop}

theorem Mirrors.keeps {n : Xml.Node} {e : Element} (h : Mirrors Keeps n e) :
    Keeps n.attributes e.attributes := by
  cases h with
  | element hAttributes => exact hAttributes

mutual

/-- The elements of two trees of which one stands for the other are as many, in one order. -/
theorem Mirrors.elements {n : Xml.Node} {e : Element} (h : Mirrors Keeps n e) :
    List.Forall₂ (Mirrors Keeps) n.elements e.elements := by
  cases n with
  | element name as content =>
    cases h with
    | element hAttributes hText hChildren =>
      exact .cons (.element hAttributes hText hChildren) (forall₂_elementsOf content hChildren)
  | text | comment | instruction => nomatch h

theorem forall₂_elementsOf (ns : List Xml.Node) {es : List Element}
    (h : List.Forall₂ (Mirrors Keeps) (ns.filter Xml.Node.isElement) es) :
    List.Forall₂ (Mirrors Keeps) (Xml.Node.elementsOf ns) (Element.elementsOf es) := by
  cases ns with
  | nil =>
    cases h
    exact .nil
  | cons n ns =>
    cases n with
    | element name as content =>
      cases h with
      | cons hFirst hOthers =>
        exact List.rel_append hFirst.elements (forall₂_elementsOf ns hOthers)
    -- Such a part is filtered out of the content, and adds nothing to the element nodes.
    | text | comment | instruction => exact forall₂_elementsOf ns h

end

mutual

/-- A node is read as the one element that stands for it. -/
theorem mirrors_iff {n : Xml.Node} {e : Element} :
    Mirrors Latest n e ↔ Element.ofNode? n = some e := by
  cases n with
  | element name as content =>
    rw [Element.ofNode?, Option.some.injEq]
    constructor
    · rintro ⟨hLatest, hText, hBelow⟩
      rw [hText.getLast?_eq, latest_iff.mp hLatest, (forall₂_ofContent_iff content).mp hBelow]
    · rintro rfl
      exact .element (latest_iff.mpr rfl) (ownText_getLast? content)
        ((forall₂_ofContent_iff content).mpr rfl)
  | text | comment | instruction => exact ⟨nofun, nofun⟩

theorem forall₂_ofContent_iff (ns : List Xml.Node) {es : List Element} :
    List.Forall₂ (Mirrors Latest) (ns.filter Xml.Node.isElement) es ↔
      Element.ofContent ns = es := by
  cases ns with
  | nil => exact List.forall₂_nil_left_iff.trans eq_comm
  | cons n ns =>
    cases n with
    | element name as content =>
      constructor
      · rintro (_ | ⟨hFirst, hOthers⟩)
        rw [Element.ofContent, mirrors_iff.mp hFirst, (forall₂_ofContent_iff ns).mp hOthers]
        rfl
      · rintro rfl
        exact .cons (mirrors_iff.mpr rfl) ((forall₂_ofContent_iff ns).mpr rfl)
    | text | comment | instruction => exact forall₂_ofContent_iff ns

end

/-! ## Attributes word by word -/

mutual

/-- All attributes of a tree are kept word by word if on no element two of them have one plain name,
and only then. -/
theorem Mirrors.verbatim_iff {n : Xml.Node} {e : Element} (h : Mirrors Latest n e) :
    Mirrors Verbatim n e ↔ ∀ d ∈ n.elements, d.DistinctNames := by
  cases n with
  | element name as content =>
    cases h with
    | @element _ _ _ attributes children text hLatest hText hChildren =>
      rw [Xml.Node.elements, List.forall_mem_cons, ← forall₂_verbatim_iff content hChildren]
      show _ ↔ (as.map fun a => a.name.plain).Nodup ∧ _
      rw [← hLatest.verbatim_iff]
      constructor
      · rintro ⟨hVerbatim, -, hBelow⟩
        exact ⟨hVerbatim, hBelow⟩
      · rintro ⟨hVerbatim, hBelow⟩
        exact .element hVerbatim hText hBelow
  | text | comment | instruction => nomatch h

theorem forall₂_verbatim_iff (ns : List Xml.Node) {es : List Element}
    (h : List.Forall₂ (Mirrors Latest) (ns.filter Xml.Node.isElement) es) :
    List.Forall₂ (Mirrors Verbatim) (ns.filter Xml.Node.isElement) es ↔
      ∀ d ∈ Xml.Node.elementsOf ns, d.DistinctNames := by
  cases ns with
  | nil =>
    cases h
    simp [Xml.Node.elementsOf]
  | cons n ns =>
    cases n with
    | element name as content =>
      cases h with
      | cons hFirst hOthers =>
        rw [Xml.Node.elementsOf, List.forall_mem_append, ← hFirst.verbatim_iff,
          ← forall₂_verbatim_iff ns hOthers]
        exact List.forall₂_cons
    | text | comment | instruction => exact forall₂_verbatim_iff ns h

end

/-! ## Documents -/

theorem isElement_of_root {b : Xml.Builder} {n : Xml.Node} (h : b.root = .ok n) :
    n.isElement := by
  unfold Xml.Builder.root at h
  split at h
  · nomatch h
  · rename_i hFirst _
    cases h
    exact List.find?_some hFirst
  · nomatch h

/-- The root of a document is an element node. -/
theorem isElement_of_parse {text : String} {root : Xml.Node} (h : Xml.parse text = .ok root) :
    root.isElement := by
  rw [Xml.parse] at h
  cases hDocument : Xml.document (Xml.Cursor.ofChars text.toList) with
  | error f =>
    rw [hDocument] at h
    nomatch h
  | ok p =>
    rw [hDocument] at h
    exact isElement_of_root h

/-- A text that is an XML document is read as a tree of elements that stands for the tree of nodes:
the elements of the one tree stand one by one for the element nodes of the other. The attributes are
filed by their plain names, and this keeps them word by word exactly if the names are distinct on
each element. -/
theorem mirrors_parseMarkup {text : String} {root : Xml.Node} (h : Xml.parse text = .ok root) :
    ∃ e, parseMarkup text = .ok e ∧ Mirrors Latest root e ∧
      List.Forall₂ (Mirrors Latest) root.elements e.elements ∧
      (Mirrors Verbatim root e ↔ ∀ n ∈ root.elements, n.DistinctNames) := by
  obtain ⟨e, hRead⟩ : ∃ e, Element.ofNode? root = some e := by
    cases root with
    | element name as content => exact ⟨_, rfl⟩
    | text | comment | instruction => nomatch isElement_of_parse h
  have hMirrors : Mirrors Latest root e := mirrors_iff.mpr hRead
  refine ⟨e, ?_, hMirrors, hMirrors.elements, hMirrors.verbatim_iff⟩
  rw [parseMarkup, h]
  simp only [hRead]

/-- A document with every kind of part, in which texts, comments, instructions and elements stand
side by side, and in which no element has two attributes with one plain name. -/
theorem mirrors_parseMarkup_mixed :
    let text := "<!--a--><r:Root xmlns:r=\"urn:r\" r:name=\"x\" class=\" y \">one<Label/> two" ++
      "<!--b--><?p q?><Row><r:Bar value=\"&lt;\"/>\n</Row>  <!--c--></r:Root>"
    ∃ root, Xml.parse text = .ok root ∧ ∃ e, parseMarkup text = .ok e ∧ Mirrors Latest root e ∧
      List.Forall₂ (Mirrors Latest) root.elements e.elements ∧ Mirrors Verbatim root e := by
  intro text
  have hNames : (Xml.parse text).toOption.map
      (fun root => decide (∀ n ∈ root.elements, n.DistinctNames)) = some true := by decide +kernel
  cases hRoot : Xml.parse text with
  | error f =>
    rw [hRoot] at hNames
    nomatch hNames
  | ok root =>
    rw [hRoot] at hNames
    have hDistinct : ∀ n ∈ root.elements, n.DistinctNames :=
      of_decide_eq_true (Option.some.inj hNames)
    obtain ⟨e, hRead, hLatest, hElements, hVerbatim⟩ := mirrors_parseMarkup hRoot
    exact ⟨root, rfl, e, hRead, hLatest, hElements, hVerbatim.mpr hDistinct⟩

/-- A label with a name and with another one for its preview, in a namespace of its own. -/
def twiceNamed : String := "<Label xmlns:d=\"urn:d\" name=\"title\" d:name=\"preview\"/>"

/-- The attributes of a document are not always kept word by word: of the two names one is lost. -/
theorem not_verbatim_parseMarkup :
    ¬ ∀ {text : String} {root : Xml.Node}, Xml.parse text = .ok root →
      ∃ e, parseMarkup text = .ok e ∧ Mirrors Verbatim root e ∧
        List.Forall₂ (Mirrors Verbatim) root.elements e.elements := by
  intro h
  have hWritten : (Xml.parse twiceNamed).toOption.map
      (fun root => root.attributes.map Attribute.ofNode) =
        some [⟨"name", "title"⟩, ⟨"name", "preview"⟩] := by decide +kernel
  have hKept : (parseMarkup twiceNamed).toOption.map (fun e => e.attributes.entries) =
      some [⟨"name", "preview"⟩] := by decide +kernel
  cases hRoot : Xml.parse twiceNamed with
  | error f =>
    rw [hRoot] at hWritten
    nomatch hWritten
  | ok root =>
    obtain ⟨e, hRead, hMirrors, -⟩ := h hRoot
    rw [hRoot] at hWritten
    rw [hRead] at hKept
    have hBoth : root.attributes.map Attribute.ofNode =
        [⟨"name", "title"⟩, ⟨"name", "preview"⟩] := Option.some.inj hWritten
    have hOne : e.attributes.entries = [⟨"name", "preview"⟩] := Option.some.inj hKept
    have hVerbatim : e.attributes.entries = root.attributes.map Attribute.ofNode := hMirrors.keeps
    rw [hOne, hBoth] at hVerbatim
    nomatch hVerbatim

end AnchoredUi.Markup
