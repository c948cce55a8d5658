import AnchoredUi.Proofs.SceneGraph.Staying
import AnchoredUi.Proofs.Styling.Wiring
import AnchoredUi.Proofs.Widget.Attribute
import AnchoredUi.Proofs.Widget.Outfit

/-!
# New widgets are wired

The components of a widget refer to its own parts. A blueprint makes a part before it is referred
to, refers from a part only to itself or to what is made below it, and gives the part what the
reference is for. When the blueprint is carried out, the nodes refer to nodes in the same way.

* `Wired`: the references in the steps of a blueprint.
* `wired_blueprint`: all blueprints.
* `Job.Builds.leads`: the references between the nodes of a widget that was built.
-/

namespace AnchoredUi.Widget

open Number Plane SceneGraph Markup Kind Sprite Styling

/-! ## References between parts -/

/-- The references that a step makes, each with the part that refers. -/
def Step.links : Step → List (Part × Reference Part)
  | .attach part component => component.references.map fun r => (part, r)
  | _ => []

/-- The references that steps make, each with the part that refers. -/
def links (steps : List Step) : List (Part × Reference Part) := steps.flatMap Step.links

theorem mem_links {steps : List Step} {p : Part} {c : Component Part}
    (hStep : Step.attach p c ∈ steps) {r : Reference Part} (hr : r ∈ c.references) :
    (p, r) ∈ links steps :=
  List.mem_flatMap.mpr ⟨_, hStep, List.mem_map.mpr ⟨r, hr, rfl⟩⟩

/-- The part `q` is `p`, or was made below it. -/
inductive Lies (steps : List Step) (p : Part) : Part → Prop
  | self : Lies steps p p
  | child {q under : Part} {name : String} {rect : Rect Single}
      (hStep : Step.node q name under rect ∈ steps) (hUnder : Lies steps p under) :
      Lies steps p q

/-- A reference from a part is to the same part or to one below it, which carries what the
reference is for. -/
def Sound (steps : List Step) (p : Part) (r : Reference Part) : Prop :=
  ∃ q, r.target = some q ∧ Lies steps p q ∧
    ∀ kind, r.needs = some kind → (q, kind) ∈ attachments steps

/-- References are to parts that were made before, and they are sound. -/
structure Wired (steps : List Step) : Prop where
  orderly : Orderly steps
  sound : ∀ l ∈ links steps, Sound steps l.1 l.2

/-! ## Checking steps -/

/-- The steps find the parts that they refer to, when the given parts are there at first. -/
def findsLinks : List Part → List Step → Bool
  | _, [] => true
  | there, step :: steps =>
    step.links.all (fun l => l.2.target.all fun q => decide (q ∈ there)) &&
      findsLinks (there ++ step.made?.toList) steps

/-- The part that a step makes, with the part above it. -/
def Step.placed? : Step → Option (Part × Part)
  | .node part _ under _ => some (part, under)
  | _ => none

/-- The parts that steps make, each with the part above it. -/
def placements (steps : List Step) : List (Part × Part) := steps.filterMap Step.placed?

/-- Whether the part `p` is reached from another one by going up at most a number of times. -/
def climbs (placed : List (Part × Part)) (p : Part) : Nat → Part → Bool
  | 0, q => p = q
  | n + 1, q => p = q || placed.any fun a => a.1 = q && climbs placed p n a.2

/-- No part of a widget is deeper than this below another one. -/
def greatestDepth : Nat := 5

/-- Whether a reference is sound, given what was made under which part, and what the parts carry. -/
def isSound (placed : List (Part × Part)) (held : List (Part × ComponentKind))
    (l : Part × Reference Part) : Bool :=
  match l.2.target with
  | some q => climbs placed l.1 greatestDepth q &&
      l.2.needs.all fun kind => decide ((q, kind) ∈ held)
  | none => false

/-- Whether all references of steps are wired. -/
def isWired (steps : List Step) : Bool :=
  findsLinks [.root] steps && (links steps).all (isSound (placements steps) (attachments steps))

theorem mem_of_findsLinks {done steps : List Step}
    (h : findsLinks (.root :: madeBy done) steps = true) {more : List Step} {p : Part}
    {c : Component Part} (hPrefix : more ++ [.attach p c] <+: steps) {r : Reference Part}
    (hr : r ∈ c.references) {q : Part} (hq : r.target = some q) :
    q ∈ Part.root :: madeBy (done ++ more) := by
  -- the steps `done` are behind us, and the attachment comes after `more` of the next ones
  induction more generalizing done steps with
  | nil =>
    obtain ⟨rest, rfl⟩ := hPrefix
    obtain ⟨hLinks, -⟩ := Bool.and_eq_true_iff.mp h
    have hLink := List.all_eq_true.mp hLinks (p, r) (List.mem_map.mpr ⟨r, hr, rfl⟩)
    rw [List.append_nil]
    simpa [hq] using hLink
  | cons step more ih =>
    obtain ⟨rest, rfl⟩ := hPrefix
    obtain ⟨-, hRest⟩ := Bool.and_eq_true_iff.mp h
    rw [List.cons_append, ← madeBy_append] at hRest
    have hThere := ih hRest ⟨rest, rfl⟩
    rwa [List.append_assoc] at hThere

theorem lies_of_climbs {steps : List Step} {p : Part} (n : Nat) {q : Part}
    (h : climbs (placements steps) p n q = true) : Lies steps p q := by
  induction n generalizing q with
  | zero =>
    obtain rfl := of_decide_eq_true h
    exact .self
  | succ n ih =>
    rcases Bool.or_eq_true_iff.mp h with hEq | hUp
    · obtain rfl := of_decide_eq_true hEq
      exact .self
    · obtain ⟨⟨part, under⟩, hPlaced, hBoth⟩ := List.any_eq_true.mp hUp
      obtain ⟨hPart, hClimbs⟩ := Bool.and_eq_true_iff.mp hBoth
      obtain rfl := of_decide_eq_true hPart
      obtain ⟨step, hStep, hEq⟩ := List.mem_filterMap.mp hPlaced
      cases step with
      | node part' name under' rect =>
        cases hEq
        exact .child hStep (ih hClimbs)
      | attach _ _ | hide _ => cases hEq

theorem wired_of_isWired {steps : List Step} (h : isWired steps = true) : Wired steps := by
  obtain ⟨hFinds, hSound⟩ := Bool.and_eq_true_iff.mp h
  refine ⟨fun done p c hPrefix r hr q hq => ?_, fun l hl => ?_⟩
  · have hStart : findsLinks (.root :: madeBy []) steps = true := hFinds
    exact mem_of_findsLinks hStart hPrefix hr hq
  · have hLink := List.all_eq_true.mp hSound l hl
    unfold isSound at hLink
    cases hTarget : l.2.target with
    | none =>
      rw [hTarget] at hLink
      cases hLink
    | some q =>
      simp only [hTarget, Bool.and_eq_true] at hLink
      refine ⟨q, hTarget, lies_of_climbs _ hLink.1, fun kind hKind => ?_⟩
      simpa [hKind] using hLink.2

/-! ## Blueprints -/

theorem isWired_captionSteps (l : Lettering) (e : Element) :
    isWired ([.attach .root (.graphic (.colored .white)),
      .attach .root (.button ⟨some .root, true⟩)] ++ captionSteps l e) = true := by
  unfold captionSteps
  split
  · rfl
  · split
    · rfl
    · rfl

theorem isWired_textField (l : Lettering) (e : Element) (sprite : Option Sprite) :
    isWired ((textField l e).steps sprite) = true := by
  by_cases hEmpty : (e.attr? "value").getD "" = "" <;>
    simp [textField, Blueprint.ofSteps, hEmpty, isWired, findsLinks, links, Step.links,
      Component.references, placements, Step.placed?, isSound, climbs, greatestDepth,
      Component.kind, Step.made?]

theorem isWired_dropdownSteps (l : Lettering) (options : List String) (chosen : Nat) :
    isWired (dropdownSteps l options chosen) = true := by
  simp [dropdownSteps, templateSteps, isWired, findsLinks, links, Step.links,
    Component.references, placements, Step.placed?, isSound, climbs, greatestDepth,
    Component.kind, Step.made?]

/-- The references of all blueprints are wired. -/
theorem wired_blueprint {kind : WidgetKind} {l : Lettering} {e : Element} {b : Blueprint}
    (h : blueprint kind l e = .ok b) (sprite : Option Sprite) : Wired (b.steps sprite) := by
  apply wired_of_isWired
  cases kind with
  | button =>
    cases h
    exact isWired_captionSteps l e
  | textField =>
    cases h
    exact isWired_textField l e sprite
  | dropdown =>
    obtain ⟨i, -, rfl⟩ := exists_of_map_eq_ok h
    exact isWired_dropdownSteps l (options e) i
  | slider =>
    obtain ⟨s, hs, rfl⟩ := exists_of_map_eq_ok h
    obtain ⟨value, rfl, -⟩ := exists_sliderOf hs
    rfl
  | toggle | scrollView | label | image | genericField | container | unrecognized =>
    cases h
    rfl

/-! ## Nodes of parts -/

section Laid

variable {s t : Scene} {u : NodeId} {name : String} {nodes : Part → NodeId} {done : List Step}

/-- What was made below a part has its node below that of the part. -/
theorem Laid.below_of_lies (h : Laid s u name nodes done t) {p q : Part}
    (hp : p ∈ Part.root :: madeBy done) (hLies : Lies done p q) :
    q ∈ Part.root :: madeBy done ∧ t.Below (nodes p) (nodes q) := by
  induction hLies with
  | self => exact ⟨hp, .refl t _⟩
  | @child q under name rect hStep _ ih =>
    obtain ⟨hUnder, hBelow⟩ := ih
    refine ⟨List.mem_cons_of_mem _ (mem_madeBy.mpr ⟨_, _, _, hStep⟩), hBelow.child ?_⟩
    have hMade : q ∈ madeUnder under done := List.mem_filterMap.mpr ⟨_, hStep, if_pos rfl⟩
    rw [← h.grown.forest.mem_children_iff, h.below under hUnder]
    exact List.mem_map_of_mem hMade

theorem Furnished.mem_kinds (h : Furnished s nodes done t) {p : Part}
    (hp : p ∈ Part.root :: madeBy done) {kind : ComponentKind}
    (hKind : (p, kind) ∈ attachments done) : kind ∈ t.kinds (nodes p) := by
  rw [Scene.kinds, map_kind_of_filled (h.carried p hp), map_kind_attachedTo]
  exact List.mem_filterMap.mpr ⟨_, hKind, if_pos rfl⟩

/-- A sound reference between parts is one between their nodes that leads where it should. -/
theorem Sound.leads {p : Part} {r : Reference Part} (h : Sound done p r)
    (hLaid : Laid s u name nodes done t) (hFurnished : Furnished s nodes done t)
    (hp : p ∈ Part.root :: madeBy done) :
    t.Leads (Scene.New s t) (nodes p) (r.map nodes) := by
  obtain ⟨q, hTarget, hLies, hNeeds⟩ := h
  obtain ⟨hq, hBelow⟩ := hLaid.below_of_lies hp hLies
  refine ⟨nodes q, ?_, hLaid.live q, ⟨hLaid.live q, hLaid.fresh q⟩, hBelow, fun kind hKind => ?_⟩
  · exact congrArg (Option.map nodes) hTarget
  · exact hFurnished.mem_kinds hq (hNeeds kind hKind)

end Laid

end AnchoredUi.Widget

namespace AnchoredUi.Conversion

open SceneGraph Sprite Markup Widget Styling

theorem Job.wired_plan (job : Job) (e : Element) (sprite : Option Sprite) :
    Wired ((job.plan e).steps sprite) := by
  unfold Job.plan
  split
  · rename_i hBlueprint
    exact wired_blueprint hBlueprint sprite
  · exact wired_blueprint (blueprint_container job.lettering e) sprite

section Builds

variable {job : Job} {e : Element} {u id : NodeId} {st st₁ : Stage} {w : Built}

/-- Each reference of a new node leads to a new node. -/
theorem Job.Builds.leads (h : job.Builds e u st w st₁)
    (hNew : Scene.New st.host.scene st₁.host.scene id) {r : Reference NodeId}
    (hr : r ∈ st₁.host.scene.references id) :
    st₁.host.scene.Leads (Scene.New st.host.scene st₁.host.scene) id r := by
  obtain ⟨nodes, hLaid, hFurnished, -⟩ := h.tree
  have hWired := job.wired_plan e (((job.plan e).picture).bind st.finder.answer)
  obtain ⟨p, hp, rfl⟩ := hFurnished.only id hNew.live hNew.fresh
  rw [Scene.references, hFurnished.filled_eq hWired.orderly p hp] at hr
  obtain ⟨d, hd, hr⟩ := List.mem_flatMap.mp hr
  obtain ⟨c, hc, rfl⟩ := List.mem_map.mp hd
  rw [references_map] at hr
  obtain ⟨link, hLink, rfl⟩ := List.mem_map.mp hr
  have hSound := hWired.sound (p, link) (mem_links (mem_attachedTo.mp hc) hLink)
  exact hSound.leads hLaid hFurnished hp

/-- The content of a new widget is a new node, at its root or below it. -/
theorem Job.Builds.content_below (h : job.Builds e u st w st₁) :
    Scene.New st.host.scene st₁.host.scene w.content ∧
      st₁.host.scene.Below w.root w.content := by
  obtain ⟨nodes, hLaid, -, -, p, hContent⟩ := h.tree
  refine ⟨?_, h.isContent.below hLaid.grown.forest⟩
  rw [hContent]
  exact ⟨hLaid.live p, hLaid.fresh p⟩

end Builds

end AnchoredUi.Conversion
