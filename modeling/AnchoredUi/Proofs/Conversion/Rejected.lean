import AnchoredUi.Asset.Shelf
import AnchoredUi.Proofs.Styling.Wiring
import AnchoredUi.Proofs.Widget.Attempt
import AnchoredUi.Proofs.Widget.Attribute
import AnchoredUi.Proofs.Widget.Raised
import AnchoredUi.Proofs.Widget.Wiring

/-!
# Elements with senseless attributes

All attributes are read before the first call, so an element that is rejected for one of them has
left nothing behind. It is built as a container instead, and that is a single node. A host that
refuses a call may stop the building of any widget, but that is no fault of an attribute.

* `build_error_cases`: the two ways in which a widget is not built.
* `onlyNext_build`: where only the root is made, at most one node is new, however it ends.
* `rejected_touches_nothing`: what is rejected, and what is left of it.
-/

namespace AnchoredUi.Widget

open Number Plane SceneGraph Scene Markup Kind Sprite Styling

/-! ## Faults -/

/-- Carrying out a blueprint ends with no fault but that of a call. -/
theorem breaks_build {b : Blueprint} {name : String} {parent : NodeId} {st st' : Stage}
    {f : BuildFault} (h : b.build name parent st = (.error f, st')) :
    ∃ g, f = .scene g ∧ st.host.Breaks g st'.host := by
  obtain ⟨st₁, hHost, hRun, -⟩ := run_build_eq b name parent st
  obtain ⟨hOutcome, rfl⟩ := Prod.mk.inj (h.symm.trans hRun)
  rcases (b.ofCalls_work st.finder.answer name parent).run_cases st.host with
    ⟨_, k, hWork, -⟩ | ⟨g, k, hWork, hBreaks⟩ <;> rw [hWork] at hOutcome hHost
  · cases hOutcome
  · cases hOutcome
    exact ⟨g, rfl, hHost ▸ hBreaks⟩

/-- A widget is not built because of a senseless attribute, before anything was done, or because of
a call. -/
theorem build_error_cases {kind : WidgetKind} {l : Lettering} {e : Element} {parent : NodeId}
    {st st' : Stage} {f : BuildFault} (h : build kind l e parent st = (.error f, st')) :
    (Senseless e kind ∧ st' = st ∧ ∃ name, f = faultOf e name) ∨
      ¬ Senseless e kind ∧ ∃ g, f = .scene g ∧ st.host.Breaks g st'.host := by
  rcases blueprint_cases kind l e with ⟨hBad, name, hBlueprint⟩ | ⟨hGood, b, hBlueprint⟩
  · rw [build_of_blueprint_error hBlueprint] at h
    cases h
    exact .inl ⟨hBad, rfl, name, rfl⟩
  · rw [build_of_blueprint_ok hBlueprint] at h
    exact .inr ⟨hGood, breaks_build h⟩

theorem build_of_senseless {kind : WidgetKind} {e : Element} (h : Senseless e kind) (l : Lettering)
    (parent : NodeId) (st : Stage) :
    ∃ name, build kind l e parent st = (.error (faultOf e name), st) := by
  rcases blueprint_cases kind l e with ⟨-, name, hBlueprint⟩ | ⟨hGood, -⟩
  · exact ⟨name, build_of_blueprint_error hBlueprint parent st⟩
  · exact absurd h hGood

/-! ## Single nodes -/

/-- Work that makes no node and loses none. -/
def Still {β : Type} (m : HostM β) : Prop :=
  ∀ (h : Host) (id : NodeId), (m h).2.scene.contains id = h.scene.contains id

section Still

variable {β γ : Type}

theorem still_pure (b : β) : Still (pure b : HostM β) := fun _ _ => rfl

theorem Still.bind {m : HostM β} {next : β → HostM γ} (hm : Still m) (hNext : ∀ b, Still (next b)) :
    Still (m >>= next) := by
  intro h id
  have hFirst := hm h id
  rw [Host.run_bind]
  rcases hRun : m h with ⟨f | b, k⟩ <;> rw [hRun] at hFirst
  · exact hFirst
  · exact (hNext b k id).trans hFirst

theorem contains_perhaps {s t : Scene} {id : NodeId} {f : Node → Node}
    (h : Host.Perhaps s (s.modify id f) t) (other : NodeId) :
    t.contains other = s.contains other := by
  rcases h with rfl | rfl
  · rfl
  · exact contains_modify s id other f

theorem still_setRect (id : NodeId) (r : Rect Single) : Still (Host.setRect id r) :=
  fun h other => contains_perhaps (Host.scene_setRect id r h) other

theorem still_attach (id : NodeId) (c : Component NodeId) : Still (Host.attach id c) :=
  fun h other => contains_perhaps (Host.scene_attach id c h) other

theorem still_setActive (id : NodeId) (active : Bool) : Still (Host.setActive id active) :=
  fun h other => contains_perhaps (Host.scene_setActive id active h) other

theorem still_steps {steps : List Step} (hNone : ∀ step ∈ steps, step.made? = none)
    (nodes : Part → NodeId) : Still (steps.foldlM Step.run nodes) := by
  induction steps generalizing nodes with
  | nil => exact still_pure nodes
  | cons step steps ih =>
    rw [List.forall_mem_cons] at hNone
    rw [List.foldlM_cons]
    refine Still.bind ?_ fun nodes' => ih hNone.2 nodes'
    cases step with
    | node _ _ _ _ => cases hNone.1
    | attach part c => exact (still_attach _ _).bind fun _ => still_pure nodes
    | hide part => exact (still_setActive _ _).bind fun _ => still_pure nodes

end Still

/-- No node is new but perhaps the next one. -/
def OnlyNext (s t : Scene) : Prop := ∀ id, New s t id → id = s.nodes.nextKey

theorem OnlyNext.bind {β γ : Type} {m : HostM β} {next : β → HostM γ} {h : Host}
    (hm : OnlyNext h.scene (m h).2.scene) (hNext : ∀ b, Still (next b)) :
    OnlyNext h.scene ((m >>= next) h).2.scene := by
  rw [Host.run_bind]
  rcases hRun : m h with ⟨f | b, k⟩ <;> rw [hRun] at hm
  · exact hm
  · exact fun id hNew => hm id ⟨(hNext b k id).symm.trans hNew.live, hNew.fresh⟩

theorem onlyNext_create (name : String) (parent : NodeId) {h : Host} (hs : h.scene.nodes.Sound) :
    OnlyNext h.scene (Host.create name parent h).2.scene := by
  intro id hNew
  have hThere := hNew.live
  rcases Host.scene_create name parent h with hSame | ⟨hLive, hChild⟩
  · rw [hSame, hNew.fresh] at hThere
    cases hThere
  · rw [hChild, contains_withChild hs hLive, hNew.fresh, Bool.or_false] at hThere
    exact of_decide_eq_true hThere

/-- A blueprint without parts below the root makes at most one node, however it ends. -/
theorem onlyNext_build {b : Blueprint}
    (hNone : ∀ sprite, ∀ step ∈ b.steps sprite, step.made? = none)
    (name : String) (parent : NodeId) {st : Stage} (hs : st.host.scene.Forest) :
    OnlyNext st.host.scene (b.build name parent st).2.host.scene := by
  obtain ⟨st', hHost, hRun, -⟩ := run_build_eq b name parent st
  rw [hRun, hHost]
  have hRoot : OnlyNext st.host.scene (addNode name parent rootRect st.host).2.scene :=
    (onlyNext_create name parent hs.sound).bind fun id =>
      (still_setRect id rootRect).bind fun _ => still_pure id
  exact hRoot.bind fun root => (still_steps (hNone _) _).bind fun nodes => still_pure (root, nodes)

/-- The scene `t` is the scene `s` with one more node, which is a container without children. -/
structure OneContainer (s : Scene) (name : String) (parent id : NodeId) (t : Scene) : Prop where
  new_iff : ∀ a, New s t a ↔ a = id
  stays : Stays s t
  node?_eq : ∀ a n, s.node? a = some n → t.node? a = some n
  name?_eq : t.name? id = some name
  parent?_eq : t.parent? id = some parent
  children_eq : t.children id = []
  components_eq : t.components id = [.graphic (.colored ⟨0.2, 0.2, 0.2, 0.1⟩)]

theorem oneContainer_build {l : Lettering} {e : Element} {parent : NodeId} {st st' : Stage}
    {w : Built} (hs : st.host.scene.Forest)
    (h : build .container l e parent st = (.ok w, st')) :
    OneContainer st.host.scene (nodeName e) parent w.root st'.host.scene := by
  obtain ⟨b, nodes, hBlueprint, hStands, rfl⟩ := exists_stands_of_build hs h
  cases hBlueprint
  have hLaid := hStands.laid
  refine ⟨fun a => ⟨fun hNew => ?_, ?_⟩, .of_grown hLaid.grown, hStands.furnished.kept,
    hLaid.root_name, hLaid.root_parent, hLaid.below .root List.mem_cons_self, ?_⟩
  · obtain ⟨p, hp, rfl⟩ := hStands.furnished.only a hNew.live hNew.fresh
    rw [List.mem_singleton.mp hp]
  · rintro rfl
    exact ⟨hLaid.live .root, hLaid.fresh .root⟩
  · exact hStands.furnished.filled_eq (wired_blueprint (blueprint_container l e) none).orderly
      .root List.mem_cons_self

end AnchoredUi.Widget

namespace AnchoredUi.Conversion

open SceneGraph Scene Markup Kind Widget Styling

/-! ## Elements -/

/-- An element that is rejected is built as a container. -/
theorem widgetOf_senseless {job : Job} {e : Element} (h : Senseless e (kindOf job.rules e))
    (parent : NodeId) {st : Stage} (hs : st.host.scene.Forest) :
    OnlyNext st.host.scene (job.widgetOf e parent st).2.host.scene ∧
      ∀ w, (job.widgetOf e parent st).1 = some w →
        OneContainer st.host.scene (nodeName e) parent w.root
          (job.widgetOf e parent st).2.host.scene := by
  obtain ⟨name, hFirst⟩ := build_of_senseless h job.lettering parent st
  let told := (raise [⟨some e.label, .notBuilt (kindOf job.rules e) (faultOf e name)⟩] st).2
  have hTold : told.host.scene.Forest := hs
  have hNone : ∀ sprite, ∀ step ∈ container.steps sprite, step.made? = none := by
    intro sprite step hStep
    rw [List.mem_singleton.mp hStep]
    rfl
  have hNext := onlyNext_build hNone (nodeName e) parent hTold
  have hContainer := build_of_blueprint_ok (blueprint_container job.lettering e) parent told
  rw [← hContainer] at hNext
  rcases hSecond : Widget.build .container job.lettering e parent told with ⟨g | w, st'⟩ <;>
    rw [hSecond] at hNext
  · rw [run_widgetOf_none hFirst hSecond]
    exact ⟨hNext, fun _ hw => nomatch hw⟩
  · rw [run_widgetOf_error hFirst hSecond]
    refine ⟨hNext, ?_⟩
    rintro _ ⟨⟩
    have hOne := oneContainer_build hTold hSecond
    exact hOne

/-- Exactly the senseless attributes are rejected, and whatever else is wrong is the fault of a
call. Where an element is rejected, no call was made. The container that is built in its place is
the only new node, and it is built unless a call of its own fails; then at most one node is new. -/
theorem rejected_touches_nothing (kind : WidgetKind) (l : Lettering) (e : Element)
    (parent : NodeId) (st : Stage) :
    let run : Except BuildFault Built × Stage := Widget.build kind l e parent st
    ((∃ name value, run.1 = .error (.badAttribute name value)) ↔ Senseless e kind) ∧
    (∀ f, run.1 = .error f → (∃ name, f = faultOf e name ∧ run.2 = st) ∨
      ∃ g, f = .scene g ∧ st.host.Breaks g run.2.host) ∧
    ∀ job : Job, kindOf job.rules e = kind → Senseless e kind → st.host.scene.Reachable →
      OnlyNext st.host.scene (job.widgetOf e parent st).2.host.scene ∧
      (∀ w, (job.widgetOf e parent st).1 = some w →
        OneContainer st.host.scene (nodeName e) parent w.root
          (job.widgetOf e parent st).2.host.scene) ∧
      (st.host.Willing → st.host.scene.contains parent = true →
        ∃ w, (job.widgetOf e parent st).1 = some w) := by
  intro run
  have hRun : ∀ {f}, run.1 = .error f → Widget.build kind l e parent st = (.error f, run.2) :=
    fun h => by rw [← h, Prod.eta]
  refine ⟨⟨?_, fun h => ?_⟩, fun f hf => ?_, ?_⟩
  · rintro ⟨name, value, hf⟩
    rcases build_error_cases (hRun hf) with ⟨hBad, -⟩ | ⟨-, g, hScene, -⟩
    · exact hBad
    · cases hScene
  · obtain ⟨name, hBuild⟩ := build_of_senseless h l parent st
    exact ⟨_, _, congrArg Prod.fst hBuild⟩
  · rcases build_error_cases (hRun hf) with ⟨-, hSame, name, hName⟩ | ⟨-, hCall⟩
    · exact .inl ⟨name, hName, hSame⟩
    · exact .inr hCall
  · rintro job rfl hBad hs
    obtain ⟨hNext, hOne⟩ := widgetOf_senseless hBad parent hs.forest
    refine ⟨hNext, hOne, fun hw hLive => ?_⟩
    obtain ⟨w, st', hWidget, -⟩ := exists_widgetOf job e hw hs.forest hLive
    exact ⟨w, congrArg Prod.fst hWidget⟩

/-- A dropdown with the three usual options has no option at the place three. -/
theorem rejected_dropdown_touches_nothing :
    let st : Stage := ⟨Host.ofScene (Scene.withCanvas 800 600),
      .ofSource Asset.Shelf.empty.source, []⟩
    let canvas := Scene.empty.nodes.nextKey
    let e : Element := .mk "DropdownField" none (Catalog.ofList [⟨"index", " 3"⟩]) [] none
    let rules : KindRules := .standard ⟨[TypeTable.own "DropdownField" none []]⟩
    let job : Job := ⟨⟨"", 14⟩, rules, Catalog.empty, ⟨800, 600⟩⟩
    kindOf job.rules e = .dropdown ∧ Senseless e .dropdown ∧ st.host.scene.Reachable ∧
      (∃ name value, (Widget.build .dropdown job.lettering e canvas st).1 =
        .error (.badAttribute name value)) ∧
      ∃ w, (job.widgetOf e canvas st).1 = some w ∧
        OneContainer st.host.scene "DropdownField" canvas w.root
          (job.widgetOf e canvas st).2.host.scene := by
  intro st canvas e rules job
  have hs : st.host.scene.Reachable := ⟨[], Or.inr ⟨800, 600, rfl⟩⟩
  have hKind : kindOf job.rules e = .dropdown := by decide +kernel
  have hBad : Senseless e .dropdown := by
    have hIndex : e.attr? "index" = some " 3" := by decide +kernel
    have hThree : WritesPlace (Text.trim " 3".toList) 3 :=
      index?_eq_some_iff.mp (by decide +kernel)
    have hCount : (options e).length = 3 := by decide +kernel
    refine .place hIndex fun i hi hWrites => ?_
    rw [hWrites.unique hThree, hCount] at hi
    exact absurd hi (Nat.lt_irrefl 3)
  obtain ⟨hIff, -, hFallback⟩ := rejected_touches_nothing .dropdown job.lettering e canvas st
  obtain ⟨-, hOne, hBuilt⟩ := hFallback job hKind hBad hs
  obtain ⟨w, hw⟩ := hBuilt (Host.willing_ofScene _) rfl
  exact ⟨hKind, hBad, hs, hIff.mpr hBad, w, hw, hOne w hw⟩

end AnchoredUi.Conversion
