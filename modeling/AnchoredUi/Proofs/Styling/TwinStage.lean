import AnchoredUi.Proofs.SceneGraph.TwinHost
import AnchoredUi.Proofs.Styling.Stage
import AnchoredUi.Styling.Cascade

/-!
# Work on twin stages

Two stages are twins if their scenes are, their finders answer alike, and the warnings of the first
are those of the second with some extra ones among them. Alike work on twin stages gives alike
results, and leaves the stages twins with the same extra warnings.

Two subjects are twins if their nodes are related and what is declared for them comes to the same,
as far as it can be read. Everything that a change of one of them depends on is then the same for
the other: the lengths around it, its text, the group that lays it out.

* `Ahead`: how the warnings of two stages compare.
* `alike_bind`, `alike_onHost`, `alike_findSprite`: the rules for composed and for single pieces
  of work.
* `Twin`: what twin subjects have in common.
* `alike_perform`: changes of twin subjects are alike.
-/

namespace AnchoredUi.Styling

open SceneGraph Sprite

/-! ## Warnings -/

/-- The first warnings are the second ones, in their order, with the extra ones among them. -/
def Ahead (extra first second : List Warning) : Prop :=
  second.Sublist first ∧ first.Perm (second ++ extra)

theorem Ahead.append {extra first second : List Warning} (h : Ahead extra first second)
    (ws : List Warning) : Ahead extra (first ++ ws) (second ++ ws) := by
  refine ⟨h.1.append (List.Sublist.refl ws), (h.2.append_right ws).trans ?_⟩
  rw [List.append_assoc, List.append_assoc]
  exact List.perm_append_comm.append_left second

theorem Ahead.extra {extra first second : List Warning} (h : Ahead extra first second)
    (ws : List Warning) : Ahead (extra ++ ws) (first ++ ws) second := by
  refine ⟨h.1.trans (List.sublist_append_left first ws), ?_⟩
  rw [← List.append_assoc]
  exact h.2.append_right ws

theorem Ahead.eq {first second : List Warning} (h : Ahead [] first second) : first = second := by
  have hPerm := h.2
  rw [List.append_nil] at hPerm
  exact (h.1.eq_of_length hPerm.length_eq.symm).symm

theorem ahead_refl (ws : List Warning) : Ahead [] ws ws :=
  ⟨List.Sublist.refl ws, by rw [List.append_nil]⟩

/-! ## Stages -/

/-- Two stages with twin scenes on hosts that refuse nothing, with finders that give the same
answers, and with warnings of which the first have some extra ones. -/
structure TwinStages (G : Grounds) (R : NodeId → NodeId → Prop) (answers : String → Option Sprite)
    (extra : List Warning) (st st' : Stage) : Prop where
  left_willing : st.host.Willing
  right_willing : st'.host.Willing
  arranges_eq : st.host.arranges = st'.host.arranges
  scenes : Scene.Twins G R st.host.scene st'.host.scene
  left_answer : ∀ address, st.finder.answer address = answers address
  right_answer : ∀ address, st'.finder.answer address = answers address
  ahead : Ahead extra st.warnings st'.warnings

variable {G : Grounds} {R : NodeId → NodeId → Prop} {answers : String → Option Sprite}
  {extra : List Warning} {st st' : Stage} {ε β β' γ γ' : Type}

theorem TwinStages.raise (h : TwinStages G R answers extra st st') (ws : List Warning) :
    TwinStages G R answers extra (Styling.raise ws st).2 (Styling.raise ws st').2 :=
  { h with ahead := h.ahead.append ws }

theorem TwinStages.raise_left (h : TwinStages G R answers extra st st') (ws : List Warning) :
    TwinStages G R answers (extra ++ ws) (Styling.raise ws st).2 st' :=
  { h with ahead := h.ahead.extra ws }

theorem TwinStages.of_does (h : TwinStages G R answers extra st st') {k k' : Host}
    {R' : NodeId → NodeId → Prop} (hk : Host.SameOwner st.host k) (hk' : Host.SameOwner st'.host k')
    (hScenes : Scene.Twins G R' k.scene k'.scene) :
    TwinStages G R' answers extra { st with host := k } { st' with host := k' } where
  left_willing := hk.willing h.left_willing
  right_willing := hk'.willing h.right_willing
  arranges_eq := by
    show k.arranges = k'.arranges
    rw [hk.2, hk'.2]
    exact h.arranges_eq
  scenes := hScenes
  left_answer := h.left_answer
  right_answer := h.right_answer
  ahead := h.ahead

/-! ## Work -/

/-- Two results are values that correspond to each other, or the same fault. -/
inductive AlikeResults (Q : β → β' → Prop) : Except ε β → Except ε β' → Prop
  | ok {b : β} {b' : β'} (h : Q b b') : AlikeResults Q (.ok b) (.ok b')
  | error (f : ε) : AlikeResults Q (.error f) (.error f)

/-- Work that gives alike results on twin stages, and leaves them twins. -/
def AlikeWork (G : Grounds) (R : NodeId → NodeId → Prop) (answers : String → Option Sprite)
    (Q : β → β' → Prop) (m : StageM ε β) (m' : StageM ε β') : Prop :=
  ∀ extra st st', TwinStages G R answers extra st st' →
    AlikeResults Q (m st).1 (m' st').1 ∧ TwinStages G R answers extra (m st).2 (m' st').2

theorem alike_pure {Q : β → β' → Prop} {b : β} {b' : β'} (h : Q b b') :
    AlikeWork G R answers Q (pure b : StageM ε β) (pure b' : StageM ε β') :=
  fun _ _ _ hStages => ⟨.ok h, hStages⟩

theorem alike_throw (Q : β → β' → Prop) (f : ε) :
    AlikeWork G R answers Q (throw f : StageM ε β) (throw f : StageM ε β') :=
  fun _ _ _ hStages => ⟨.error f, hStages⟩

theorem alike_bind {P : β → β' → Prop} {Q : γ → γ' → Prop} {m : StageM ε β} {m' : StageM ε β'}
    {next : β → StageM ε γ} {next' : β' → StageM ε γ'} (hm : AlikeWork G R answers P m m')
    (hNext : ∀ b b', P b b' → AlikeWork G R answers Q (next b) (next' b')) :
    AlikeWork G R answers Q (m >>= next) (m' >>= next') := by
  intro extra st st' hStages
  obtain ⟨hResults, hAfter⟩ := hm extra st st' hStages
  rw [run_bind, run_bind]
  rcases hRun : m st with ⟨r, u⟩
  rcases hRun' : m' st' with ⟨r', u'⟩
  rw [hRun, hRun'] at hResults hAfter
  cases hResults with
  | ok h => exact hNext _ _ h extra u u' hAfter
  | error f => exact ⟨.error f, hAfter⟩

/-- Work that looks at the scenes first. -/
theorem alike_current {Q : γ → γ' → Prop} {next : Scene → StageM ε γ} {next' : Scene → StageM ε γ'}
    (hNext : ∀ s t, Scene.Twins G R s t → AlikeWork G R answers Q (next s) (next' t)) :
    AlikeWork G R answers Q (currentScene >>= next) (currentScene >>= next') :=
  fun extra st st' hStages => hNext _ _ hStages.scenes extra st st' hStages

theorem alike_onHost {m m' : HostM Unit} (hm : Host.TwinWork G R m m') (fault : SceneFault → ε) :
    AlikeWork G R answers (fun _ _ => True) (onHost fault m) (onHost fault m') := by
  intro extra st st' hStages
  obtain ⟨t, t', ⟨k, hRun, hk, hOwner⟩, ⟨k', hRun', hk', hOwner'⟩, hTwins⟩ :=
    hm _ _ hStages.left_willing hStages.right_willing hStages.scenes
  rw [← hk, ← hk'] at hTwins
  rw [run_onHost hRun, run_onHost hRun']
  exact ⟨.ok trivial, hStages.of_does hOwner hOwner' hTwins⟩

theorem alike_findSprite (address : String) :
    AlikeWork G R answers Eq (findSprite address : StageM ε (Option Sprite))
      (findSprite address) := by
  intro extra st st' hStages
  have hLeft := fun other => (st.finder.answer_find address other).trans (hStages.left_answer other)
  have hRight := fun other =>
    (st'.finder.answer_find address other).trans (hStages.right_answer other)
  rw [run_findSprite, run_findSprite, hStages.left_answer, hStages.right_answer]
  -- from here on, what the finders remember does not matter
  generalize st.finder.find address = run at hLeft ⊢
  generalize st'.finder.find address = run' at hRight ⊢
  exact ⟨.ok rfl, hStages.left_willing, hStages.right_willing, hStages.arranges_eq, hStages.scenes,
    hLeft, hRight, hStages.ahead⟩

theorem alike_warn (label : Option String) (cause : WarningCause) :
    AlikeWork G R answers (fun _ _ => True) (warn label cause : StageM ε Unit)
      (warn label cause) := fun _ _ _ hStages => ⟨.ok trivial, hStages.raise _⟩

/-- A fault that is the same on both sides becomes the same warning. -/
theorem TwinStages.orWarn (h : TwinStages G R answers extra st st') {m m' : StageM ε Unit}
    (hm : AlikeWork G R answers (fun _ _ => True) m m') {cause cause' : ε → Warning}
    (hCause : ∀ f, cause f = cause' f) :
    TwinStages G R answers extra (Styling.orWarn m cause st).2
      (Styling.orWarn m' cause' st').2 := by
  obtain ⟨hResults, hAfter⟩ := hm extra st st' h
  unfold Styling.orWarn
  rcases hRun : m st with ⟨r, u⟩
  rcases hRun' : m' st' with ⟨r', u'⟩
  rw [hRun, hRun'] at hResults hAfter
  cases hResults with
  | ok _ => exact hAfter
  | error f =>
    simp only [hCause f]
    exact hAfter.raise _

end AnchoredUi.Styling

namespace AnchoredUi.Styling

open Number Plane SceneGraph Style Sprite

/-! ## Styles -/

/-- Two styles that ask for the same layout group, if they ask for any. -/
structure AlikeStyles (d d' : Declarations) : Prop where
  asks_eq : asksForGroup d = asksForGroup d'
  configure_eq : ∀ g, configure d g = configure d' g
  padding_eq : asksForGroup d = true →
    ∀ around, declaredPadding d around = declaredPadding d' around

theorem alikeStyles_refl (d : Declarations) : AlikeStyles d d := ⟨rfl, fun _ => rfl, fun _ _ => rfl⟩

theorem AlikeStyles.axis_eq {d d' : Declarations} (h : AlikeStyles d d') :
    (directionOf d).axis = (directionOf d').axis :=
  congrArg LayoutGroup.axis (h.configure_eq (.along .horizontal))

theorem AlikeStyles.groupOf_eq {d d' : Declarations} (h : AlikeStyles d d')
    (hAsks : asksForGroup d = true) (around : Surroundings) :
    groupOf d around = groupOf d' around := by
  unfold groupOf
  rw [h.configure_eq, h.axis_eq, h.padding_eq hAsks]

/-! ## Texts and lengths -/

section Reads

variable {G : Grounds} {R : NodeId → NodeId → Prop} {s t : Scene} {a b : NodeId}

theorem rel_find? {as bs : List NodeId} (h : List.Forall₂ R as bs) {p q : NodeId → Bool}
    (hpq : ∀ a b, R a b → p a = q b) : Option.Rel R (as.find? p) (bs.find? q) := by
  induction h with
  | nil => exact .none
  | @cons c d _ _ hHead _ ih =>
    rw [List.find?_cons, List.find?_cons, hpq c d hHead]
    cases q d with
    | true => exact .some hHead
    | false => exact ih

variable (h : Scene.Twins G R s t) (hab : R a b)
include h hab

theorem textNode?_rel : Option.Rel R (textNode? s a) (textNode? t b) := by
  unfold textNode?
  rw [h.component?_eq hab]
  split
  · exact .some hab
  · refine rel_find? (h.children hab) fun c d hcd => ?_
    rw [h.name?_eq hcd, h.component?_eq hcd]

theorem textOf?_eq : textOf? s a = textOf? t b := by
  have hRel := textNode?_rel h hab
  unfold textOf?
  generalize textNode? s a = c at hRel ⊢
  generalize textNode? t b = d at hRel ⊢
  cases hRel with
  | none => rfl
  | some hcd => exact h.component?_eq hcd

theorem surroundingsOf_eq (hG : G.Level) (canvas : Size Single) (fontSize : Single) :
    surroundingsOf s a canvas fontSize = surroundingsOf t b canvas fontSize := by
  unfold surroundingsOf
  rw [h.parentSize_eq hG hab, textOf?_eq h hab]

theorem contentExtent_eq (hG : G.Level) (axis : Axis) :
    contentExtent s a axis = contentExtent t b axis := by
  unfold contentExtent
  rw [h.component?_eq hab, textOf?_eq h hab, h.sizeOf_eq hG hab]

end Reads

/-! ## Subjects -/

namespace Subject

/-- The declared size, if it can be read. -/
def readableSize? (x : Subject) (name : String) : Option Scalar :=
  (x.declaredSize? name).bind fun v => (readScalar v).toOption

/-- Two subjects with related nodes, for which the same is declared as far as it can be read. -/
structure Twin (G : Grounds) (R : NodeId → NodeId → Prop) (x y : Subject) : Prop where
  node : R x.node y.node
  label_eq : x.element.label = y.element.label
  canvas_eq : x.canvas = y.canvas
  fontSize_eq : x.fontSize = y.fontSize
  isRoot_eq : x.isRoot = y.isRoot
  parent : ∃ u v, x.parentNode = some u ∧ y.parentNode = some v ∧ G.Under R u v
  style : AlikeStyles x.style y.style
  parentStyle : Option.Rel AlikeStyles x.parentStyle? y.parentStyle?
  size_eq : ∀ p ∈ sizeAttributes, x.readableSize? p.1 = y.readableSize? p.1

variable {G : Grounds} {R : NodeId → NodeId → Prop} {answers : String → Option Sprite}
  {x y : Subject} {s t : Scene}

section Reads

variable (hxy : Twin G R x y) (h : Scene.Twins G R s t)
include hxy h

theorem Twin.surroundings_eq (hG : G.Level) : x.surroundings s = y.surroundings t := by
  unfold surroundings
  rw [hxy.canvas_eq, hxy.fontSize_eq]
  exact surroundingsOf_eq h hxy.node hG _ _

theorem Twin.parentGroup?_eq : x.parentGroup? s = y.parentGroup? t := by
  obtain ⟨u, v, hu, hv, hUnder⟩ := hxy.parent
  simp only [parentGroup?, hu, hv, Option.bind_some]
  exact h.group_eq_under hUnder

theorem Twin.mainAxis_eq : x.mainAxis s = y.mainAxis t := by
  have hStyles := hxy.parentStyle
  unfold mainAxis
  rw [hxy.parentGroup?_eq h]
  cases y.parentGroup? t with
  | some g => rfl
  | none =>
    generalize x.parentStyle? = d at hStyles ⊢
    generalize y.parentStyle? = d' at hStyles ⊢
    cases hStyles with
    | none => rfl
    | some hStyles => exact hStyles.axis_eq

theorem Twin.sidePixels_eq (hG : G.Level) (sides : Spacing (Option Scalar)) :
    x.sidePixels s sides = y.sidePixels t sides := by
  unfold sidePixels
  rw [hxy.surroundings_eq h hG]

theorem Twin.declaredExtent?_eq (hG : G.Level) {name : String} {axis : Axis}
    (hName : (name, axis) ∈ sizeAttributes) :
    x.declaredExtent? s name axis = y.declaredExtent? t name axis := by
  have hSize := hxy.size_eq _ hName
  unfold readableSize? at hSize
  unfold declaredExtent?
  rw [hSize, hxy.surroundings_eq h hG]

end Reads

end Subject

end AnchoredUi.Styling
