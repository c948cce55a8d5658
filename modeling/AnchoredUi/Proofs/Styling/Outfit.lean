import Mathlib.Data.List.Nodup
import AnchoredUi.Proofs.Styling.ParentGroup

/-!
# No component comes twice

Styling attaches a component only where there is none of its kind, and a mask for the rectangle only
where nothing clips yet. So a node whose components are of different kinds, and that is clipped at
most once, stays so, whatever is declared and in whatever order. The one component that comes for
another reason is the layout group that a node gets for the sake of its children; it is attached to
the parent of what is styled, so all this is said of other nodes.

* `Tidy`, `Outfit`: what the kinds of the components of a node are like.
* `Touch.fits`, `fits_of_touches`: one change, and any number of them.
* `outfit_cascade`: after a whole cascade, also the mark of the root is where it belongs.
-/

namespace AnchoredUi.SceneGraph

/-! ## Kinds of components -/

namespace Scene

/-- The kinds of the components of a node in order. -/
def kinds (s : Scene) (id : NodeId) : List ComponentKind :=
  (s.components id).map Component.kind

variable {s : Scene}

theorem has_eq_false_iff {kind : ComponentKind} {id : NodeId} :
    s.has kind id = false ↔ kind ∉ s.kinds id := by
  simp [has, kinds]

/-- A node has no component of a type if it has none of its kind. -/
theorem component?_eq_none_iff {α : Type} [ComponentType α] {id : NodeId} :
    s.component? α id = none ↔ ComponentType.kind α ∉ s.kinds id := by
  rw [← has_eq_false_iff, Host.has_eq_component?, Option.isSome_eq_false_iff,
    Option.isNone_iff_eq_none]

theorem kinds_attach {id : NodeId} (hLive : s.contains id = true) (c : Component NodeId) :
    (s.modifyComponents id (· ++ [c])).kinds id = s.kinds id ++ [c.kind] := by
  rw [kinds, components_attach hLive, List.map_append, List.map_singleton, kinds]

theorem kinds_modify_other {id other : NodeId} (hNe : other ≠ id) (f : Node → Node) :
    (s.modify id f).kinds other = s.kinds other := by
  rw [kinds, components, node?_modify, if_neg hNe, kinds, components]

theorem kinds_modify (id : NodeId) {f : Node → Node}
    (hKinds : ∀ n, (f n).components.map Component.kind = n.components.map Component.kind)
    (other : NodeId) : (s.modify id f).kinds other = s.kinds other := by
  by_cases hEq : other = id
  · rw [kinds, components, node?_modify, if_pos hEq, kinds, components]
    cases s.node? other with
    | none => rfl
    | some n => exact hKinds n
  · exact kinds_modify_other hEq f

/-- A node that is not there gets no components. -/
theorem kinds_modifyComponents_of_not_contains {id : NodeId} (hGone : s.contains id = false)
    (f : List (Component NodeId) → List (Component NodeId)) :
    (s.modifyComponents id f).kinds id = s.kinds id := by
  have hNone : s.node? id = none := by
    rw [node?, Option.map_eq_none_iff]
    simpa [contains, Arena.contains] using hGone
  rw [kinds, components, modifyComponents, node?_modify, if_pos rfl, kinds, components, hNone]
  rfl

end Scene

/-- Changing a component leaves its kind alone. -/
theorem kinds_modifyFirst {α : Type} [ComponentType α] (f : α → α) (cs : List (Component NodeId)) :
    (modifyFirst f cs).map Component.kind = cs.map Component.kind := by
  induction cs with
  | nil => rfl
  | cons c cs ih =>
    rw [modifyFirst]
    cases hc : (ComponentType.unwrap? c : Option α) with
    | none => simp only [List.map_cons, ih]
    | some a =>
      rw [(ComponentType.unwrap?_eq_some_iff c a).mp hc]
      simp only [List.map_cons, kind_wrap]

theorem Scene.kinds_modifyComponent {s : Scene} {α : Type} [ComponentType α] (f : α → α)
    (id other : NodeId) : (s.modifyComponent id f).kinds other = s.kinds other :=
  kinds_modify id (f := fun n => { n with components := modifyFirst f n.components })
    (fun _ => kinds_modifyFirst f _) other

/-! ## Tidy nodes -/

/-- No two components are of one kind, and the node is clipped once at most. -/
structure Tidy (kinds : List ComponentKind) : Prop where
  nodup : kinds.Nodup
  one_mask : .mask ∈ kinds → .rectMask ∉ kinds

theorem Tidy.concat {kinds : List ComponentKind} {kind : ComponentKind} (h : Tidy kinds)
    (hNew : kind ∉ kinds) (hMask : kind ≠ .mask) (hRect : kind = .rectMask → .mask ∉ kinds) :
    Tidy (kinds ++ [kind]) := by
  refine ⟨by simpa using h.nodup.concat hNew, fun hOld hClip => ?_⟩
  rw [List.mem_append, List.mem_singleton] at hOld hClip
  have hOld := hOld.resolve_right hMask.symm
  rcases hClip with hClip | hClip
  · exact h.one_mask hOld hClip
  · exact hRect hClip.symm hOld

/-- The kinds of the components of a node before its children give it a layout group. The node is
marked as the root of a document or not. -/
structure Outfit (marked : Prop) (kinds : List ComponentKind) : Prop where
  tidy : Tidy kinds
  not_group : .layoutGroup ∉ kinds
  root_iff : .layoutRoot ∈ kinds ↔ marked

end AnchoredUi.SceneGraph

namespace AnchoredUi.Styling.Subject

open Number Plane SceneGraph Style Sprite

variable {x : Subject} {s t r : Scene} {id : NodeId}

/-! ## Single changes -/

/-- A node that is not the parent gets no component, or one that is admitted. -/
theorem Touch.kinds_cases (h : x.Touch s t) (hId : x.parentNode ≠ some id) :
    t.kinds id = s.kinds id ∨
      ∃ kind, id = x.node ∧ x.Admits s kind ∧ t.kinds id = s.kinds id ++ [kind] := by
  cases h with
  | rect r =>
    left
    rw [Scene.kinds, Scene.components_setRect, Scene.kinds]
  | active flag =>
    exact Or.inl (Scene.kinds_modify x.node (f := fun n => { n with active := flag })
      (fun _ => rfl) id)
  | change f => exact Or.inl (Scene.kinds_modifyComponent f x.node id)
  | @text c _ f => exact Or.inl (Scene.kinds_modifyComponent f c id)
  | attach c hNew =>
    by_cases hSelf : id = x.node
    · subst hSelf
      cases hLive : s.contains x.node with
      | true => exact Or.inr ⟨c.kind, rfl, hNew, Scene.kinds_attach hLive c⟩
      | false => exact Or.inl (Scene.kinds_modifyComponents_of_not_contains hLive _)
    · exact Or.inl (Scene.kinds_modify_other hSelf _)
  | @group p style hParent _ _ _ around =>
    have hNe : id ≠ p := fun hEq => hId (by rw [hParent, hEq])
    exact Or.inl (Scene.kinds_modify_other hNe _)

/-- From one scene to another one, a node got no components but those that fit to what it had. -/
structure Fits (x : Subject) (id : NodeId) (s t : Scene) : Prop where
  tidy : Tidy (s.kinds id) → Tidy (t.kinds id)
  kept : ∀ kind ∈ s.kinds id, kind ∈ t.kinds id
  group : .layoutGroup ∈ t.kinds id → .layoutGroup ∈ s.kinds id
  root : .layoutRoot ∈ t.kinds id → .layoutRoot ∈ s.kinds id ∨ x.isRoot = true ∧ id = x.node

theorem Fits.of_eq (h : t.kinds id = s.kinds id) : x.Fits id s t := by
  refine ⟨?_, ?_, ?_, ?_⟩ <;> rw [h]
  · exact fun hTidy => hTidy
  · exact fun _ hKind => hKind
  · exact fun hGroup => hGroup
  · exact Or.inl

theorem Fits.trans (h : x.Fits id s t) (h' : x.Fits id t r) : x.Fits id s r where
  tidy hTidy := h'.tidy (h.tidy hTidy)
  kept kind hKind := h'.kept kind (h.kept kind hKind)
  group hGroup := h.group (h'.group hGroup)
  root hRoot := (h'.root hRoot).elim h.root Or.inr

theorem Touch.fits (h : x.Touch s t) (hId : x.parentNode ≠ some id) : x.Fits id s t := by
  rcases h.kinds_cases hId with hSame | ⟨kind, rfl, hAdmits, hMore⟩
  · exact .of_eq hSame
  · have hMem : ∀ {k}, k ∈ t.kinds x.node ↔ k ∈ s.kinds x.node ∨ k = kind := by
      intro k
      rw [hMore, List.mem_append, List.mem_singleton]
    refine ⟨fun hTidy => ?_, fun _ hKind => hMem.mpr (Or.inl hKind), fun hGroup => ?_,
      fun hRoot => ?_⟩
    · rw [hMore]
      exact hTidy.concat (Scene.has_eq_false_iff.mp hAdmits.new) hAdmits.not_mask
        fun hRect => Scene.has_eq_false_iff.mp (hAdmits.unmasked hRect)
    · exact (hMem.mp hGroup).resolve_right hAdmits.not_group.symm
    · exact (hMem.mp hRoot).imp_right fun hKind => ⟨hAdmits.isRoot hKind.symm, rfl⟩

/-! ## Whole cascades -/

theorem fits_of_touches (h : Relation.ReflTransGen x.Touch s t) (hId : x.parentNode ≠ some id) :
    x.Fits id s t := by
  induction h with
  | refl => exact .of_eq rfl
  | tail _ hTouch ih => exact ih.trans (hTouch.fits hId)

/-- A root gets the size of the canvas and the mark, if it has none yet. -/
theorem does_markRoot {h : Host} (hw : h.Willing) (hLive : h.scene.contains x.node = true)
    (hRoot : x.isRoot = true) :
    let s := h.scene.setRect x.node (.centered x.canvas.width x.canvas.height)
    ∃ t, Host.Does x.markRoot h () t ∧ .layoutRoot ∈ t.kinds x.node ∧
      (t = s ∨ t = s.modifyComponents x.node (· ++ [.layoutRoot ⟨x.canvas⟩])) := by
  have hSet := Host.does_setRect hw hLive (.centered x.canvas.width x.canvas.height)
  have hThere : (h.scene.setRect x.node (.centered x.canvas.width x.canvas.height)).contains
      x.node = true := (Scene.contains_modify ..).trans hLive
  unfold markRoot
  rw [if_pos hRoot]
  generalize h.scene.setRect x.node _ = s at hSet hThere
  cases hMark : s.has .layoutRoot x.node with
  | true =>
    refine ⟨s, hSet.bind fun k hk _ => ?_, ?_, Or.inl rfl⟩
    · unfold Host.Does
      rw [Host.run_current_bind, hk, hMark, ← hk]
      exact Host.does_pure () k
    · by_contra hNone
      rw [Scene.has_eq_false_iff.mpr hNone] at hMark
      cases hMark
  | false =>
    refine ⟨_, hSet.bind fun k hk hOwner => ?_, ?_, Or.inr rfl⟩
    · unfold Host.Does
      rw [Host.run_current_bind, hk, hMark]
      subst hk
      exact Host.does_attach (hOwner.willing hw) hThere _
    · rw [Scene.kinds_attach hThere]
      exact List.mem_append_right _ List.mem_cons_self

/-- A cascade marks the root, and keeps every node but the parent tidy. -/
theorem outfit_cascade {st : Stage} (hw : st.host.Willing)
    (hLive : st.host.scene.contains x.node = true) (hUp : x.parentNode ≠ some x.node)
    (hId : x.parentNode ≠ some id) (hPlain : Outfit False (st.host.scene.kinds id)) :
    Outfit (x.isRoot = true ∧ id = x.node) ((x.cascade st).2.host.scene.kinds id) := by
  have hFits := fits_of_touches (x.keeps_cascade st).touches hId
  refine ⟨hFits.tidy hPlain.tidy, fun hGroup => hPlain.not_group (hFits.group hGroup),
    fun hRoot => (hFits.root hRoot).resolve_left hPlain.root_iff.mp, ?_⟩
  rintro ⟨hRoot, rfl⟩
  have hFirst := keeps_tryHost (x := x) handled_ensureParentGroup st
  obtain ⟨t, hDoes, hMark, -⟩ := does_markRoot (hFirst.owner.willing hw)
    ((contains_of_touches hFirst.touches x.node).trans hLive) hRoot
  obtain ⟨hScene, -⟩ := host_tryHost (x := x) hDoes
  -- the mark stays, whatever is declared
  rw [run_cascade, run_mainCascade]
  refine (fits_of_touches ((keeps_forM keeps_apply x.declarations _).trans
    (keeps_forM (fun _ => keeps_tryHost (handled_reconcile _ _)) _ _)).touches hUp).kept _ ?_
  rw [hScene]
  exact hMark

end AnchoredUi.Styling.Subject
