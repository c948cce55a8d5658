import AnchoredUi.Flow.Arrange
import AnchoredUi.Proofs.SceneGraph.Host
import AnchoredUi.Proofs.SceneGraph.Twin

/-!
# Calls on the hosts of twin scenes

On two hosts that refuse nothing, the same calls about related nodes succeed on both sides and
leave their scenes twins.

What a group gives its children depends on the sizes, the hints and the activity of these nodes,
and on its own size. For related nodes all of that is the same, so arranging keeps scenes twins.

* `twinWork_updateRect`, `twinWork_ensureComponent`: the calls that styling makes.
* `twinWork_attachGroup`: a layout group for nodes that correspond to each other.
* `twins_arrange`: the children of related nodes are laid out alike.
* `twins_arrangeAll`: so are all groups below them.
-/

namespace AnchoredUi.SceneGraph.Host

open Number Plane Scene

/-- Work that succeeds on both hosts of twin scenes, and leaves the scenes twins. -/
def TwinWork (G : Grounds) (R : NodeId → NodeId → Prop) (m m' : HostM Unit) : Prop :=
  ∀ h h' : Host, h.Willing → h'.Willing → Twins G R h.scene h'.scene →
    ∃ t t', Does m h () t ∧ Does m' h' () t' ∧ Twins G R t t'

variable {G : Grounds} {R : NodeId → NodeId → Prop} {a b : NodeId}

theorem twinWork_pure : TwinWork G R (pure ()) (pure ()) := fun h h' _ _ hTwins =>
  ⟨h.scene, h'.scene, does_pure () h, does_pure () h', hTwins⟩

theorem TwinWork.bind {m m' n n' : HostM Unit} (hm : TwinWork G R m m') (hn : TwinWork G R n n') :
    TwinWork G R (m >>= fun _ => n) (m' >>= fun _ => n') := by
  intro h h' hw hw' hTwins
  obtain ⟨t, t', ⟨k, hRun, hk, hOwner⟩, ⟨k', hRun', hk', hOwner'⟩, hMid⟩ := hm h h' hw hw' hTwins
  rw [← hk, ← hk'] at hMid
  obtain ⟨r, r', hDoes, hDoes', hEnd⟩ := hn k k' (hOwner.willing hw) (hOwner'.willing hw') hMid
  obtain ⟨l, hRest, hl, hOwner₂⟩ := hDoes
  obtain ⟨l', hRest', hl', hOwner₂'⟩ := hDoes'
  refine ⟨r, r', ⟨l, ?_, hl, hOwner.trans hOwner₂⟩, ⟨l', ?_, hl', hOwner'.trans hOwner₂'⟩, hEnd⟩
  · rw [run_bind, hRun]
    exact hRest
  · rw [run_bind, hRun']
    exact hRest'

/-- Work that looks at the scenes first. -/
theorem twinWork_current {next next' : Scene → HostM Unit}
    (hNext : ∀ s t, Twins G R s t → TwinWork G R (next s) (next' t)) :
    TwinWork G R (current >>= next) (current >>= next') := by
  intro h h' hw hw' hTwins
  unfold Does
  rw [run_current_bind, run_current_bind]
  exact hNext _ _ hTwins h h' hw hw' hTwins

section Related

variable (hG : G.Level) (hab : R a b)
include hG hab

theorem twinWork_setRect (r : Rect Single) : TwinWork G R (setRect a r) (setRect b r) := by
  intro h h' hw hw' hTwins
  exact ⟨_, _, does_setRect hw (hTwins.left_contains hab) r,
    does_setRect hw' (hTwins.right_contains hab) r, hTwins.setRect hG hab r⟩

theorem twinWork_setActive (flag : Bool) :
    TwinWork G R (setActive a flag) (setActive b flag) := by
  intro h h' hw hw' hTwins
  refine ⟨_, _, does_setActive hw (hTwins.left_contains hab) flag,
    does_setActive hw' (hTwins.right_contains hab) flag, ?_⟩
  exact hTwins.modify hG hab fun _ _ hAlike =>
    ⟨hAlike.name_eq, hAlike.rect_eq, rfl, hAlike.components⟩

theorem twins_attach {s t : Scene} (hTwins : Twins G R s t) {c d : Component NodeId}
    (hcd : Component.Alike R c d) :
    Twins G R (s.modifyComponents a (· ++ [c])) (t.modifyComponents b (· ++ [d])) :=
  hTwins.modify hG hab fun _ _ hAlike => ⟨hAlike.name_eq, hAlike.rect_eq, hAlike.active_eq,
    List.rel_append hAlike.components (.cons hcd .nil)⟩

theorem twinWork_attach {c d : Component NodeId} (hcd : Component.Alike R c d) :
    TwinWork G R (attach a c) (attach b d) := fun _ _ hw hw' hTwins =>
  ⟨_, _, does_attach hw (hTwins.left_contains hab) c,
    does_attach hw' (hTwins.right_contains hab) d, twins_attach hG hab hTwins hcd⟩

theorem twinWork_updateRect (f : Rect Single → Rect Single) :
    TwinWork G R (updateRect a f) (updateRect b f) := by
  intro h h' hw hw' hTwins
  obtain ⟨r, hr⟩ := rect?_of_contains (hTwins.left_contains hab)
  have hr' : h'.scene.rect? b = some r := by rw [← hTwins.rect?_eq hab, hr]
  exact ⟨_, _, does_updateRect hw hr f, does_updateRect hw' hr' f, hTwins.setRect hG hab _⟩

variable {α : Type} [ComponentType α] [Unlinked α]

theorem twins_modifyComponent {s t : Scene} (hTwins : Twins G R s t) (f : α → α) :
    Twins G R (s.modifyComponent a f) (t.modifyComponent b f) := by
  unfold modifyComponent modifyComponents
  exact hTwins.modify hG hab fun _ _ hAlike => ⟨hAlike.name_eq, hAlike.rect_eq, hAlike.active_eq,
    alike_modifyFirst hAlike.components f⟩

theorem twinWork_updateComponent (f : α → α) :
    TwinWork G R (updateComponent a f) (updateComponent b f) := fun h h' _ _ hTwins =>
  ⟨_, _, does_updateComponent a f h, does_updateComponent b f h',
    twins_modifyComponent hG hab hTwins f⟩

theorem twins_supplied {s t : Scene} (hTwins : Twins G R s t) (new : α) :
    Twins G R (supplied s a new) (supplied t b new) := by
  unfold supplied
  rw [hTwins.has_eq hab]
  split
  · exact hTwins
  · exact twins_attach hG hab hTwins (Unlinked.alike_wrap R new)

theorem twinWork_ensureComponent (new : α) (f : α → α) :
    TwinWork G R (ensureComponent a new f) (ensureComponent b new f) := fun _ _ hw hw' hTwins =>
  ⟨_, _, does_ensureComponent hw (hTwins.left_contains hab) new f,
    does_ensureComponent hw' (hTwins.right_contains hab) new f,
    twins_modifyComponent hG hab (twins_supplied hG hab hTwins new) f⟩

end Related

theorem twinWork_attachGroup (hG : G.Level) (hab : G.Under R a b) (g : LayoutGroup) :
    TwinWork G R (attach a (.layoutGroup g)) (attach b (.layoutGroup g)) := by
  intro h h' hw hw' hTwins
  obtain ⟨ha, hb⟩ := hTwins.under_contains hG hab
  exact ⟨_, _, does_attach hw ha _, does_attach hw' hb _, hTwins.attachGroup hG hab g⟩

end AnchoredUi.SceneGraph.Host

/-! ## Arranging -/

namespace AnchoredUi.Flow

open Number Plane SceneGraph

variable {G : Grounds} {R : NodeId → NodeId → Prop} {s t : Scene} {a b : NodeId}

section Reads

variable (h : Scene.Twins G R s t) (hab : R a b)
include h hab

theorem hintsOf_eq : hintsOf s a = hintsOf t b := by
  unfold hintsOf
  rw [h.component?_eq hab]

theorem inFlow_rel : List.Forall₂ R (inFlow s a) (inFlow t b) := by
  refine List.rel_filter ?_ (h.children hab)
  intro c d hcd
  simp only [h.isActive_eq hcd, hintsOf_eq h hcd]

theorem placements_eq (hG : G.Level) (g : LayoutGroup) :
    ∃ rects, placements s a g = (inFlow s a).zip rects ∧
      placements t b g = (inFlow t b).zip rects := by
  have hItems : (inFlow s a).map (fun c => itemOf g (hintsOf s c) (s.sizeOf c)) =
      (inFlow t b).map fun d => itemOf g (hintsOf t d) (t.sizeOf d) := by
    refine List.forall₂_eq_eq_eq ▸ List.rel_map ?_ (inFlow_rel h hab)
    intro c d hcd
    simp only [hintsOf_eq h hcd, h.sizeOf_eq hG hcd]
  refine ⟨_, rfl, ?_⟩
  unfold placements
  simp only [hItems, h.sizeOf_eq hG hab]

end Reads

theorem twins_setRects (hG : G.Level) {cs ds : List NodeId} (hcd : List.Forall₂ R cs ds)
    (rects : List (Rect Single)) (h : Scene.Twins G R s t) :
    Scene.Twins G R ((cs.zip rects).foldl (fun s p => s.setRect p.1 p.2) s)
      ((ds.zip rects).foldl (fun s p => s.setRect p.1 p.2) t) := by
  induction hcd generalizing rects s t with
  | nil => exact h
  | cons hHead _ ih =>
    cases rects with
    | nil => exact h
    | cons r rects => exact ih rects (h.setRect hG hHead r)

/-- The children of related nodes are laid out alike. -/
theorem twins_arrange (hG : G.Level) (h : Scene.Twins G R s t) (hab : R a b) :
    Scene.Twins G R (arrange s a) (arrange t b) := by
  unfold arrange
  rw [h.isActive_eq hab, h.component?_eq hab]
  split
  · split
    · rename_i g _
      obtain ⟨rects, hLeft, hRight⟩ := placements_eq h hab hG g
      rw [hLeft, hRight]
      exact twins_setRects hG (inFlow_rel h hab) rects h
    · exact h
  · exact h

/-- All groups from related nodes on are laid out alike. -/
theorem twins_arrangeAll (hG : G.Level) (h : Scene.Twins G R s t) (hab : R a b) :
    Scene.Twins G R (arrangeAll s a) (arrangeAll t b) := by
  have hStep : Relator.LiftFun (Scene.Twins G R) (Relator.LiftFun R (Scene.Twins G R))
      arrange arrange := fun _ _ hTwins _ _ hcd => twins_arrange hG hTwins hcd
  exact List.rel_foldl hStep h (h.walk hab)

end AnchoredUi.Flow
