import AnchoredUi.Proofs.SceneGraph.Growth
import AnchoredUi.Proofs.SceneGraph.Host

/-!
# Work that does not see the components of a node

A node may get its components before some work or after it: if the work does not look at them, then
the host is the same in the end, with its keys and its counts of calls. New nodes are put under the
next key, and a change of an old node does not move it.

* `Arena.modify_comm`, `Arena.add_modify`: two changes, or a new value and a change, in either
  order.
* `Aside`: work that may come before a change or after it, with the rules for composed work.
* `Host.aside_create`, `Host.aside_setRect` and so on: the calls that leave components alone.
-/

namespace AnchoredUi.SceneGraph

open Number Plane

/-! ## Arenas -/

namespace Arena

variable {α : Type} {a : Arena α} {id other : NodeId} {f g : α → α} {value : α}

theorem modify_of_none (h : a.find? id = none) : a.modify id f = a := by
  unfold modify
  rw [h]

theorem modify_of_some (h : a.find? id = some value) :
    a.modify id f = { a with slots := a.slots.set id.slot ⟨id.version, some (f value)⟩ } := by
  unfold modify
  rw [h]

/-- Two keys with values are in different slots. -/
theorem slot_ne {value' : α} (h : a.find? id = some value) (h' : a.find? other = some value')
    (hNe : id ≠ other) : id.slot ≠ other.slot := by
  intro hSlot
  have hId := slot_of_find? h
  rw [hSlot, slot_of_find? h'] at hId
  have hVersion : other.version = id.version := congrArg Slot.version (Option.some.inj hId)
  obtain ⟨slot, version⟩ := id
  obtain ⟨slot', version'⟩ := other
  simp only at hSlot hVersion
  exact hNe (by rw [hSlot, hVersion])

/-- Two changes may be made in either order, if they may be on the same key. -/
theorem modify_comm (hSame : id = other → ∀ value, g (f value) = f (g value)) :
    (a.modify id f).modify other g = (a.modify other g).modify id f := by
  cases hId : a.find? id with
  | none =>
    have hStill : (a.modify other g).find? id = none := by
      rw [find?_modify, hId]
      split <;> rfl
    rw [modify_of_none hId, modify_of_none hStill]
  | some value =>
    cases hOther : a.find? other with
    | none =>
      have hStill : (a.modify id f).find? other = none := by
        rw [find?_modify, hOther]
        split <;> rfl
      rw [modify_of_none hOther, modify_of_none hStill]
    | some value' =>
      by_cases hEq : id = other
      · subst hEq
        have hFirst : (a.modify id f).find? id = some (f value) := by
          rw [find?_modify, if_pos rfl, hId, Option.map_some]
        have hSecond : (a.modify id g).find? id = some (g value) := by
          rw [find?_modify, if_pos rfl, hId, Option.map_some]
        rw [modify_of_some hFirst, modify_of_some hSecond, modify_of_some hId, modify_of_some hId]
        simp only [List.set_set, hSame rfl]
      · have hFirst : (a.modify id f).find? other = some value' := by
          rw [find?_modify, if_neg (Ne.symm hEq), hOther]
        have hSecond : (a.modify other g).find? id = some value := by
          rw [find?_modify, if_neg hEq, hId]
        rw [modify_of_some hFirst, modify_of_some hSecond, modify_of_some hId,
          modify_of_some hOther]
        simp only [List.set_comm _ _ (slot_ne hId hOther hEq)]

theorem versionAt_modify (slot : Nat) : (a.modify id f).versionAt slot = a.versionAt slot := by
  cases hId : a.find? id with
  | none => rw [modify_of_none hId]
  | some value =>
    rw [modify_of_some hId]
    unfold versionAt
    by_cases hSlot : id.slot = slot
    · subst hSlot
      obtain ⟨hLt, hGet⟩ := List.getElem?_eq_some_iff.mp (slot_of_find? hId)
      simp [hLt, hGet]
    · simp [hSlot]

theorem nextKey_modify : (a.modify id f).nextKey = a.nextKey := by
  have hFree : (a.modify id f).free = a.free := by
    unfold modify
    split <;> rfl
  have hLength : (a.modify id f).slots.length = a.slots.length := by
    unfold modify
    split <;> simp
  unfold nextKey
  rw [hFree, hLength]
  simp only [versionAt_modify]

/-- A new value may be added before a change of an old one, or after it. -/
theorem add_modify (h : a.Sound) (hId : a.find? id = some value) (new : α) :
    (a.modify id f).add new = (a.add new).modify id f := by
  have hSlot := slot_of_find? hId
  have hLt := (List.getElem?_eq_some_iff.mp hSlot).1
  have hNew : (a.add new).find? id = some value := by
    rw [h.find?_add, if_neg (h.nextKey_ne (contains_of_find? hId)), hId]
  rw [modify_of_some hNew, modify_of_some hId]
  unfold add
  cases hFree : a.free with
  | nil => simp only [List.set_append_left _ _ hLt]
  | cons slot free =>
    obtain ⟨v, hEmpty⟩ := (h.mem_free_iff slot).mp (by rw [hFree]; exact List.mem_cons_self)
    -- the slot that is filled is empty, so it is another one
    have hNe : id.slot ≠ slot := by
      rintro rfl
      rw [hSlot] at hEmpty
      cases hEmpty
    have hVersion : versionAt { a with slots := a.slots.set id.slot ⟨id.version, some (f value)⟩ }
        slot = a.versionAt slot := by
      rw [← modify_of_some hId, versionAt_modify]
    simp only [hFree] at hVersion
    simp only [hVersion, List.set_comm _ _ hNe]

end Arena

/-! ## Scenes -/

namespace Scene

variable {s : Scene} {u : NodeId}

theorem modify_comm {id : NodeId} {f g : Node → Node}
    (hSame : id = u → ∀ n, g (f n) = f (g n)) :
    (s.modify u g).modify id f = (s.modify id f).modify u g := by
  unfold modify
  simp only
  rw [Arena.modify_comm]
  rintro rfl e
  rw [hSame rfl]

theorem withChild_modify (hs : s.nodes.Sound) (hLive : s.contains u = true) (f : Node → Node)
    (parent : NodeId) (n : Node) :
    (s.modify u f).withChild parent n = (s.withChild parent n).modify u f := by
  obtain ⟨e, he⟩ := find?_of_contains hLive
  unfold withChild modify
  simp only [Arena.nextKey_modify, Arena.add_modify hs he]
  rw [Arena.modify_comm]
  rintro rfl e
  rfl

end Scene

/-! ## Work -/

/-- Work that may come before a change or after it: it gives the same, and the change is made all
the same. It starts where it may, goes on where it may, and something holds of its result. -/
def Aside {σ ε β : Type} (ready : σ → Prop) (change : σ → σ) (Q : β → Prop)
    (m : ExceptT ε (StateM σ) β) : Prop :=
  ∀ x, ready x →
    m (change x) = ((m x).1, change (m x).2) ∧ ready (m x).2 ∧ ∀ b, (m x).1 = .ok b → Q b

section Rules

variable {σ ε β γ : Type} {ready : σ → Prop} {change : σ → σ} {Q : β → Prop} {P : γ → Prop}

theorem aside_pure {b : β} (hb : Q b) :
    Aside ready change Q (pure b : ExceptT ε (StateM σ) β) := by
  intro x hx
  refine ⟨rfl, hx, ?_⟩
  rintro _ ⟨⟩
  exact hb

theorem Aside.bind {m : ExceptT ε (StateM σ) β} {next : β → ExceptT ε (StateM σ) γ}
    (hm : Aside ready change Q m) (hNext : ∀ b, Q b → Aside ready change P (next b)) :
    Aside ready change P (m >>= next) := by
  have hRun : ∀ x, (m >>= next) x = match m x with
      | (.ok b, y) => next b y
      | (.error f, y) => (.error f, y) := fun x => by
    show (match m x with
      | (r, y) => ExceptT.bindCont next r y) = _
    rcases m x with ⟨_ | _, y⟩ <;> rfl
  intro x hx
  obtain ⟨hSame, hAfter, hResult⟩ := hm x hx
  rw [hRun, hRun, hSame]
  rcases hFirst : m x with ⟨r, y⟩
  rw [hFirst] at hAfter hResult
  cases r with
  | error f =>
    refine ⟨rfl, hAfter, ?_⟩
    rintro _ ⟨⟩
  | ok b => exact hNext b (hResult b rfl) y hAfter

end Rules

/-! ## Hosts -/

namespace Host

open Scene

variable {h : Host} {u : NodeId} {cs : List (Component NodeId)}

/-- The host after components were attached to a node. -/
def given (u : NodeId) (cs : List (Component NodeId)) (h : Host) : Host where
  scene := h.scene.modifyComponents u (· ++ cs)
  refuses := h.refuses
  calls call := if call = .attach then h.calls call + cs.length else h.calls call
  arranges := h.arranges

theorem given_nil (h : Host) (u : NodeId) : h.given u [] = h := by
  unfold given
  rw [modifyComponents_nil]
  simp only [List.length_nil, Nat.add_zero, ite_self]

/-- A host that refuses nothing, with a node that is there. -/
structure Ready (u : NodeId) (h : Host) : Prop where
  willing : h.Willing
  sound : h.scene.nodes.Sound
  live : h.scene.contains u = true

theorem run_attach (hReady : h.Ready u) (c : Component NodeId) :
    attach u c h = (.ok (), h.given u [c]) := by
  have hCounted : (h.count .attach).scene.contains u = true := hReady.live
  rw [attach, run_pass_bind, hReady.willing, change, if_pos hCounted]
  rfl

theorem count_given (call : HostCall) :
    (h.given u cs).count call = (h.count call).given u cs := by
  unfold count given
  simp only [Host.mk.injEq, true_and, and_true]
  funext other
  by_cases hCall : other = call <;> by_cases hAttach : other = HostCall.attach <;>
    simp only [hCall, hAttach, if_true, if_false] <;> grind

/-- A change that comes before or after, on a host. -/
theorem given_modify (h : Host) {id : NodeId} {f : Node → Node}
    (hSame : id = u → ∀ n : Node, { f n with components := (f n).components ++ cs } =
      f { n with components := n.components ++ cs }) :
    { h.given u cs with scene := (h.given u cs).scene.modify id f } =
      ({ h with scene := h.scene.modify id f } : Host).given u cs := by
  have hScene : (h.scene.modifyComponents u (· ++ cs)).modify id f =
      (h.scene.modify id f).modifyComponents u (· ++ cs) := modify_comm hSame
  simp only [given, hScene]

/-- A counted change may be made before or after. -/
theorem aside_counted (call : HostCall) (fault : SceneFault) {id : NodeId} {f : Node → Node}
    (hSame : id = u → ∀ n : Node, { f n with components := (f n).components ++ cs } =
      f { n with components := n.components ++ cs }) :
    Aside (Ready u) (given u cs) (fun _ => True)
      (pass call fault >>= fun _ => change id fun s => s.modify id f) := by
  rintro h ⟨hw, hs, hLive⟩
  have hContains : ((h.count call).given u cs).scene.contains id =
      (h.count call).scene.contains id := contains_modify ..
  have hWilling : (h.given u cs).Willing := hw
  rw [run_pass_bind, run_pass_bind, hWilling, hw, count_given]
  simp only [Bool.false_eq_true, if_false, change, hContains, given_modify _ hSame]
  split
  · exact ⟨rfl, ⟨hw, hs.modify _ _, (contains_modify ..).trans hLive⟩, fun _ _ => trivial⟩
  · exact ⟨rfl, ⟨hw, hs, hLive⟩, fun _ _ => trivial⟩

theorem aside_setRect (id : NodeId) (r : Rect Single) :
    Aside (Ready u) (given u cs) (fun _ => True) (setRect id r) :=
  aside_counted .setRect (.missingNode id) (f := fun n => { n with rect := r }) fun _ _ => rfl

theorem aside_setActive (id : NodeId) (active : Bool) :
    Aside (Ready u) (given u cs) (fun _ => True) (setActive id active) :=
  aside_counted .setActive (.missingNode id) (f := fun n => { n with active := active })
    fun _ _ => rfl

/-- A component of another node may be attached before or after. -/
theorem aside_attach {id : NodeId} (hNe : id ≠ u) (c : Component NodeId) :
    Aside (Ready u) (given u cs) (fun _ => True) (attach id c) :=
  aside_counted .attach (.missingNode id)
    (f := fun n => { n with components := n.components ++ [c] }) fun hId => absurd hId hNe

/-- A new node is another one. -/
theorem aside_create (name : String) (parent : NodeId) :
    Aside (Ready u) (given u cs) (· ≠ u) (create name parent) := by
  rintro h ⟨hw, hs, hLive⟩
  have hContains : ((h.count .create).given u cs).scene.contains parent =
      (h.count .create).scene.contains parent := contains_modify ..
  have hKey : ((h.count .create).given u cs).scene.nodes.nextKey =
      (h.count .create).scene.nodes.nextKey := Arena.nextKey_modify
  have hScene : ((h.count .create).given u cs).scene.withChild parent (.fresh name) =
      ((h.count .create).scene.withChild parent (.fresh name)).modifyComponents u (· ++ cs) :=
    withChild_modify hs hLive _ parent _
  have hWilling : (h.given u cs).Willing := hw
  unfold create
  rw [run_pass_bind, run_pass_bind, hWilling, hw, count_given]
  simp only [Bool.false_eq_true, if_false, insertChild_eq, hContains, hKey, hScene]
  cases hParent : (h.count .create).scene.contains parent with
  | false => exact ⟨rfl, ⟨hw, hs, hLive⟩, nofun⟩
  | true =>
    have hSound : (h.scene.withChild parent (.fresh name)).nodes.Sound := (hs.add _).modify _ _
    refine ⟨rfl, ⟨hw, hSound, contains_withChild_of_contains hs hParent _ hLive⟩, ?_⟩
    rintro _ ⟨⟩
    exact (hs.nextKey_ne hLive).symm

end Host

end AnchoredUi.SceneGraph
