import Mathlib.Logic.Relation
import AnchoredUi.Proofs.SceneGraph.Growth
import AnchoredUi.Proofs.SceneGraph.Host
import AnchoredUi.Proofs.SceneGraph.Operation

/-!
# Work that is made of calls

Most work never takes a node away, whatever the host refuses: a node that is there stays, under its
name and below its parent. What fails halfway may leave new nodes behind, and these stay as well.

Scenes are built by calls that a host may refuse, one after the other, each chosen by the answers so
far. Such work gives its result after calls that all went through, or it ends with the first call
that does not, and with the fault of that call. What a host refuses shows in nothing else: work that
goes through does the same on a host that refuses nothing.

* `Scene.Stays`: from one scene to another one, no node was lost.
* `Scene.Below`: a node is another one or below it; this is never undone.
* `Staying`: work that loses no node; one rule for each call, and one for work that is composed.
* `Host.OfCalls`: work that is made of calls.
* `Host.OfCalls.run_cases`, `Host.OfCalls.staying`: how such work ends, and that it loses no node.
* `Host.OfCalls.run_freed`: what a host refuses does not show in work that goes through.
-/

namespace AnchoredUi.SceneGraph

open Number Plane

namespace Scene

variable {s t r : Scene} {a b c : NodeId}

/-- All nodes are still there, under their names and below their parents. -/
structure Stays (s t : Scene) : Prop where
  forest : t.Forest
  contains : ∀ id, s.contains id = true → t.contains id = true
  name? : ∀ id, s.contains id = true → t.name? id = s.name? id
  parent? : ∀ id, s.contains id = true → t.parent? id = s.parent? id

theorem Stays.refl (hs : s.Forest) : Stays s s := ⟨hs, fun _ h => h, fun _ _ => rfl, fun _ _ => rfl⟩

theorem Stays.trans (h : Stays s t) (h' : Stays t r) : Stays s r := by
  refine ⟨h'.forest, fun id hId => ?_, fun id hId => ?_, fun id hId => ?_⟩
  · exact h'.contains id (h.contains id hId)
  · rw [h'.name? id (h.contains id hId), h.name? id hId]
  · rw [h'.parent? id (h.contains id hId), h.parent? id hId]

theorem Stays.not_contains (h : Stays s t) {id : NodeId} (hId : t.contains id = false) :
    s.contains id = false := by
  by_contra hLive
  rw [h.contains id (Bool.of_not_eq_false hLive)] at hId
  cases hId

theorem Stays.of_grown {u : NodeId} {news : List NodeId} (h : Grown u news s t) : Stays s t :=
  ⟨h.forest, fun _ => h.contains, fun _ => h.name?, fun _ => h.parent?⟩

theorem Stays.of_place (ht : t.Forest) (h : ∀ id, t.place? id = s.place? id) : Stays s t := by
  refine ⟨ht, fun id hId => ?_, fun id _ => name?_of_place? (h id),
    fun id _ => parent?_of_place? (h id)⟩
  rw [contains_of_place? (h id)]
  exact hId

/-! ## Below a node -/

/-- The node `b` is `a`, or below it. -/
def Below (s : Scene) (a b : NodeId) : Prop :=
  Relation.ReflTransGen (fun c p => s.parent? c = some p) b a

theorem Below.refl (s : Scene) (a : NodeId) : s.Below a a := Relation.ReflTransGen.refl

theorem Below.child (h : s.Below a b) (hc : s.parent? c = some b) : s.Below a c :=
  Relation.ReflTransGen.head hc h

theorem Below.stays (h : s.Below a b) (hStays : Stays s t) : t.Below a b := by
  induction h using Relation.ReflTransGen.head_induction_on with
  | refl => exact Below.refl t a
  | head hParent _ ih =>
    refine Relation.ReflTransGen.head ?_ ih
    rw [hStays.parent? _ (contains_of_parent? hParent)]
    exact hParent

end Scene

/-! ## Calls -/

/-- Work with a host that loses no node. -/
def Staying {β : Type} (m : HostM β) : Prop :=
  ∀ h : Host, h.scene.Forest → Scene.Stays h.scene (m h).2.scene

section Staying

variable {β γ : Type}

theorem Host.of_bind_ok {h k : Host} {m : HostM β} {next : β → HostM γ} {c : γ}
    (hRun : (m >>= next) h = (.ok c, k)) :
    ∃ b l, m h = (.ok b, l) ∧ next b l = (.ok c, k) := by
  rw [Host.run_bind] at hRun
  rcases hFirst : m h with ⟨f | b, l⟩
  · rw [hFirst] at hRun
    cases hRun
  · rw [hFirst] at hRun
    exact ⟨b, l, rfl, hRun⟩

theorem staying_pure (b : β) : Staying (pure b : HostM β) := fun _ hs => .refl hs

theorem Staying.bind {m : HostM β} {next : β → HostM γ} (hm : Staying m)
    (hNext : ∀ b, Staying (next b)) : Staying (m >>= next) := by
  intro h hs
  have hFirst := hm h hs
  rw [Host.run_bind]
  rcases hRun : m h with ⟨f | b, k⟩
  · rw [hRun] at hFirst
    exact hFirst
  · rw [hRun] at hFirst
    exact hFirst.trans (hNext b k hFirst.forest)

theorem stays_modify {s : Scene} (hs : s.Forest) (id : NodeId) {f : Node → Node}
    (hName : ∀ n, (f n).name = n.name) : Scene.Stays s (s.modify id f) :=
  .of_place (hs.modify id f) fun other => Scene.place?_modify s id other hName

theorem stays_perhaps {s changed t : Scene} (h : Host.Perhaps s changed t) (hs : s.Forest)
    (hChanged : Scene.Stays s changed) : Scene.Stays s t := by
  rcases h with rfl | rfl
  · exact .refl hs
  · exact hChanged

theorem staying_setRect (id : NodeId) (r : Rect Single) : Staying (Host.setRect id r) :=
  fun h hs => stays_perhaps (Host.scene_setRect id r h) hs (stays_modify hs id fun _ => rfl)

theorem staying_attach (id : NodeId) (c : Component NodeId) : Staying (Host.attach id c) :=
  fun h hs => stays_perhaps (Host.scene_attach id c h) hs (stays_modify hs id fun _ => rfl)

theorem staying_setActive (id : NodeId) (flag : Bool) : Staying (Host.setActive id flag) :=
  fun h hs => stays_perhaps (Host.scene_setActive id flag h) hs (stays_modify hs id fun _ => rfl)

/-- A new node has a new key, and stands below its parent under its name. -/
structure Scene.Arrived (s : Scene) (name : String) (parent id : NodeId) (t : Scene) : Prop where
  stays : Scene.Stays s t
  fresh : s.contains id = false
  live : t.contains id = true
  name_eq : t.name? id = some name
  parent_eq : t.parent? id = some parent

theorem Scene.Arrived.trans {s t r : Scene} {name : String} {parent id : NodeId}
    (h : s.Arrived name parent id t) (hStays : Scene.Stays t r) :
    s.Arrived name parent id r := by
  refine ⟨h.stays.trans hStays, h.fresh, hStays.contains id h.live, ?_, ?_⟩
  · rw [hStays.name? id h.live]
    exact h.name_eq
  · rw [hStays.parent? id h.live]
    exact h.parent_eq

theorem Scene.Arrived.after {s t r : Scene} {name : String} {parent id : NodeId}
    (h : t.Arrived name parent id r) (hStays : Scene.Stays s t) : s.Arrived name parent id r :=
  ⟨hStays.trans h.stays, hStays.not_contains h.fresh, h.live, h.name_eq, h.parent_eq⟩

theorem arrived_withChild {s : Scene} (hs : s.Forest) {parent : NodeId}
    (hLive : s.contains parent = true) (name : String) :
    s.Arrived name parent s.nodes.nextKey (s.withChild parent (.fresh name)) := by
  refine ⟨.of_grown (Scene.grown_withChild hs hLive (.fresh name)), ?_, ?_, ?_, ?_⟩
  · simp [Scene.contains, Arena.contains, hs.sound.find?_nextKey]
  · rw [Scene.contains_withChild hs.sound hLive]
    simp
  · simp [Scene.name?, Scene.node?, Scene.find?_withChild_self hs.sound hLive, Node.fresh]
  · rw [Scene.parent?_withChild hs.sound hLive, if_pos rfl]

/-- A node is created, or the scene is as it was. -/
theorem create_cases (name : String) (parent : NodeId) {h : Host} (hs : h.scene.Forest) :
    (∃ f k, Host.create name parent h = (.error f, k) ∧ k.scene = h.scene) ∨
      ∃ id k, Host.create name parent h = (.ok id, k) ∧
        h.scene.Arrived name parent id k.scene := by
  unfold Host.create
  rw [Host.run_pass_bind]
  split
  · exact Or.inl ⟨_, _, rfl, rfl⟩
  · have hScene : (h.count .create).scene = h.scene := rfl
    simp only [Scene.insertChild_eq, hScene]
    cases hLive : h.scene.contains parent with
    | false => exact Or.inl ⟨_, _, rfl, rfl⟩
    | true => exact Or.inr ⟨_, _, rfl, arrived_withChild hs hLive name⟩

theorem staying_create (name : String) (parent : NodeId) : Staying (Host.create name parent) := by
  intro h hs
  rcases create_cases name parent hs with ⟨f, k, hRun, hScene⟩ | ⟨id, k, hRun, hArrived⟩
  · rw [hRun, hScene]
    exact .refl hs
  · rw [hRun]
    exact hArrived.stays

end Staying

end AnchoredUi.SceneGraph

/-! ## Work that is made of calls -/

namespace AnchoredUi.SceneGraph.Host

open Number Plane

/-- A single call that a host may refuse. -/
inductive IsCall : {β : Type} → HostM β → Prop
  | create (name : String) (parent : NodeId) : IsCall (create name parent)
  | attach (id : NodeId) (c : Component NodeId) : IsCall (attach id c)
  | setRect (id : NodeId) (r : Rect Single) : IsCall (setRect id r)
  | setActive (id : NodeId) (active : Bool) : IsCall (setActive id active)

/-- Work that is made of calls. -/
inductive OfCalls : {β : Type} → HostM β → Prop
  | pure {β : Type} (b : β) : OfCalls (Pure.pure b : HostM β)
  | call {β : Type} {m : HostM β} (hCall : IsCall m) : OfCalls m
  | bind {β γ : Type} {m : HostM β} {next : β → HostM γ} (hFirst : OfCalls m)
      (hNext : ∀ b, OfCalls (next b)) : OfCalls (m >>= next)

variable {β : Type} {h k : Host} {m : HostM β} {b : β}

/-! ## How work ends -/

/-- A call goes through. -/
def Passes (h k : Host) : Prop :=
  ∃ (β : Type) (m : HostM β) (b : β), IsCall m ∧ m h = (.ok b, k)

/-- A call ends with a fault. -/
def Stops (h : Host) (f : SceneFault) (k : Host) : Prop :=
  ∃ (β : Type) (m : HostM β), IsCall m ∧ m h = (.error f, k)

/-- Calls go through, one after the other. -/
def Reaches : Host → Host → Prop := Relation.ReflTransGen Passes

/-- Calls go through until one of them ends with a fault. -/
def Breaks (h : Host) (f : SceneFault) (k : Host) : Prop := ∃ mid, h.Reaches mid ∧ mid.Stops f k

/-- The work gives its result after calls that went through, or it ends with the fault of a call. -/
theorem OfCalls.run_cases (hm : OfCalls m) (h : Host) :
    (∃ b k, m h = (.ok b, k) ∧ h.Reaches k) ∨ ∃ f k, m h = (.error f, k) ∧ h.Breaks f k := by
  induction hm generalizing h with
  | pure b => exact .inl ⟨b, h, rfl, .refl⟩
  | @call _ m hCall =>
    rcases hRun : m h with ⟨f | b, k⟩
    · exact .inr ⟨f, k, rfl, h, .refl, _, m, hCall, hRun⟩
    · exact .inl ⟨b, k, rfl, .single ⟨_, m, b, hCall, hRun⟩⟩
  | bind _ _ ihFirst ihNext =>
    rw [run_bind]
    rcases ihFirst h with ⟨b, mid, hRun, hReaches⟩ | ⟨f, k, hRun, hBreaks⟩
    · rw [hRun]
      rcases ihNext b mid with ⟨c, k, hRest, hMore⟩ | ⟨f, k, hRest, last, hMore, hStops⟩
      · exact .inl ⟨c, k, hRest, hReaches.trans hMore⟩
      · exact .inr ⟨f, k, hRest, last, hReaches.trans hMore, hStops⟩
    · rw [hRun]
      exact .inr ⟨f, k, rfl, hBreaks⟩

/-! ## Nodes that stay -/

theorem IsCall.staying (hCall : IsCall m) : Staying m := by
  cases hCall with
  | create name parent => exact staying_create name parent
  | attach id c => exact staying_attach id c
  | setRect id r => exact staying_setRect id r
  | setActive id active => exact staying_setActive id active

/-- No call takes a node away. -/
theorem OfCalls.staying (hm : OfCalls m) : Staying m := by
  induction hm with
  | pure b => exact staying_pure b
  | call hCall => exact hCall.staying
  | bind _ _ ihFirst ihNext => exact ihFirst.bind ihNext

/-! ## Hosts that refuse nothing -/

/-- The host, as one that lets every call through. -/
def freed (h : Host) : Host := { h with refuses := fun _ _ => false }

theorem willing_freed (h : Host) : h.freed.Willing := fun _ _ => rfl

theorem run_freed_change {id : NodeId} {f : Scene → Scene} {u : Unit}
    (hRun : change id f h = (.ok u, k)) : change id f h.freed = (.ok u, k.freed) := by
  unfold change at hRun ⊢
  have hSame : h.freed.scene = h.scene := rfl
  split at hRun
  · rename_i hLive
    rw [hSame, if_pos hLive]
    cases hRun
    rfl
  · cases hRun

theorem run_freed_pass {call : HostCall} {fault : SceneFault}
    (hNext : ∀ {h k : Host} {b : β}, m h = (.ok b, k) → m h.freed = (.ok b, k.freed))
    (hRun : (pass call fault >>= fun _ => m) h = (.ok b, k)) :
    (pass call fault >>= fun _ => m) h.freed = (.ok b, k.freed) := by
  rw [run_pass_bind] at hRun ⊢
  split at hRun
  · cases hRun
  · rw [if_neg (by simp [freed])]
    exact hNext hRun

theorem IsCall.run_freed (hCall : IsCall m) (hRun : m h = (.ok b, k)) :
    m h.freed = (.ok b, k.freed) := by
  cases hCall with
  | create name parent =>
    refine run_freed_pass (fun {h k id} hInsert => ?_) hRun
    have hSame : h.freed.scene = h.scene := rfl
    simp only [hSame] at hInsert ⊢
    split at hInsert
    · cases hInsert
      rfl
    · cases hInsert
  | attach id c => exact run_freed_pass run_freed_change hRun
  | setRect id r => exact run_freed_pass run_freed_change hRun
  | setActive id active => exact run_freed_pass run_freed_change hRun

/-- Work that goes through does what it does on a host that refuses nothing. -/
theorem OfCalls.run_freed (hm : OfCalls m) (hRun : m h = (.ok b, k)) :
    m h.freed = (.ok b, k.freed) := by
  induction hm generalizing h k with
  | pure c =>
    cases hRun
    rfl
  | call hCall => exact hCall.run_freed hRun
  | bind _ _ ihFirst ihNext =>
    obtain ⟨c, mid, hFirst, hRest⟩ := of_bind_ok hRun
    rw [run_bind, ihFirst hFirst]
    exact ihNext c hRest

/-- What is known of hosts that refuse nothing holds of work that goes through. -/
theorem OfCalls.eq_of_does (hm : OfCalls m) {c : β} {t : Scene} (hRun : m h = (.ok b, k))
    (hDoes : Does m h.freed c t) : c = b ∧ t = k.scene := by
  obtain ⟨l, hFreed, rfl, -⟩ := hDoes
  rw [hm.run_freed hRun] at hFreed
  cases hFreed
  exact ⟨rfl, rfl⟩

end AnchoredUi.SceneGraph.Host
