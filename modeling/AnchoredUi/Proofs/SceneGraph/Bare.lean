import AnchoredUi.Proofs.SceneGraph.Walk

/-!
# Scenes without their rectangles

Some work sets rectangles and does nothing else. Then the scene before and the scene after are one
scene once all rectangles are made the same: the same slots with the same versions, the same names,
components and flags, parents and children, and the same root. Whatever is read off a scene without
a look at rectangles is the same in both.

* `bare_setRect`: setting a rectangle changes nothing else.
* `Forest.sizeOf_of_below`: a size depends on the rectangles of the node and of those above it.
* `eq_of_bare`: scenes that are the same but for rectangles, and have the same ones, are equal.
-/

namespace AnchoredUi.SceneGraph

open Number Plane

/-! ## Values of an arena -/

namespace Arena

variable {α β : Type} {a b : Arena α} {f : α → β}

/-- The arena with a function applied to each value. -/
def map (f : α → β) (a : Arena α) : Arena β where
  slots := a.slots.map fun slot => ⟨slot.version, slot.value.map f⟩
  free := a.free

theorem find?_map (f : α → β) (a : Arena α) (id : NodeId) :
    (a.map f).find? id = (a.find? id).map f := by
  simp only [find?, map, List.getElem?_map]
  cases a.slots[id.slot]? with
  | none => rfl
  | some slot =>
    simp only [Option.map_some]
    split <;> rfl

theorem map_modify {g : α → α} (h : ∀ x, f (g x) = f x) (a : Arena α) (id : NodeId) :
    (a.modify id g).map f = a.map f := by
  unfold modify
  split
  · rename_i value hValue
    obtain ⟨hLt, hSlot⟩ := List.getElem?_eq_some_iff.mp (slot_of_find? hValue)
    refine congrArg (mk · a.free) (List.ext_getElem? fun i => ?_)
    by_cases hi : id.slot = i
    · subst hi
      simp [hLt, hSlot, h]
    · simp [hi]
  · rfl

theorem sound_map_iff : (a.map f).Sound ↔ a.Sound := by
  have hEmpty : ∀ i : Nat, (∃ v, (a.map f).slots[i]? = some (⟨v, none⟩ : Slot β)) ↔
      ∃ v, a.slots[i]? = some (⟨v, none⟩ : Slot α) := by
    intro i
    simp only [map, List.getElem?_map]
    rcases a.slots[i]? with _ | ⟨v, value⟩
    · simp
    · cases value <;> simp
  constructor
  · exact fun h => ⟨h.free_nodup, fun i => (h.mem_free_iff i).trans (hEmpty i)⟩
  · exact fun h => ⟨h.free_nodup, fun i => (h.mem_free_iff i).trans (hEmpty i).symm⟩

/-- Arenas of one shape in which all keys find the same are equal. -/
theorem eq_of_map (hMap : a.map f = b.map f) (hFind : ∀ id, a.find? id = b.find? id) : a = b := by
  obtain ⟨slots, free⟩ := a
  obtain ⟨others, free'⟩ := b
  simp only [map, mk.injEq] at hMap
  obtain ⟨hSlots, rfl⟩ := hMap
  refine congrArg (mk · free) (List.ext_getElem? fun i => ?_)
  have hAt := congrArg (·[i]?) hSlots
  simp only [List.getElem?_map] at hAt
  rcases hLeft : slots[i]? with _ | ⟨v, x⟩ <;> rcases hRight : others[i]? with _ | ⟨w, y⟩
  · rfl
  · simp [hLeft, hRight] at hAt
  · simp [hLeft, hRight] at hAt
  · simp only [hLeft, hRight, Option.map_some, Option.some.injEq, Slot.mk.injEq] at hAt
    obtain ⟨rfl, -⟩ := hAt
    -- the key of the slot finds what is in it
    have hKey := hFind ⟨i, v⟩
    simp only [find?, hLeft, hRight, if_true] at hKey
    rw [hKey]

end Arena

/-- The entry with the rectangle of a new node. -/
def Entry.bare (e : Entry) : Entry := { e with node := { e.node with rect := .fresh } }

namespace Scene

variable {s t u : Scene} {id : NodeId}

/-- The scene with the same rectangle for all nodes. -/
def bare (s : Scene) : Scene := { s with nodes := s.nodes.map Entry.bare }

theorem bare_setRect (s : Scene) (id : NodeId) (r : Rect Single) :
    (s.setRect id r).bare = s.bare := by
  have hNodes := Arena.map_modify (f := Entry.bare)
    (g := fun e => { e with node := { e.node with rect := r } }) (fun _ => rfl) s.nodes id
  exact congrArg (mk · s.root) hNodes

/-! ## What is the same without rectangles -/

section Alike

variable (h : t.bare = s.bare)
include h

theorem find?_of_bare (id : NodeId) :
    (t.nodes.find? id).map Entry.bare = (s.nodes.find? id).map Entry.bare := by
  rw [← Arena.find?_map, ← Arena.find?_map]
  exact congrArg (fun u : Scene => u.nodes.find? id) h

/-- What an entry shows without its rectangle is the same in both scenes. -/
theorem look_of_bare {γ : Type} (look : Entry → γ) (hLook : ∀ e, look e.bare = look e)
    (id : NodeId) : (t.nodes.find? id).map look = (s.nodes.find? id).map look := by
  have hSame : look = look ∘ Entry.bare := funext fun e => (hLook e).symm
  rw [hSame, ← Option.map_map, ← Option.map_map, find?_of_bare h]

theorem place?_of_bare (id : NodeId) : t.place? id = s.place? id :=
  look_of_bare h (fun e => (⟨e.node.name, e.parent, e.children⟩ : Place)) (fun _ => rfl) id

theorem contains_of_bare (id : NodeId) : t.contains id = s.contains id :=
  contains_of_place? (place?_of_bare h id)

theorem parent?_of_bare (id : NodeId) : t.parent? id = s.parent? id :=
  parent?_of_place? (place?_of_bare h id)

theorem children_of_bare (id : NodeId) : t.children id = s.children id :=
  children_of_place? (place?_of_bare h id)

theorem components_of_bare (id : NodeId) : t.components id = s.components id := by
  have hSame := look_of_bare h (fun e => e.node.components) (fun _ => rfl) id
  simpa [components, node?, Function.comp_def] using congrArg (Option.getD · []) hSame

theorem component?_of_bare (α : Type) [ComponentType α] (id : NodeId) :
    t.component? α id = s.component? α id := congrArg (firstOf? α) (components_of_bare h id)

theorem isActive_of_bare (id : NodeId) : t.isActive id = s.isActive id := by
  have hSame := look_of_bare h (fun e => e.node.active) (fun _ => rfl) id
  simpa [isActive, node?, Option.any_map, Function.comp_def] using
    congrArg (Option.any fun active => active) hSame

theorem root_of_bare : t.root = s.root := by
  have hSame : t.bare.root = s.bare.root := by rw [h]
  exact hSame

theorem Forest.of_bare (hs : s.Forest) : t.Forest := by
  have hShape : t.nodes.map Entry.bare = s.nodes.map Entry.bare :=
    congrArg (fun u : Scene => u.nodes) h
  have hSound : t.nodes.Sound := by
    rw [← Arena.sound_map_iff (f := Entry.bare), hShape, Arena.sound_map_iff]
    exact hs.sound
  exact hs.of_same hSound (contains_of_bare h) (parent?_of_bare h) (children_of_bare h)
    (root_of_bare h)

/-- Scenes that are the same without their rectangles, and have the same rectangles. -/
theorem eq_of_bare (hRect : ∀ id, t.rect? id = s.rect? id) : t = s := by
  have hNodes : t.nodes = s.nodes := by
    refine Arena.eq_of_map (congrArg (fun u : Scene => u.nodes) h) fun id => ?_
    have hEntry := find?_of_bare h id
    have hBox := hRect id
    simp only [rect?, node?, Option.map_map] at hBox
    rcases hLeft : t.nodes.find? id with _ | ⟨n, p, cs⟩ <;>
      rcases hRight : s.nodes.find? id with _ | ⟨n', p', cs'⟩
    · rfl
    · simp [hLeft, hRight] at hEntry
    · simp [hLeft, hRight] at hEntry
    · obtain ⟨name, rect, components, active⟩ := n
      obtain ⟨name', rect', components', active'⟩ := n'
      simp_all [Entry.bare]
  have hRoot := root_of_bare h
  obtain ⟨nodes, root⟩ := t
  obtain ⟨nodes', root'⟩ := s
  simp only at hNodes hRoot
  rw [hNodes, hRoot]

end Alike

/-! ## Sizes -/

/-- A size depends on the rectangles of the node and of the nodes above it. -/
theorem Forest.sizeOf_of_below (hs : s.Forest) (ht : t.bare = s.bare) (hu : u.bare = s.bare)
    (hRect : ∀ a, s.Below a id → t.rect? a = u.rect? a) : t.sizeOf id = u.sizeOf id := by
  induction id using hs.induction_up with
  | step id ih =>
    have hSame := hRect id (Below.refl s id)
    cases hr : u.rect? id with
    | none => rw [size_eq_zero hr, size_eq_zero (hSame.trans hr)]
    | some r =>
      rw [(hs.of_bare hu).sizeOf_eq hr, (hs.of_bare ht).sizeOf_eq (hSame.trans hr)]
      unfold parentSize
      rw [parent?_of_bare ht, parent?_of_bare hu]
      cases hp : s.parent? id with
      | none => rfl
      | some p =>
        have hAbove : ∀ a, s.Below a p → t.rect? a = u.rect? a := fun a ha => hRect a (ha.child hp)
        exact congrArg r.size (ih p hp hAbove)

end Scene

end AnchoredUi.SceneGraph
