import AnchoredUi.Asset.Shelf
import AnchoredUi.Proofs.Plane.Edges
import AnchoredUi.Proofs.Styling.Boxes
import AnchoredUi.Proofs.Styling.Verdict

/-!
# Declarations that move edges

A style speaks of edges, from the top down and from each edge of the parent inward; a rectangle is
kept as anchors, a pivot and what goes beyond them, with `y` upward. A distance from an edge of the
parent, a margin and a padding are each carried out as one move of the rectangle, computed from the
size of the parent at that time. What such a move does to the edges is said in exact numbers.

* `rect?_apply_of_asks`: a declaration is carried out as the move that it asks for.
* `edges_apply`: where the edges are, and where declarations put them.
-/

namespace AnchoredUi.Styling.Subject

open Number Plane SceneGraph Style Markup Sprite

variable {x : Subject} {s : Scene} {st : Stage} {r : Rect Single} {d : Declaration}
  {m : Rect.Move Single}

/-- The declaration asks for a move of the node. A distance from an edge has to come to a finite
number of pixels; a side of a box that is not named, or has no such number, counts as nothing. A
padding is a move unless it is that of a layout group: of one that the node has, or of one that its
style asks for. -/
inductive Asks (x : Subject) (s : Scene) (d : Declaration) : Rect.Move Single → Prop
  | inset {side : Rect.Side} {distance : Scalar} {pixels : Single}
    (hNamed : Property.named? d.property = some (.inset side))
    (hRead : readScalar d.value = .ok distance)
    (hLength : (x.surroundings s).length? distance side.axis = some pixels) :
    Asks x s d (.inset side pixels)
  | margin {side : Option Rect.Side} {sides : Spacing (Option Scalar)}
    (hNamed : Property.named? d.property = some (.margin side))
    (hRead : readSides side d.value = .ok sides) :
    Asks x s d (.shift ((x.surroundings s).sides sides))
  | padding {side : Option Rect.Side} {sides : Spacing (Option Scalar)}
    (hNamed : Property.named? d.property = some (.padding side))
    (hRead : readSides side d.value = .ok sides)
    (hGroup : s.component? LayoutGroup x.node = none) (hStyle : asksForGroup x.style = false) :
    Asks x s d (.shrink ((x.surroundings s).sides sides))

/-- A declaration that can be read does what it asks for, with or without a warning. -/
theorem scene_apply {p : Property} (change : Change)
    (hNamed : Property.named? d.property = some p) (hRead : Change.read p d.value = .ok change) :
    (x.apply d st).2.host.scene = (x.perform change st).2.host.scene := by
  have hRun : x.carryOut p d.value = x.perform change := by rw [carryOut, hRead]
  rw [apply_of_named hNamed, hRun]
  unfold orWarn
  rcases x.perform change st with ⟨_ | _, st'⟩ <;> rfl

/-- A declaration is carried out as the move that it asks for. -/
theorem rect?_apply_of_asks (hw : st.host.Willing) (hRect : st.host.scene.rect? x.node = some r)
    (h : x.Asks st.host.scene d m) :
    (x.apply d st).2.host.scene.rect? x.node =
      some (m.on r (st.host.scene.parentSize x.node)) := by
  cases h with
  | @inset side distance pixels hNamed hRead hLength =>
    rw [scene_apply (.inset side distance) hNamed (by rw [Change.read, hRead]; rfl)]
    refine (rect?_setInset hw hRect side distance).trans (congrArg some ?_)
    rw [Change.reshaped, hLength]
    rfl
  | @margin side sides hNamed hRead =>
    rw [scene_apply (.margin sides) hNamed (by rw [Change.read, hRead]; rfl)]
    exact rect?_setMargin hw hRect sides
  | @padding side sides hNamed hRead hGroup hStyle =>
    rw [scene_apply (.padding sides) hNamed (by rw [Change.read, hRead]; rfl)]
    exact rect?_setPadding hw hRect hGroup hStyle sides

/-- Opposite edges are apart by the size, and each move puts the edges where it should, in exact
numbers; a declaration that asks for a move makes the node's rectangle that of the move. -/
theorem edges_apply :
    (∀ (r : Rect ℚ) (parent : Size ℚ),
      r.edge parent .right - r.edge parent .left = (r.size parent).width ∧
        r.edge parent .top - r.edge parent .bottom = (r.size parent).height) ∧
    (∀ (m : Rect.Move ℚ) (r : Rect ℚ) (parent : Size ℚ), m.Moves parent r (m.on r parent)) ∧
    ∀ (x : Subject) (st : Stage) (d : Declaration) (r : Rect Single) (m : Rect.Move Single),
      st.host.Willing → st.host.scene.rect? x.node = some r → x.Asks st.host.scene d m →
        (x.apply d st).2.host.scene.rect? x.node =
          some (m.on r (st.host.scene.parentSize x.node)) :=
  ⟨fun r parent => ⟨r.high_sub_low parent .horizontal, r.high_sub_low parent .vertical⟩,
    fun m r parent => r.moves_on parent m, fun _ _ _ _ _ => rect?_apply_of_asks⟩

/-- A panel whose anchors are in the wrong order from bottom to top and whose pivot lies above it,
with a padding that is different on each side. -/
theorem edges_apply_lopsided :
    let panel : NodeId := ⟨1, 1⟩
    let r : Rect Single :=
      { anchorMin := ⟨1 / 4, 1 / 2⟩, anchorMax := ⟨1 / 2, 1 / 4⟩, pivot := ⟨0, 2⟩,
        position := ⟨10, -20⟩, sizeDelta := ⟨40, 300⟩ }
    let s := Operation.runAll [.create "Panel" ⟨0, 1⟩, .setRect panel r] (Scene.withCanvas 800 600)
    let x : Subject := ⟨.mk "Panel" none (Catalog.ofList []) [] none, panel, none, none,
      ⟨800, 600⟩, Catalog.ofList [], 14, false⟩
    let d : Declaration := ⟨"padding", "1px 2px 3px 4px"⟩
    let st : Stage := ⟨Host.ofScene s, .ofSource Asset.Shelf.empty.source, []⟩
    s.rect? panel = some r ∧ x.Asks s d (.shrink ⟨1, 2, 3, 4⟩) ∧
      (x.apply d st).2.host.scene.rect? panel =
        some ((Rect.Move.shrink ⟨1, 2, 3, 4⟩).on r ⟨800, 600⟩) := by
  intro panel r s x d st
  have hRect : s.rect? panel = some r := by decide +kernel
  have hNamed : Property.named? d.property = some (.padding none) := by decide +kernel
  have hRead : readSides none d.value =
      .ok ⟨some ⟨1, .px⟩, some ⟨2, .px⟩, some ⟨3, .px⟩, some ⟨4, .px⟩⟩ := by decide +kernel
  have hSides : (x.surroundings s).sides
      ⟨some ⟨1, .px⟩, some ⟨2, .px⟩, some ⟨3, .px⟩, some ⟨4, .px⟩⟩ = ⟨1, 2, 3, 4⟩ := by
    decide +kernel
  have hAsks : x.Asks s d (.shrink ⟨1, 2, 3, 4⟩) :=
    hSides ▸ .padding hNamed hRead (by decide +kernel) (by decide +kernel)
  have hParent : s.parentSize panel = ⟨800, 600⟩ := by decide +kernel
  refine ⟨hRect, hAsks, ?_⟩
  rw [← hParent]
  exact edges_apply.2.2 x st d r _ (Host.willing_ofScene s) hRect hAsks

end AnchoredUi.Styling.Subject
