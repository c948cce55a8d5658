import AnchoredUi.Proofs.SceneGraph.Host
import AnchoredUi.Proofs.Sprite.Answer
import AnchoredUi.Styling.Subject

/-!
# Runs on a stage

How work on a stage runs: one piece after the other, with the host, and with the finder.

* `run_bind`, `run_onHost`, `run_findSprite`: the runs of composed and of single pieces of work.
-/

namespace AnchoredUi.Styling

open SceneGraph Sprite

variable {ε β γ : Type} {st : Stage}

theorem run_bind (m : StageM ε β) (next : β → StageM ε γ) (st : Stage) :
    (m >>= next) st = match m st with
      | (.ok b, st') => next b st'
      | (.error f, st') => (.error f, st') := by
  show (match m st with
    | (r, st') => ExceptT.bindCont next r st') = _
  rcases m st with ⟨_ | _, st'⟩ <;> rfl

theorem run_bind_ok {m : StageM ε β} {next : β → StageM ε γ} {b : β} {st' : Stage}
    (h : m st = (.ok b, st')) : (m >>= next) st = next b st' := by rw [run_bind, h]

/-- Only a success is mapped to a success. -/
theorem exists_of_map_eq_ok {m : Except ε β} {f : β → γ} {c : γ} (h : m.map f = .ok c) :
    ∃ b, m = .ok b ∧ f b = c := by
  cases m with
  | error _ => cases h
  | ok b => exact ⟨b, rfl, Except.ok.inj h⟩

/-- Composed work gives a success only if its first part does. -/
theorem exists_of_bind_eq_ok {m : Except ε β} {next : β → Except ε γ} {c : γ}
    (h : m >>= next = .ok c) : ∃ b, m = .ok b ∧ next b = .ok c := by
  cases m with
  | error _ => cases h
  | ok b => exact ⟨b, rfl, h⟩

theorem run_onHost {fault : SceneFault → ε} {m : HostM β} {b : β} {k : Host}
    (h : m st.host = (.ok b, k)) : onHost fault m st = (.ok b, { st with host := k }) := by
  unfold onHost
  rw [h]

theorem run_onHost_error {fault : SceneFault → ε} {m : HostM β} {f : SceneFault} {k : Host}
    (h : m st.host = (.error f, k)) :
    onHost fault m st = (.error (fault f), { st with host := k }) := by
  unfold onHost
  rw [h]

/-- Where composed work fails, its first part does, or the second one after the first. -/
theorem run_bind_error_cases {m : StageM ε β} {next : β → StageM ε γ} {st st' : Stage} {f : ε}
    (hRun : (m >>= next) st = (.error f, st')) :
    m st = (.error f, st') ∨ ∃ b mid, m st = (.ok b, mid) ∧ next b mid = (.error f, st') := by
  rw [run_bind] at hRun
  rcases hFirst : m st with ⟨g | b, mid⟩
  · rw [hFirst] at hRun
    cases hRun
    exact Or.inl rfl
  · rw [hFirst] at hRun
    exact Or.inr ⟨b, mid, rfl, hRun⟩

theorem run_findSprite (address : String) (st : Stage) :
    (findSprite address : StageM ε (Option Sprite)) st =
      (.ok (st.finder.answer address), { st with finder := (st.finder.find address).2 }) := by
  unfold findSprite Finder.answer
  generalize st.finder.find address = run
  rfl

theorem run_currentScene_bind (next : Scene → StageM ε γ) (st : Stage) :
    (currentScene >>= next) st = next st.host.scene st := rfl

theorem run_forM_cons {β : Type} (step : β → StateM Stage Unit) (b : β) (bs : List β)
    (st : Stage) : (b :: bs).forM step st = bs.forM step (step b st).2 := rfl

end AnchoredUi.Styling
