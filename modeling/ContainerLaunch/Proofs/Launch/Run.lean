import Mathlib.Logic.Relation
/-!
# Runs

A run is any number of steps, one after the other. A run with something to show is put together step by step.
-/

namespace ContainerLaunch.Launch

open Relation (ReflTransGen)

theorem exists_runs_of_step {σ : Type} {Step : σ → σ → Prop} {s s' : σ} {P : σ → Prop} (hs : Step s s')
    (h : ∃ s'', ReflTransGen Step s' s'' ∧ P s'') : ∃ s'', ReflTransGen Step s s'' ∧ P s'' := by
  obtain ⟨s'', hs'', hP⟩ := h
  exact ⟨s'', .head hs hs'', hP⟩

end ContainerLaunch.Launch
