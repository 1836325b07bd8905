/-
**What can be seen of a run, and refinement.**

The history of a run is the list of the events its steps show. A machine refines another one if each
of its runs has a run of the other machine with the same history; `history_simulate` gets this from
a map of the states under which each single step becomes a list of steps that shows the same.
-/

import Unpvol2.Lib.Machine

namespace Interleaving

namespace Machine

variable {σ α τ β ε : Type*} (M : Machine σ α)

/-- The events of a list of actions, as far as it is possible. -/
def history (event : σ → α → List ε) : σ → List α → List ε
  | _, [] => []
  | s, action :: rest =>
    event s action ++ ((M.step s action).map fun s' => history event s' rest).getD []

variable {M} {event : σ → α → List ε}

theorem history_cons {s s' : σ} {action : α} (step : M.step s action = some s') (rest : List α) :
    M.history event s (action :: rest) = event s action ++ M.history event s' rest := by
  rw [history, step]
  rfl

theorem history_append {s s' : σ} {first : List α} (ran : M.run s first = some s')
    (second : List α) :
    M.history event s (first ++ second) = M.history event s first ++ M.history event s' second := by
  induction first generalizing s with
  | nil =>
    cases ran
    rfl
  | cons action rest ih =>
    obtain ⟨next, step, ran⟩ := Option.bind_eq_some_iff.mp ran
    rw [List.cons_append, history_cons step, history_cons step, ih ran, List.append_assoc]

/-- One list of admitted actions after another. -/
theorem admitted_append_run {ok : σ → α → Prop} {s s' : σ} {first second : List α}
    (before : M.Admitted ok s first) (ran : M.run s first = some s')
    (after : M.Admitted ok s' second) : M.Admitted ok s (first ++ second) := by
  induction first generalizing s with
  | nil =>
    cases ran
    exact after
  | cons action rest ih =>
    obtain ⟨next, step, ran⟩ := Option.bind_eq_some_iff.mp ran
    refine ⟨before.1, fun s'' step' => ?_⟩
    cases step.symm.trans step'
    exact ih (before.2 next step) ran

/-- **The refinement rule.** Where every admitted step becomes a list of admitted steps of the other
machine that shows the same, every run becomes a run of the other machine that shows the same. -/
theorem history_simulate {N : Machine τ β} {ok : σ → α → Prop} {ok' : τ → β → Prop}
    {event' : τ → β → List ε} (f : σ → τ)
    (match_step : ∀ s action s', M.Reachable ok s → ok s action → M.step s action = some s' →
      ∃ actions, N.Admitted ok' (f s) actions ∧ N.run (f s) actions = some (f s') ∧
        N.history event' (f s) actions = event s action)
    {s s' : σ} {actions : List α} (reachable : M.Reachable ok s)
    (admitted : M.Admitted ok s actions) (ran : M.run s actions = some s') :
    ∃ actions', N.Admitted ok' (f s) actions' ∧ N.run (f s) actions' = some (f s') ∧
      N.history event' (f s) actions' = M.history event s actions := by
  induction actions generalizing s with
  | nil =>
    cases ran
    exact ⟨[], trivial, rfl, rfl⟩
  | cons action rest ih =>
    obtain ⟨next, step, ran⟩ := Option.bind_eq_some_iff.mp ran
    obtain ⟨first, admitted₁, ran₁, same₁⟩ := match_step s action next reachable admitted.1 step
    obtain ⟨second, admitted₂, ran₂, same₂⟩ :=
      ih (reachable.next admitted.1 step) (admitted.2 next step) ran
    refine ⟨first ++ second, admitted_append_run admitted₁ ran₁ admitted₂, ?_, ?_⟩
    · rw [run_append, ran₁]
      exact ran₂
    · rw [history_append ran₁, history_cons step, same₁, same₂]

end Machine

end Interleaving
