/-
**Atomic objects.**

Threads share an object and call its operations. A call is pending from its invocation, takes effect
at one moment, and returns. `Object` says what a call may do at that moment; what the other threads
are waiting for may matter for it. An implementation whose runs all have the history of a run of
this machine is linearizable: its calls can be put in an order that agrees with the order of calls
that do not overlap, and in which each returns what the object alone would answer.
-/

import Unpvol2.Lib.History
import Mathlib.Logic.Function.Basic

namespace Interleaving

/-- Where a thread stands with respect to the object. -/
inductive Phase (κ ρ : Type*)
  | idle
  | pending (call : κ)
  | done (call : κ) (result : ρ)
deriving DecidableEq

/-- What a thread's calls show. -/
inductive Event (ι κ ρ : Type*)
  | invoke (t : ι) (call : κ)
  | respond (t : ι) (call : κ) (result : ρ)
deriving DecidableEq

/-- A start state, and what a pending call of thread `t` may do: its result and the state after
it. -/
structure Object (σ ι κ ρ : Type*) where
  init : σ
  effect : (ι → Phase κ ρ) → σ → ι → κ → ρ → σ → Prop

namespace Object

/-- The object and the threads that use it. -/
structure State (σ ι κ ρ : Type*) where
  object : σ
  phase : ι → Phase κ ρ

inductive Act (σ ι κ ρ : Type*)
  | invoke (t : ι) (call : κ)
  /-- the call takes effect -/
  | effect (t : ι) (result : ρ) (after : σ)
  | respond (t : ι)

variable {σ ι κ ρ : Type*} [DecidableEq ι] (O : Object σ ι κ ρ)

open scoped Classical in
noncomputable def step (s : State σ ι κ ρ) : Act σ ι κ ρ → Option (State σ ι κ ρ)
  | .invoke t call =>
    match s.phase t with
    | .idle => some { s with phase := Function.update s.phase t (.pending call) }
    | _ => none
  | .effect t result after =>
    match s.phase t with
    | .pending call =>
      if O.effect s.phase s.object t call result after then
        some ⟨after, Function.update s.phase t (.done call result)⟩
      else none
    | _ => none
  | .respond t =>
    match s.phase t with
    | .done _ _ => some { s with phase := Function.update s.phase t .idle }
    | _ => none

noncomputable def machine : Machine (State σ ι κ ρ) (Act σ ι κ ρ) :=
  ⟨⟨O.init, fun _ => .idle⟩, O.step⟩

/-- Invocations and returns are seen, effects are not. -/
def event (s : State σ ι κ ρ) : Act σ ι κ ρ → List (Event ι κ ρ)
  | .invoke t call => [.invoke t call]
  | .effect _ _ _ => []
  | .respond t =>
    match s.phase t with
    | .done call result => [.respond t call result]
    | _ => []

variable {O} {s : State σ ι κ ρ} {t : ι} {call : κ} {result : ρ} {after : σ}

theorem step_invoke (idle : s.phase t = .idle) (call : κ) :
    O.machine.step s (.invoke t call) =
      some { s with phase := Function.update s.phase t (.pending call) } := by
  simp only [machine, step, idle]

theorem step_effect (pending : s.phase t = .pending call)
    (effect : O.effect s.phase s.object t call result after) :
    O.machine.step s (.effect t result after) =
      some ⟨after, Function.update s.phase t (.done call result)⟩ := by
  simp only [machine, step, pending, if_pos effect]

theorem step_respond (done : s.phase t = .done call result) :
    O.machine.step s (.respond t) =
      some { s with phase := Function.update s.phase t .idle } := by
  simp only [machine, step, done]

omit [DecidableEq ι] in
theorem event_respond (done : s.phase t = .done call result) :
    event s (.respond t) = [.respond t call result] := by
  simp only [event, done]

/-- The steps, case by case. -/
inductive Step (O : Object σ ι κ ρ) (s : State σ ι κ ρ) : Act σ ι κ ρ → State σ ι κ ρ → Prop
  | invoke (t : ι) (call : κ) (idle : s.phase t = .idle) :
      Step O s (.invoke t call) { s with phase := Function.update s.phase t (.pending call) }
  | effect (t : ι) (call : κ) (result : ρ) (after : σ) (pending : s.phase t = .pending call)
      (effect : O.effect s.phase s.object t call result after) :
      Step O s (.effect t result after) ⟨after, Function.update s.phase t (.done call result)⟩
  | respond (t : ι) (call : κ) (result : ρ) (done : s.phase t = .done call result) :
      Step O s (.respond t) { s with phase := Function.update s.phase t .idle }

theorem step_cases {s' : State σ ι κ ρ} {action : Act σ ι κ ρ}
    (moved : O.machine.step s action = some s') : Step O s action s' := by
  simp only [machine, step] at moved
  cases action with
  | invoke t call =>
    dsimp only at moved
    split at moved
    · cases moved
      exact .invoke t call ‹_›
    · cases moved
  | effect t result after =>
    dsimp only at moved
    split at moved
    · split at moved
      · cases moved
        exact .effect t _ result after ‹_› ‹_›
      · cases moved
    · cases moved
  | respond t =>
    dsimp only at moved
    split at moved
    · cases moved
      exact .respond t _ _ ‹_›
    · cases moved

/-- **The invariant rule of atomic objects**: what holds of the object at first and is kept by every
effect holds in every run. -/
theorem induct {I : σ → Prop} (start : I O.init)
    (kept : ∀ phase x t call result x', I x → O.effect phase x t call result x' → I x')
    {ok : State σ ι κ ρ → Act σ ι κ ρ → Prop} (reachable : O.machine.Reachable ok s) :
    I s.object := by
  refine reachable.induct (I := fun s => I s.object) start ?_
  intro s action s' _ holds _ moved
  cases step_cases moved with
  | invoke | respond => exact holds
  | effect t call result after pending effect => exact kept _ _ _ _ _ _ holds effect

end Object

end Interleaving
