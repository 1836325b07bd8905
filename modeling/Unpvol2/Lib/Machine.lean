/-
**Machines driven by an environment.**

A machine is a start state and a partial step function: `step s action` is the state after
`action`, or `none` where the action is not possible in `s`. Which thread moves next, what a
system call returns and which sleeper a wake-up picks are all part of the action, so a run is a
list of actions and every interleaving is a run.

* `Reaches ok` / `Reachable ok` — the states of the runs whose every step `ok` admits. Promises of
  the callers and assumptions on the system calls are such an `ok`.
* `Reachable.induct` — **the invariant rule.** What holds at the start and is kept by one admitted
  step holds in every reachable state.
* `Reachable.simulate` — **the simulation rule.** A map of states that turns every admitted step
  into an admitted step of another machine, or into no step, carries reachable states to reachable
  states.
* `watched` — a machine and an observer of its steps, for properties that no state of the machine
  tells.
* `along_iff_admitted` — **the exact condition.** When the property holds in all states of a run.
* `admitted_or_trapped` — **the trap rule.** A step that is not admitted leads to where no step
  leads out of.
* `exists_run_of_rank`, `exists_reaches_of_rank` — **the progress rule.** Steps that lower a rank
  lead to a goal.
* `admitted_length_le` — **the termination rule.** A measure that drops at every admitted step
  bounds the length of every run of them.
-/

import Mathlib.Data.Int.Notation
import Mathlib.Logic.Relation
import Mathlib.Tactic.Common

namespace Interleaving

/-- Every action is admitted everywhere. -/
def Anything {σ α : Type*} (_ : σ) (_ : α) : Prop := True

instance {σ α : Type*} (s : σ) (action : α) : Decidable (Anything s action) :=
  inferInstanceAs (Decidable True)

/-- A start state and a partial step function. -/
structure Machine (σ α : Type*) where
  init : σ
  step : σ → α → Option σ

namespace Machine

variable {σ α τ β : Type*} (M : Machine σ α) (ok : σ → α → Prop)

/-- One step, by an action that `ok` admits. -/
def Next (s s' : σ) : Prop :=
  ∃ action, ok s action ∧ M.step s action = some s'

/-- A run of admitted steps leads from the first state to the second. -/
def Reaches : σ → σ → Prop :=
  Relation.ReflTransGen (M.Next ok)

/-- A run of admitted steps leads from the start to the state. -/
def Reachable (s : σ) : Prop :=
  M.Reaches ok M.init s

variable {M ok}

theorem Reaches.refl (s : σ) : M.Reaches ok s s :=
  Relation.ReflTransGen.refl

theorem Reaches.tail {s s' s'' : σ} {action : α} (run : M.Reaches ok s s')
    (admitted : ok s' action) (step : M.step s' action = some s'') : M.Reaches ok s s'' :=
  Relation.ReflTransGen.tail run ⟨action, admitted, step⟩

theorem Reaches.trans {s s' s'' : σ} (first : M.Reaches ok s s') (second : M.Reaches ok s' s'') :
    M.Reaches ok s s'' :=
  Relation.ReflTransGen.trans first second

/-- Fewer admitted steps reach fewer states. -/
theorem Reaches.mono {weaker : σ → α → Prop} (le : ∀ s action, ok s action → weaker s action)
    {s s' : σ} (run : M.Reaches ok s s') : M.Reaches weaker s s' := by
  induction run with
  | refl => exact Reaches.refl s
  | tail _ next ih =>
    obtain ⟨action, admitted, step⟩ := next
    exact ih.tail (le _ _ admitted) step

/-- **An invariant of the steps holds along a run.** -/
theorem Reaches.induct {I : σ → Prop}
    (kept : ∀ s action s', I s → ok s action → M.step s action = some s' → I s')
    {s s' : σ} (run : M.Reaches ok s s') (start : I s) : I s' := by
  induction run with
  | refl => exact start
  | tail _ next ih =>
    obtain ⟨action, admitted, step⟩ := next
    exact kept _ _ _ ih admitted step

theorem Reachable.mono {weaker : σ → α → Prop} (le : ∀ s action, ok s action → weaker s action)
    {s : σ} (reachable : M.Reachable ok s) : M.Reachable weaker s :=
  Reaches.mono le reachable

/-- **The invariant rule**; the step may use what is already known of reachable states. -/
theorem Reachable.induct {I : σ → Prop} (start : I M.init)
    (kept : ∀ s action s', M.Reachable ok s → I s → ok s action →
      M.step s action = some s' → I s')
    {s : σ} (reachable : M.Reachable ok s) : I s := by
  have both : M.Reachable ok s ∧ I s := by
    refine Reaches.induct (I := fun s => M.Reachable ok s ∧ I s) ?_ reachable
      ⟨Reaches.refl _, start⟩
    rintro s action s' ⟨before, holds⟩ admitted step
    exact ⟨Reaches.tail before admitted step, kept s action s' before holds admitted step⟩
  exact both.2

/-- **The simulation rule.** Every admitted step becomes an admitted step of the other machine, or
leaves its state alone. -/
theorem Reachable.simulate {N : Machine τ β} {ok' : τ → β → Prop} (f : σ → τ)
    (start : f M.init = N.init)
    (match_step : ∀ s action s', M.Reachable ok s → ok s action → M.step s action = some s' →
      f s' = f s ∨ ∃ action', ok' (f s) action' ∧ N.step (f s) action' = some (f s'))
    {s : σ} (reachable : M.Reachable ok s) : N.Reachable ok' (f s) := by
  refine Reachable.induct (I := fun s => N.Reachable ok' (f s)) ?_ ?_ reachable
  · show N.Reachable ok' (f M.init)
    rw [start]
    exact Reaches.refl _
  · intro s action s' before image admitted step
    rcases match_step s action s' before admitted step with same | ⟨action', admitted', step'⟩
    · show N.Reachable ok' (f s')
      rw [same]
      exact image
    · exact Reaches.tail image admitted' step'

/-! ### Observers -/

section Watched

variable {ω : Type*}

/-- A machine whose steps an observer takes note of. -/
def watched (M : Machine σ α) (first : ω) (note : ω → σ → α → σ → ω) : Machine (σ × ω) α where
  init := (M.init, first)
  step := fun s action =>
    (M.step s.1 action).map fun s' => (s', note s.2 s.1 action s')

variable {first : ω} {note : ω → σ → α → σ → ω}

/-- The machine makes a step, and the observer takes note of it. -/
theorem watched_step {s t : σ × ω} {action : α}
    (step : (M.watched first note).step s action = some t) :
    M.step s.1 action = some t.1 ∧ t.2 = note s.2 s.1 action t.1 := by
  obtain ⟨s', moved, rfl⟩ := Option.map_eq_some_iff.mp step
  exact ⟨moved, rfl⟩

/-- The observer stops no step. -/
theorem step_watched {s s' : σ} (w : ω) {action : α} (step : M.step s action = some s') :
    (M.watched first note).step (s, w) action = some (s', note w s action s') :=
  Option.map_eq_some_iff.mpr ⟨s', step, rfl⟩

/-- Nor does it stop a run. -/
theorem reaches_watched {s s' : σ} (run : M.Reaches ok s s') (w : ω) :
    ∃ w', (M.watched first note).Reaches (fun s action => ok s.1 action) (s, w) (s', w') := by
  induction run with
  | refl => exact ⟨w, Reaches.refl _⟩
  | tail _ next ih =>
    obtain ⟨w', before⟩ := ih
    obtain ⟨action, admitted, step⟩ := next
    exact ⟨_, before.tail admitted (step_watched w' step)⟩

end Watched

/-! ### Runs as lists of actions -/

variable (M)

/-- The state after a list of actions, if each is possible in turn. -/
def run : σ → List α → Option σ
  | s, [] => some s
  | s, action :: rest => (M.step s action).bind fun s' => run s' rest

/-- Every action of the list is admitted where it is taken. -/
def Admitted (ok : σ → α → Prop) : σ → List α → Prop
  | _, [] => True
  | s, action :: rest => ok s action ∧ ∀ s' ∈ M.step s action, Admitted ok s' rest

instance decidableAdmitted [∀ s action, Decidable (ok s action)] :
    ∀ s actions, Decidable (M.Admitted ok s actions)
  | _, [] => isTrue trivial
  | s, action :: rest =>
    match step : M.step s action with
    | none => decidable_of_iff (ok s action) (by simp [Admitted, step])
    | some s' =>
      have := decidableAdmitted s' rest
      decidable_of_iff (ok s action ∧ M.Admitted ok s' rest) (by simp [Admitted, step])

variable {M}

/-- A run of admitted actions reaches its last state. -/
theorem reaches_of_run {s s' : σ} {actions : List α} (ran : M.run s actions = some s')
    (admitted : M.Admitted ok s actions) : M.Reaches ok s s' := by
  induction actions generalizing s with
  | nil =>
    cases ran
    exact Reaches.refl _
  | cons action rest ih =>
    obtain ⟨next, step, ran⟩ := Option.bind_eq_some_iff.mp ran
    exact Reaches.trans ((Reaches.refl s).tail admitted.1 step) (ih ran (admitted.2 next step))

/-- One more admitted step. -/
theorem Reachable.next {s s' : σ} {action : α} (reachable : M.Reachable ok s)
    (admitted : ok s action) (step : M.step s action = some s') : M.Reachable ok s' :=
  Reaches.tail reachable admitted step

variable (M)

/-- Every state on the way of a list of actions satisfies `P`. -/
def Along (P : σ → Prop) : σ → List α → Prop
  | s, [] => P s
  | s, action :: rest => P s ∧ ∀ s' ∈ M.step s action, Along P s' rest

instance decidableAlong {P : σ → Prop} [DecidablePred P] :
    ∀ s actions, Decidable (M.Along P s actions)
  | s, [] => inferInstanceAs (Decidable (P s))
  | s, action :: rest =>
    match step : M.step s action with
    | none => decidable_of_iff (P s) (by simp [Along, step])
    | some s' =>
      have := decidableAlong (P := P) s' rest
      decidable_of_iff (P s ∧ M.Along P s' rest) (by simp [Along, step])

theorem Along.head {M : Machine σ α} {P : σ → Prop} {s : σ} {actions : List α}
    (along : M.Along P s actions) : P s := by
  cases actions with
  | nil => exact along
  | cons action rest => exact along.1

variable {M}

/-- **The exact condition of a property of runs.** Among the runs that keep `pre`, those of
admitted steps have the property in all their states, and a step that leads to a state with the
property is admitted: so of these runs exactly the admitted ones have the property in all their
states. -/
theorem along_iff_admitted {pre : σ → α → Prop} {P : σ → Prop}
    (sound : ∀ s, M.Reachable (fun s action => pre s action ∧ ok s action) s → P s)
    (exact : ∀ s action, M.Reachable (fun s action => pre s action ∧ ok s action) s →
      pre s action → (∀ s' ∈ M.step s action, P s') → ok s action)
    {actions : List α} (kept : M.Admitted pre M.init actions) :
    M.Along P M.init actions ↔ M.Admitted ok M.init actions := by
  have general : ∀ s, M.Reachable (fun s action => pre s action ∧ ok s action) s →
      M.Admitted pre s actions → (M.Along P s actions ↔ M.Admitted ok s actions) := by
    clear kept
    induction actions with
    | nil =>
      intro s reachable _
      exact ⟨fun _ => trivial, fun _ => sound s reachable⟩
    | cons action rest ih =>
      rintro s reachable ⟨first, kept⟩
      constructor
      · rintro ⟨_, along⟩
        have admitted := exact s action reachable first fun s' step => (along s' step).head
        exact ⟨admitted, fun s' step =>
          (ih s' (reachable.next ⟨first, admitted⟩ step) (kept s' step)).mp (along s' step)⟩
      · rintro ⟨admitted, run⟩
        exact ⟨sound s reachable, fun s' step =>
          (ih s' (reachable.next ⟨first, admitted⟩ step) (kept s' step)).mpr (run s' step)⟩
  exact general M.init (Reaches.refl _) kept

/-- What follows a possible list of actions starts in that list's last state. -/
theorem Along.after {P : σ → Prop} {s s' : σ} {first second : List α}
    (along : M.Along P s (first ++ second)) (ran : M.run s first = some s') :
    M.Along P s' second := by
  induction first generalizing s with
  | nil =>
    cases ran
    exact along
  | cons action rest ih =>
    obtain ⟨next, step, ran⟩ := Option.bind_eq_some_iff.mp ran
    exact ih (along.2 next step) ran

/-- A state on the way of a possible list of actions has what all of them have. -/
theorem Along.last {P : σ → Prop} {s s' : σ} {actions : List α} (along : M.Along P s actions)
    (ran : M.run s actions = some s') : P s' := by
  rw [← List.append_nil actions] at along
  exact (along.after ran).head

/-- Two conditions, each admitting every action of a list. -/
theorem Admitted.and {ok' : σ → α → Prop} {s : σ} {actions : List α}
    (first : M.Admitted ok s actions) (second : M.Admitted ok' s actions) :
    M.Admitted (fun s action => ok s action ∧ ok' s action) s actions := by
  induction actions generalizing s with
  | nil => trivial
  | cons action rest ih =>
    exact ⟨⟨first.1, second.1⟩, fun s' step => ih (first.2 s' step) (second.2 s' step)⟩

/-- **Every state of an admitted run** has what the admitted steps keep. -/
theorem along_of_admitted {P : σ → Prop} {s : σ} {actions : List α}
    (kept : ∀ s', M.Reaches ok s s' → P s') (admitted : M.Admitted ok s actions) :
    M.Along P s actions := by
  induction actions generalizing s with
  | nil => exact kept s (Reaches.refl s)
  | cons action rest ih =>
    refine ⟨kept s (Reaches.refl s), fun s' step => ?_⟩
    refine ih (fun s'' later => kept s'' ?_) (admitted.2 s' step)
    exact ((Reaches.refl s).tail admitted.1 step).trans later

/-- **A run takes only admitted steps or ends in a trap**: a set of states that no step leaves and
that every other step leads into. -/
theorem admitted_or_trapped {pre : σ → α → Prop} {I : σ → Prop} (trap : σ → Prop)
    (kept : ∀ s action s', I s → pre s action → ok s action → M.step s action = some s' → I s')
    (enters : ∀ s action s', I s → pre s action → ¬ ok s action → M.step s action = some s' →
      trap s')
    (stays : ∀ s action s', trap s → pre s action → M.step s action = some s' → trap s')
    {s s' : σ} {actions : List α} (start : I s) (allowed : M.Admitted pre s actions)
    (ran : M.run s actions = some s') : M.Admitted ok s actions ∨ trap s' := by
  have trapped : ∀ {s : σ} {actions : List α}, trap s → M.Admitted pre s actions →
      M.run s actions = some s' → trap s' := by
    intro s actions
    induction actions generalizing s with
    | nil =>
      rintro inside _ ran
      cases ran
      exact inside
    | cons action rest ih =>
      intro inside allowed ran
      obtain ⟨next, step, ran⟩ := Option.bind_eq_some_iff.mp ran
      exact ih (stays s action next inside allowed.1 step) (allowed.2 next step) ran
  induction actions generalizing s with
  | nil => exact Or.inl trivial
  | cons action rest ih =>
    obtain ⟨next, step, ran⟩ := Option.bind_eq_some_iff.mp ran
    by_cases fine : ok s action
    · have holds := kept s action next start allowed.1 fine step
      refine (ih holds (allowed.2 next step) ran).imp_left fun admitted =>
        ⟨fine, fun s'' step' => ?_⟩
      cases step.symm.trans step'
      exact admitted
    · exact Or.inr (trapped (enters s action next start allowed.1 fine step)
        (allowed.2 next step) ran)

theorem admitted_append {s : σ} {first second : List α} (before : M.Admitted ok s first)
    (after : ∀ s action, action ∈ second → ok s action) : M.Admitted ok s (first ++ second) := by
  induction first generalizing s with
  | nil =>
    clear before
    induction second generalizing s with
    | nil => trivial
    | cons action rest ih =>
      exact ⟨after s action List.mem_cons_self, fun s' _ =>
        ih fun s action member => after s action (List.mem_cons_of_mem _ member)⟩
  | cons action rest ih => exact ⟨before.1, fun s' step => ih (before.2 s' step)⟩

/-- **The progress rule.** Where every state short of the goal has a step of one's own to a lower
rank, one's own steps lead to the goal. -/
theorem exists_run_of_rank {I : σ → Prop} (own : α → Prop) (goal : σ → Prop) (rank : σ → ℕ)
    (progress : ∀ s, I s → ¬ goal s →
      ∃ action s', own action ∧ M.step s action = some s' ∧ I s' ∧ rank s' < rank s)
    {s : σ} (start : I s) :
    ∃ actions s', (∀ action ∈ actions, own action) ∧ M.run s actions = some s' ∧ I s' ∧
      goal s' := by
  induction height : rank s using Nat.strongRecOn generalizing s with
  | ind n ih =>
    by_cases there : goal s
    · exact ⟨[], s, nofun, rfl, start, there⟩
    · obtain ⟨action, next, mine, step, holds, lower⟩ := progress s start there
      obtain ⟨actions, s', rest, ran, final⟩ := ih (rank next) (height ▸ lower) holds rfl
      refine ⟨action :: actions, s', List.forall_mem_cons.mpr ⟨mine, rest⟩, ?_, final⟩
      rw [run, step]
      exact ran

/-- The progress rule for admitted steps. -/
theorem exists_reaches_of_rank {I : σ → Prop} (goal : σ → Prop) (rank : σ → ℕ)
    (progress : ∀ s, I s → ¬ goal s →
      ∃ action s', ok s action ∧ M.step s action = some s' ∧ I s' ∧ rank s' < rank s)
    {s : σ} (start : I s) : ∃ s', M.Reaches ok s s' ∧ I s' ∧ goal s' := by
  induction height : rank s using Nat.strongRecOn generalizing s with
  | ind n ih =>
    by_cases there : goal s
    · exact ⟨s, Reaches.refl s, start, there⟩
    · obtain ⟨action, next, admitted, step, holds, lower⟩ := progress s start there
      obtain ⟨s', rest, final⟩ := ih (rank next) (height ▸ lower) holds rfl
      exact ⟨s', ((Reaches.refl s).tail admitted step).trans rest, final⟩

theorem admitted_anything (s : σ) (actions : List α) : M.Admitted Anything s actions := by
  induction actions generalizing s with
  | nil => trivial
  | cons action rest ih => exact ⟨trivial, fun s' _ => ih s'⟩

variable (M)

/-- The state a list of actions leads to; the start if it is not possible. -/
def after (actions : List α) : σ :=
  (M.run M.init actions).getD M.init

variable {M}

theorem run_after {actions : List α} (possible : (M.run M.init actions).isSome = true) :
    M.run M.init actions = some (M.after actions) := by
  obtain ⟨s, ran⟩ := Option.isSome_iff_exists.mp possible
  rw [after, ran]
  rfl

/-- A possible list of admitted actions leads to a reachable state. -/
theorem reachable_after {actions : List α} (possible : (M.run M.init actions).isSome = true)
    (admitted : M.Admitted ok M.init actions) : M.Reachable ok (M.after actions) :=
  reaches_of_run (run_after possible) admitted

theorem run_append (s : σ) (first second : List α) :
    M.run s (first ++ second) = (M.run s first).bind fun s' => M.run s' second := by
  induction first generalizing s with
  | nil => rfl
  | cons action rest ih =>
    show (M.step s action).bind (fun s' => M.run s' (rest ++ second)) = _
    simp only [ih, run, Option.bind_assoc]

/-- The last action of a possible list is the step to the list's last state. -/
theorem step_after {actions : List α} {action : α}
    (possible : (M.run M.init (actions ++ [action])).isSome = true) :
    M.step (M.after actions) action = some (M.after (actions ++ [action])) := by
  have ran := run_after possible
  rw [run_append] at ran
  obtain ⟨before, first, last⟩ := Option.bind_eq_some_iff.mp ran
  obtain ⟨s, step, rest⟩ := Option.bind_eq_some_iff.mp last
  cases rest
  have start : M.after actions = before := by
    rw [after, first]
    rfl
  rw [start]
  exact step

/-- **The termination rule.** Under an invariant of the admitted steps, a measure that drops at
every one of them bounds the length of every run of admitted steps. -/
theorem admitted_length_le {I : σ → Prop} (measure : σ → ℕ)
    (kept : ∀ s action s', I s → ok s action → M.step s action = some s' → I s')
    (drops : ∀ s action s', I s → ok s action → M.step s action = some s' →
      measure s' < measure s)
    {s s' : σ} {actions : List α} (start : I s) (admitted : M.Admitted ok s actions)
    (ran : M.run s actions = some s') : actions.length ≤ measure s := by
  induction actions generalizing s with
  | nil => exact Nat.zero_le _
  | cons action rest ih =>
    obtain ⟨next, step, ran⟩ := Option.bind_eq_some_iff.mp ran
    have shorter := ih (kept s action next start admitted.1 step) (admitted.2 next step) ran
    have drop := drops s action next start admitted.1 step
    rw [List.length_cons]
    omega

/-- **The accounting rule.** A measure that may be raised by what is counted elsewhere: with the
count taken off, it drops at every step, and a run is no longer than what is left of it. -/
theorem run_length_add_le {I : σ → Prop} (measure : σ → ℤ)
    (kept : ∀ s action s', I s → M.step s action = some s' → I s')
    (drops : ∀ s action s', I s → M.step s action = some s' → measure s' < measure s)
    {s s' : σ} {actions : List α} (start : I s) (ran : M.run s actions = some s') :
    actions.length + measure s' ≤ measure s := by
  induction actions generalizing s with
  | nil =>
    cases ran
    exact Int.le_of_eq (Int.zero_add _)
  | cons action rest ih =>
    obtain ⟨next, step, ran⟩ := Option.bind_eq_some_iff.mp ran
    have shorter := ih (kept s action next start step) ran
    have drop := drops s action next start step
    rw [List.length_cons]
    omega

/-- The termination rule for all runs. -/
theorem run_length_le {I : σ → Prop} (measure : σ → ℕ)
    (kept : ∀ s action s', I s → M.step s action = some s' → I s')
    (drops : ∀ s action s', I s → M.step s action = some s' → measure s' < measure s)
    {s s' : σ} {actions : List α} (start : I s) (ran : M.run s actions = some s') :
    actions.length ≤ measure s :=
  admitted_length_le measure (fun s action s' holds _ => kept s action s' holds)
    (fun s action s' holds _ => drops s action s' holds) start (admitted_anything s actions) ran

end Machine

end Interleaving
