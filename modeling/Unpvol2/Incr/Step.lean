/-
**The steps of `incr_rwlock1`.**

`step_cases` lists them, with what each needs and what it does.
-/

import Unpvol2.Incr.Model

namespace Unpvol2.Incr

open C Interleaving Rwlock

variable {n nloop : ℕ}

/-- The steps. -/
inductive Step (nloop : ℕ) (s : State n) : Act n → State n → Prop
  | wrlock {p : Process (Option (Fin n))} (here : s.main.pc = .wrlock)
    (call : s.process.step (.call none (.lock .wr)) = some p) :
    Step nloop s (.run none) { s.mainTo .wrlocking 0 with process := p }
  | wrlocked (here : s.main.pc = .wrlocking) (idle : s.process.lock.loc none = .idle) :
    Step nloop s (.run none) (s.mainTo .create 0)
  | create (t : Fin n) (here : s.main.pc = .create) (i : s.main.i = t) :
    Step nloop s (.run none) (s.create t)
  | created (here : s.main.pc = .create) (all : n ≤ s.main.i) :
    Step nloop s (.run none) (s.mainTo .unlock 0)
  | unlock {p : Process (Option (Fin n))} (here : s.main.pc = .unlock)
    (call : s.process.step (.call none .unlock) = some p) :
    Step nloop s (.run none) { s.mainTo .unlocking 0 with process := p }
  | unlocked (here : s.main.pc = .unlocking) (idle : s.process.lock.loc none = .idle) :
    Step nloop s (.run none) (s.mainTo .join 0)
  | join (t : Fin n) (here : s.main.pc = .join) (i : s.main.i = t)
    (returned : (s.thread t).pc = .returned) :
    Step nloop s (.run none) (s.mainTo .join (t + 1))
  | joined (here : s.main.pc = .join) (all : n ≤ s.main.i) :
    Step nloop s (.run none) (s.mainTo .compare 0)
  | compare (here : s.main.pc = .compare) :
    Step nloop s (.run none)
      { s.mainTo .exited 0 with
        error := if s.counter ≠ int32 (nloop * n) then some s.counter else none }
  | test (t : Fin n) (next : Pc) (here : (s.thread t).pc = .test)
    (branch : (s.thread t).i < nloop ∧ next = .wrlock ∨
      nloop ≤ (s.thread t).i ∧ next = .returned) :
    Step nloop s (.run (some t)) (s.goto t next)
  | lock (t : Fin n) {p : Process (Option (Fin n))} (here : (s.thread t).pc = .wrlock)
    (call : s.process.step (.call (some t) (.lock .wr)) = some p) :
    Step nloop s (.run (some t)) { s.goto t .wrlocking with process := p }
  | locked (t : Fin n) (here : (s.thread t).pc = .wrlocking)
    (idle : s.process.lock.loc (some t) = .idle) : Step nloop s (.run (some t)) (s.goto t .load)
  | load (t : Fin n) (here : (s.thread t).pc = .load) :
    Step nloop s (.run (some t)) (s.goto t (.store s.counter))
  | store (t : Fin n) (value : ℤ) (here : (s.thread t).pc = .store value) :
    Step nloop s (.run (some t)) { s.goto t .unlock with counter := int64 (value + 1) }
  | release (t : Fin n) {p : Process (Option (Fin n))} (here : (s.thread t).pc = .unlock)
    (call : s.process.step (.call (some t) .unlock) = some p) :
    Step nloop s (.run (some t)) { s.goto t .unlocking with process := p }
  | round (t : Fin n) (here : (s.thread t).pc = .unlocking)
    (idle : s.process.lock.loc (some t) = .idle) : Step nloop s (.run (some t)) (s.round t)
  | inside (action : Rwlock.Act (Option (Fin n))) (inner : action.inner = true)
    {p : Process (Option (Fin n))} (step : s.process.step action = some p) :
    Step nloop s (.lock action) { s with process := p }

variable {s s' : State n} {action : Act n}

theorem call_some {u : Option (Fin n)} {c : Call} {after : State n}
    (step : s.call u c after = some s') :
    ∃ p, s.process.step (.call u c) = some p ∧ s' = { after with process := p } := by
  obtain ⟨p, called, rfl⟩ := Option.map_eq_some_iff.mp step
  exact ⟨p, called, rfl⟩

theorem back_some {u : Option (Fin n)} {after : State n} (step : s.back u after = some s') :
    s.process.lock.loc u = .idle ∧ s' = after := by
  unfold State.back at step
  split at step
  · exact ⟨‹_›, (Option.some.inj step).symm⟩
  · cases step

theorem runMain_cases (step : s.runMain nloop = some s') : Step nloop s (.run none) s' := by
  unfold State.runMain at step
  split at step
  case h_1 here =>
    obtain ⟨p, called, rfl⟩ := call_some step
    exact .wrlock here called
  case h_2 here =>
    obtain ⟨idle, rfl⟩ := back_some step
    exact .wrlocked here idle
  case h_3 here =>
    split at step
    · cases step
      exact .create _ here rfl
    · cases step
      exact .created here (not_lt.mp ‹_›)
  case h_4 here =>
    obtain ⟨p, called, rfl⟩ := call_some step
    exact .unlock here called
  case h_5 here =>
    obtain ⟨idle, rfl⟩ := back_some step
    exact .unlocked here idle
  case h_6 here =>
    split at step
    · rename_i more
      split at step
      · rename_i returned
        cases step
        exact .join ⟨s.main.i, more⟩ here rfl returned
      · cases step
    · cases step
      exact .joined here (not_lt.mp ‹_›)
  case h_7 here =>
    cases step
    exact .compare here
  case h_8 here => cases step

theorem incr_cases {t : Fin n} (step : s.incr nloop t = some s') :
    Step nloop s (.run (some t)) s' := by
  unfold State.incr at step
  split at step
  case h_1 here =>
    cases step
    refine .test t _ here ?_
    split
    · exact .inl ⟨‹_›, rfl⟩
    · exact .inr ⟨not_lt.mp ‹_›, rfl⟩
  case h_2 here =>
    obtain ⟨p, called, rfl⟩ := call_some step
    exact .lock t here called
  case h_3 here =>
    obtain ⟨idle, rfl⟩ := back_some step
    exact .locked t here idle
  case h_4 here =>
    cases step
    exact .load t here
  case h_5 value here =>
    cases step
    exact .store t value here
  case h_6 here =>
    obtain ⟨p, called, rfl⟩ := call_some step
    exact .release t here called
  case h_7 here =>
    obtain ⟨idle, rfl⟩ := back_some step
    exact .round t here idle
  case h_8 => cases step
  case h_9 => cases step

/-- **Every step is in the list.** -/
theorem step_cases (step : s.step nloop action = some s') :
    s.ended = false ∧ Step nloop s action s' := by
  unfold State.step at step
  split at step
  · cases step
  · rename_i running
    refine ⟨Bool.eq_false_of_not_eq_true running, ?_⟩
    split at step
    · exact runMain_cases step
    · exact incr_cases step
    · split at step
      · obtain ⟨p, moved, rfl⟩ := Option.map_eq_some_iff.mp step
        exact .inside _ ‹_› moved
      · cases step

end Unpvol2.Incr
