/-
**The steps of `rwlock`.**

`Step` lists them case by case; what a statement does depends on the side of its thread in the same
way everywhere (`entry`, `stored`, `counted`, `tested`, `limit`).
-/

import Unpvol2.Rwlockc.Model

set_option linter.unusedSectionVars false

namespace Unpvol2.Rwlockc

open C Interleaving
open SharedLock (Side Held)
open Test1 (Change Options)

variable {ι : Type} [DecidableEq ι] [Fintype ι]

/-! ### The list of the steps -/

/-- The first statement in the bracket. -/
def entry : Side → Pc
  | .shared => .countLock .inc
  | .exclusive => .load .inc

/-- The statement after a store. -/
def stored : Side → Change → Pc
  | .shared, change => .countUnlock change
  | .exclusive, .inc => .testWriters
  | .exclusive, .dec => .unlock

/-- The statement after `rcountlock` has been given back. -/
def counted : Change → Pc
  | .inc => .testWriters
  | .dec => .unlock

/-- The statement after the test of `shared.nwriters`. -/
def tested : Side → Pc
  | .shared => .countLock .dec
  | .exclusive => .testReaders

/-- The number of writers the test of `shared.nwriters` allows. -/
def limit : Side → ℤ
  | .shared => 0
  | .exclusive => 1

/-- The counter of a side. -/
def State.counter (s : State ι) : Side → ℤ
  | .shared => s.nreaders
  | .exclusive => s.nwriters

def State.setCounter (s : State ι) (value : ℤ) : Side → State ι
  | .shared => { s with nreaders := value }
  | .exclusive => { s with nwriters := value }

/-- The steps, case by case. -/
inductive Step (nloop : ℤ) (s : State ι) (t : ι) : State ι → Prop
  | more (here : (s.thread t).pc = .test) (more : (s.thread t).i < nloop) :
      Step nloop s t (s.goto t .lock)
  | done (here : (s.thread t).pc = .test) (most : nloop ≤ (s.thread t).i) :
      Step nloop s t (s.goto t .returned)
  | lock (here : (s.thread t).pc = .lock) (free : s.rwlock.Free (s.thread t).function) :
      Step nloop s t (s.grant t (s.thread t).function (entry (s.thread t).function))
  | countLock (change : Change) (here : (s.thread t).pc = .countLock change)
      (reads : (s.thread t).function = .shared) (free : s.rcountlock = none) :
      Step nloop s t { s.goto t (.load change) with rcountlock := some t }
  | load (change : Change) (here : (s.thread t).pc = .load change) :
      Step nloop s t (s.goto t (.store change (s.counter (s.thread t).function)))
  | store (change : Change) (value : ℤ) (here : (s.thread t).pc = .store change value) :
      Step nloop s t ((s.goto t (stored (s.thread t).function change)).setCounter
        (int32 (value + change.delta)) (s.thread t).function)
  | countUnlock (change : Change) (here : (s.thread t).pc = .countUnlock change)
      (reads : (s.thread t).function = .shared) : Step nloop s t (s.countUnlock t (counted change))
  | testWriters (here : (s.thread t).pc = .testWriters)
      (fine : ¬ s.nwriters > limit (s.thread t).function) :
      Step nloop s t (s.goto t (tested (s.thread t).function))
  | testReaders (here : (s.thread t).pc = .testReaders)
      (writes : (s.thread t).function = .exclusive) (fine : ¬ s.nreaders > 0) :
      Step nloop s t (s.goto t (.load .dec))
  | exit
      (bad : ((s.thread t).pc = .testWriters ∧ s.nwriters > limit (s.thread t).function) ∨
        ((s.thread t).pc = .testReaders ∧ (s.thread t).function = .exclusive ∧
          s.nreaders > 0)) :
      Step nloop s t s.exit
  | unlock (side : Side) (here : (s.thread t).pc = .unlock) (holds : 0 < s.rwlock t side) :
      Step nloop s t (s.release t side .increment)
  | increment (here : (s.thread t).pc = .increment) : Step nloop s t (s.round t)

section Cases

variable {nloop : ℤ} {s s' : State ι} {t : ι}

theorem Step.of_test (here : (s.thread t).pc = .test) : Step nloop s t (s.test nloop t) := by
  unfold State.test
  split
  · exact .more here ‹_›
  · exact .done here (Int.not_lt.mp ‹_›)

theorem unlock_cases (here : (s.thread t).pc = .unlock) (step : s.unlock t = some s') :
    Step nloop s t s' := by
  unfold State.unlock at step
  split at step
  · cases step
    exact .unlock .exclusive here ‹_›
  · split at step
    · cases step
      exact .unlock .shared here ‹_›
    · cases step

theorem reader_cases (reads : (s.thread t).function = .shared)
    (step : s.reader nloop t (s.thread t).pc = some s') : Step nloop s t s' := by
  cases here : (s.thread t).pc with
  | test =>
    rw [here] at step
    cases step
    exact .of_test here
  | lock =>
    rw [here] at step
    simp only [State.reader, State.lock, Option.ite_none_right_eq_some, Option.some.injEq] at step
    obtain ⟨free, rfl⟩ := step
    have locked : Step nloop s t _ := .lock here (reads.symm ▸ free)
    rw [reads] at locked
    exact locked
  | countLock change =>
    rw [here] at step
    simp only [State.reader, State.countLock, Option.ite_none_right_eq_some,
      Option.some.injEq] at step
    obtain ⟨free, rfl⟩ := step
    exact .countLock change here reads free
  | load change =>
    rw [here] at step
    cases step
    have loaded : Step nloop s t _ := .load change here
    rw [reads] at loaded
    exact loaded
  | store change value =>
    rw [here] at step
    cases step
    have stored : Step nloop s t _ := .store change value here
    rw [reads] at stored
    exact stored
  | countUnlock change =>
    rw [here] at step
    cases change <;> cases step <;> exact .countUnlock _ here reads
  | testWriters =>
    rw [here] at step
    simp only [State.reader] at step
    split at step
    · cases step
      exact .exit (.inl ⟨here, by rw [reads]; assumption⟩)
    · cases step
      have tested : Step nloop s t _ := .testWriters here (by rw [reads]; assumption)
      rw [reads] at tested
      exact tested
  | unlock =>
    rw [here] at step
    exact unlock_cases here step
  | increment =>
    rw [here] at step
    cases step
    exact .increment here
  | testReaders | returned =>
    rw [here] at step
    cases step

theorem writer_cases (writes : (s.thread t).function = .exclusive)
    (step : s.writer nloop t (s.thread t).pc = some s') : Step nloop s t s' := by
  cases here : (s.thread t).pc with
  | test =>
    rw [here] at step
    cases step
    exact .of_test here
  | lock =>
    rw [here] at step
    simp only [State.writer, State.lock, Option.ite_none_right_eq_some, Option.some.injEq] at step
    obtain ⟨free, rfl⟩ := step
    have locked : Step nloop s t _ := .lock here (writes.symm ▸ free)
    rw [writes] at locked
    exact locked
  | load change =>
    rw [here] at step
    cases step
    have loaded : Step nloop s t _ := .load change here
    rw [writes] at loaded
    exact loaded
  | store change value =>
    rw [here] at step
    have stored : Step nloop s t _ := .store change value here
    rw [writes] at stored
    cases change <;> cases step <;> exact stored
  | testWriters =>
    rw [here] at step
    simp only [State.writer] at step
    split at step
    · cases step
      exact .exit (.inl ⟨here, by rw [writes]; assumption⟩)
    · cases step
      have tested : Step nloop s t _ := .testWriters here (by rw [writes]; assumption)
      rw [writes] at tested
      exact tested
  | testReaders =>
    rw [here] at step
    simp only [State.writer] at step
    split at step
    · cases step
      exact .exit (.inr ⟨here, writes, by assumption⟩)
    · cases step
      exact .testReaders here writes (by assumption)
  | unlock =>
    rw [here] at step
    exact unlock_cases here step
  | increment =>
    rw [here] at step
    cases step
    exact .increment here
  | countLock | countUnlock | returned =>
    rw [here] at step
    cases step

/-- **The inversion of the step function.** -/
theorem step_cases (step : s.step nloop t = some s') : Step nloop s t s' := by
  unfold State.step State.run at step
  split at step
  · cases step
  · split at step
    · exact reader_cases ‹_› step
    · exact writer_cases ‹_› step

/-- The step function takes every step of the list. -/
theorem Step.eq_some (step : Step nloop s t s') (running : s.exited = false)
    (exclusive : s.rwlock.Exclusive) : s.step nloop t = some s' := by
  have stopped : ¬ s.exited = true := Bool.not_eq_true _ ▸ running
  unfold State.step
  rw [if_neg stopped]
  unfold State.run
  cases step with
  | more here more | done here most =>
    split <;> rw [here] <;> refine congrArg some ?_ <;> unfold State.test
    all_goals first | exact if_pos more | exact if_neg (Int.not_lt.mpr most)
  | lock here free =>
    split <;> rename_i side <;> rw [here] <;> rw [side] at free ⊢ <;> exact if_pos free
  | countLock change here reads free =>
    rw [reads, here]
    exact if_pos free
  | load change here => split <;> rename_i side <;> rw [here] <;> rw [side] <;> rfl
  | store change value here =>
    split <;> rename_i side <;> rw [here] <;> rw [side] <;> cases change <;> rfl
  | countUnlock change here reads =>
    rw [reads, here]
    cases change <;> rfl
  | testWriters here fine =>
    split <;> rename_i side <;> rw [here] <;> rw [side] at fine ⊢ <;> exact if_neg fine
  | testReaders here writes fine =>
    rw [writes, here]
    exact if_neg fine
  | exit bad =>
    rcases bad with ⟨here, many⟩ | ⟨here, writes, many⟩
    · split <;> rename_i side <;> rw [here] <;> rw [side] at many <;> exact if_pos many
    · rw [writes, here]
      exact if_pos many
  | unlock side here holds =>
    have unlocks : s.unlock t = some (s.release t side .increment) := by
      unfold State.unlock
      cases side with
      | exclusive => exact if_pos holds
      | shared =>
        have none : s.rwlock t .exclusive = 0 := by
          by_contra some
          exact absurd (exclusive.alone t t some) holds.ne'
        rw [if_neg (none ▸ Nat.lt_irrefl 0), if_pos holds]
    split <;> rw [here] <;> exact unlocks
  | increment here => split <;> rw [here] <;> rfl

end Cases

end Unpvol2.Rwlockc
