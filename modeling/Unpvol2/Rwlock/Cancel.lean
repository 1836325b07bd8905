/-
**A waiter that is cancelled takes the lock with it.**

A thread cancelled in `pthread_cond_wait` takes `rw_mutex` again before its cleanup handlers run,
and neither `rdlock` nor `wrlock` has pushed a handler that would release it and undo the wait
counter. So the thread dies inside the section:

* `rw_mutex` stays with it and no thread enters a section of the lock again (`Dead.blocked`);
* its wait counter stays one too high, whatever the others do, and `destroy` returns `EBUSY` for
  good (`Dead.destroy`).
-/

import Unpvol2.Rwlock.Accounting

set_option linter.unusedSectionVars false

namespace Unpvol2.Rwlock

open Interleaving

variable {ι : Type} [DecidableEq ι]

variable [Fintype ι] {s s' s₁ s₂ s₃ : State ι} {t : ι} {m : Mode} {ok : State ι → Act ι → Prop}

/-! ### A dead owner -/

/-- Waiter `t` has been terminated by its cancellation, and `rw_mutex` is still its own. -/
structure Dead (s : State ι) (t : ι) (m : Mode) : Prop where
  owner : Owner s
  counted : Counted s
  initialised : Initialised s.rw
  here : s.loc t = .dead m

theorem Dead.inside (dead : Dead s t m) : (s.loc t).inside = true := by
  rw [dead.here]
  rfl

theorem Dead.mutex (dead : Dead s t m) : s.rwMutex = some t := (dead.owner t).mp dead.inside

theorem Dead.gone (dead : Dead s t m) : 1 ≤ s.gone m := by
  refine one_le_count (t := t) ?_
  have here := dead.here
  unfold State.loc at here
  rw [here]
  exact decide_eq_true rfl

/-- **The wait counter counts the dead.** -/
theorem Dead.counter (dead : Dead s t m) : s.rw.nwait m ≠ s.waiting m := by
  have split := dead.counted.eq m
  have gone := dead.gone
  omega

/-- **`destroy` returns `EBUSY`.** -/
theorem Dead.destroy (dead : Dead s t m) : (myPthreadRwlockDestroy s.rw).1 = ebusy := by
  have split := dead.counted.eq m
  have gone := dead.gone
  have waiting : 0 ≤ s.waiting m := count_nonneg _ _
  have busy : s.rw.rwRefcount ≠ 0 ∨ s.rw.rwNwaitreaders ≠ 0 ∨ s.rw.rwNwaitwriters ≠ 0 := by
    cases m with
    | rd => exact Or.inr (Or.inl (by simp only [MyPthreadRwlockT.nwait] at split; omega))
    | wr => exact Or.inr (Or.inr (by simp only [MyPthreadRwlockT.nwait] at split; omega))
  have magic : ¬ s.rw.rwMagic ≠ rwMagicValue := not_not.mpr dead.initialised
  unfold myPthreadRwlockDestroy
  rw [if_neg magic, if_pos busy]

/-- **No thread enters the lock**: `pthread_mutex_lock` does not return `0`. -/
theorem Dead.blocked (dead : Dead s t m) (u : ι) : s.step (.mutexLock u 0) = none := by
  cases step : s.step (.mutexLock u 0) with
  | none => rfl
  | some s' =>
    have mutex := dead.mutex
    cases step_cases step with
    | lockError u c result here failed => exact absurd rfl failed
    | lock u c here free =>
      rw [free] at mutex
      cases mutex

/-- A dead thread takes no step. -/
theorem Step.not_dead {action : Act ι} (step : Step s action s') (here : s.loc t = .dead m) :
    action.thread ≠ t := by
  rintro rfl
  cases step with
  | cancel t m' here' => rcases here' with here' | here' <;> rw [Act.thread, here'] at here <;>
      cases here
  | _ => simp_all [Act.thread]

theorem Dead.step {action : Act ι} (dead : Dead s t m) (step : Step s action s') :
    Dead s' t m where
  owner := dead.owner.step step
  counted := dead.counted.step step
  initialised := step.magic_eq.trans dead.initialised
  here := by
    obtain ⟨_, _, stays⟩ := step.blocked dead.owner dead.inside (step.not_dead dead.here)
    have here := dead.here
    unfold State.loc at here ⊢
    rw [stays, here]

/-- **The dead stay dead.** -/
theorem Dead.reaches (dead : Dead s t m) (run : machine.Reaches ok s s') : Dead s' t m := by
  refine run.induct (I := fun s => Dead s t m) ?_ dead
  intro s action s' dead _ step
  exact dead.step (step_cases step)

/-- The end of a cancellation. -/
theorem dead_of_terminate (reachable : machine.Reachable ok s) (admitted : ok s (.terminate t))
    (step : s.step (.terminate t) = some s') : ∃ m, Dead s' t m := by
  have reachable' := reachable.tail admitted step
  obtain ⟨owner, counted⟩ := reachable_counted reachable'
  cases step_cases step with
  | terminate t m here free =>
    exact ⟨m, owner, counted, reachable_initialised reachable', goto_loc_self s t _⟩

/-! ### What a cancellation leaves behind -/

/-- Every thread but those in `busy` has released what it held and has left the lock. -/
def OthersLeft (s : State ι) (busy : Finset ι) : Prop :=
  ∀ u, u ∉ busy → s.loc u = .idle ∧ ¬ (s.thread u).Holds

/-- The state in which the cancelled waiter `t` has terminated is one the others can go on from. -/
structure LeftIntact (s : State ι) (t : ι) : Prop where
  mutex : s.rwMutex ≠ some t
  counters : ∀ m, s.rw.nwait m = s.waiting m
  /-- once every other thread has left, an `unlock` does not block -/
  unlock : ∀ s', machine.Reaches Anything s s' → ∀ u, OthersLeft s' {t, u} →
    s'.loc u = .mutexLock .unlock → (s'.step (.mutexLock u 0)).isSome
  /-- once every other thread has left, `destroy` succeeds -/
  destroy : ∀ s', machine.Reaches Anything s s' → OthersLeft s' {t} →
    (myPthreadRwlockDestroy s'.rw).1 = 0

/-- A waiter can be cancelled wherever it waits. -/
theorem can_cancel (running : s.exited = false) (waits : s.loc t = .asleep m ∨ s.loc t = .woken m) :
    (s.step (.cancel t)).isSome = true := by
  rw [State.step, running]
  rcases waits with here | here <;> simp [State.act, here]

/-- **No cancelled waiter leaves the lock intact.** It is left with `rw_mutex`, a wait counter is
wrong, no thread enters the lock and `destroy` returns `EBUSY`, in every later state. -/
theorem cancelled_waiter (reachable : machine.Reachable Anything s)
    (cancel : s.step (.cancel t) = some s₁)
    (run : machine.Reaches Anything s₁ s₂) (terminate : s₂.step (.terminate t) = some s₃) :
    ¬ LeftIntact s₃ t ∧ ∀ s', machine.Reaches Anything s₃ s' →
      s'.rwMutex = some t ∧ (∃ m, s'.rw.nwait m ≠ s'.waiting m) ∧
        (∀ u, s'.step (.mutexLock u 0) = none) ∧ (myPthreadRwlockDestroy s'.rw).1 = ebusy := by
  have reached : machine.Reachable Anything s₂ := (reachable.tail trivial cancel).trans run
  obtain ⟨m, dead⟩ := dead_of_terminate reached trivial terminate
  refine ⟨fun intact => intact.mutex dead.mutex, fun s' later => ?_⟩
  have dead' := dead.reaches later
  exact ⟨dead'.mutex, ⟨m, dead'.counter⟩, dead'.blocked, dead'.destroy⟩

/-- The writer that waits for the reader is cancelled. -/
def cancelWriter (r w : ι) : List (Act ι) := readerThenWriter r w ++ [.cancel w]

theorem terminate_cancelWriter :
    (machine.after (cancelWriter (0 : Fin 2) 1)).step (.terminate 1) =
      some (machine.after (cancelWriter (0 : Fin 2) 1 ++ [.terminate 1])) :=
  show machine.step (machine.after (cancelWriter (0 : Fin 2) 1)) (.terminate 1) = _ from
    Machine.step_after (by decide)

theorem reachable_readerThenWriter :
    machine.Reachable Anything (machine.after (readerThenWriter (0 : Fin 2) 1)) :=
  machine.reachable_after (by decide) (by decide)

theorem cancel_readerThenWriter :
    (machine.after (readerThenWriter (0 : Fin 2) 1)).step (.cancel 1) =
      some (machine.after (cancelWriter (0 : Fin 2) 1)) :=
  show machine.step (machine.after (readerThenWriter (0 : Fin 2) 1)) (.cancel 1) = _ from
    Machine.step_after (by decide)

theorem cancelled_waiter_writer :
    (machine.after (cancelWriter (0 : Fin 2) 1 ++ [.terminate 1])).rwMutex = some 1 :=
  ((cancelled_waiter reachable_readerThenWriter cancel_readerThenWriter (Machine.Reaches.refl _)
    terminate_cancelWriter).2 _ (Machine.Reaches.refl _)).1

/-- **A cancelled writer breaks the lock.** -/
theorem cancelled_writer_breaks :
    ¬ ∀ (s s₁ s₂ s₃ : State (Fin 2)) (t : Fin 2), machine.Reachable Anything s →
      s.step (.cancel t) = some s₁ → machine.Reaches Anything s₁ s₂ →
      s₂.step (.terminate t) = some s₃ → LeftIntact s₃ t := by
  intro claim
  have intact := claim _ _ _ _ 1 reachable_readerThenWriter cancel_readerThenWriter
    (Machine.Reaches.refl _) terminate_cancelWriter
  exact intact.mutex (by decide)

end Unpvol2.Rwlock
