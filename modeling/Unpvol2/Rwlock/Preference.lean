/-
**Writers are preferred.**

`rdlock` and `tryrdlock` test `rw_nwaitwriters`, so a reader is let in only while no writer waits.
A writer that is woken drops the counter and raises it again before it sleeps once more, but both
are in one section of the code.

* `InWrlock t` — thread `t` has begun to wait in `wrlock`, and the call has not returned.
* `Preferred` — while a read lock is on its way to a thread, no writer waits.
* `writer_preference` — **over the whole of a writer's wait no read lock is granted**, and the read
  locks that are out only become fewer.
-/

import Unpvol2.Rwlock.Accounting

set_option linter.unusedSectionVars false

namespace Unpvol2.Rwlock

open Interleaving

variable {ι : Type} [DecidableEq ι]

/-! ### A call of `wrlock` -/

/-- In `my_pthread_rwlock_wrlock`, from the first wait on. -/
def Loc.inWrlock : Loc → Bool
  | .condWait .wr | .asleep .wr | .woken .wr | .mutexUnlock (.lock .wr) _ => true
  | _ => false

/-- **Thread `t` has begun to wait in `wrlock`**, and the call has not returned. -/
def InWrlock (t : ι) (s : State ι) : Prop := (s.loc t).inWrlock = true

instance (t : ι) : DecidablePred (InWrlock t) :=
  fun s => inferInstanceAs (Decidable ((s.loc t).inWrlock = true))

/-- Such a thread stands in the wait loop, or is about to return. -/
theorem inWrlock_cases {loc : Loc} (inside : loc.inWrlock = true) :
    loc.waits .wr = true ∨ ∃ result, loc = .mutexUnlock (.lock .wr) result := by
  unfold Loc.inWrlock at inside
  split at inside
  · exact .inl rfl
  · exact .inl rfl
  · exact .inl rfl
  · exact .inr ⟨_, rfl⟩
  · cases inside

/-! ### Who lets a reader in -/

theorem inside_of_grants {loc : Loc} {m : Mode} (grants : loc.grants m = true) :
    loc.inside = true := by
  cases loc <;> first | rfl | cases grants

/-- The test lets a reader in only if no writer waits. -/
theorem not_busy {rw : MyPthreadRwlockT} (free : ¬ rw.busy .rd = true) : rw.nwait .wr ≤ 0 := by
  simp only [MyPthreadRwlockT.busy, Bool.or_eq_true, decide_eq_true_eq, not_or] at free
  exact not_lt.mp free.2

theorem lockLoop_grants {m : Mode} {rw : MyPthreadRwlockT}
    (grants : ((lockLoop m rw).2.loc (.lock m)).grants .rd = true) :
    (lockLoop m rw).1.nwait .wr ≤ 0 := by
  unfold lockLoop at grants ⊢
  split at grants
  · cases grants
  · rename_i free
    rw [if_neg free, take_nwait]
    cases m with
    | rd => exact not_busy free
    | wr => cases grants

theorem lockWaited_grants {m : Mode} {result : ℤ} {rw : MyPthreadRwlockT}
    (grants : ((lockWaited m result rw).2.loc (.lock m)).grants .rd = true) :
    (lockWaited m result rw).1.nwait .wr ≤ 0 := by
  unfold lockWaited at grants ⊢
  split at grants
  · rename_i failed
    simp [Pthread.loc, Loc.grants, failed] at grants
  · rename_i succeeded
    rw [if_neg succeeded]
    exact lockLoop_grants grants

theorem tryBody_grants {m : Mode} {rw : MyPthreadRwlockT}
    (grants : ((tryBody m rw).2.loc (.trylock m)).grants .rd = true) :
    (tryBody m rw).1.nwait .wr ≤ 0 := by
  unfold tryBody at grants ⊢
  split at grants
  · simp [Pthread.loc, Loc.grants, ebusy] at grants
  · rename_i free
    rw [if_neg free, take_nwait]
    cases m with
    | rd => exact not_busy free
    | wr => cases grants

/-- **A section that grants a read lock has found no writer waiting.** -/
theorem body_grants {c : Call} {rw : MyPthreadRwlockT}
    (grants : ((body c rw).2.loc c).grants .rd = true) : (body c rw).1.nwait .wr ≤ 0 := by
  cases c with
  | lock m => cases m <;> exact lockLoop_grants grants
  | trylock m => cases m <;> exact tryBody_grants grants
  | unlock =>
    cases next : (body .unlock rw).2 with
    | _ => rw [next] at grants; cases grants

/-- While a read lock is on its way to a thread, no writer waits. -/
def Preferred (s : State ι) : Prop :=
  ∀ u, (s.loc u).grants .rd = true → s.rw.nwait .wr ≤ 0

/-- The thread that moves has been granted a read lock by its own section. -/
theorem Step.granted {s s' : State ι} {action : Act ι} (step : Step s action s')
    (grants : (s'.loc action.thread).grants .rd = true) : s'.rw.nwait .wr ≤ 0 := by
  cases step with
  | lock t c here free =>
    rw [Act.thread, enter_loc, if_pos rfl] at grants
    exact body_grants grants
  | waitError t m result here failed =>
    rw [Act.thread, enter_loc, if_pos rfl] at grants
    exact lockWaited_grants grants
  | reacquire t m result here free =>
    rw [Act.thread, enter_loc, if_pos rfl] at grants
    exact lockWaited_grants grants
  | badMagic | lockError =>
    rw [Act.thread, fail_loc, if_pos rfl] at grants
    cases grants
  | mutexUnlock =>
    rw [Act.thread, leave_loc, if_pos rfl] at grants
    cases grants
  | wait =>
    rw [Act.thread, sleep_loc, if_pos rfl] at grants
    cases grants
  | terminate t m here free =>
    have loc : ({ s.goto t (.dead m) with rwMutex := some t } : State ι).loc t = .dead m :=
      goto_loc_self s t _
    rw [Act.thread, loc] at grants
    cases grants
  | _ =>
    rw [Act.thread, goto_loc_self] at grants
    cases grants

theorem Preferred.step {s s' : State ι} {action : Act ι} (owner : Owner s)
    (preferred : Preferred s) (step : Step s action s') : Preferred s' := by
  intro u grants
  by_cases own : u = action.thread
  · subst own
    exact step.granted grants
  · rcases step.others own with same | ⟨m, asleep, woke⟩
    · have before : (s.loc u).grants .rd = true := by
        unfold State.loc at grants ⊢
        rwa [same] at grants
      rw [(step.blocked owner (inside_of_grants before) (Ne.symm own)).1]
      exact preferred u before
    · unfold State.loc at grants
      rw [woke] at grants
      cases grants

section Runs

variable [Fintype ι] {ok : State ι → Act ι → Prop} {s s' : State ι} {t : ι}

theorem preferred_of_reachable (reachable : machine.Reachable ok s) : Preferred s := by
  refine reachable.induct nofun ?_
  intro s action s' before preferred _ step
  exact preferred.step (reachable_counted before).1 (step_cases step)

/-- While a writer is in its wait, no read lock is on its way to a thread. -/
theorem not_granted (reachable : machine.Reachable ok s) (waiting : InWrlock t s) (u : ι) :
    (s.loc u).grants .rd = false := by
  obtain ⟨owner, counted⟩ := reachable_counted reachable
  rw [Bool.eq_false_iff]
  intro grants
  rcases inWrlock_cases waiting with waits | ⟨result, returns⟩
  · have none := preferred_of_reachable reachable u grants
    have some := counted.pos waits
    omega
  · have inside : (s.loc t).inside = true := by
      rw [returns]
      rfl
    rw [owner.eq inside (inside_of_grants grants), returns] at grants
    cases grants

/-- A call that was not granted a read lock returns without one. -/
theorem returned_reads_le {x : Thread} {c : Call} {result : ℤ}
    (here : x.loc = .mutexUnlock c result) (ungranted : x.loc.grants .rd = false) :
    (x.returned c result).reads ≤ x.reads := by
  unfold Thread.returned
  split
  · exact le_refl _
  · rename_i granted
    rw [not_not] at granted
    rw [here, granted] at ungranted
    cases c with
    | lock m =>
      cases m with
      | rd => cases ungranted
      | wr => exact le_refl _
    | trylock m =>
      cases m with
      | rd => cases ungranted
      | wr => exact le_refl _
    | unlock =>
      dsimp only
      split
      · exact Nat.sub_le _ _
      · exact le_refl _

/-- **A step that finds no read lock on its way to a thread** gives that thread none. -/
theorem Step.reads_le {action : Act ι} (step : Step s action s') {u : ι}
    (ungranted : (s.loc u).grants .rd = false) :
    (s'.thread u).reads ≤ (s.thread u).reads := by
  rcases step.held u with same | ⟨c, result, here, rfl⟩
  · exact (same .rd).le
  · show Thread.reads (Function.update s.thread u _ u) ≤ _
    rw [Function.update_self]
    exact returned_reads_le here ungranted

/-- **From the moment a thread first waits in `wrlock` until that call returns, no thread is granted
a read lock**, and none has more of them than it had. -/
theorem writer_preference {actions : List (Act ι)} (reachable : machine.Reachable Anything s)
    (waiting : machine.Along (InWrlock t) s actions) (ran : machine.run s actions = some s')
    (u : ι) :
    (s'.loc u).grants .rd = false ∧ (s'.thread u).reads ≤ (s.thread u).reads := by
  induction actions generalizing s with
  | nil =>
    cases ran
    exact ⟨not_granted reachable waiting u, le_refl _⟩
  | cons action rest ih =>
    obtain ⟨next, step, ran⟩ := Option.bind_eq_some_iff.mp ran
    obtain ⟨granted, fewer⟩ := ih (reachable.next trivial step) (waiting.2 next step) ran
    have first := (step_cases step).reads_le (not_granted reachable waiting.1 u)
    exact ⟨granted, fewer.trans first⟩

end Runs

/-! ### A reader that comes after a waiting writer -/

/-- With thread `w` asleep in `wrlock`, thread `u` asks for a read lock and has to wait, thread `w`
wakes and goes back to sleep, and thread `r` gives its read lock back. -/
def readerAfterWriter (r w u : ι) : List (Act ι) :=
  [.call u (.lock .rd), .magic u, .mutexLock u 0, .condWait u 0, .spurious w, .reacquire w 0,
    .condWait w 0, .call r .unlock, .magic r, .mutexLock r 0, .condSignal r {w}, .mutexUnlock r]

theorem writer_preference_readerAfterWriter :
    ∃ s', machine.run (machine.after (readerThenWriter (0 : Fin 3) 1)) (readerAfterWriter 0 1 2) =
        some s' ∧
      s'.loc 2 = .asleep .rd ∧ (s'.loc 2).grants .rd = false ∧
      (s'.thread 0).reads ≤ ((machine.after (readerThenWriter (0 : Fin 3) 1)).thread 0).reads := by
  have reachable : machine.Reachable Anything (machine.after (readerThenWriter (0 : Fin 3) 1)) :=
    machine.reachable_after (by decide) (by decide)
  have waiting : machine.Along (InWrlock 1) (machine.after (readerThenWriter (0 : Fin 3) 1))
      (readerAfterWriter 0 1 2) := by decide
  have possible : (machine.run (machine.after (readerThenWriter (0 : Fin 3) 1))
      (readerAfterWriter 0 1 2)).any (fun s => decide (s.loc 2 = .asleep .rd)) = true := by decide
  obtain ⟨s', ran, asleep⟩ := (Option.any_eq_true _ _).mp possible
  have preferred := writer_preference reachable waiting ran
  exact ⟨s', ran, of_decide_eq_true asleep, (preferred 2).1, (preferred 0).2⟩

end Unpvol2.Rwlock
