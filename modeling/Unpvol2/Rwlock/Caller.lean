/-
**The lock as a caller sees it.**

A program that uses the lock knows of its threads only whether they are in a call. For a caller
whose pthread calls succeed:

* `Step.caller` — a thread in `rdlock`, `wrlock` or `unlock` stays in that call, or the call
  returns `0`;
* `Step.idle` — a thread outside the lock is left alone;
* `can_step` — a thread in a call can go on unless it sleeps or has to wait for `rw_mutex`;
* `Accounted.writer_alone` — while one thread has the write lock nobody else has any lock.
-/

import Unpvol2.Rwlock.Accounting

set_option linter.unusedSectionVars false

namespace Unpvol2.Rwlock

open Interleaving

variable {ι : Type} [DecidableEq ι]

/-! ### A thread in a call -/

/-- The thread is in the call `c`, which has met no error. -/
def Loc.serves (c : Call) : Loc → Bool
  | .entered c' | .mutexLock c' => c' = c
  | .mutexUnlock c' result => c' = c && result = 0
  | .condWait m | .asleep m | .woken m => c = .lock m
  | .condSignal | .condBroadcast | .exit => c = .unlock
  | .idle | .cancelled _ | .dead _ => false

/-- The functions that return `0` or an error of a pthread call. -/
def Call.blocking : Call → Bool
  | .lock _ | .unlock => true
  | .trylock _ => false

theorem lockLoop_serves (m : Mode) (rw : MyPthreadRwlockT) :
    ((lockLoop m rw).2.loc (.lock m)).serves (.lock m) = true := by
  unfold lockLoop
  split <;> simp [Pthread.loc, Loc.serves]

theorem unlockWake_serves (rw : MyPthreadRwlockT) :
    ((unlockWake rw).2.loc .unlock).serves .unlock = true := by
  unfold unlockWake
  split_ifs <;> rfl

/-- The section of a blocking function ends inside the call. -/
theorem body_serves {c : Call} (blocking : c.blocking = true) (rw : MyPthreadRwlockT) :
    ((body c rw).2.loc c).serves c = true := by
  cases c with
  | lock m => cases m <;> exact lockLoop_serves _ rw
  | trylock m => cases blocking
  | unlock =>
    show ((myPthreadRwlockUnlock rw).2.loc .unlock).serves .unlock = true
    unfold myPthreadRwlockUnlock
    split_ifs
    · exact unlockWake_serves _
    · exact unlockWake_serves _
    · rfl

theorem lockWaited_serves (m : Mode) (rw : MyPthreadRwlockT) :
    ((lockWaited m 0 rw).2.loc (.lock m)).serves (.lock m) = true :=
  lockLoop_serves m (rw.addWait (-1) m)

section Steps

variable {s s' : State ι} {action : Act ι} {t : ι}

/-- A step of a thread leads on in its call, or out of it. -/
theorem Step.serves (step : Step s action s') (inner : action.inner = true)
    (succeeds : Succeeds action) (initialised : Initialised s.rw) {c : Call}
    (blocking : c.blocking = true) (serves : (s.loc action.thread).serves c = true) :
    (s'.loc action.thread).serves c = true ∨
      s'.thread action.thread = (s.thread action.thread).returned c 0 := by
  have moved : ∀ {s : State ι} {t : ι} {loc : Loc}, loc.serves c = true →
      ((s.goto t loc).loc t).serves c = true := by
    intro s t loc stays
    rw [goto_loc_self]
    exact stays
  cases step with
  | call => cases inner
  | cancel => cases inner
  | badMagic t c' here bad => exact absurd initialised bad
  | lockError t c' result here failed => exact absurd succeeds failed
  | waitError t m result here failed => exact absurd succeeds failed
  | magic t c' here =>
    rw [Act.thread, here] at serves
    exact Or.inl (moved serves)
  | lock t c' here free =>
    rw [Act.thread, here] at serves
    cases of_decide_eq_true serves
    exact Or.inl (moved (body_serves blocking s.rw))
  | wait t m here =>
    rw [Act.thread, here] at serves
    exact Or.inl (moved serves)
  | spurious t m here =>
    rw [Act.thread, here] at serves
    exact Or.inl (moved serves)
  | reacquire t m result here free =>
    rw [Act.thread, here] at serves
    cases of_decide_eq_true serves
    have fine : result = 0 := succeeds
    rw [fine]
    exact Or.inl (moved (lockWaited_serves m s.rw))
  | condSignal t woken here asleep someone =>
    rw [Act.thread, here] at serves
    cases of_decide_eq_true serves
    exact Or.inl (moved rfl)
  | condBroadcast t everyone all here =>
    rw [Act.thread, here] at serves
    cases of_decide_eq_true serves
    exact Or.inl (moved rfl)
  | mutexUnlock t c' result here =>
    right
    rw [Act.thread, here] at serves
    simp only [Loc.serves, Bool.and_eq_true, decide_eq_true_eq] at serves
    obtain ⟨rfl, rfl⟩ := serves
    exact Function.update_self ..
  | terminate t m here free =>
    rw [Act.thread, here] at serves
    cases serves

/-- **A call goes on, or returns `0`.** -/
theorem Step.caller (step : Step s action s') (inner : action.inner = true)
    (succeeds : Succeeds action) (initialised : Initialised s.rw) {c : Call}
    (blocking : c.blocking = true) (serves : (s.loc t).serves c = true) :
    ((s'.loc t).serves c = true ∧ ∀ m, (s'.thread t).held m = (s.thread t).held m) ∨
      s'.thread t = (s.thread t).returned c 0 := by
  by_cases own : t = action.thread
  · subst own
    rcases step.serves inner succeeds initialised blocking serves with stays | returned
    · rcases step.held action.thread with same | ⟨c', result, here, rfl⟩
      · exact Or.inl ⟨stays, same⟩
      · rw [here] at serves
        simp only [Loc.serves, Bool.and_eq_true, decide_eq_true_eq] at serves
        obtain ⟨rfl, rfl⟩ := serves
        exact Or.inr (Function.update_self ..)
    · exact Or.inr returned
  · left
    unfold State.loc at serves ⊢
    rcases step.others own with same | ⟨m, asleep, woke⟩
    · rw [same]
      exact ⟨serves, fun _ => rfl⟩
    · unfold State.loc at asleep
      rw [woke]
      rw [asleep] at serves
      exact ⟨serves, fun m' => by cases m' <;> rfl⟩

/-- **A thread outside the lock is left alone.** -/
theorem Step.idle (step : Step s action s') (inner : action.inner = true)
    (idle : s.loc t = .idle) : s'.thread t = s.thread t := by
  by_cases own : t = action.thread
  · subst own
    cases step with
    | call => cases inner
    | cancel => cases inner
    | _ => simp_all [Act.thread]
  · rcases step.others own with same | ⟨m, asleep, _⟩
    · exact same
    · rw [idle] at asleep
      cases asleep

end Steps

/-- Legal use with few readers, in which every pthread call succeeds. -/
def Proper [Fintype ι] (s : State ι) (action : Act ι) : Prop :=
  LegalFew s action ∧ Succeeds action

/-! ### What a call brings and takes -/

/-- The thread has no lock. -/
def Thread.Free (x : Thread) : Prop := ∀ m, x.held m = 0

/-- The thread has one lock, of side `m`. -/
def Thread.Has (m : Mode) (x : Thread) : Prop := ∀ m', x.held m' = if m' = m then 1 else 0

theorem Thread.Free.of_held {x y : Thread} (none : x.Free) (same : ∀ m, y.held m = x.held m) :
    y.Free :=
  fun m => (same m).trans (none m)

theorem Thread.Has.of_held {m : Mode} {x y : Thread} (one : x.Has m)
    (same : ∀ m, y.held m = x.held m) : y.Has m :=
  fun m' => (same m').trans (one m')

theorem Thread.Has.holds {m : Mode} {x : Thread} (one : x.Has m) : x.Holds := by
  have own := one m
  rw [if_pos rfl] at own
  cases m with
  | rd => exact Or.inl (by simp only [Thread.held] at own; omega)
  | wr => exact Or.inr (by simp only [Thread.held] at own; omega)

/-- A lock call that returns `0` brings one lock. -/
theorem Thread.Free.returned_lock {x : Thread} (none : x.Free) (m : Mode) :
    (x.returned (.lock m) 0).loc = .idle ∧ (x.returned (.lock m) 0).Has m := by
  refine ⟨returned_loc x _ _, fun m' => ?_⟩
  have reads := none .rd
  have writes := none .wr
  simp only [Thread.held] at reads writes
  cases m <;> cases m' <;> simp [Thread.returned, Thread.held, reads, writes]

/-- An `unlock` takes it. -/
theorem Thread.Has.returned_unlock {m : Mode} {x : Thread} (one : x.Has m) :
    (x.returned .unlock 0).loc = .idle ∧ (x.returned .unlock 0).Free := by
  refine ⟨returned_loc x _ _, fun m' => ?_⟩
  have reads := one .rd
  have writes := one .wr
  simp only [Thread.held] at reads writes
  cases m with
  | rd =>
    have side : x.released = .rd := if_neg (by simp [writes])
    cases m' <;> simp [Thread.returned, Thread.held, side, reads, writes]
  | wr =>
    have side : x.released = .wr := if_pos (by simp [writes])
    cases m' <;> simp [Thread.returned, Thread.held, side, reads, writes]

/-! ### `exit(1)` -/

theorem Pthread.loc_exit {c : Call} {next : Pthread} (exit : next.loc c = .exit) :
    next = .exit := by
  cases next <;> first | rfl | cases exit

/-- **Who stands at `exit(1)` has ended the process.** -/
theorem reachable_exit [Fintype ι] {ok : State ι → Act ι → Prop} {s : State ι}
    (reachable : machine.Reachable ok s) (t : ι) (here : s.loc t = .exit) : s.exited = true := by
  refine reachable.induct (I := fun s : State ι => ∀ t, s.loc t = .exit → s.exited = true)
    (fun t here => by cases here) ?_ t here
  intro s action s' _ before _ stepped t here
  have running := not_exited_of_step stepped
  have step := step_cases stepped
  have nobody : ∀ u, s.loc u ≠ .exit := by
    intro u there
    rw [before u there] at running
    cases running
  have entered : ∀ (u : ι) (c : Call) (ran : MyPthreadRwlockT × Pthread),
      (s.enter u c ran).loc t = .exit → (s.enter u c ran).exited = true := by
    intro u c ran there
    rw [enter_loc] at there
    split at there
    · show (s.exited || decide (ran.2 = .exit)) = true
      rw [Pthread.loc_exit there, decide_eq_true rfl, Bool.or_true]
    · exact absurd there (nobody t)
  by_cases own : t = action.thread
  · subst own
    cases step with
    | lock | waitError | reacquire => exact entered _ _ _ here
    | badMagic | lockError => rw [Act.thread, fail_loc, if_pos rfl] at here; cases here
    | wait => rw [Act.thread, sleep_loc, if_pos rfl] at here; cases here
    | mutexUnlock => rw [Act.thread, leave_loc, if_pos rfl] at here; cases here
    | terminate u m => cases (goto_loc_self s u (.dead m)).symm.trans here
    | _ => rw [Act.thread, goto_loc_self] at here; cases here
  · unfold State.loc at here
    rcases step.others own with same | ⟨m, _, woke⟩
    · rw [same] at here
      exact absurd here (nobody t)
    · rw [woke] at here
      cases here

/-! ### A thread that can go on -/

section Progress

variable [Fintype ι] {s : State ι} {t : ι}

/-- A step of the thread's own, with every pthread call succeeding, is possible. -/
def CanStep (s : State ι) : Prop :=
  ∃ action : Act ι, action.own = true ∧ Succeeds action ∧ (s.step action).isSome = true

theorem step_eq_act (running : s.exited = false) (action : Act ι) :
    s.step action = s.act action := by
  rw [State.step, running]
  rfl

/-- **Who holds `rw_mutex` can go on.** -/
theorem can_step_inside (running : s.exited = false) {c : Call}
    (serves : (s.loc t).serves c = true) (inside : (s.loc t).inside = true)
    (stays : s.loc t ≠ .exit) : CanStep s := by
  cases here : s.loc t with
  | condWait m =>
    exact ⟨.condWait t 0, rfl, rfl, by rw [step_eq_act running]; simp [State.act, here]⟩
  | condSignal =>
    refine ⟨.condSignal t (Finset.univ.filter fun u => s.loc u = .asleep .wr), rfl, trivial, ?_⟩
    rw [step_eq_act running]
    have woken : (∃ u, s.loc u = .asleep .wr) →
        (Finset.univ.filter fun u => s.loc u = .asleep .wr).Nonempty := by
      rintro ⟨u, asleep⟩
      exact ⟨u, Finset.mem_filter.mpr ⟨Finset.mem_univ u, asleep⟩⟩
    simp only [State.act, here]
    rw [if_pos ⟨fun u member => (Finset.mem_filter.mp member).2, woken⟩]
    rfl
  | condBroadcast =>
    exact ⟨.condBroadcast t, rfl, trivial, by rw [step_eq_act running]; simp [State.act, here]⟩
  | mutexUnlock c' result =>
    exact ⟨.mutexUnlock t, rfl, trivial, by rw [step_eq_act running]; simp [State.act, here]⟩
  | exit => exact absurd here stays
  | dead m => rw [here] at serves; cases serves
  | _ => rw [here] at inside; cases inside

/-- **With `rw_mutex` free only sleepers cannot go on.** -/
theorem can_step_free (running : s.exited = false) (initialised : Initialised s.rw)
    (free : s.rwMutex = none) {c : Call} (serves : (s.loc t).serves c = true)
    (outside : (s.loc t).inside = false) (awake : ∀ m, s.loc t ≠ .asleep m) : CanStep s := by
  cases here : s.loc t with
  | entered c' =>
    refine ⟨.magic t, rfl, trivial, ?_⟩
    have magic : ¬ s.rw.rwMagic ≠ rwMagicValue := not_not.mpr initialised
    rw [step_eq_act running]
    simp only [State.act, here]
    rw [if_neg magic]
    rfl
  | mutexLock c' =>
    exact ⟨.mutexLock t 0, rfl, rfl, by rw [step_eq_act running]; simp [State.act, here, free]⟩
  | woken m =>
    exact ⟨.reacquire t 0, rfl, rfl, by rw [step_eq_act running]; simp [State.act, here, free]⟩
  | asleep m => exact absurd here (awake m)
  | idle | cancelled => rw [here] at serves; cases serves
  | _ => rw [here] at outside; cases outside

end Progress

/-! ### The exclusion, thread by thread -/

/-- **While one thread has the write lock nobody else has any lock.** -/
theorem Accounted.writer_alone [Fintype ι] {s : State ι} (accounted : Accounted s) {t u : ι}
    (ne : t ≠ u) (idle : s.loc t = .idle) (writes : 0 < (s.thread t).writes)
    (idle' : s.loc u = .idle) : ¬ (s.thread u).Holds := by
  have plain : ∀ m v, s.loc v = .idle → (s.thread v).locks m = (s.thread v).held m := by
    intro m v idle
    unfold State.loc at idle
    exact locks_of_plain (by rw [idle]; rfl) (by rw [idle]; rfl)
  have both : ∀ m, (s.thread t).locks m + (s.thread u).locks m ≤ s.locks m := fun m =>
    add_le_total (w := Thread.locks m) (fun v => accounted.thread_locks_nonneg v m) ne
  have reads := both .rd
  have writes' := both .wr
  rw [plain _ _ idle, plain _ _ idle'] at reads writes'
  simp only [Thread.held] at reads writes'
  unfold Thread.Holds
  rcases accounted.accounts with ⟨none, _⟩ | ⟨one, none, _⟩ <;> omega

end Unpvol2.Rwlock
