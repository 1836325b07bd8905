/-
**What one step of the lock does.**

`Step s action s'` lists the steps with everything a step needs and everything it changes;
`step_cases` is the inversion of the step function into this list, and every invariant below is
proved by its cases. Three invariants hold in every run, errors and cancellations included:

* `Owner` — `rw_mutex` is held exactly by the thread that stands inside a section of the code;
* `Counted` — `rw_nwaitreaders` and `rw_nwaitwriters` count the threads that stand in the wait loops
  and those that were terminated there.
* `Initialised` — `rw_magic` keeps its value.
-/

import Unpvol2.Lib.Threads
import Unpvol2.Rwlock.Model

set_option linter.unusedSectionVars false

namespace Unpvol2.Rwlock

open Interleaving

variable {ι : Type} [DecidableEq ι]

/-! ### The list of the steps -/

/-- The steps, case by case. -/
inductive Step (s : State ι) : Act ι → State ι → Prop
  | call (t : ι) (c : Call) (here : s.loc t = .idle) :
      Step s (.call t c) (s.goto t (.entered c))
  | badMagic (t : ι) (c : Call) (here : s.loc t = .entered c)
      (bad : s.rw.rwMagic ≠ rwMagicValue) : Step s (.magic t) (s.fail t einval)
  | magic (t : ι) (c : Call) (here : s.loc t = .entered c) :
      Step s (.magic t) (s.goto t (.mutexLock c))
  | lockError (t : ι) (c : Call) (result : ℤ) (here : s.loc t = .mutexLock c)
      (failed : result ≠ 0) : Step s (.mutexLock t result) (s.fail t result)
  | lock (t : ι) (c : Call) (here : s.loc t = .mutexLock c) (free : s.rwMutex = none) :
      Step s (.mutexLock t 0) (s.enter t c (body c s.rw))
  | waitError (t : ι) (m : Mode) (result : ℤ) (here : s.loc t = .condWait m)
      (failed : result ≠ 0) :
      Step s (.condWait t result) (s.enter t (.lock m) (lockWaited m result s.rw))
  | wait (t : ι) (m : Mode) (here : s.loc t = .condWait m) :
      Step s (.condWait t 0) (s.sleep t m)
  | spurious (t : ι) (m : Mode) (here : s.loc t = .asleep m) :
      Step s (.spurious t) (s.goto t (.woken m))
  | reacquire (t : ι) (m : Mode) (result : ℤ) (here : s.loc t = .woken m)
      (free : s.rwMutex = none) :
      Step s (.reacquire t result) (s.enter t (.lock m) (lockWaited m result s.rw))
  | condSignal (t : ι) (woken : Finset ι) (here : s.loc t = .condSignal)
      (asleep : ∀ u ∈ woken, s.loc u = .asleep .wr)
      (someone : (∃ u, s.loc u = .asleep .wr) → woken.Nonempty) :
      Step s (.condSignal t woken) ((s.wake .wr woken).goto t (.mutexUnlock .unlock 0))
  | condBroadcast (t : ι) (everyone : Finset ι) (all : ∀ u, u ∈ everyone)
      (here : s.loc t = .condBroadcast) :
      Step s (.condBroadcast t) ((s.wake .rd everyone).goto t (.mutexUnlock .unlock 0))
  | mutexUnlock (t : ι) (c : Call) (result : ℤ) (here : s.loc t = .mutexUnlock c result) :
      Step s (.mutexUnlock t) (s.leave t c result)
  | cancel (t : ι) (m : Mode) (here : s.loc t = .asleep m ∨ s.loc t = .woken m) :
      Step s (.cancel t) (s.goto t (.cancelled m))
  | terminate (t : ι) (m : Mode) (here : s.loc t = .cancelled m) (free : s.rwMutex = none) :
      Step s (.terminate t) { s.goto t (.dead m) with rwMutex := some t }

/-- A process that has run `exit(1)` takes no step. -/
theorem not_exited_of_step [Fintype ι] {s s' : State ι} {action : Act ι}
    (step : s.step action = some s') : s.exited = false := by
  unfold State.step at step
  split at step
  · cases step
  · rename_i running
    exact Bool.eq_false_of_not_eq_true running

/-- **Every step is in the list.** -/
theorem step_cases [Fintype ι] {s s' : State ι} {action : Act ι}
    (step : s.step action = some s') : Step s action s' := by
  have running := not_exited_of_step step
  simp only [State.step, running, Bool.false_eq_true, if_false] at step
  cases action with
  | call t c =>
    simp only [State.act] at step
    split at step
    · cases step
      exact .call t c ‹_›
    · cases step
  | magic t =>
    simp only [State.act] at step
    split at step
    · split at step
      · cases step
        exact .badMagic t _ ‹_› ‹_›
      · cases step
        exact .magic t _ ‹_›
    · cases step
  | mutexLock t result =>
    simp only [State.act] at step
    split at step
    · split at step
      · cases step
        exact .lockError t _ result ‹_› ‹_›
      · rename_i succeeded
        rw [not_not] at succeeded
        subst succeeded
        split at step
        · cases step
          exact .lock t _ ‹_› ‹_›
        · cases step
    · cases step
  | condWait t result =>
    simp only [State.act] at step
    split at step
    · split at step
      · cases step
        exact .waitError t _ result ‹_› ‹_›
      · rename_i succeeded
        rw [not_not] at succeeded
        subst succeeded
        cases step
        exact .wait t _ ‹_›
    · cases step
  | spurious t =>
    simp only [State.act] at step
    split at step
    · cases step
      exact .spurious t _ ‹_›
    · cases step
  | reacquire t result =>
    simp only [State.act] at step
    split at step
    · split at step
      · cases step
        exact .reacquire t _ result ‹_› ‹_›
      · cases step
    · cases step
  | condSignal t woken =>
    simp only [State.act] at step
    split at step
    · split at step
      · rename_i chosen
        cases step
        exact .condSignal t woken ‹_› chosen.1 chosen.2
      · cases step
    · cases step
  | condBroadcast t =>
    simp only [State.act] at step
    split at step
    · cases step
      exact .condBroadcast t Finset.univ Finset.mem_univ ‹_›
    · cases step
  | mutexUnlock t =>
    simp only [State.act] at step
    split at step
    · cases step
      exact .mutexUnlock t _ _ ‹_›
    · cases step
  | cancel t =>
    simp only [State.act] at step
    split at step
    · cases step
      exact .cancel t _ (Or.inl ‹_›)
    · cases step
      exact .cancel t _ (Or.inr ‹_›)
    · cases step
  | terminate t =>
    simp only [State.act] at step
    split at step
    · split at step
      · rename_i mode here free
        cases step
        cases mode <;> exact .terminate t _ here free
      · cases step
    · cases step

/-! ### Reading an updated state -/

@[simp] theorem goto_loc_self (s : State ι) (t : ι) (loc : Loc) : (s.goto t loc).loc t = loc := by
  simp [State.goto, State.loc]

theorem goto_loc_ne (s : State ι) {t u : ι} (loc : Loc) (ne : u ≠ t) :
    (s.goto t loc).loc u = s.loc u := by
  simp [State.goto, State.loc, Function.update_of_ne ne]

theorem goto_loc (s : State ι) (t u : ι) (loc : Loc) :
    (s.goto t loc).loc u = if u = t then loc else s.loc u := by
  split
  · rename_i same
    rw [same, goto_loc_self]
  · exact goto_loc_ne s loc ‹_›

theorem fail_loc (s : State ι) (t u : ι) (result : ℤ) :
    (s.fail t result).loc u = if u = t then .idle else s.loc u := by
  split
  · rename_i same
    simp [State.fail, State.loc, same]
  · rename_i ne
    simp [State.fail, State.loc, Function.update_of_ne ne]

theorem enter_loc (s : State ι) (t u : ι) (c : Call) (ran : MyPthreadRwlockT × Pthread) :
    (s.enter t c ran).loc u = if u = t then ran.2.loc c else s.loc u :=
  goto_loc s t u _

theorem sleep_loc (s : State ι) (t u : ι) (m : Mode) :
    (s.sleep t m).loc u = if u = t then .asleep m else s.loc u :=
  goto_loc s t u _

theorem returned_loc (x : Thread) (c : Call) (result : ℤ) : (x.returned c result).loc = .idle := by
  unfold Thread.returned
  split
  · rfl
  · split <;> try rfl
    split <;> rfl

/-- A call that returns an error changes nothing else. -/
theorem returned_failed (x : Thread) (c : Call) {result : ℤ} (failed : result ≠ 0) :
    x.returned c result = { x with loc := .idle, result := result } :=
  if_pos failed

theorem leave_loc (s : State ι) (t u : ι) (c : Call) (result : ℤ) :
    (s.leave t c result).loc u = if u = t then .idle else s.loc u := by
  split
  · rename_i same
    simp [State.leave, State.loc, same, returned_loc]
  · rename_i ne
    simp [State.leave, State.loc, Function.update_of_ne ne]

theorem wake_loc (s : State ι) (m : Mode) (woken : Finset ι) (u : ι) :
    (s.wake m woken).loc u =
      if u ∈ woken ∧ s.loc u = .asleep m then .woken m else s.loc u := by
  show Thread.loc (if u ∈ woken ∧ s.loc u = .asleep m then _ else _) = _
  rw [apply_ite Thread.loc]
  rfl

theorem wake_loc_of_ne {s : State ι} {m : Mode} {woken : Finset ι} {u : ι}
    (awake : s.loc u ≠ .asleep m) : (s.wake m woken).loc u = s.loc u := by
  rw [wake_loc, if_neg fun sleeper => awake sleeper.2]

theorem wake_held (s : State ι) (m : Mode) (woken : Finset ι) (u : ι) (m' : Mode) :
    ((s.wake m woken).thread u).held m' = (s.thread u).held m' := by
  show Thread.held (if u ∈ woken ∧ s.loc u = .asleep m then _ else _) m' = _
  split
  · cases m' <;> rfl
  · rfl

theorem goto_held (s : State ι) (t u : ι) (loc : Loc) (m : Mode) :
    ((s.goto t loc).thread u).held m = (s.thread u).held m := by
  by_cases same : u = t
  · subst same
    have own : (s.goto u loc).thread u = { s.thread u with loc := loc } := Function.update_self ..
    rw [own]
    cases m <;> rfl
  · exact congrArg (Thread.held · m) (Function.update_of_ne same _ _)

/-- **Only the return of a call changes what a thread holds.** -/
theorem Step.held {s s' : State ι} {action : Act ι} (step : Step s action s') (u : ι) :
    (∀ m, (s'.thread u).held m = (s.thread u).held m) ∨
      ∃ c result, s.loc u = .mutexUnlock c result ∧ s' = s.leave u c result := by
  cases step with
  | mutexUnlock t c result here =>
    by_cases same : u = t
    · subst same
      exact .inr ⟨c, result, here, rfl⟩
    · exact .inl fun m => congrArg (Thread.held · m) (Function.update_of_ne same _ _)
  | condSignal | condBroadcast =>
    refine .inl fun m => ?_
    rw [goto_held, wake_held]
  | badMagic t | lockError t =>
    refine .inl fun m => ?_
    by_cases same : u = t
    · subst same
      have own : ∀ result, ((s.fail u result).thread u) =
          { s.thread u with loc := .idle, result := result } := fun _ => Function.update_self ..
      rw [own]
      cases m <;> rfl
    · exact congrArg (Thread.held · m) (Function.update_of_ne same _ _)
  | _ => exact .inl fun m => goto_held s _ u _ m

/-- **A step moves its own thread and wakes sleepers**, nothing else. -/
theorem Step.others {s s' : State ι} {action : Act ι} (step : Step s action s') {u : ι}
    (other : u ≠ action.thread) :
    s'.thread u = s.thread u ∨
      ∃ m, s.loc u = .asleep m ∧ s'.thread u = { s.thread u with loc := .woken m } := by
  have woke : ∀ (m : Mode) (woken : Finset ι) (loc : Loc) (t : ι), u ≠ t →
      ((s.wake m woken).goto t loc).thread u = s.thread u ∨
        ∃ m', s.loc u = .asleep m' ∧
          ((s.wake m woken).goto t loc).thread u = { s.thread u with loc := .woken m' } := by
    intro m woken loc t ne
    have kept : ((s.wake m woken).goto t loc).thread u = (s.wake m woken).thread u :=
      Function.update_of_ne ne _ _
    rw [kept]
    by_cases sleeper : u ∈ woken ∧ s.loc u = .asleep m
    · right
      exact ⟨m, sleeper.2, if_pos sleeper⟩
    · left
      exact if_neg sleeper
  cases step with
  | condSignal t woken _ _ _ => exact woke .wr woken _ t other
  | condBroadcast t everyone _ _ => exact woke .rd everyone _ t other
  | _ => exact Or.inl (Function.update_of_ne other _ _)

/-! ### The owner of `rw_mutex` -/

/-- The thread stands inside a section: it holds `rw_mutex`. -/
def Loc.inside : Loc → Bool
  | .condWait _ | .condSignal | .condBroadcast | .mutexUnlock _ _ | .exit | .dead _ => true
  | .idle | .entered _ | .mutexLock _ | .asleep _ | .woken _ | .cancelled _ => false

theorem Pthread.loc_inside (c : Call) (next : Pthread) : (next.loc c).inside = true := by
  cases next <;> rfl

/-- `rw_mutex` is held by the thread inside a section, and by no other. -/
def Owner (s : State ι) : Prop :=
  ∀ t, (s.loc t).inside = true ↔ s.rwMutex = some t

theorem owner_start : Owner (start : State ι) := by
  intro t
  simp [start, State.loc, Loc.inside]

theorem Owner.not_inside {s : State ι} (owner : Owner s) (free : s.rwMutex = none) (t : ι) :
    (s.loc t).inside = false := by
  rw [Bool.eq_false_iff]
  intro inside
  have := (owner t).mp inside
  rw [free] at this
  cases this

/-- Only the owner is inside. -/
theorem Owner.eq {s : State ι} (owner : Owner s) {t u : ι} (inside : (s.loc t).inside = true)
    (inside' : (s.loc u).inside = true) : u = t := by
  have first := (owner t).mp inside
  have second := (owner u).mp inside'
  rw [first] at second
  exact (Option.some.inj second).symm

/-- A step that neither takes nor releases `rw_mutex`. -/
theorem Owner.kept {s s' : State ι} (owner : Owner s) (mutex : s'.rwMutex = s.rwMutex)
    (inside : ∀ u, (s'.loc u).inside = (s.loc u).inside) : Owner s' := by
  intro u
  rw [inside, mutex]
  exact owner u

/-- A step of one thread that leaves it holding `rw_mutex`. -/
theorem Owner.taken {s s' : State ι} (owner : Owner s) (t : ι)
    (before : s.rwMutex = none ∨ s.rwMutex = some t) (mutex : s'.rwMutex = some t)
    (inside : (s'.loc t).inside = true) (others : ∀ u, u ≠ t → s'.loc u = s.loc u) :
    Owner s' := by
  intro u
  rw [mutex]
  by_cases same : u = t
  · subst same
    exact ⟨fun _ => rfl, fun _ => inside⟩
  · rw [others u same]
    constructor
    · intro now
      have := (owner u).mp now
      rcases before with free | mine
      · rw [free] at this
        cases this
      · rw [mine] at this
        exact this
    · intro now
      exact absurd (Option.some.inj now).symm same

/-- A step of the owner that releases `rw_mutex`. -/
theorem Owner.released {s s' : State ι} (owner : Owner s) (t : ι)
    (before : (s.loc t).inside = true) (mutex : s'.rwMutex = none)
    (outside : (s'.loc t).inside = false) (others : ∀ u, u ≠ t → s'.loc u = s.loc u) :
    Owner s' := by
  intro u
  rw [mutex]
  by_cases same : u = t
  · subst same
    simp [outside]
  · rw [others u same]
    constructor
    · intro inside
      exact absurd (owner.eq before inside) same
    · intro now
      cases now

theorem wake_inside (s : State ι) (m : Mode) (woken : Finset ι) (u : ι) :
    ((s.wake m woken).loc u).inside = (s.loc u).inside := by
  rw [wake_loc]
  split
  · rename_i sleeper
    rw [sleeper.2]
    rfl
  · rfl

/-- **The owner is kept by every step.** -/
theorem Owner.step {s s' : State ι} {action : Act ι} (owner : Owner s)
    (step : Step s action s') : Owner s' := by
  have moved : ∀ (t : ι) (loc : Loc), loc.inside = (s.loc t).inside → Owner (s.goto t loc) := by
    intro t loc same
    refine owner.kept rfl fun u => ?_
    rw [goto_loc]
    split
    · rename_i eq
      rw [eq, same]
    · rfl
  have woke : ∀ (t : ι) (m : Mode) (woken : Finset ι) (loc : Loc),
      loc.inside = (s.loc t).inside → Owner ((s.wake m woken).goto t loc) := by
    intro t m woken loc same
    refine owner.kept rfl fun u => ?_
    rw [goto_loc]
    split
    · rename_i eq
      rw [eq, same]
    · exact wake_inside s m woken u
  have failed : ∀ (t : ι) (result : ℤ), (s.loc t).inside = false → Owner (s.fail t result) := by
    intro t result outside
    refine owner.kept rfl fun u => ?_
    rw [fail_loc]
    split
    · rename_i eq
      rw [eq, outside]
      rfl
    · rfl
  have entered : ∀ (t : ι) (c : Call) (ran : MyPthreadRwlockT × Pthread),
      s.rwMutex = none ∨ s.rwMutex = some t → Owner (s.enter t c ran) := by
    intro t c ran before
    refine owner.taken t before rfl ?_ fun u ne => ?_
    · rw [enter_loc, if_pos rfl]
      exact Pthread.loc_inside c ran.2
    · rw [enter_loc, if_neg ne]
  cases step with
  | call t c here => exact moved t _ (by rw [here]; rfl)
  | badMagic t c here bad => exact failed t _ (by rw [here]; rfl)
  | magic t c here => exact moved t _ (by rw [here]; rfl)
  | lockError t c result here bad => exact failed t _ (by rw [here]; rfl)
  | lock t c here free => exact entered t c _ (Or.inl free)
  | waitError t m result here bad =>
    exact entered t _ _ (Or.inr ((owner t).mp (by rw [here]; rfl)))
  | wait t m here =>
    refine owner.released t (by rw [here]; rfl) rfl ?_ fun u ne => ?_
    · rw [sleep_loc, if_pos rfl]
      rfl
    · rw [sleep_loc, if_neg ne]
  | spurious t m here => exact moved t _ (by rw [here]; rfl)
  | reacquire t m result here free => exact entered t _ _ (Or.inl free)
  | condSignal t woken here asleep someone => exact woke t _ _ _ (by rw [here]; rfl)
  | condBroadcast t everyone all here => exact woke t _ _ _ (by rw [here]; rfl)
  | mutexUnlock t c result here =>
    refine owner.released t (by rw [here]; rfl) rfl ?_ fun u ne => ?_
    · rw [leave_loc, if_pos rfl]
      rfl
    · rw [leave_loc, if_neg ne]
  | cancel t m here =>
    refine moved t _ ?_
    rcases here with here | here <;> rw [here] <;> rfl
  | terminate t m here free =>
    refine owner.taken t (Or.inl free) rfl ?_ fun u ne => ?_
    · show ((s.goto t _).loc t).inside = true
      rw [goto_loc_self]
      rfl
    · exact goto_loc_ne s _ ne

/-- **While a thread is inside a section, the others change neither the lock nor that thread.** -/
theorem Step.blocked {s s' : State ι} {action : Act ι} (owner : Owner s)
    (step : Step s action s') {t : ι} (inside : (s.loc t).inside = true)
    (other : action.thread ≠ t) :
    s'.rw = s.rw ∧ s'.rwMutex = s.rwMutex ∧ s'.thread t = s.thread t := by
  have mine := (owner t).mp inside
  have stays : s'.thread t = s.thread t := by
    rcases step.others (Ne.symm other) with same | ⟨m, asleep, _⟩
    · exact same
    · rw [asleep] at inside
      cases inside
  have outside : (s.loc action.thread).inside = false := by
    rw [Bool.eq_false_iff]
    intro now
    exact other (owner.eq inside now)
  cases step with
  | lock _ _ _ free | reacquire _ _ _ _ free | terminate _ _ _ free =>
    rw [free] at mine
    cases mine
  | waitError u m result here _ => rw [Act.thread, here] at outside; cases outside
  | wait u m here => rw [Act.thread, here] at outside; cases outside
  | condSignal u woken here _ _ => rw [Act.thread, here] at outside; cases outside
  | condBroadcast u everyone _ here => rw [Act.thread, here] at outside; cases outside
  | mutexUnlock u c result here => rw [Act.thread, here] at outside; cases outside
  | _ => exact ⟨rfl, rfl, stays⟩

/-! ### What a section does to the wait counters -/

/-- The section ends in a wait on side `m`. -/
def Pthread.waitsOn (m : Mode) (next : Pthread) : ℤ := if next = .condWait m then 1 else 0

theorem addWait_nwait (rw : MyPthreadRwlockT) (change : ℤ) (m m' : Mode) :
    (rw.addWait change m).nwait m' = rw.nwait m' + (if m' = m then change else 0) := by
  cases m <;> cases m' <;> simp [MyPthreadRwlockT.addWait, MyPthreadRwlockT.nwait]

theorem take_nwait (rw : MyPthreadRwlockT) (m m' : Mode) :
    (rw.take m).nwait m' = rw.nwait m' := by
  cases m <;> cases m' <;> rfl

theorem lockLoop_nwait (m m' : Mode) (rw : MyPthreadRwlockT) :
    (lockLoop m rw).1.nwait m' = rw.nwait m' + (lockLoop m rw).2.waitsOn m' := by
  unfold lockLoop
  split
  · rw [addWait_nwait]
    cases m <;> cases m' <;> rfl
  · rw [take_nwait]
    exact (Int.add_zero _).symm

/-- **The rest of a wait uncounts the waiter**, and counts it again if it waits once more. -/
theorem lockWaited_nwait (m m' : Mode) (result : ℤ) (rw : MyPthreadRwlockT) :
    (lockWaited m result rw).1.nwait m' =
      rw.nwait m' - (if m' = m then 1 else 0) + (lockWaited m result rw).2.waitsOn m' := by
  unfold lockWaited
  split
  · rw [addWait_nwait]
    show _ = _ + 0
    split <;> omega
  · rw [lockLoop_nwait, addWait_nwait]
    split <;> omega

theorem unlockWake_fst (rw : MyPthreadRwlockT) : (unlockWake rw).1 = rw := by
  unfold unlockWake
  split
  · split <;> rfl
  · split <;> rfl

theorem unlockWake_waitsOn (rw : MyPthreadRwlockT) (m : Mode) :
    (unlockWake rw).2.waitsOn m = 0 := by
  unfold unlockWake
  split
  · split <;> rfl
  · split <;> rfl

/-- **A section counts its caller exactly if it ends in a wait.** -/
theorem body_nwait (c : Call) (m : Mode) (rw : MyPthreadRwlockT) :
    (body c rw).1.nwait m = rw.nwait m + (body c rw).2.waitsOn m := by
  have tried : ∀ m', (tryBody m' rw).1.nwait m = rw.nwait m + (tryBody m' rw).2.waitsOn m := by
    intro m'
    unfold tryBody
    split
    · exact (Int.add_zero _).symm
    · rw [take_nwait]
      exact (Int.add_zero _).symm
  cases c with
  | lock m' => cases m' <;> exact lockLoop_nwait _ m rw
  | trylock m' => cases m' <;> exact tried _
  | unlock =>
    show (myPthreadRwlockUnlock rw).1.nwait m = _ + (myPthreadRwlockUnlock rw).2.waitsOn m
    unfold myPthreadRwlockUnlock
    split
    · rw [unlockWake_fst, unlockWake_waitsOn]
      cases m <;> exact (Int.add_zero _).symm
    · split
      · rw [unlockWake_fst, unlockWake_waitsOn]
        cases m <;> exact (Int.add_zero _).symm
      · exact (Int.add_zero _).symm

/-! ### The wait counters -/

/-- The thread is inside the wait loop of side `m`. -/
def Loc.waits (m : Mode) : Loc → Bool
  | .condWait m' | .asleep m' | .woken m' | .cancelled m' => m' = m
  | _ => false

/-- The thread was terminated inside the wait loop of side `m`. -/
def Loc.died (m : Mode) : Loc → Bool
  | .dead m' => m' = m
  | _ => false

/-- The number of threads inside the wait loop of side `m`. -/
def State.waiting [Fintype ι] (s : State ι) (m : Mode) : ℤ :=
  count (fun x : Thread => x.loc.waits m) s.thread

/-- The number of threads terminated inside the wait loop of side `m`. -/
def State.gone [Fintype ι] (s : State ι) (m : Mode) : ℤ :=
  count (fun x : Thread => x.loc.died m) s.thread

/-- The weight of a location in the wait counter of side `m`. -/
def Loc.counted (m : Mode) (loc : Loc) : ℤ :=
  (if loc.waits m then 1 else 0) + (if loc.died m then 1 else 0)

theorem Pthread.loc_counted (c : Call) (m : Mode) (next : Pthread) :
    (next.loc c).counted m = next.waitsOn m := by
  cases next with
  | condWait m' => cases m <;> cases m' <;> rfl
  | condSignal | condBroadcast | mutexUnlock | exit => rfl

/-- **The wait counters count the threads in the wait loops**, and those that died there. -/
def Counted [Fintype ι] (s : State ι) : Prop :=
  ∀ m, s.rw.nwait m = total (fun x : Thread => x.loc.counted m) s.thread

theorem counted_start [Fintype ι] : Counted (start : State ι) := by
  intro m
  have none : total (fun x : Thread => x.loc.counted m) (start : State ι).thread = 0 :=
    total_eq_zero fun _ => rfl
  rw [none]
  cases m <;> rfl

/-- The two summands of the counter. -/
theorem Counted.eq [Fintype ι] {s : State ι} (counted : Counted s) (m : Mode) :
    s.rw.nwait m = s.waiting m + s.gone m := by
  rw [counted m]
  exact Finset.sum_add_distrib

theorem counted_nonneg (m : Mode) (loc : Loc) : 0 ≤ loc.counted m := by
  unfold Loc.counted
  split_ifs <;> omega

theorem Counted.nonneg [Fintype ι] {s : State ι} (counted : Counted s) (m : Mode) :
    0 ≤ s.rw.nwait m := by
  rw [counted m]
  exact total_nonneg (fun x : Thread => counted_nonneg m x.loc) s.thread

/-- A thread in the wait loop is counted. -/
theorem Counted.pos [Fintype ι] {s : State ι} (counted : Counted s) {m : Mode} {t : ι}
    (waits : (s.loc t).waits m = true) : 0 < s.rw.nwait m := by
  have one : 1 ≤ (s.loc t).counted m := by
    unfold Loc.counted
    rw [if_pos waits]
    split_ifs <;> omega
  have bound := le_total (w := fun x : Thread => x.loc.counted m) (r := s.thread)
    (fun _ => counted_nonneg m _) t
  rw [counted m]
  unfold State.loc at one
  omega

section Kept

variable [Fintype ι] {s s' : State ι}

/-- A step of one thread that changes a counter by its own change of weight. -/
theorem Counted.moved (counted : Counted s) (t : ι) (x : Thread)
    (thread : s'.thread = Function.update s.thread t x)
    (change : ∀ m, s'.rw.nwait m = s.rw.nwait m - (s.loc t).counted m + x.loc.counted m) :
    Counted s' := by
  intro m
  rw [thread, total_update, change, counted m]
  rfl

theorem Counted.goto (counted : Counted s) (t : ι) (loc : Loc)
    (same : ∀ m, loc.counted m = (s.loc t).counted m) : Counted (s.goto t loc) := by
  refine counted.moved t { s.thread t with loc := loc } rfl fun m => ?_
  show s.rw.nwait m = _ - _ + loc.counted m
  rw [same]
  omega

theorem Counted.wake (counted : Counted s) (m : Mode) (woken : Finset ι) :
    Counted (s.wake m woken) := by
  intro m'
  show s.rw.nwait m' = _
  rw [counted m']
  refine (total_rewrite _ fun u => ?_).symm
  show ((s.wake m woken).loc u).counted m' = (s.loc u).counted m'
  rw [wake_loc]
  split
  · rename_i sleeper
    rw [sleeper.2]
    rfl
  · rfl

end Kept

/-- **The wait counters are kept by every step.** -/
theorem Counted.step [Fintype ι] {s s' : State ι} {action : Act ι} (counted : Counted s)
    (step : Step s action s') : Counted s' := by
  -- a thread that runs a section: its own weight moves with the counter
  have entered : ∀ (t : ι) (c : Call) (ran : MyPthreadRwlockT × Pthread),
      (∀ m, ran.1.nwait m = s.rw.nwait m - (s.loc t).counted m + ran.2.waitsOn m) →
      Counted (s.enter t c ran) := by
    intro t c ran change
    refine counted.moved t { s.thread t with loc := ran.2.loc c } rfl fun m => ?_
    show ran.1.nwait m = _ - _ + (ran.2.loc c).counted m
    rw [Pthread.loc_counted, change]
  have waited : ∀ (t : ι) (m : Mode) (result : ℤ),
      (∀ m', (s.loc t).counted m' = if m' = m then 1 else 0) →
      Counted (s.enter t (.lock m) (lockWaited m result s.rw)) := by
    intro t m result weight
    refine entered t _ _ fun m' => ?_
    rw [lockWaited_nwait, weight]
  have left : ∀ (t : ι) (x : Thread) (s' : State ι), s'.rw = s.rw →
      s'.thread = Function.update s.thread t x →
      (∀ m, x.loc.counted m = 0) → (∀ m, (s.loc t).counted m = 0) → Counted s' := by
    intro t x s' rw' thread zero before
    refine counted.moved t x thread fun m => ?_
    rw [rw', zero, before]
    omega
  cases step with
  | call t c here => exact counted.goto t _ fun m => by rw [here]; rfl
  | badMagic t c here bad =>
    exact left t _ _ rfl rfl (fun m => rfl) fun m => by rw [here]; rfl
  | magic t c here => exact counted.goto t _ fun m => by rw [here]; rfl
  | lockError t c result here bad =>
    exact left t _ _ rfl rfl (fun m => rfl) fun m => by rw [here]; rfl
  | lock t c here free =>
    refine entered t c _ fun m => ?_
    rw [body_nwait, here]
    exact congrArg (· + _) (Int.sub_zero _).symm
  | waitError t m result here bad =>
    exact waited t m result fun m' => by rw [here]; cases m <;> cases m' <;> rfl
  | wait t m here =>
    exact counted.goto t (.asleep m) fun m' => by rw [here]; rfl
  | spurious t m here => exact counted.goto t _ fun m' => by rw [here]; rfl
  | reacquire t m result here free =>
    exact waited t m result fun m' => by rw [here]; cases m <;> cases m' <;> rfl
  | condSignal t woken here asleep someone =>
    refine (counted.wake .wr woken).goto t _ fun m => ?_
    rw [wake_loc_of_ne (by rw [here]; decide), here]
    rfl
  | condBroadcast t everyone all here =>
    refine (counted.wake .rd everyone).goto t _ fun m => ?_
    rw [wake_loc_of_ne (by rw [here]; decide), here]
    rfl
  | mutexUnlock t c result here =>
    exact left t _ _ rfl rfl (fun m => by rw [returned_loc]; rfl) fun m => by rw [here]; rfl
  | cancel t m here =>
    refine counted.goto t _ fun m' => ?_
    rcases here with here | here <;> rw [here] <;> rfl
  | terminate t m here free =>
    have gone := counted.goto t (.dead m) fun m' => by
      rw [here]
      cases m <;> cases m' <;> rfl
    exact gone

/-! ### `rw_magic` -/

/-- The lock has been initialised and not destroyed. -/
def Initialised (rw : MyPthreadRwlockT) : Prop := rw.rwMagic = rwMagicValue

theorem addWait_magic (rw : MyPthreadRwlockT) (change : ℤ) (m : Mode) :
    (rw.addWait change m).rwMagic = rw.rwMagic := by
  cases m <;> rfl

theorem take_magic (rw : MyPthreadRwlockT) (m : Mode) : (rw.take m).rwMagic = rw.rwMagic := by
  cases m <;> rfl

theorem lockLoop_magic (m : Mode) (rw : MyPthreadRwlockT) :
    (lockLoop m rw).1.rwMagic = rw.rwMagic := by
  unfold lockLoop
  split
  · exact addWait_magic rw 1 m
  · exact take_magic rw m

theorem lockWaited_magic (m : Mode) (result : ℤ) (rw : MyPthreadRwlockT) :
    (lockWaited m result rw).1.rwMagic = rw.rwMagic := by
  unfold lockWaited
  split
  · exact addWait_magic rw (-1) m
  · rw [lockLoop_magic, addWait_magic]

theorem tryBody_magic (m : Mode) (rw : MyPthreadRwlockT) :
    (tryBody m rw).1.rwMagic = rw.rwMagic := by
  unfold tryBody
  split
  · rfl
  · exact take_magic rw m

/-- No function of the lock but `init` and `destroy` writes `rw_magic`. -/
theorem body_magic (c : Call) (rw : MyPthreadRwlockT) : (body c rw).1.rwMagic = rw.rwMagic := by
  cases c with
  | lock m => cases m <;> exact lockLoop_magic _ rw
  | trylock m => cases m <;> exact tryBody_magic _ rw
  | unlock =>
    show (myPthreadRwlockUnlock rw).1.rwMagic = rw.rwMagic
    unfold myPthreadRwlockUnlock
    split_ifs <;> first | rw [unlockWake_fst] | rfl

theorem Step.magic_eq {s s' : State ι} {action : Act ι} (step : Step s action s') :
    s'.rw.rwMagic = s.rw.rwMagic := by
  cases step with
  | lock t c here free => exact body_magic c s.rw
  | waitError t m result here failed => exact lockWaited_magic m result s.rw
  | reacquire t m result here free => exact lockWaited_magic m result s.rw
  | _ => rfl

/-- **The lock stays initialised.** -/
theorem reachable_initialised [Fintype ι] {ok : State ι → Act ι → Prop} {s : State ι}
    (reachable : machine.Reachable ok s) : Initialised s.rw := by
  refine reachable.induct (I := fun s : State ι => Initialised s.rw) ?_ ?_
  · exact show (start : State ι).rw.rwMagic = rwMagicValue from rfl
  · intro s action s' _ initialised _ step
    exact (step_cases step).magic_eq.trans initialised

end Unpvol2.Rwlock
