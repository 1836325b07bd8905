/-
**The wrappers of the lock functions.**

`Pthread_rwlock_rdlock` and the others call the lock function of their name, and run `exit(1)` if
the result is not `0`. For the two `try` functions `EBUSY` is such a result.

* `Process` — the threads and their lock, and whether a wrapper has run `exit(1)`. A wrapper's test
  of the result is taken together with the return of the function it calls.
* `Uncontended` — what the section of a `try` call and that of an `unlock` must find.
* `not_ended_iff` — **the process goes on if and only if no `try` call meets a contended lock**, and
  no `unlock` a lock with `2 ^ 31` read locks out, where `rw_refcount` has overflowed.
-/

import Unpvol2.Rwlock.Accounting

set_option linter.unusedSectionVars false

namespace Unpvol2.Rwlock

open C Interleaving

/-! ### The wrappers -/

/-- How a wrapper ends: it returns, or it prints and runs `exit(1)`. -/
inductive Wrapped
  | returns (n : ℤ)
  | exit (message : String)
deriving DecidableEq

/-- The result `n` of the lock function must be `0`. -/
def orExit (message : String) (n : ℤ) : Wrapped :=
  if n ≠ 0 then .exit message else .returns n

def pthreadRwlockRdlock : ℤ → Wrapped := orExit "pthread_rwlock_rdlock error"

def pthreadRwlockWrlock : ℤ → Wrapped := orExit "pthread_rwlock_wrlock error"

def pthreadRwlockTryrdlock : ℤ → Wrapped := orExit "pthread_rwlock_tryrdlock error"

def pthreadRwlockTrywrlock : ℤ → Wrapped := orExit "pthread_rwlock_trywrlock error"

def pthreadRwlockUnlock : ℤ → Wrapped := orExit "pthread_rwlock_unlock error"

/-- What a wrapper does with the result of the function it has called. -/
def wrapper : Call → ℤ → Wrapped
  | .lock .rd => pthreadRwlockRdlock
  | .lock .wr => pthreadRwlockWrlock
  | .trylock .rd => pthreadRwlockTryrdlock
  | .trylock .wr => pthreadRwlockTrywrlock
  | .unlock => pthreadRwlockUnlock

/-- What is printed before `exit(1)`. -/
def Wrapped.message : Wrapped → Option String
  | .returns _ => none
  | .exit message => some message

/-- **A wrapper returns exactly if the function returned `0`.** -/
theorem wrapper_message (c : Call) (n : ℤ) : (wrapper c n).message = none ↔ n = 0 := by
  have general : ∀ message : String, (orExit message n).message = none ↔ n = 0 := by
    intro message
    unfold orExit
    split
    · rename_i failed
      exact ⟨nofun, fun zero => absurd zero failed⟩
    · rename_i succeeded
      exact ⟨fun _ => not_not.mp succeeded, fun _ => rfl⟩
  cases c with
  | lock m => cases m <;> exact general _
  | trylock m => cases m <;> exact general _
  | unlock => exact general _

/-! ### The process -/

variable {ι : Type} [DecidableEq ι]

/-- The call that returns in this step, and its result. -/
def State.returns (s : State ι) : Act ι → Option (Call × ℤ)
  | .magic t =>
    match s.loc t with
    | .entered c => if s.rw.rwMagic ≠ rwMagicValue then some (c, einval) else none
    | _ => none
  | .mutexLock t result =>
    match s.loc t with
    | .mutexLock c => if result ≠ 0 then some (c, result) else none
    | _ => none
  | .mutexUnlock t =>
    match s.loc t with
    | .mutexUnlock c result => some (c, result)
    | _ => none
  | _ => none

/-- The lock and its threads, and the message of the wrapper that has run `exit(1)`. -/
structure Process (ι : Type) where
  lock : State ι
  ended : Option String

variable [Fintype ι]

/-- One step of a thread, and of the wrapper it is in. -/
def Process.step (p : Process ι) (action : Act ι) : Option (Process ι) :=
  if p.ended.isSome then none
  else (p.lock.step action).map fun s =>
    ⟨s, (p.lock.returns action).bind fun returned => (wrapper returned.1 returned.2).message⟩

/-- The threads that call the wrappers. -/
def process : Machine (Process ι) (Act ι) := ⟨⟨start, none⟩, Process.step⟩

/-- **Neither a wrapper nor a lock function has run `exit(1)`.** -/
def Running (p : Process ι) : Prop := p.lock.exited = false ∧ p.ended = none

/-- Legal use, with pthread calls that succeed. -/
def LegalUse (p : Process ι) (action : Act ι) : Prop := Legal p.lock action ∧ Succeeds action

/-- What a thread about to run its section must find there: a `try` call a lock it can have, and an
`unlock` fewer than `2 ^ 31` read locks out. -/
def State.Meets (s : State ι) : Loc → Prop
  | .mutexLock (.trylock m) => s.rw.busy m = false
  | .mutexLock .unlock => FewReaders s
  | _ => True

def State.Uncontended (s : State ι) : Act ι → Prop
  | .mutexLock t _ => s.Meets (s.loc t)
  | _ => True

/-- **No `try` call meets a contended lock**, and no `unlock` an overflowed one. -/
def Uncontended (p : Process ι) (action : Act ι) : Prop := p.lock.Uncontended action

instance (p : Process ι) : Decidable (Running p) := inferInstanceAs (Decidable (_ ∧ _))

instance (p : Process ι) : DecidablePred (LegalUse p) :=
  fun _ => inferInstanceAs (Decidable (_ ∧ _))

instance (s : State ι) : DecidablePred s.Meets
  | .mutexLock (.trylock m) => inferInstanceAs (Decidable (s.rw.busy m = false))
  | .mutexLock .unlock => inferInstanceAs (Decidable (FewReaders s))
  | .mutexLock (.lock _) | .idle | .entered _ | .condWait _ | .asleep _ | .woken _ | .condSignal
  | .condBroadcast | .mutexUnlock _ _ | .exit | .cancelled _ | .dead _ => isTrue trivial

instance (s : State ι) : DecidablePred s.Uncontended
  | .mutexLock t _ => inferInstanceAs (Decidable (s.Meets (s.loc t)))
  | .call _ _ | .magic _ | .condWait _ _ | .spurious _ | .reacquire _ _ | .condSignal _ _
  | .condBroadcast _ | .mutexUnlock _ | .cancel _ | .terminate _ => isTrue trivial

instance (p : Process ι) : DecidablePred (Uncontended p) :=
  fun action => inferInstanceAs (Decidable (p.lock.Uncontended action))

/-! ### A lock with `2 ^ 31` read locks out -/

/-- `rw_refcount` has overflowed, and nobody is let in any more. -/
structure Frozen (s : State ι) : Prop where
  running : s.exited = false
  count : s.rw.rwRefcount = -2 ^ 31
  out : 2 ^ 31 ≤ s.outstanding .rd
  inside : ∀ t, (s.loc t).inside = true → ∃ m, s.loc t = .condWait m

theorem Frozen.busy {s : State ι} (frozen : Frozen s) (m : Mode) : s.rw.busy m = true := by
  cases m <;> simp [MyPthreadRwlockT.busy, frozen.count]

section Steps

variable {s s' : State ι} {action : Act ι}

/-- The locks that are out change by the return of a call only. -/
theorem Step.outstanding (step : Step s action s') :
    (∀ m, s'.outstanding m = s.outstanding m) ∨
      ∃ t c result, s.loc t = .mutexUnlock c result ∧ s' = s.leave t c result := by
  by_cases returns : ∃ t c result, s.loc t = .mutexUnlock c result ∧ s' = s.leave t c result
  · exact .inr returns
  · refine .inl fun m => Finset.sum_congr rfl fun t _ => ?_
    rcases step.held t with same | returned
    · exact congrArg Nat.cast (same m)
    · exact absurd ⟨t, returned⟩ returns

/-- **The read lock too many**: with its return the lock is frozen. -/
theorem Accounted.freezes (owner : Owner s) (accounted : Accounted s) (step : Step s action s')
    (many : ¬ FewReaders s') : Frozen s' := by
  have few := accounted.few
  have after := owner.step step
  rcases step.outstanding with same | ⟨t, c, result, here, rfl⟩
  · exact absurd (show s'.outstanding .rd < 2 ^ 31 from (same .rd).trans_lt few) many
  · have locks := accounted.leave_outstanding owner here
    have most := s.leave_outstanding_le t c result
    have full : s.locks .rd = 2 ^ 31 := by
      rw [← locks]
      unfold FewReaders at few many
      omega
    refine ⟨accounted.running, ?_, ?_, fun u inside => ?_⟩
    · rcases accounted.accounts with ⟨_, count⟩ | ⟨_, none, _⟩
      · show s.rw.rwRefcount = _
        rw [count, full]
        rfl
      · omega
    · rw [locks, full]
    · have outside := after.not_inside rfl u
      rw [outside] at inside
      cases inside

/-- The thread that moves lets nobody in, and does not end the process. -/
theorem Frozen.own (frozen : Frozen s) (initialised : Initialised s.rw)
    (alive : ∀ t, (s.loc t).alive = true) (legal : Legal s action) (succeeds : Succeeds action)
    (uncontended : s.Uncontended action) (step : Step s action s') :
    s'.exited = s.exited ∧ s'.rw.rwRefcount = s.rw.rwRefcount ∧
      ((s'.loc action.thread).inside = true → ∃ m, s'.loc action.thread = .condWait m) := by
  have count : ∀ (change : ℤ) (m : Mode), (s.rw.addWait change m).rwRefcount = s.rw.rwRefcount := by
    intro change m
    cases m <;> rfl
  have waits : ∀ (t : ι) (m : Mode) (rw : MyPthreadRwlockT), rw.rwRefcount = s.rw.rwRefcount →
      (s.enter t (.lock m) (rw.addWait 1 m, .condWait m)).exited = s.exited ∧
        (s.enter t (.lock m) (rw.addWait 1 m, .condWait m)).rw.rwRefcount = s.rw.rwRefcount ∧
        (((s.enter t (.lock m) (rw.addWait 1 m, .condWait m)).loc t).inside = true →
          ∃ m', (s.enter t (.lock m) (rw.addWait 1 m, .condWait m)).loc t = .condWait m') := by
    intro t m rw same
    refine ⟨Bool.or_false _, ?_, fun _ => ⟨m, ?_⟩⟩
    · rw [← same]
      cases m <;> rfl
    · rw [enter_loc, if_pos rfl]
      rfl
  have idle : ∀ (t : ι) (loc : Loc), loc.inside = false →
      (((s.goto t loc).loc t).inside = true → ∃ m, (s.goto t loc).loc t = .condWait m) := by
    intro t loc outside inside
    rw [goto_loc_self, outside] at inside
    cases inside
  cases step with
  | call t c | magic t c | wait t m | spurious t m => exact ⟨rfl, rfl, idle t _ rfl⟩
  | badMagic t c here bad => exact absurd initialised bad
  | lockError t c result here failed => exact absurd succeeds failed
  | waitError t m result here failed => exact absurd succeeds failed
  | lock t c here free =>
    have meets : s.Meets (s.loc t) := uncontended
    rw [here] at meets
    cases c with
    | lock m =>
      have body : body (.lock m) s.rw = (s.rw.addWait 1 m, .condWait m) := by
        cases m <;> exact if_pos (frozen.busy _)
      rw [body]
      exact waits t m s.rw rfl
    | trylock m => exact absurd (frozen.busy m) (Bool.eq_false_iff.mp meets)
    | unlock => exact absurd frozen.out (not_le.mpr meets)
  | reacquire t m result here free =>
    have fine : result = 0 := succeeds
    have busy : (s.rw.addWait (-1) m).busy m = true := by
      cases m <;> simp [MyPthreadRwlockT.busy, MyPthreadRwlockT.addWait, frozen.count]
    have waited : lockWaited m result s.rw =
        ((s.rw.addWait (-1) m).addWait 1 m, .condWait m) := by
      rw [fine]
      exact if_pos busy
    rw [waited]
    exact waits t m _ (count _ m)
  | condSignal t woken here | condBroadcast t woken all here | mutexUnlock t c result here =>
    obtain ⟨m, waiting⟩ := frozen.inside t (by rw [here]; rfl)
    rw [here] at waiting
    cases waiting
  | cancel t m here => exact legal.elim
  | terminate t m here free =>
    have living := alive t
    rw [here] at living
    cases living

/-- **A frozen lock stays frozen.** -/
theorem Frozen.step (frozen : Frozen s) (initialised : Initialised s.rw)
    (alive : ∀ t, (s.loc t).alive = true) (legal : Legal s action) (succeeds : Succeeds action)
    (uncontended : s.Uncontended action) (step : Step s action s') : Frozen s' := by
  obtain ⟨running, count, inside⟩ := frozen.own initialised alive legal succeeds uncontended step
  refine ⟨running.trans frozen.running, count.trans frozen.count, ?_, fun u => ?_⟩
  · rcases step.outstanding with same | ⟨t, c, result, here, _⟩
    · rw [same]
      exact frozen.out
    · obtain ⟨m, waiting⟩ := frozen.inside t (by rw [here]; rfl)
      rw [here] at waiting
      cases waiting
  · by_cases own : u = action.thread
    · rw [own]
      exact inside
    · intro now
      unfold State.loc at now ⊢
      rcases step.others own with same | ⟨m, _, woke⟩
      · rw [same] at now ⊢
        exact frozen.inside u now
      · rw [woke] at now
        cases now

/-! ### The results of the calls -/

/-- A section that meets a lock it can have returns `0`, if it returns. -/
theorem body_result {c : Call} {rw : MyPthreadRwlockT}
    (free : ∀ m, c = .trylock m → rw.busy m = false) {result : ℤ}
    (returns : (body c rw).2 = .mutexUnlock result) : result = 0 := by
  cases c with
  | lock m =>
    have next : (body (.lock m) rw).2 = .condWait m ∨ (body (.lock m) rw).2 = .mutexUnlock 0 := by
      cases m <;> exact lockLoop_next _ rw
    rcases next with eq | eq <;> rw [eq] at returns <;> cases returns
    rfl
  | trylock m =>
    have granted : (body (.trylock m) rw).2 = .mutexUnlock 0 := by
      have free := free m rfl
      cases m <;> exact congrArg Prod.snd (if_neg (Bool.eq_false_iff.mp free))
    rw [granted] at returns
    cases returns
    rfl
  | unlock =>
    change (myPthreadRwlockUnlock rw).2 = _ at returns
    unfold myPthreadRwlockUnlock at returns
    have woke : ∀ rw', (unlockWake rw').2 = .mutexUnlock result → result = 0 := by
      intro rw' returns
      rcases unlockWake_next rw' with eq | eq | eq <;> rw [eq] at returns <;> cases returns
      rfl
    split at returns
    · exact woke _ returns
    · split at returns
      · exact woke _ returns
      · cases returns

/-- Every call that is about to return returns `0`. -/
def Granting (s : State ι) : Prop :=
  ∀ t c result, s.loc t = .mutexUnlock c result → result = 0

theorem Granting.step (granting : Granting s) (succeeds : Succeeds action)
    (uncontended : s.Uncontended action) (step : Step s action s') : Granting s' := by
  -- the section that thread `t` has run
  have entered : ∀ (t : ι) (c : Call) (ran : MyPthreadRwlockT × Pthread),
      (∀ result, ran.2 = .mutexUnlock result → result = 0) → ∀ c' result,
      (s.enter t c ran).loc t = .mutexUnlock c' result → result = 0 := by
    intro t c ran zero c' result returns
    rw [enter_loc, if_pos rfl] at returns
    cases next : ran.2 with
    | mutexUnlock r =>
      rw [next] at returns
      cases returns
      exact zero _ next
    | _ =>
      rw [next] at returns
      cases returns
  have moved : ∀ (s : State ι) (t : ι) (loc : Loc), (∀ c result, loc = .mutexUnlock c result →
      result = 0) → ∀ c result, (s.goto t loc).loc t = .mutexUnlock c result → result = 0 := by
    intro s t loc zero c result returns
    rw [goto_loc_self] at returns
    exact zero c result returns
  intro u c result returns
  by_cases own : u = action.thread
  · subst own
    cases step with
    | lock t c' here free =>
      refine entered t c' _ (fun r returns => body_result ?_ returns) c result returns
      rintro m rfl
      have meets : s.Meets (s.loc t) := uncontended
      rw [here] at meets
      exact meets
    | waitError t m r here failed => exact absurd succeeds failed
    | reacquire t m r here free =>
      have fine : r = 0 := succeeds
      rw [fine] at returns
      refine entered t _ _ (fun r returns => ?_) c result returns
      rcases lockLoop_next m (s.rw.addWait (-1) m) with eq | eq
      · cases eq.symm.trans returns
      · cases eq.symm.trans returns
        rfl
    | badMagic t | lockError t =>
      rw [Act.thread, fail_loc, if_pos rfl] at returns
      cases returns
    | mutexUnlock t =>
      rw [Act.thread, leave_loc, if_pos rfl] at returns
      cases returns
    | condSignal t | condBroadcast t =>
      refine moved _ t _ ?_ c result returns
      rintro c' result' ⟨⟩
      rfl
    | _ =>
      refine moved _ _ _ (fun c' result' other => ?_) c result returns
      cases other
  · unfold State.loc at returns
    rcases step.others own with same | ⟨m, _, woke⟩
    · rw [same] at returns
      exact granting u c result returns
    · rw [woke] at returns
      cases returns

/-! ### Runs without a contended call -/

/-- What the uncontended calls keep. -/
structure Fine (s : State ι) : Prop where
  owner : Owner s
  initialised : Initialised s.rw
  alive : ∀ t, (s.loc t).alive = true
  granting : Granting s
  account : Accounted s ∨ Frozen s

theorem fine_start : Fine (start : State ι) :=
  ⟨owner_start, rfl, fun _ => rfl, nofun, .inl accounted_start⟩

theorem Fine.running (fine : Fine s) : s.exited = false := by
  rcases fine.account with accounted | frozen
  · exact accounted.running
  · exact frozen.running

theorem Fine.step (fine : Fine s) (legal : Legal s action) (succeeds : Succeeds action)
    (uncontended : s.Uncontended action) (step : Step s action s') : Fine s' := by
  refine ⟨fine.owner.step step, step.magic_eq.trans fine.initialised,
    alive_step fine.alive legal step, fine.granting.step succeeds uncontended step, ?_⟩
  rcases fine.account with accounted | frozen
  · by_cases few : FewReaders s'
    · exact .inl (accounted.step fine.owner legal few step)
    · exact .inr (accounted.freezes fine.owner step few)
  · exact .inr (frozen.step fine.initialised fine.alive legal succeeds uncontended step)

/-- No call of the step returns anything but `0`. -/
theorem Fine.returns (fine : Fine s) (succeeds : Succeeds action) {returned : Call × ℤ}
    (returns : s.returns action = some returned) : returned.2 = 0 := by
  cases action with
  | magic t =>
    unfold State.returns at returns
    dsimp only at returns
    split at returns
    · have initialised : s.rw.rwMagic = rwMagicValue := fine.initialised
      rw [if_neg (not_not.mpr initialised)] at returns
      cases returns
    · cases returns
  | mutexLock t result =>
    have zero : result = 0 := succeeds
    unfold State.returns at returns
    dsimp only at returns
    split at returns
    · rw [if_neg (not_not.mpr zero)] at returns
      cases returns
    · cases returns
  | mutexUnlock t =>
    unfold State.returns at returns
    dsimp only at returns
    split at returns
    · rename_i here
      cases returns
      exact fine.granting t _ _ here
    · cases returns
  | _ => cases returns

/-- A step of the process is a step of its threads. -/
theorem process_step {p p' : Process ι} (step : p.step action = some p') :
    Running p ∧ Step p.lock action p'.lock ∧
      p'.ended = (p.lock.returns action).bind fun returned =>
        (wrapper returned.1 returned.2).message := by
  unfold Process.step at step
  split at step
  · cases step
  · rename_i goes
    obtain ⟨s, moved, rfl⟩ := Option.map_eq_some_iff.mp step
    exact ⟨⟨not_exited_of_step moved, Option.not_isSome_iff_eq_none.mp goes⟩, step_cases moved, rfl⟩

/-- The process has not ended, and its calls have been uncontended. -/
def Goes (p : Process ι) : Prop := Fine p.lock ∧ p.ended = none

theorem Goes.running {p : Process ι} (goes : Goes p) : Running p := ⟨goes.1.running, goes.2⟩

theorem Goes.step {p p' : Process ι} (goes : Goes p) (legal : LegalUse p action)
    (uncontended : Uncontended p action) (step : p.step action = some p') : Goes p' := by
  obtain ⟨_, move, ended⟩ := process_step step
  refine ⟨goes.1.step legal.1 legal.2 uncontended move, ?_⟩
  rw [ended]
  cases returns : p.lock.returns action with
  | none => rfl
  | some returned => exact (wrapper_message _ _).mpr (goes.1.returns legal.2 returns)

/-! ### After a contended call -/

/-- The process has ended, or a `try` call is about to return `EBUSY`. -/
def Doomed (p : Process ι) : Prop :=
  ¬ Running p ∨ Owner p.lock ∧ ∃ t m, p.lock.loc t = .mutexUnlock (.trylock m) ebusy

/-- **A contended call**: `EBUSY` is on its way, or `unlock` has run `exit(1)`. -/
theorem Fine.contended (fine : Fine s) (succeeds : Succeeds action)
    (contended : ¬ s.Uncontended action) (step : Step s action s') :
    s'.exited = true ∨ ∃ t m, s'.loc t = .mutexUnlock (.trylock m) ebusy := by
  cases step with
  | lockError _ _ _ _ failed => exact absurd succeeds failed
  | lock t c here free =>
    have fails : ¬ s.Meets (s.loc t) := contended
    rw [here] at fails
    cases c with
    | lock m => exact absurd trivial fails
    | trylock m =>
      have busy : s.rw.busy m = true := Bool.eq_true_of_not_eq_false fails
      have refused : body (.trylock m) s.rw = (s.rw, .mutexUnlock ebusy) := by
        cases m <;> exact if_pos busy
      refine .inr ⟨t, m, ?_⟩
      rw [enter_loc, if_pos rfl, refused]
      rfl
    | unlock =>
      have count : s.rw.rwRefcount = -2 ^ 31 := by
        rcases fine.account with accounted | frozen
        · exact absurd accounted.few fails
        · exact frozen.count
      have exits : (body .unlock s.rw).2 = .exit := by
        show (myPthreadRwlockUnlock s.rw).2 = _
        unfold myPthreadRwlockUnlock
        rw [if_neg (by omega), if_neg (by omega)]
      left
      show (s.exited || decide ((body .unlock s.rw).2 = .exit)) = true
      rw [decide_eq_true exits, Bool.or_true]
  | _ => exact absurd trivial contended

/-- A thread that is about to return can only do so. -/
theorem Step.returning {c : Call} {result : ℤ} (step : Step s action s')
    (here : s.loc action.thread = .mutexUnlock c result) :
    action = .mutexUnlock action.thread := by
  cases step with
  | mutexUnlock t => rfl
  | cancel t m waits =>
    rw [Act.thread] at here
    rw [here] at waits
    rcases waits with waits | waits <;> cases waits
  | call t c' at_ | badMagic t c' at_ | magic t c' at_ | lockError t c' result' at_ | lock t c' at_
  | waitError t m result' at_ | wait t m at_ | spurious t m at_ | reacquire t m result' at_
  | condSignal t woken at_ | condBroadcast t everyone all at_ | terminate t m at_ =>
    rw [Act.thread, at_] at here
    cases here

theorem Goes.doomed {p p' : Process ι} (goes : Goes p) (legal : LegalUse p action)
    (contended : ¬ Uncontended p action) (step : p.step action = some p') : Doomed p' := by
  obtain ⟨_, move, _⟩ := process_step step
  rcases goes.1.contended legal.2 contended move with exited | refused
  · refine .inl fun running => ?_
    cases exited.symm.trans running.1
  · exact .inr ⟨goes.1.owner.step move, refused⟩

/-- The return of `EBUSY` ends the process. -/
theorem ended_of_returned {p p' : Process ι} {t : ι} {m : Mode}
    (here : p.lock.loc t = .mutexUnlock (.trylock m) ebusy)
    (step : p.step (.mutexUnlock t) = some p') : ¬ Running p' := by
  obtain ⟨_, _, ended⟩ := process_step step
  have returns : p.lock.returns (.mutexUnlock t) = some (.trylock m, ebusy) := by
    simp only [State.returns, here]
  rw [returns, Option.bind_some] at ended
  intro running
  have busy := (wrapper_message (.trylock m) ebusy).mp (ended.symm.trans running.2)
  exact absurd busy (by decide)

/-- A doomed process cannot do otherwise. -/
theorem Doomed.step {p p' : Process ι} (doomed : Doomed p) (step : p.step action = some p') :
    Doomed p' := by
  obtain ⟨running, move, _⟩ := process_step step
  rcases doomed with stopped | ⟨owner, t, m, here⟩
  · exact absurd running stopped
  · by_cases own : action.thread = t
    · subst own
      rw [move.returning here] at step
      exact .inl (ended_of_returned here step)
    · refine .inr ⟨owner.step move, t, m, ?_⟩
      have same := (move.blocked owner (by rw [here]; rfl) own).2.2
      unfold State.loc at here ⊢
      rw [same]
      exact here

/-! ### The result -/

/-- A call returns. -/
def Returns : Act ι → Prop
  | .mutexUnlock _ => True
  | _ => False

/-- **The process does not end, in a run of legal use and with the return of its last call, exactly
if no call of the run is contended.** -/
theorem not_ended_iff {actions : List (Act ι)} {p : Process ι}
    (legal : process.Admitted LegalUse process.init actions)
    (ran : process.run process.init actions = some p) :
    (∀ more, (∀ action ∈ more, Returns action) →
      process.Along Running process.init (actions ++ more)) ↔
      process.Admitted Uncontended process.init actions := by
  constructor
  · intro along
    refine (Machine.admitted_or_trapped (I := Goes) Doomed
      (fun _ _ _ goes legal uncontended step => goes.step legal uncontended step)
      (fun _ _ _ goes legal contended step => goes.doomed legal contended step)
      (fun _ _ _ doomed _ step => doomed.step step)
      ⟨fine_start, rfl⟩ legal ran).resolve_right ?_
    intro doomed
    have running : Running p := ((along [] nofun).after ran).head
    rcases doomed with stopped | ⟨_, t, m, here⟩
    · exact stopped running
    · have can : process.step p (.mutexUnlock t) = some
          ⟨p.lock.leave t (.trylock m) ebusy, (wrapper (.trylock m) ebusy).message⟩ := by
        show p.step (.mutexUnlock t) = _
        simp only [Process.step, State.step, State.act, State.returns, running.1, running.2, here,
          Option.isSome_none, Bool.false_eq_true, if_false, Option.map_some, Option.bind_some]
      have returned := along [.mutexUnlock t] (by simp [Returns])
      exact ended_of_returned here can ((returned.after ran).2 _ can)
  · intro uncontended more returns
    have all : process.Admitted (fun p action => LegalUse p action ∧ Uncontended p action)
        process.init (actions ++ more) := by
      refine Machine.admitted_append (legal.and uncontended) fun p action member => ?_
      have returning := returns action member
      cases action with
      | mutexUnlock t => exact ⟨⟨trivial, trivial⟩, trivial⟩
      | _ => exact returning.elim
    refine Machine.along_of_admitted (fun p reached => ?_) all
    have goes : Goes p := reached.induct
      (fun _ _ _ goes admitted step => goes.step admitted.1 admitted.2 step) ⟨fine_start, rfl⟩
    exact goes.running

end Steps

/-! ### A `try` call on a contended lock -/

/-- Thread `t` has the write lock. -/
def writerInside (t : ι) : List (Act ι) :=
  [.call t (.lock .wr), .magic t, .mutexLock t 0, .mutexUnlock t]

theorem not_ended_iff_writerInside :
    (∀ more : List (Act (Fin 2)), (∀ action ∈ more, Returns action) →
      process.Along Running process.init (writerInside 0 ++ more)) ↔
      process.Admitted Uncontended process.init (writerInside (0 : Fin 2)) :=
  not_ended_iff (p := process.after (writerInside 0)) (by decide) (Machine.run_after (by decide))

/-- Thread `u` tries for a read lock while thread `t` has the write lock. -/
def triesForRead (t u : ι) : List (Act ι) :=
  writerInside t ++ [.call u (.trylock .rd), .magic u, .mutexLock u 0, .mutexUnlock u]

/-- The wrapper of `tryrdlock` does not return `EBUSY`: it ends the process. -/
theorem try_ends_process : ¬ ∀ p : Process (Fin 2), process.Reachable LegalUse p → Running p := by
  intro runs
  have reachable : process.Reachable LegalUse (process.after (triesForRead (0 : Fin 2) 1)) :=
    process.reachable_after (by decide) (by decide)
  have running := runs _ reachable
  revert running
  decide

end Unpvol2.Rwlock
