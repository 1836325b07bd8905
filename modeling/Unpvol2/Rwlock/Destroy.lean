/-
**`my_pthread_rwlock_destroy` among the other functions.**

`destroy` reads `rw_magic` and the three counts, and sets `rw_magic` to `0`, without `rw_mutex`; the
other functions test `rw_magic` before they take it. So a thread that has passed its test may get
the lock after `destroy` has read the counts, or after it has returned.

* `Destroying` — the lock, its threads and one thread in `destroy`; each of `destroy`'s accesses is
  a step. What `pthread_mutex_destroy` and `pthread_cond_destroy` return is not looked at, and they
  change no field; what `pthread_mutex_lock` makes of a destroyed mutex is the environment's choice.
* `Unused` — `destroy` returns `0` on a lock nobody uses, and nobody gets a lock after it.
* `Undisturbed` — what must hold where `rw_magic` is set, and after it.
* `unused_iff` — **in exactly the undisturbed runs of legal use `destroy` does what it should.**
-/

import Unpvol2.Rwlock.Wrappers

set_option linter.unusedSectionVars false

namespace Unpvol2.Rwlock

open C Interleaving

/-! ### The model -/

/-- Where the thread in `my_pthread_rwlock_destroy` stands. -/
inductive DestroyPc
  /-- at the test of `rw_magic` -/
  | magic
  /-- at the tests of the counts -/
  | refcount
  | nwaitreaders
  | nwaitwriters
  /-- at `pthread_mutex_destroy` and the two `pthread_cond_destroy` -/
  | pthreads
  /-- at `rw->rw_magic = 0; return(0)` -/
  | clear
  | returned (result : ℤ)
deriving DecidableEq

/-- The next access of `destroy`. -/
def DestroyPc.next (rw : MyPthreadRwlockT) : DestroyPc → Option (DestroyPc × MyPthreadRwlockT)
  | .magic => some (if rw.rwMagic ≠ rwMagicValue then .returned einval else .refcount, rw)
  | .refcount => some (if rw.rwRefcount ≠ 0 then .returned ebusy else .nwaitreaders, rw)
  | .nwaitreaders => some (if rw.rwNwaitreaders ≠ 0 then .returned ebusy else .nwaitwriters, rw)
  | .nwaitwriters => some (if rw.rwNwaitwriters ≠ 0 then .returned ebusy else .pthreads, rw)
  | .pthreads => some (.clear, rw)
  | .clear => some (.returned 0, { rw with rwMagic := 0 })
  | .returned _ => none

/-- The result of an error return is `EBUSY` or `EINVAL`. -/
def DestroyPc.proper : DestroyPc → Bool
  | .returned result => result = ebusy ∨ result = einval
  | _ => true

/-- The lock and its threads, and the thread in `destroy`. -/
structure Destroying (ι : Type) where
  lock : State ι
  destroy : DestroyPc

/-- A step of the threads, or the next access of `destroy`. -/
inductive DestroyAct (ι : Type)
  | lock (action : Act ι)
  | destroy

variable {ι : Type} [DecidableEq ι]

/-- The thread in `destroy` makes its access. -/
def Destroying.access (s : Destroying ι) (next : DestroyPc × MyPthreadRwlockT) : Destroying ι :=
  ⟨{ s.lock with rw := next.2 }, next.1⟩

/-- The thread holds the lock, from the section that grants it to the section that gives it back, or
it waits for it. -/
def Thread.uses (m : Mode) (x : Thread) : Bool := x.locks m ≠ 0 || x.loc.waits m

/-- Nobody holds the lock or waits for it. -/
def State.Vacant (s : State ι) : Prop :=
  ∀ t, (s.thread t).uses .rd = false ∧ (s.thread t).uses .wr = false

variable [Fintype ι]

instance (s : State ι) : Decidable s.Vacant := inferInstanceAs (Decidable (∀ _, _))

def Destroying.step (s : Destroying ι) : DestroyAct ι → Option (Destroying ι)
  | .lock action => (s.lock.step action).map fun lock => { s with lock := lock }
  | .destroy => if s.lock.exited then none else (s.destroy.next s.lock.rw).map s.access

/-- A step of `destroy` returns `0` on a vacant lock, or it changes no field and returns no other
result than `EBUSY` and `EINVAL`. -/
def Destroying.fine (s : Destroying ι) (action : DestroyAct ι) (s' : Destroying ι) : Bool :=
  match action with
  | .lock _ => true
  | .destroy =>
    if s'.destroy = .returned 0 then s'.lock.Vacant
    else s'.destroy.proper && decide (s'.lock.rw = s.lock.rw)

/-- The threads, and the one in `destroy`. -/
def destroyer : Machine (Destroying ι) (DestroyAct ι) := ⟨⟨start, .magic⟩, Destroying.step⟩

/-- And whether all of its steps have been fine. -/
def destroying : Machine (Destroying ι × Bool) (DestroyAct ι) :=
  destroyer.watched true fun fine s action s' => fine && s.fine action s'

/-- **`destroy` succeeds only on a lock nobody uses.** -/
structure Unused (s : Destroying ι × Bool) : Prop where
  fine : s.2 = true
  /-- of the calls that return after `destroy` only unlocks succeed -/
  behind : s.1.destroy = .returned 0 → ∀ action c, s.1.lock.returns action = some (c, 0) →
    c = .unlock

/-- Legal use. -/
def LegalDestroying (s : Destroying ι × Bool) : DestroyAct ι → Prop
  | .lock action => Legal s.1.lock action
  | .destroy => True

/-- The thread gets `rw_mutex` for the section of a call that asks for the lock. -/
def State.asks (s : State ι) : Act ι → Bool
  | .mutexLock t result =>
    match s.loc t with
    | .mutexLock c => !s.exited ∧ s.rwMutex = none ∧ result = 0 ∧ c ≠ .unlock
    | _ => false
  | _ => false

/-- The counts that `destroy` has read are `0`. -/
structure Quiet (rw : MyPthreadRwlockT) : Prop where
  refcount : rw.rwRefcount = 0
  nwaitreaders : rw.rwNwaitreaders = 0
  nwaitwriters : rw.rwNwaitwriters = 0

/-- **The counts are still `0` when `rw_magic` is set to `0`**, and no call that has passed its test
of `rw_magic` before gets `rw_mutex` after. -/
def Undisturbed (s : Destroying ι × Bool) : DestroyAct ι → Prop
  | .lock action => s.1.destroy = .returned 0 → s.1.lock.asks action = false
  | .destroy => s.1.destroy = .clear → s.1.lock.exited = false → Quiet s.1.lock.rw

instance (rw : MyPthreadRwlockT) : Decidable (Quiet rw) :=
  decidable_of_iff (rw.rwRefcount = 0 ∧ rw.rwNwaitreaders = 0 ∧ rw.rwNwaitwriters = 0)
    ⟨fun ⟨refcount, readers, writers⟩ => ⟨refcount, readers, writers⟩,
      fun ⟨refcount, readers, writers⟩ => ⟨refcount, readers, writers⟩⟩

instance (s : Destroying ι × Bool) : DecidablePred (LegalDestroying s)
  | .lock action => inferInstanceAs (Decidable (Legal s.1.lock action))
  | .destroy => isTrue trivial

instance (s : Destroying ι × Bool) : DecidablePred (Undisturbed s)
  | .lock _ | .destroy => inferInstanceAs (Decidable (_ → _))

theorem Quiet.nwait {rw : MyPthreadRwlockT} (quiet : Quiet rw) (m : Mode) : rw.nwait m = 0 := by
  cases m
  · exact quiet.nwaitreaders
  · exact quiet.nwaitwriters

/-! ### The steps of `destroy` -/

/-- `rw_magic = 0`. -/
def State.cleared (s : State ι) : State ι := { s with rw := { s.rw with rwMagic := 0 } }

section Accesses

variable {s s' : Destroying ι} {action : DestroyAct ι}

/-- **The steps**: one of the threads, one of `destroy` that changes no field, or its last. -/
theorem destroying_cases (step : s.step action = some s') :
    (∃ own lock, action = .lock own ∧ s.lock.step own = some lock ∧ s' = ⟨lock, s.destroy⟩) ∨
      (action = .destroy ∧ s'.lock = s.lock ∧ s'.destroy ≠ .returned 0 ∧
        s'.destroy.proper = true) ∨
      action = .destroy ∧ s.lock.exited = false ∧ s.destroy = .clear ∧
        s' = ⟨s.lock.cleared, .returned 0⟩ := by
  cases action with
  | lock own =>
    obtain ⟨lock, moved, rfl⟩ := Option.map_eq_some_iff.mp step
    exact .inl ⟨own, lock, rfl, moved, rfl⟩
  | destroy =>
    right
    simp only [Destroying.step] at step
    split at step
    · cases step
    · rename_i running
      obtain ⟨next, moved, rfl⟩ := Option.map_eq_some_iff.mp step
      cases at_ : s.destroy with
      | clear =>
        rw [at_] at moved
        cases moved
        exact .inr ⟨rfl, Bool.eq_false_of_not_eq_true running, rfl, rfl⟩
      | returned result =>
        rw [at_] at moved
        cases moved
      | pthreads =>
        rw [at_] at moved
        cases moved
        exact .inl ⟨rfl, rfl, nofun, rfl⟩
      | _ =>
        rw [at_] at moved
        cases moved
        refine .inl ⟨rfl, rfl, ?_⟩
        simp only [Destroying.access]
        split_ifs <;> exact ⟨by decide, by decide⟩

/-- **Undisturbed by others, the steps of `destroy` compute `myPthreadRwlockDestroy`.** -/
theorem destroy_alone (lock : State ι) (running : lock.exited = false) :
    ∃ n, destroyer.run ⟨lock, .magic⟩ (List.replicate n .destroy) =
      some ⟨{ lock with rw := (myPthreadRwlockDestroy lock.rw).2 },
        .returned (myPthreadRwlockDestroy lock.rw).1⟩ := by
  have step : ∀ (pc pc' : DestroyPc) (n : ℕ), pc.next lock.rw = some (pc', lock.rw) →
      destroyer.run ⟨lock, pc⟩ (List.replicate (n + 1) .destroy) =
        destroyer.run ⟨lock, pc'⟩ (List.replicate n .destroy) := by
    intro pc pc' n next
    have moved : destroyer.step (⟨lock, pc⟩ : Destroying ι) .destroy = some ⟨lock, pc'⟩ := by
      show Destroying.step _ .destroy = _
      simp only [Destroying.step, running, Bool.false_eq_true, if_false, next, Option.map_some]
      rfl
    rw [List.replicate_succ, Machine.run, moved, Option.bind_some]
  have clear : destroyer.run (⟨lock, .clear⟩ : Destroying ι) [.destroy] =
      some ⟨{ lock with rw := { lock.rw with rwMagic := 0 } }, .returned 0⟩ := by
    have moved : destroyer.step (⟨lock, .clear⟩ : Destroying ι) .destroy =
        some ⟨{ lock with rw := { lock.rw with rwMagic := 0 } }, .returned 0⟩ := by
      show (if lock.exited then none else _) = _
      rw [if_neg (Bool.eq_false_iff.mp running)]
      rfl
    rw [Machine.run, moved]
    rfl
  unfold myPthreadRwlockDestroy
  split_ifs with magic counts
  · exact ⟨1, step .magic (.returned einval) 0 (by simp [DestroyPc.next, magic])⟩
  · have first := fun n => step .magic .refcount n (by simp [DestroyPc.next, magic])
    by_cases refcount : lock.rw.rwRefcount = 0
    · have second := fun n => step .refcount .nwaitreaders n (by simp [DestroyPc.next, refcount])
      by_cases readers : lock.rw.rwNwaitreaders = 0
      · have third := fun n =>
          step .nwaitreaders .nwaitwriters n (by simp [DestroyPc.next, readers])
        have writers : lock.rw.rwNwaitwriters ≠ 0 := by
          rcases counts with busy | busy | busy
          · exact absurd refcount busy
          · exact absurd readers busy
          · exact busy
        have last := step .nwaitwriters (.returned ebusy) 0 (by simp [DestroyPc.next, writers])
        exact ⟨4, (first 3).trans ((second 2).trans ((third 1).trans last))⟩
      · have last := step .nwaitreaders (.returned ebusy) 0 (by simp [DestroyPc.next, readers])
        exact ⟨3, (first 2).trans ((second 1).trans last)⟩
    · have last := step .refcount (.returned ebusy) 0 (by simp [DestroyPc.next, refcount])
      exact ⟨2, (first 1).trans last⟩
  · simp only [not_or, not_not] at counts
    obtain ⟨refcount, readers, writers⟩ := counts
    have first := step .magic .refcount 5 (by simp [DestroyPc.next, magic])
    have second := step .refcount .nwaitreaders 4 (by simp [DestroyPc.next, refcount])
    have third := step .nwaitreaders .nwaitwriters 3 (by simp [DestroyPc.next, readers])
    have fourth := step .nwaitwriters .pthreads 2 (by simp [DestroyPc.next, writers])
    have fifth := step .pthreads .clear 1 rfl
    exact ⟨6, first.trans (second.trans (third.trans (fourth.trans (fifth.trans clear))))⟩

end Accesses

/-! ### A lock whose `rw_refcount` has overflowed -/

/-- The thread is not on its way out of a section that grants a lock or gives one back. -/
def Loc.Plain (loc : Loc) : Prop := loc.releases = false ∧ ∀ m, loc.grants m = false

theorem Loc.plain_of_outside {loc : Loc} (outside : loc.inside = false) : loc.Plain :=
  ⟨(outside_plain outside .rd).2, fun m => (outside_plain outside m).1⟩

/-- With an error no lock moves. -/
theorem plain_of_failed (c : Call) {result : ℤ} (failed : result ≠ 0) :
    (Loc.mutexUnlock c result).Plain := by
  refine ⟨?_, fun m => ?_⟩
  · cases c with
    | lock | trylock => rfl
    | unlock => exact decide_eq_false failed
  · simp [Loc.grants, failed]

theorem Loc.Plain.failed {c : Call} {result : ℤ} (plain : (Loc.mutexUnlock c result).Plain) :
    result ≠ 0 := by
  rintro rfl
  obtain ⟨releases, grants⟩ := plain
  cases c with
  | lock m | trylock m =>
    have grants := grants m
    simp [Loc.grants, Call.asks] at grants
  | unlock => cases releases

/-- `rw_refcount` has gone from `INT_MAX` to `INT_MIN`, and so it stays: nobody is let in, and no
lock is given back. -/
structure Overflowed (s : State ι) : Prop where
  count : s.rw.rwRefcount = -2 ^ 31
  out : 2 ^ 31 ≤ s.outstanding .rd
  plain : ∀ t, (s.loc t).Plain

section Overflow

variable {rw : MyPthreadRwlockT}

theorem overflowed_busy (count : rw.rwRefcount = -2 ^ 31) (m : Mode) : rw.busy m = true := by
  cases m <;> simp [MyPthreadRwlockT.busy, count]

theorem lockLoop_overflowed (count : rw.rwRefcount = -2 ^ 31) (m : Mode) :
    (lockLoop m rw).1.rwRefcount = -2 ^ 31 ∧ (lockLoop m rw).2 = .condWait m := by
  unfold lockLoop
  rw [if_pos (overflowed_busy count m)]
  refine ⟨?_, rfl⟩
  cases m <;> exact count

theorem body_overflowed (count : rw.rwRefcount = -2 ^ 31) (c : Call) :
    (body c rw).1.rwRefcount = -2 ^ 31 ∧ ((body c rw).2.loc c).Plain := by
  cases c with
  | lock m =>
    have next : (body (.lock m) rw).1.rwRefcount = -2 ^ 31 ∧
        (body (.lock m) rw).2 = .condWait m := by
      cases m <;> exact lockLoop_overflowed count _
    rw [next.2]
    exact ⟨next.1, rfl, fun _ => rfl⟩
  | trylock m =>
    have next : body (.trylock m) rw = (rw, .mutexUnlock ebusy) := by
      cases m <;> exact if_pos (overflowed_busy count _)
    rw [next]
    exact ⟨count, plain_of_failed _ (by decide)⟩
  | unlock =>
    have next : body .unlock rw = (rw, .exit) := by
      show myPthreadRwlockUnlock rw = _
      unfold myPthreadRwlockUnlock
      rw [if_neg (by omega), if_neg (by omega)]
    rw [next]
    exact ⟨count, rfl, fun _ => rfl⟩

theorem lockWaited_overflowed (count : rw.rwRefcount = -2 ^ 31) (m : Mode) (result : ℤ) :
    (lockWaited m result rw).1.rwRefcount = -2 ^ 31 ∧
      ((lockWaited m result rw).2.loc (.lock m)).Plain := by
  have uncounted : (rw.addWait (-1) m).rwRefcount = -2 ^ 31 := by
    cases m <;> exact count
  unfold lockWaited
  split
  · exact ⟨uncounted, plain_of_failed _ ‹_›⟩
  · obtain ⟨kept, next⟩ := lockLoop_overflowed uncounted m
    rw [next]
    exact ⟨kept, rfl, fun _ => rfl⟩

variable {s s' : State ι} {action : Act ι}

/-- The thread that moves. -/
theorem Overflowed.own (wrapped : Overflowed s) (step : Step s action s') :
    s'.rw.rwRefcount = -2 ^ 31 ∧ (s'.loc action.thread).Plain := by
  have count := wrapped.count
  cases step with
  | lock t c =>
    rw [Act.thread, enter_loc, if_pos rfl]
    exact body_overflowed count c
  | waitError t m result | reacquire t m result =>
    rw [Act.thread, enter_loc, if_pos rfl]
    exact lockWaited_overflowed count m result
  | condSignal t woken here | condBroadcast t woken all here =>
    have plain := (wrapped.plain t).1
    rw [here] at plain
    cases plain
  | badMagic | lockError =>
    rw [Act.thread, fail_loc, if_pos rfl]
    exact ⟨count, rfl, fun _ => rfl⟩
  | mutexUnlock =>
    rw [Act.thread, leave_loc, if_pos rfl]
    exact ⟨count, rfl, fun _ => rfl⟩
  | wait =>
    rw [Act.thread, sleep_loc, if_pos rfl]
    exact ⟨count, rfl, fun _ => rfl⟩
  | terminate t m here =>
    refine ⟨count, ?_⟩
    show ((s.goto t (.dead m)).loc t).Plain
    rw [goto_loc_self]
    exact ⟨rfl, fun _ => rfl⟩
  | _ =>
    rw [Act.thread, goto_loc_self]
    exact ⟨count, rfl, fun _ => rfl⟩

/-- **The overflow stays.** -/
theorem Overflowed.step (wrapped : Overflowed s) (step : Step s action s') : Overflowed s' := by
  obtain ⟨count, plain⟩ := wrapped.own step
  refine ⟨count, ?_, fun u => ?_⟩
  · have kept : s'.outstanding .rd = s.outstanding .rd := by
      refine Finset.sum_congr rfl fun u _ => ?_
      rcases step.held u with same | ⟨c, result, here, rfl⟩
      · exact congrArg Nat.cast (same .rd)
      · have plain := wrapped.plain u
        rw [here] at plain
        show (((Function.update s.thread u _) u).held .rd : ℤ) = _
        rw [Function.update_self, returned_failed _ c plain.failed]
        rfl
    rw [kept]
    exact wrapped.out
  · by_cases own : u = action.thread
    · rw [own]
      exact plain
    · unfold State.loc
      rcases step.others own with same | ⟨m, _, woke⟩
      · rw [same]
        exact wrapped.plain u
      · rw [woke]
        exact ⟨rfl, fun _ => rfl⟩

theorem Frozen.overflowed (frozen : Frozen s) : Overflowed s where
  count := frozen.count
  out := frozen.out
  plain := fun t => by
    by_cases inside : (s.loc t).inside = true
    · obtain ⟨m, here⟩ := frozen.inside t inside
      rw [here]
      exact ⟨rfl, fun _ => rfl⟩
    · exact Loc.plain_of_outside (Bool.eq_false_of_not_eq_true inside)

end Overflow

/-! ### A lock whose counts are `0` -/

section Settled

variable {s s' : State ι} {action : Act ι}

/-- At most one read lock is on its way out. -/
theorem Accounted.locks_le (owner : Owner s) (accounted : Accounted s) :
    s.locks .rd ≤ 2 ^ 31 := by
  have few := accounted.few
  unfold FewReaders at few
  by_cases granting : ∃ t c result, s.loc t = .mutexUnlock c result
  · obtain ⟨t, c, result, here⟩ := granting
    have returned := accounted.leave_outstanding owner here .rd
    have one := s.leave_outstanding_le t c result
    omega
  · have most : s.locks .rd ≤ s.outstanding .rd := by
      refine Finset.sum_le_sum fun t _ => ?_
      have plain : (s.thread t).loc.grants .rd = false := by
        cases here : (s.thread t).loc with
        | mutexUnlock c result => exact absurd ⟨t, c, result, here⟩ granting
        | _ => rfl
      show (s.thread t).locks .rd ≤ ((s.thread t).held .rd : ℤ)
      unfold Thread.locks
      rw [if_neg (Bool.eq_false_iff.mp plain)]
      split_ifs <;> omega
    omega

/-- **With the counts at `0` the lock is vacant.** -/
theorem Accounted.vacant (owner : Owner s) (counted : Counted s) (accounted : Accounted s)
    (quiet : Quiet s.rw) : s.Vacant := by
  have nonneg := accounted.thread_locks_nonneg
  have none : ∀ m, s.locks m = 0 := by
    have readers : 0 ≤ s.locks .rd := Finset.sum_nonneg fun t _ => nonneg t .rd
    have most := accounted.locks_le owner
    have count := quiet.refcount
    rcases accounted.accounts with ⟨none, reads⟩ | ⟨_, _, writer⟩
    · have zero : s.locks .rd = 0 := by
        rcases most.lt_or_eq with few | full
        · rw [int32_of_lt readers few] at reads
          omega
        · rw [full, count] at reads
          exact absurd reads (by decide)
      intro m
      cases m
      · exact zero
      · exact none
    · omega
  have unused : ∀ t m, (s.thread t).uses m = false := by
    intro t m
    have most : (s.thread t).locks m ≤ s.locks m := le_total (fun u => nonneg u m) t
    have locks : (s.thread t).locks m = 0 := le_antisymm (none m ▸ most) (nonneg t m)
    have waits : (s.thread t).loc.waits m = false := by
      by_contra waits
      have positive := counted.pos (t := t) (Bool.eq_true_of_not_eq_false waits)
      have zero := quiet.nwait m
      omega
    simp [Thread.uses, locks, waits]
  exact fun t => ⟨unused t .rd, unused t .wr⟩

theorem State.Vacant.uses (vacant : s.Vacant) (t : ι) (m : Mode) :
    (s.thread t).locks m = 0 ∧ (s.loc t).waits m = false := by
  have unused : (s.thread t).uses m = false := by
    cases m
    · exact (vacant t).1
    · exact (vacant t).2
  simpa [Thread.uses, State.loc] using unused

/-- And the other way round. -/
theorem State.Vacant.quiet (vacant : s.Vacant) (counted : Counted s)
    (alive : ∀ t, (s.loc t).alive = true) (account : Accounted s ∨ Overflowed s) :
    Quiet s.rw := by
  have none : ∀ m, s.locks m = 0 := fun m => total_eq_zero fun t => (vacant.uses t m).1
  have nwait : ∀ m, s.rw.nwait m = 0 := by
    intro m
    rw [counted m]
    refine total_eq_zero fun t => ?_
    have waits := (vacant.uses t m).2
    have living := alive t
    unfold State.loc at waits living
    unfold Loc.counted
    rw [if_neg (Bool.eq_false_iff.mp waits)]
    cases here : (s.thread t).loc with
    | dead m' =>
      rw [here] at living
      cases living
    | _ => rfl
  refine ⟨?_, nwait .rd, nwait .wr⟩
  rcases account with accounted | wrapped
  · rcases accounted.accounts with ⟨_, count⟩ | ⟨one, _⟩
    · rw [count, none]
      rfl
    · rw [none] at one
      cases one
  · have out := wrapped.out
    have same : s.locks .rd = s.outstanding .rd :=
      locks_eq_outstanding .rd fun t => ⟨(wrapped.plain t).2 .rd, (wrapped.plain t).1⟩
    rw [none] at same
    omega

/-- A vacant lock is not about to be granted. -/
theorem State.Vacant.returns (vacant : s.Vacant) {c : Call}
    (returns : s.returns action = some (c, 0)) : c = .unlock := by
  cases action with
  | magic t =>
    simp only [State.returns] at returns
    split at returns
    · split at returns
      · simp [einval] at returns
      · cases returns
    · cases returns
  | mutexLock t result =>
    simp only [State.returns] at returns
    split at returns
    · split at returns
      · rename_i failed
        simp only [Option.some.injEq, Prod.mk.injEq] at returns
        exact absurd returns.2 failed
      · cases returns
    · cases returns
  | mutexUnlock t =>
    simp only [State.returns] at returns
    split at returns
    · rename_i here
      cases returns
      cases c with
      | unlock => rfl
      | lock m | trylock m =>
        have locks := (vacant.uses t m).1
        unfold State.loc at here
        simp [Thread.locks, here, Loc.grants, Loc.releases, Call.asks] at locks
        omega
    · cases returns
  | _ => cases returns

end Settled

/-! ### The invariant -/

/-- What the lock keeps, destroyed or not. -/
structure Sound (s : State ι) : Prop where
  owner : Owner s
  counted : Counted s
  alive : ∀ t, (s.loc t).alive = true
  account : Accounted s ∨ Overflowed s

theorem sound_start : Sound (start : State ι) :=
  ⟨owner_start, counted_start, fun _ => rfl, .inl accounted_start⟩

section Invariant

variable {s s' : State ι} {action : Act ι}

/-- **Legal use keeps the lock sound**, whatever the number of readers. -/
theorem Sound.step (sound : Sound s) (legal : Legal s action) (step : Step s action s') :
    Sound s' := by
  obtain ⟨owner, counted, alive, account⟩ := sound
  refine ⟨owner.step step, counted.step step, alive_step alive legal step, ?_⟩
  rcases account with accounted | wrapped
  · by_cases few : FewReaders s'
    · exact .inl (accounted.step owner legal few step)
    · exact .inr (accounted.freezes owner step few).overflowed
  · exact .inr (wrapped.step step)

/-- No function but `init` and `destroy` looks at what is stored in `rw_magic` here. -/
theorem Sound.cleared (sound : Sound s) : Sound s.cleared := by
  obtain ⟨owner, counted, alive, account⟩ := sound
  refine ⟨owner, fun m => ?_, alive, account.imp (fun accounted => ?_) fun wrapped => ?_⟩
  · rw [show s.cleared.rw.nwait m = s.rw.nwait m by cases m <;> rfl]
    exact counted m
  · exact ⟨accounted.running, accounted.few, accounted.holders, accounted.accounts⟩
  · exact ⟨wrapped.count, wrapped.out, wrapped.plain⟩

/-- With the counts at `0` the lock has not overflowed, and is vacant. -/
theorem Sound.vacant (sound : Sound s) (quiet : Quiet s.rw) : Accounted s ∧ s.Vacant := by
  obtain ⟨owner, counted, alive, account⟩ := sound
  rcases account with accounted | wrapped
  · exact ⟨accounted, accounted.vacant owner counted quiet⟩
  · have count := wrapped.count
    rw [quiet.refcount] at count
    exact absurd count (by decide)

/-- **The counts stay `0`** while nobody who asks gets `rw_mutex`. -/
theorem Sound.quiet_step (sound : Sound s) (quiet : Quiet s.rw) (asks : s.asks action = false)
    (step : Step s action s') : Quiet s'.rw := by
  obtain ⟨accounted, vacant⟩ := sound.vacant quiet
  have waiting : ∀ t m, (s.loc t).waits m = true → Quiet s'.rw := by
    intro t m waits
    rw [(vacant.uses t m).2] at waits
    cases waits
  cases step with
  | lock t c here free =>
    have unlocks : c = .unlock := by
      simpa [State.asks, here, accounted.running, free] using asks
    subst unlocks
    have holds := accounted.holders t (by rw [here]; rfl)
    have out := one_le_outstanding holds
    rw [← locks_free sound.owner free] at out
    have none : s.locks (s.thread t).released = 0 := total_eq_zero fun u => (vacant.uses u _).1
    omega
  | waitError t m result here | reacquire t m result here =>
    exact waiting t m (by rw [here]; simp [Loc.waits])
  | _ => exact quiet

/-- **A call that asks and gets `rw_mutex` is granted the lock.** -/
theorem exists_step_of_asks_quiet (quiet : Quiet s.rw) (asks : s.asks action = true) :
    ∃ s' c, s.step action = some s' ∧ s'.returns (.mutexUnlock action.thread) = some (c, 0) ∧
      c ≠ .unlock := by
  have free : ∀ m, s.rw.busy m = false := by
    intro m
    cases m <;> simp [MyPthreadRwlockT.busy, quiet.refcount, quiet.nwaitwriters]
  cases action with
  | mutexLock t result =>
    simp only [State.asks] at asks
    split at asks
    · rename_i c here
      obtain ⟨running, unlocked, fine, asking⟩ := of_decide_eq_true asks
      subst fine
      have running : s.exited = false := by simpa using running
      have granted : (body c s.rw).2 = .mutexUnlock 0 := by
        cases c with
        | lock m => cases m <;> exact congrArg Prod.snd (if_neg (Bool.eq_false_iff.mp (free _)))
        | trylock m => cases m <;> exact congrArg Prod.snd (if_neg (Bool.eq_false_iff.mp (free _)))
        | unlock => exact absurd rfl asking
      refine ⟨s.enter t c (body c s.rw), c, ?_, ?_, asking⟩
      · simp [State.step, State.act, here, unlocked, running]
      · simp only [State.returns, Act.thread, enter_loc, granted, if_true, Pthread.loc]
    · cases asks
  | _ => cases asks

end Invariant

/-! ### The result -/

/-- **What the undisturbed runs of legal use keep.** -/
theorem sound_of_reachable {s : Destroying ι × Bool}
    (reachable : destroying.Reachable
      (fun s action => LegalDestroying s action ∧ Undisturbed s action) s) :
    Sound s.1.lock ∧ s.2 = true ∧ (s.1.destroy = .returned 0 → Quiet s.1.lock.rw) := by
  refine reachable.induct (I := fun s => Sound s.1.lock ∧ s.2 = true ∧
    (s.1.destroy = .returned 0 → Quiet s.1.lock.rw))
    ⟨sound_start, rfl, fun returned => by cases returned⟩ ?_
  rintro ⟨s, fine⟩ action ⟨s', fine'⟩ _ ⟨sound, noted, quiet⟩ ⟨legal, undisturbed⟩ watched
  obtain ⟨step, note⟩ := Machine.watched_step watched
  dsimp only at sound noted quiet step note ⊢
  subst noted
  rw [Bool.true_and] at note
  rcases destroying_cases step with ⟨own, lock, rfl, moved, rfl⟩ | ⟨rfl, kept, going, proper⟩ |
    ⟨rfl, running, ready, rfl⟩
  · have cases := step_cases moved
    exact ⟨sound.step legal cases, note,
      fun returned => sound.quiet_step (quiet returned) (undisturbed returned) cases⟩
  · refine ⟨kept ▸ sound, ?_, fun returned => absurd returned going⟩
    rw [note]
    show (if s'.destroy = .returned 0 then decide s'.lock.Vacant
      else s'.destroy.proper && decide (s'.lock.rw = s.lock.rw)) = true
    rw [if_neg going, proper, kept]
    simp
  · have zero := undisturbed ready running
    have cleared := sound.cleared
    have still : Quiet s.lock.cleared.rw := ⟨zero.refcount, zero.nwaitreaders, zero.nwaitwriters⟩
    refine ⟨cleared, ?_, fun _ => still⟩
    rw [note]
    exact decide_eq_true (cleared.vacant still).2

theorem Sound.unused {s : Destroying ι × Bool} (sound : Sound s.1.lock) (fine : s.2 = true)
    (quiet : s.1.destroy = .returned 0 → Quiet s.1.lock.rw) : Unused s where
  fine := fine
  behind := fun returned _ _ returns => (sound.vacant (quiet returned)).2.returns returns

/-- **`destroy` succeeds only on a lock nobody uses, and nobody gets the lock after it, in exactly
the runs in which the counts are still `0` when `rw_magic` is set to `0`, and no call that has
passed its test of `rw_magic` gets `rw_mutex` after that.** -/
theorem unused_iff {actions : List (DestroyAct ι)}
    (legal : destroying.Admitted LegalDestroying destroying.init actions) :
    destroying.Along Unused destroying.init actions ↔
      destroying.Admitted Undisturbed destroying.init actions := by
  refine Machine.along_iff_admitted (fun s reachable => ?_) ?_ legal
  · obtain ⟨sound, fine, quiet⟩ := sound_of_reachable reachable
    exact sound.unused fine quiet
  rintro ⟨s, fine⟩ action reachable _ unused
  obtain ⟨sound, noted, quiet⟩ := sound_of_reachable reachable
  dsimp only at sound noted quiet
  subst noted
  cases action with
  | lock own =>
    intro returned
    by_contra asks
    obtain ⟨lock, c, moved, returns, asking⟩ :=
      exists_step_of_asks_quiet (quiet returned) (Bool.eq_true_of_not_eq_false asks)
    have step : destroyer.step s (.lock own) = some ⟨lock, s.destroy⟩ :=
      Option.map_eq_some_iff.mpr ⟨lock, moved, rfl⟩
    exact asking ((unused _ (Machine.step_watched true step)).behind returned _ c returns)
  | destroy =>
    intro ready running
    dsimp only at ready running
    have step : destroyer.step s .destroy = some ⟨s.lock.cleared, .returned 0⟩ := by
      show s.step .destroy = _
      simp only [Destroying.step, ready, running]
      rfl
    have fine := (unused _ (Machine.step_watched true step)).fine
    have vacant : s.lock.Vacant := of_decide_eq_true fine
    exact vacant.quiet sound.counted sound.alive sound.account

/-! ### A reader between the tests and the write -/

/-- A reader passes its test of `rw_magic`, `destroy` makes all its tests, the reader gets the lock,
and `destroy` returns. -/
def readerMeanwhile (t : ι) : List (DestroyAct ι) :=
  [.lock (.call t (.lock .rd)), .lock (.magic t), .destroy, .destroy, .destroy, .destroy,
    .lock (.mutexLock t 0), .lock (.mutexUnlock t), .destroy, .destroy]

theorem unused_iff_readerMeanwhile :
    destroying.Along Unused destroying.init (readerMeanwhile (0 : Fin 2)) ↔
      destroying.Admitted Undisturbed destroying.init (readerMeanwhile (0 : Fin 2)) :=
  unused_iff (by decide)

/-- **`destroy` returns `0` while a reader has the lock.** -/
theorem destroyed_in_use : ¬ ∀ s : Destroying (Fin 1) × Bool,
    destroying.Reachable LegalDestroying s → Unused s := by
  intro unused
  have reachable : destroying.Reachable LegalDestroying
      (destroying.after (readerMeanwhile (0 : Fin 1))) :=
    destroying.reachable_after (by decide) (by decide)
  exact absurd (unused _ reachable).fine (by decide)

end Unpvol2.Rwlock
