/-
**The lock's accounting.**

`rw_refcount` counts the locks that are out: with `r` read locks and no write lock out it is `r`,
with one write lock and no read lock out it is `-1`, and no other mixture occurs. A lock is out
from the return of the call that granted it to the return of the `unlock` that gave it back; while
a thread still holds `rw_mutex` inside the granting or releasing call, its `locks` run ahead of
what it holds (`Loc.grants`, `Loc.releases`).

`rw_refcount` is an `int`: `take` wraps. The accounting needs that fewer than `2 ^ 31` read locks
are out in every state of the run (`FewReaders`).
-/

import Mathlib.Tactic.NormNum
import Unpvol2.Rwlock.Step

set_option linter.unusedSectionVars false

namespace Unpvol2.Rwlock

open C Interleaving

variable {ι : Type} [DecidableEq ι]

/-! ### Locks on their way in and out -/

/-- The call asks for side `m`. -/
def Call.asks (m : Mode) : Call → Bool
  | .lock m' | .trylock m' => m' = m
  | .unlock => false

/-- `rw_mutex` is still held, and the call is about to return a lock of side `m`. -/
def Loc.grants (m : Mode) : Loc → Bool
  | .mutexUnlock c result => c.asks m && decide (result = 0)
  | _ => false

/-- `rw_mutex` is still held, and `unlock` has already given the lock back. -/
def Loc.releases : Loc → Bool
  | .condSignal | .condBroadcast => true
  | .mutexUnlock .unlock result => result = 0
  | _ => false

/-- The thread is in `my_pthread_rwlock_unlock`. -/
def Loc.unlocking : Loc → Bool
  | .entered .unlock | .mutexLock .unlock | .condSignal | .condBroadcast
  | .mutexUnlock .unlock _ => true
  | _ => false

theorem not_releases {loc : Loc} (outside : loc.unlocking = false) : loc.releases = false := by
  cases loc with
  | condSignal | condBroadcast => cases outside
  | mutexUnlock c result =>
    cases c with
    | lock | trylock => rfl
    | unlock => cases outside
  | _ => rfl

/-- The locks of side `m` the thread accounts for in `rw_refcount`. -/
def Thread.locks (m : Mode) (x : Thread) : ℤ :=
  x.held m + (if x.loc.grants m then 1 else 0) -
    (if x.loc.releases = true ∧ x.released = m then 1 else 0)

/-- The locks of side `m` that calls have returned and that have not been given back. -/
def State.outstanding [Fintype ι] (s : State ι) (m : Mode) : ℤ :=
  total (fun x : Thread => (x.held m : ℤ)) s.thread

/-- The locks of side `m` that `rw_refcount` accounts for. -/
def State.locks [Fintype ι] (s : State ι) (m : Mode) : ℤ :=
  total (Thread.locks m) s.thread

theorem locks_of_plain {m : Mode} {x : Thread} (grants : x.loc.grants m = false)
    (releases : x.loc.releases = false) : x.locks m = x.held m := by
  simp [Thread.locks, grants, releases]

theorem locks_of_releases {m : Mode} {x : Thread} (releases : x.loc.releases = true) :
    x.locks m = x.held m - if x.released = m then 1 else 0 := by
  have plain : x.loc.grants m = false := by
    cases loc : x.loc with
    | mutexUnlock c result =>
      rw [loc] at releases
      cases c with
      | lock | trylock => cases releases
      | unlock => rfl
    | _ => rfl
  simp only [Thread.locks, plain, releases, Bool.false_eq_true, if_false, add_zero, true_and]

theorem outside_plain {loc : Loc} (outside : loc.inside = false) (m : Mode) :
    loc.grants m = false ∧ loc.releases = false := by
  cases loc <;> first | exact ⟨rfl, rfl⟩ | cases outside

/-- A thread on its way through `unlock` holds what it gives back. -/
theorem locks_nonneg {m : Mode} {x : Thread} (holds : x.loc.releases = true → x.Holds) :
    0 ≤ x.locks m := by
  unfold Thread.locks
  split_ifs with grants gives gives
  · omega
  · omega
  · obtain ⟨releases, side⟩ := gives
    have out := holds releases
    unfold Thread.released at side
    unfold Thread.Holds at out
    split at side
    · subst side
      simp only [Thread.held]
      omega
    · subst side
      simp only [Thread.held]
      omega
  · omega

/-- **The return of a call moves no lock**: what was on its way is now held, or given back. -/
theorem returned_locks {m : Mode} {x : Thread} {c : Call} {result : ℤ}
    (here : x.loc = .mutexUnlock c result) (holds : x.loc.unlocking = true → x.Holds) :
    (x.returned c result).locks m = x.locks m := by
  rw [locks_of_plain (by rw [returned_loc]; rfl) (by rw [returned_loc]; rfl)]
  unfold Thread.locks
  rw [here] at holds ⊢
  by_cases failed : result = 0
  · subst failed
    cases c with
    | lock m' => cases m' <;> cases m <;> simp [Thread.returned, Thread.held, Loc.grants,
        Loc.releases, Call.asks]
    | trylock m' => cases m' <;> cases m <;> simp [Thread.returned, Thread.held, Loc.grants,
        Loc.releases, Call.asks]
    | unlock =>
      have out := holds rfl
      unfold Thread.Holds at out
      by_cases writer : 0 < x.writes
      · have side : x.released = .wr := if_pos writer
        cases m <;> simp [Thread.returned, Thread.held, Loc.grants, Loc.releases, Call.asks, side]
        omega
      · have side : x.released = .rd := if_neg writer
        cases m <;> simp [Thread.returned, Thread.held, Loc.grants, Loc.releases, Call.asks, side]
        omega
  · cases c <;> cases m <;>
      simp [Thread.returned, Thread.held, Loc.grants, Loc.releases, failed]

/-! ### What a section does to `rw_refcount` -/

/-- `rw_refcount` accounts for `reads` read locks and `writes` write locks. -/
def Accounts (rw : MyPthreadRwlockT) (reads writes : ℤ) : Prop :=
  (writes = 0 ∧ rw.rwRefcount = int32 reads) ∨
    (writes = 1 ∧ reads = 0 ∧ rw.rwRefcount = -1)

/-- The locks of side `m` that a section of call `c` ends by granting. -/
def Pthread.granted (c : Call) (m : Mode) (next : Pthread) : ℤ :=
  if (next.loc c).grants m then 1 else 0

/-- Between the calls the count of read locks fits `rw_refcount`. -/
theorem Accounts.cases {rw : MyPthreadRwlockT} {reads writes : ℤ}
    (accounts : Accounts rw reads writes) (nonneg : 0 ≤ reads) (small : reads < 2 ^ 31) :
    (writes = 0 ∧ rw.rwRefcount = reads) ∨ (writes = 1 ∧ reads = 0 ∧ rw.rwRefcount = -1) := by
  rcases accounts with ⟨none, count⟩ | writer
  · rw [int32_of_lt nonneg small] at count
    exact Or.inl ⟨none, count⟩
  · exact Or.inr writer

theorem take_accounts {rw : MyPthreadRwlockT} {reads writes : ℤ} (m : Mode)
    (accounts : Accounts rw reads writes) (nonneg : 0 ≤ reads) (small : reads < 2 ^ 31)
    (free : rw.busy m = false) :
    Accounts (rw.take m) (reads + if m = .rd then 1 else 0)
      (writes + if m = .wr then 1 else 0) := by
  have known := accounts.cases nonneg small
  cases m with
  | rd =>
    simp only [MyPthreadRwlockT.busy, Bool.or_eq_false_iff, decide_eq_false_iff_not] at free
    left
    rcases known with ⟨none, count⟩ | ⟨_, _, count⟩
    · refine ⟨by simp [none], ?_⟩
      simp [MyPthreadRwlockT.take, count]
    · omega
  | wr =>
    simp only [MyPthreadRwlockT.busy, decide_eq_false_iff_not, not_not] at free
    right
    rcases known with ⟨none, count⟩ | ⟨_, _, count⟩
    · refine ⟨by simp [none], ?_, rfl⟩
      simp
      omega
    · omega

/-- The sections that ask for a lock: a lock is granted together with its account. -/
theorem lockLoop_accounts {rw : MyPthreadRwlockT} {reads writes : ℤ} (m : Mode)
    (accounts : Accounts rw reads writes) (nonneg : 0 ≤ reads) (small : reads < 2 ^ 31) :
    Accounts (lockLoop m rw).1 (reads + (lockLoop m rw).2.granted (.lock m) .rd)
      (writes + (lockLoop m rw).2.granted (.lock m) .wr) := by
  unfold lockLoop
  split
  · cases m <;> simpa [Pthread.granted, Pthread.loc, Loc.grants, MyPthreadRwlockT.addWait,
      Accounts] using accounts
  · rename_i free
    have taken := take_accounts m accounts nonneg small (Bool.eq_false_of_not_eq_true free)
    cases m <;> simpa [Pthread.granted, Pthread.loc, Loc.grants, Call.asks] using taken

theorem lockWaited_accounts {rw : MyPthreadRwlockT} {reads writes : ℤ} (m : Mode) (result : ℤ)
    (accounts : Accounts rw reads writes) (nonneg : 0 ≤ reads) (small : reads < 2 ^ 31) :
    Accounts (lockWaited m result rw).1 (reads + (lockWaited m result rw).2.granted (.lock m) .rd)
      (writes + (lockWaited m result rw).2.granted (.lock m) .wr) := by
  have uncounted : Accounts (rw.addWait (-1) m) reads writes := by
    cases m <;> exact accounts
  unfold lockWaited
  split
  · rename_i failed
    simpa [Pthread.granted, Pthread.loc, Loc.grants, failed] using uncounted
  · exact lockLoop_accounts m uncounted nonneg small

theorem tryBody_accounts {rw : MyPthreadRwlockT} {reads writes : ℤ} (m : Mode)
    (accounts : Accounts rw reads writes) (nonneg : 0 ≤ reads) (small : reads < 2 ^ 31) :
    Accounts (tryBody m rw).1 (reads + (tryBody m rw).2.granted (.trylock m) .rd)
      (writes + (tryBody m rw).2.granted (.trylock m) .wr) := by
  unfold tryBody
  split
  · simpa [Pthread.granted, Pthread.loc, Loc.grants, ebusy] using accounts
  · rename_i free
    have taken := take_accounts m accounts nonneg small (Bool.eq_false_of_not_eq_true free)
    cases m <;> simpa [Pthread.granted, Pthread.loc, Loc.grants, Call.asks] using taken

theorem asking_accounts {rw : MyPthreadRwlockT} {reads writes : ℤ} {c : Call}
    (asking : c ≠ .unlock) (accounts : Accounts rw reads writes) (nonneg : 0 ≤ reads)
    (small : reads < 2 ^ 31) :
    Accounts (body c rw).1 (reads + (body c rw).2.granted c .rd)
      (writes + (body c rw).2.granted c .wr) := by
  cases c with
  | lock m => cases m <;> exact lockLoop_accounts _ accounts nonneg small
  | trylock m => cases m <;> exact tryBody_accounts _ accounts nonneg small
  | unlock => exact absurd rfl asking

theorem unlockWake_next (rw : MyPthreadRwlockT) :
    (unlockWake rw).2 = .condSignal ∨ (unlockWake rw).2 = .condBroadcast ∨
      (unlockWake rw).2 = .mutexUnlock 0 := by
  unfold unlockWake
  split
  · split
    · exact Or.inl rfl
    · exact Or.inr (Or.inr rfl)
  · split
    · exact Or.inr (Or.inl rfl)
    · exact Or.inr (Or.inr rfl)

/-- **`unlock` gives back the side its caller holds**, and does not reach `exit(1)`. -/
theorem unlock_accounts {rw : MyPthreadRwlockT} {reads writes : ℤ} (m : Mode)
    (accounts : Accounts rw reads writes) (nonneg : 0 ≤ reads) (small : reads < 2 ^ 31)
    (out : 1 ≤ if m = .rd then reads else writes) :
    Accounts (myPthreadRwlockUnlock rw).1 (reads - if m = .rd then 1 else 0)
        (writes - if m = .wr then 1 else 0) ∧
      ((myPthreadRwlockUnlock rw).2.loc .unlock).releases = true := by
  have next : ∀ rw', ((unlockWake rw').2.loc .unlock).releases = true := by
    intro rw'
    rcases unlockWake_next rw' with eq | eq | eq <;> rw [eq] <;> rfl
  have known := accounts.cases nonneg small
  unfold myPthreadRwlockUnlock
  cases m with
  | rd =>
    simp only [if_true] at out
    rcases known with ⟨none, count⟩ | ⟨_, noReads, _⟩
    · rw [if_pos (by omega)]
      refine ⟨Or.inl ⟨by simp [none], ?_⟩, next _⟩
      rw [unlockWake_fst, int32_of_lt (by simp; omega) (by simp; omega)]
      simp [count]
    · omega
  | wr =>
    simp only [reduceCtorEq, if_false] at out
    rcases known with ⟨none, _⟩ | ⟨one, noReads, count⟩
    · omega
    · rw [if_neg (by omega), if_pos count]
      refine ⟨Or.inl ⟨by simp [one], ?_⟩, next _⟩
      rw [unlockWake_fst, noReads]
      rfl

/-! ### The invariant -/

variable [Fintype ι]

/-- Fewer than `2 ^ 31` read locks are out. -/
def FewReaders (s : State ι) : Prop := s.outstanding .rd < 2 ^ 31

/-- Legal use, with few readers after every step. -/
def LegalFew (s : State ι) (action : Act ι) : Prop :=
  Legal s action ∧ ∀ s' ∈ s.step action, FewReaders s'

instance (s : State ι) : Decidable (FewReaders s) := inferInstanceAs (Decidable (_ < _))

instance (s : State ι) : DecidablePred (LegalFew s) :=
  fun _ => inferInstanceAs (Decidable (_ ∧ _))

structure Accounted (s : State ι) : Prop where
  running : s.exited = false
  few : FewReaders s
  holders : ∀ t, (s.loc t).unlocking = true → (s.thread t).Holds
  accounts : Accounts s.rw (s.locks .rd) (s.locks .wr)

theorem accounted_start : Accounted (start : State ι) where
  running := rfl
  few := by
    have zero : (start : State ι).outstanding .rd = 0 := total_eq_zero fun _ => rfl
    unfold FewReaders
    omega
  holders := fun t unlocking => by cases unlocking
  accounts := by
    have zero : ∀ m, (start : State ι).locks m = 0 := by
      intro m
      refine total_eq_zero fun _ => ?_
      cases m <;> rfl
    rw [zero, zero]
    exact Or.inl ⟨rfl, rfl⟩

theorem Accounted.thread_locks_nonneg {s : State ι} (accounted : Accounted s) (t : ι) (m : Mode) :
    0 ≤ (s.thread t).locks m := by
  refine locks_nonneg fun releases => accounted.holders t ?_
  by_contra outside
  have plain := not_releases (Bool.eq_false_of_not_eq_true outside)
  unfold State.loc at plain
  rw [releases] at plain
  cases plain

/-- While nobody grants or releases, `rw_refcount` accounts for what is out. -/
theorem locks_eq_outstanding {s : State ι} (m : Mode)
    (plain : ∀ t, (s.loc t).grants m = false ∧ (s.loc t).releases = false) :
    s.locks m = s.outstanding m :=
  Finset.sum_congr rfl fun t _ => locks_of_plain (plain t).1 (plain t).2

theorem locks_free {s : State ι} (owner : Owner s) (free : s.rwMutex = none) (m : Mode) :
    s.locks m = s.outstanding m :=
  locks_eq_outstanding m fun t => outside_plain (owner.not_inside free t) m

theorem outstanding_nonneg (s : State ι) (m : Mode) : 0 ≤ s.outstanding m :=
  total_nonneg (fun _ => Int.natCast_nonneg _) _

/-- The thread holding a wait's mutex is at `pthread_cond_wait`: nothing is on its way. -/
theorem locks_condWait {s : State ι} (owner : Owner s) {t : ι} {m' : Mode}
    (here : s.loc t = .condWait m') (m : Mode) : s.locks m = s.outstanding m := by
  refine locks_eq_outstanding m fun u => ?_
  by_cases inside : (s.loc u).inside = true
  · rw [owner.eq (by rw [here]; rfl) inside, here]
    exact ⟨rfl, rfl⟩
  · exact outside_plain (Bool.eq_false_of_not_eq_true inside) m

section Kept

variable {s s' : State ι}

/-- One thread changes its record. -/
theorem locks_moved (t : ι) (x : Thread) (thread : s'.thread = Function.update s.thread t x)
    (m : Mode) : s'.locks m = s.locks m - (s.thread t).locks m + x.locks m := by
  unfold State.locks
  rw [thread, total_update]

/-- **A step that moves no lock keeps the account.** -/
theorem Accounted.still (accounted : Accounted s) (running : s'.exited = s.exited)
    (few : FewReaders s') (rw' : s'.rw.rwRefcount = s.rw.rwRefcount)
    (holders : ∀ t, (s'.loc t).unlocking = true → (s'.thread t).Holds)
    (same : ∀ m, s'.locks m = s.locks m) : Accounted s' where
  running := running.trans accounted.running
  few := few
  holders := holders
  accounts := by
    have before := accounted.accounts
    unfold Accounts at before ⊢
    rw [same, same, rw']
    exact before

/-- A thread that changes its record, at a location outside the sections. -/
theorem Accounted.moved (accounted : Accounted s) (t : ι) (x : Thread)
    (thread : s'.thread = Function.update s.thread t x) (running : s'.exited = s.exited)
    (few : FewReaders s') (rw' : s'.rw.rwRefcount = s.rw.rwRefcount)
    (holds : x.loc.unlocking = true → x.Holds)
    (same : ∀ m, x.locks m = (s.thread t).locks m) : Accounted s' := by
  refine accounted.still running few rw' (fun u => ?_) fun m => ?_
  · unfold State.loc
    rw [thread]
    by_cases eq : u = t
    · rw [eq, Function.update_self]
      exact holds
    · rw [Function.update_of_ne eq]
      exact accounted.holders u
  · rw [locks_moved t x thread, same]
    omega

/-- A thread that runs a section which asks for a lock. -/
theorem Accounted.enter (accounted : Accounted s) (t : ι) (c : Call)
    (ran : MyPthreadRwlockT × Pthread) (few : FewReaders (s.enter t c ran))
    (before : ∀ m, (s.loc t).grants m = false ∧ (s.loc t).releases = false)
    (next : ran.2 ≠ .exit) (asks : (ran.2.loc c).unlocking = false)
    (accounts : Accounts ran.1 (s.locks .rd + ran.2.granted c .rd)
      (s.locks .wr + ran.2.granted c .wr)) : Accounted (s.enter t c ran) where
  running := by
    show (s.exited || decide (ran.2 = .exit)) = false
    rw [accounted.running, decide_eq_false next]
    rfl
  few := few
  holders := by
    intro u unlocking
    by_cases eq : u = t
    · rw [enter_loc, if_pos eq, asks] at unlocking
      cases unlocking
    · rw [enter_loc, if_neg eq] at unlocking
      have holds := accounted.holders u unlocking
      simpa [State.enter, State.goto, Function.update_of_ne eq] using holds
  accounts := by
    have after : ∀ m, (s.enter t c ran).locks m = s.locks m + ran.2.granted c m := by
      intro m
      have held : ({ s.thread t with loc := ran.2.loc c } : Thread).locks m =
          (s.thread t).held m + ran.2.granted c m := by
        simp only [Thread.locks, not_releases asks, Bool.false_eq_true, false_and, if_false,
          sub_zero]
        cases m <;> rfl
      rw [locks_moved t { s.thread t with loc := ran.2.loc c } rfl, held,
        locks_of_plain (before m).1 (before m).2]
      omega
    rw [after, after]
    exact accounts

/-- Waking sleepers moves no lock. -/
theorem Accounted.wake (accounted : Accounted s) (m : Mode) (woken : Finset ι) :
    Accounted (s.wake m woken) := by
  have sleepers : ∀ u, (s.wake m woken).thread u = s.thread u ∨
      (s.loc u = .asleep m ∧ (s.wake m woken).thread u = { s.thread u with loc := .woken m }) := by
    intro u
    show (if u ∈ woken ∧ s.loc u = .asleep m then _ else _) = _ ∨ _
    by_cases sleeper : u ∈ woken ∧ s.loc u = .asleep m
    · right
      exact ⟨sleeper.2, if_pos sleeper⟩
    · left
      rw [if_neg sleeper]
  refine accounted.still rfl ?_ rfl (fun u unlocking => ?_) fun m' => ?_
  · have same : (s.wake m woken).outstanding .rd = s.outstanding .rd :=
      Finset.sum_congr rfl fun u _ => congrArg Nat.cast (wake_held s m woken u .rd)
    unfold FewReaders
    rw [same]
    exact accounted.few
  · rcases sleepers u with same | ⟨_, woke⟩
    · unfold State.loc at unlocking
      rw [same] at unlocking ⊢
      exact accounted.holders u unlocking
    · unfold State.loc at unlocking
      rw [woke] at unlocking
      cases unlocking
  · refine total_rewrite _ fun u => ?_
    rcases sleepers u with same | ⟨slept, woke⟩
    · rw [same]
    · have outside : (s.thread u).loc.inside = false := by
        rw [← State.loc, slept]
        rfl
      have plain := outside_plain outside m'
      rw [woke, locks_of_plain rfl rfl, locks_of_plain plain.1 plain.2]
      cases m' <;> rfl

/-- After the wake-up `unlock` goes on to `pthread_mutex_unlock`. -/
theorem Accounted.woke (accounted : Accounted s) (t : ι)
    (few : FewReaders (s.goto t (.mutexUnlock .unlock 0))) (unlocking : (s.loc t).unlocking = true)
    (releases : (s.loc t).releases = true) : Accounted (s.goto t (.mutexUnlock .unlock 0)) := by
  refine accounted.moved t _ rfl rfl few rfl (fun _ => accounted.holders t unlocking) fun m => ?_
  rw [locks_of_releases rfl, locks_of_releases releases]
  cases m <;> rfl

end Kept

theorem lockLoop_next (m : Mode) (rw : MyPthreadRwlockT) :
    (lockLoop m rw).2 = .condWait m ∨ (lockLoop m rw).2 = .mutexUnlock 0 := by
  unfold lockLoop
  split
  · exact Or.inl rfl
  · exact Or.inr rfl

theorem lockWaited_next (m : Mode) (result : ℤ) (rw : MyPthreadRwlockT) :
    (lockWaited m result rw).2 = .condWait m ∨
      ∃ r, (lockWaited m result rw).2 = .mutexUnlock r := by
  unfold lockWaited
  split
  · exact Or.inr ⟨result, rfl⟩
  · rcases lockLoop_next m (rw.addWait (-1) m) with eq | eq
    · exact Or.inl eq
    · exact Or.inr ⟨0, eq⟩

theorem asking_next {c : Call} (asking : c ≠ .unlock) (rw : MyPthreadRwlockT) :
    (body c rw).2 ≠ .exit ∧ ((body c rw).2.loc c).unlocking = false := by
  have tried : ∀ m, ∃ r, (tryBody m rw).2 = .mutexUnlock r := by
    intro m
    unfold tryBody
    split
    · exact ⟨_, rfl⟩
    · exact ⟨_, rfl⟩
  cases c with
  | lock m =>
    have next : (body (.lock m) rw).2 = .condWait m ∨ (body (.lock m) rw).2 = .mutexUnlock 0 := by
      cases m <;> exact lockLoop_next _ rw
    rcases next with eq | eq <;> rw [eq] <;> exact ⟨fun same => (by cases same), rfl⟩
  | trylock m =>
    have next : ∃ r, (body (.trylock m) rw).2 = .mutexUnlock r := by
      cases m <;> exact tried _
    obtain ⟨r, eq⟩ := next
    rw [eq]
    exact ⟨fun same => (by cases same), rfl⟩
  | unlock => exact absurd rfl asking

/-- A holder of the lock has a lock of the side it gives back. -/
theorem one_le_outstanding {s : State ι} {t : ι} (holds : (s.thread t).Holds) :
    1 ≤ s.outstanding (s.thread t).released := by
  have most : ∀ m, ((s.thread t).held m : ℤ) ≤ s.outstanding m := fun m =>
    le_total (w := fun x : Thread => (x.held m : ℤ)) (fun _ => Int.natCast_nonneg _) t
  have own : 1 ≤ ((s.thread t).held (s.thread t).released : ℤ) := by
    unfold Thread.Holds at holds
    by_cases writer : 0 < (s.thread t).writes
    · rw [show (s.thread t).released = .wr from if_pos writer]
      exact_mod_cast writer
    · rw [show (s.thread t).released = .rd from if_neg writer]
      simp only [Thread.held]
      omega
  exact le_trans own (most _)

/-- **The section of `unlock`**, run by a holder. -/
theorem Accounted.unlock {s : State ι} (accounted : Accounted s) (t : ι)
    (here : s.loc t = .mutexLock .unlock) (owner : Owner s) (free : s.rwMutex = none)
    (few : FewReaders (s.enter t .unlock (myPthreadRwlockUnlock s.rw))) :
    Accounted (s.enter t .unlock (myPthreadRwlockUnlock s.rw)) := by
  have settled := locks_free owner free
  have before := outside_plain (owner.not_inside free t)
  have holds := accounted.holders t (by rw [here]; rfl)
  have accounts := accounted.accounts
  rw [settled, settled] at accounts
  have out : 1 ≤ if (s.thread t).released = .rd then s.outstanding .rd else s.outstanding .wr := by
    have one := one_le_outstanding holds
    cases side : (s.thread t).released <;> rw [side] at one <;> exact one
  obtain ⟨given, releases⟩ :=
    unlock_accounts _ accounts (outstanding_nonneg s .rd) accounted.few out
  have after : ∀ m, (s.enter t .unlock (myPthreadRwlockUnlock s.rw)).locks m =
      s.outstanding m - if (s.thread t).released = m then 1 else 0 := by
    intro m
    have gives : ({ s.thread t with
          loc := (myPthreadRwlockUnlock s.rw).2.loc .unlock } : Thread).locks m =
        (s.thread t).held m - if (s.thread t).released = m then 1 else 0 := by
      rw [locks_of_releases releases]
      cases m <;> rfl
    rw [locks_moved t { s.thread t with loc := (myPthreadRwlockUnlock s.rw).2.loc .unlock } rfl,
      gives, locks_of_plain (before m).1 (before m).2, settled]
    omega
  refine ⟨?_, few, fun u unlocking => ?_, ?_⟩
  · have next : (myPthreadRwlockUnlock s.rw).2 ≠ .exit := by
      intro exits
      rw [exits] at releases
      cases releases
    show (s.exited || decide ((myPthreadRwlockUnlock s.rw).2 = .exit)) = false
    rw [accounted.running, decide_eq_false next]
    rfl
  · by_cases eq : u = t
    · subst eq
      show Thread.Holds (Function.update s.thread u _ u)
      rw [Function.update_self]
      exact holds
    · rw [enter_loc, if_neg eq] at unlocking
      show Thread.Holds (Function.update s.thread t _ u)
      rw [Function.update_of_ne eq]
      exact accounted.holders u unlocking
  · rw [after, after]
    exact given

/-- With the return of a call exactly the locks that `rw_refcount` accounts for are out. -/
theorem Accounted.leave_outstanding {s : State ι} {t : ι} {c : Call} {result : ℤ} (owner : Owner s)
    (accounted : Accounted s) (here : s.loc t = .mutexUnlock c result) (m : Mode) :
    (s.leave t c result).outstanding m = s.locks m := by
  rw [← locks_free (owner.step (.mutexUnlock t c result here)) rfl, locks_moved t _ rfl]
  have kept := returned_locks (m := m) here fun unlocking => accounted.holders t unlocking
  omega

/-- A call returns at most one read lock. -/
theorem State.leave_outstanding_le (s : State ι) (t : ι) (c : Call) (result : ℤ) :
    (s.leave t c result).outstanding .rd ≤ s.outstanding .rd + 1 := by
  have one : ((s.thread t).returned c result).reads ≤ (s.thread t).reads + 1 := by
    unfold Thread.returned
    split
    · exact Nat.le_succ _
    · split
      · exact le_refl _
      · exact le_refl _
      · exact Nat.le_succ _
      · exact Nat.le_succ _
      · split
        · exact (Nat.sub_le _ _).trans (Nat.le_succ _)
        · exact Nat.le_succ _
  have moved := total_update (fun x : Thread => (x.held .rd : ℤ)) s.thread t
    ((s.thread t).returned c result)
  have held : (((s.thread t).returned c result).held .rd : ℤ) ≤ (s.thread t).held .rd + 1 := by
    exact_mod_cast one
  have before : s.outstanding .rd = total (fun x : Thread => (x.held .rd : ℤ)) s.thread := rfl
  show total (fun x : Thread => (x.held .rd : ℤ)) (Function.update s.thread t _) ≤ _
  omega

/-- **The account is kept by every step of legal use.** -/
theorem Accounted.step {s s' : State ι} {action : Act ι} (owner : Owner s)
    (accounted : Accounted s) (legal : Legal s action) (few : FewReaders s')
    (step : Step s action s') : Accounted s' := by
  have nonneg : 0 ≤ s.outstanding .rd := outstanding_nonneg s .rd
  -- a thread that stays outside the sections, holding what it held
  have walked : ∀ (t : ι) (x : Thread), s'.thread = Function.update s.thread t x →
      s'.exited = s.exited → s'.rw.rwRefcount = s.rw.rwRefcount →
      (x.loc.unlocking = true → x.Holds) →
      (∀ m, x.loc.grants m = false ∧ x.loc.releases = false ∧ x.held m = (s.thread t).held m) →
      (∀ m, (s.loc t).grants m = false ∧ (s.loc t).releases = false) → Accounted s' := by
    intro t x thread running rw' holds after before
    refine accounted.moved t x thread running few rw' holds fun m => ?_
    rw [locks_of_plain (after m).1 (after m).2.1, locks_of_plain (before m).1 (before m).2,
      (after m).2.2]
  -- the end of a wait: a section that asks for its lock
  have waited : ∀ (t : ι) (m : Mode) (result : ℤ),
      s' = s.enter t (.lock m) (lockWaited m result s.rw) →
      (∀ m', s.locks m' = s.outstanding m') →
      (∀ m', (s.loc t).grants m' = false ∧ (s.loc t).releases = false) → Accounted s' := by
    rintro t m result rfl settled before
    have accounts := accounted.accounts
    rw [settled, settled] at accounts
    have next := lockWaited_next m result s.rw
    refine accounted.enter t _ _ few before ?_ ?_ ?_
    · rcases next with eq | ⟨r, eq⟩ <;> rw [eq] <;> exact fun same => (by cases same)
    · rcases next with eq | ⟨r, eq⟩ <;> rw [eq] <;> rfl
    · rw [settled, settled]
      exact lockWaited_accounts m result accounts nonneg accounted.few
  cases step with
  | call t c here =>
    refine walked t _ rfl rfl rfl ?_ (fun m => ⟨rfl, rfl, by cases m <;> rfl⟩)
      fun m => by rw [here]; exact ⟨rfl, rfl⟩
    intro unlocking
    cases c with
    | lock | trylock => cases unlocking
    | unlock => exact legal
  | badMagic t c here bad =>
    exact walked t _ rfl rfl rfl (fun unlocking => by cases unlocking)
      (fun m => ⟨rfl, rfl, by cases m <;> rfl⟩) fun m => by rw [here]; exact ⟨rfl, rfl⟩
  | magic t c here =>
    refine walked t _ rfl rfl rfl ?_ (fun m => ⟨rfl, rfl, by cases m <;> rfl⟩)
      fun m => by rw [here]; exact ⟨rfl, rfl⟩
    intro unlocking
    have before := accounted.holders t
    rw [here] at before
    cases c with
    | lock | trylock => cases unlocking
    | unlock => exact before rfl
  | lockError t c result here failed =>
    exact walked t _ rfl rfl rfl (fun unlocking => by cases unlocking)
      (fun m => ⟨rfl, rfl, by cases m <;> rfl⟩) fun m => by rw [here]; exact ⟨rfl, rfl⟩
  | lock t c here free =>
    have settled := locks_free owner free
    have accounts := accounted.accounts
    rw [settled, settled] at accounts
    have before : ∀ m, (s.loc t).grants m = false ∧ (s.loc t).releases = false :=
      outside_plain (owner.not_inside free t)
    by_cases asking : c = .unlock
    · subst asking
      exact accounted.unlock t here owner free few
    · obtain ⟨next, asks⟩ := asking_next asking s.rw
      refine accounted.enter t c _ few before next asks ?_
      rw [settled, settled]
      exact asking_accounts asking accounts nonneg accounted.few
  | waitError t m result here failed =>
    exact waited t m result rfl (locks_condWait owner here) fun m' => by rw [here]; exact ⟨rfl, rfl⟩
  | wait t m here =>
    exact walked t { s.thread t with loc := .asleep m } rfl rfl rfl
      (fun unlocking => by cases unlocking) (fun m' => ⟨rfl, rfl, by cases m' <;> rfl⟩)
      fun m' => by rw [here]; exact ⟨rfl, rfl⟩
  | spurious t m here =>
    exact walked t _ rfl rfl rfl (fun unlocking => by cases unlocking)
      (fun m' => ⟨rfl, rfl, by cases m' <;> rfl⟩) fun m' => by rw [here]; exact ⟨rfl, rfl⟩
  | reacquire t m result here free =>
    exact waited t m result rfl (locks_free owner free) fun m' => by rw [here]; exact ⟨rfl, rfl⟩
  | condSignal t woken here asleep someone =>
    exact (accounted.wake .wr woken).woke t few
      (by rw [wake_loc_of_ne (by rw [here]; decide), here]; rfl)
      (by rw [wake_loc_of_ne (by rw [here]; decide), here]; rfl)
  | condBroadcast t everyone all here =>
    exact (accounted.wake .rd everyone).woke t few
      (by rw [wake_loc_of_ne (by rw [here]; decide), here]; rfl)
      (by rw [wake_loc_of_ne (by rw [here]; decide), here]; rfl)
  | mutexUnlock t c result here =>
    have holds := accounted.holders t
    refine accounted.moved t _ rfl rfl few rfl (fun unlocking => ?_) fun m => ?_
    · rw [returned_loc] at unlocking
      cases unlocking
    · refine returned_locks here fun unlocking => holds ?_
      exact unlocking
  | cancel t m here => exact legal.elim
  | terminate t m here free =>
    exact walked t { s.thread t with loc := .dead m } rfl rfl rfl
      (fun unlocking => by cases unlocking) (fun m' => ⟨rfl, rfl, by cases m' <;> rfl⟩)
      fun m' => by rw [here]; exact ⟨rfl, rfl⟩

/-! ### Reachable states -/

/-- The owner and the wait counters are right in every reachable state, whatever the callers and
the environment do. -/
theorem reachable_counted {ok : State ι → Act ι → Prop} {s : State ι}
    (reachable : machine.Reachable ok s) : Owner s ∧ Counted s := by
  refine reachable.induct (I := fun s => Owner s ∧ Counted s) ⟨owner_start, counted_start⟩ ?_
  rintro s action s' _ ⟨owner, counted⟩ _ step
  exact ⟨owner.step (step_cases step), counted.step (step_cases step)⟩

theorem reachable_accounted {s : State ι} (reachable : machine.Reachable LegalFew s) :
    Accounted s := by
  refine reachable.induct accounted_start ?_
  intro s action s' before accounted admitted step
  exact accounted.step (reachable_counted before).1 admitted.1 (admitted.2 s' step)
    (step_cases step)

/-- The thread has not been cancelled. -/
def Loc.alive : Loc → Bool
  | .cancelled _ | .dead _ => false
  | _ => true

theorem Pthread.loc_alive (c : Call) (next : Pthread) : (next.loc c).alive = true := by
  cases next <;> rfl

/-- A step other than `cancel` leaves every thread alive. -/
theorem alive_step {s s' : State ι} {action : Act ι} (alive : ∀ t, (s.loc t).alive = true)
    (legal : Legal s action) (step : Step s action s') (u : ι) : (s'.loc u).alive = true := by
  by_cases own : u = action.thread
  · have now := alive action.thread
    subst own
    cases step with
    | lock | waitError | reacquire =>
      rw [Act.thread, enter_loc, if_pos rfl]
      exact Pthread.loc_alive _ _
    | badMagic | lockError => rw [Act.thread, fail_loc, if_pos rfl]; rfl
    | mutexUnlock => rw [Act.thread, leave_loc, if_pos rfl]; rfl
    | wait => rw [Act.thread, sleep_loc, if_pos rfl]; rfl
    | cancel => exact legal.elim
    | terminate t m here free => rw [Act.thread, here] at now; cases now
    | _ => rw [Act.thread, goto_loc_self]; rfl
  · unfold State.loc
    rcases step.others own with same | ⟨m, _, woke⟩
    · rw [same]
      exact alive u
    · rw [woke]
      rfl

/-- Without cancellations no thread is cancelled. -/
theorem reachable_alive {ok : State ι → Act ι → Prop}
    (legal : ∀ s action, ok s action → Legal s action) {s : State ι}
    (reachable : machine.Reachable ok s) (t : ι) : (s.loc t).alive = true := by
  refine reachable.induct (I := fun s => ∀ t, (s.loc t).alive = true) (fun _ => rfl) ?_ t
  intro s action s' _ alive admitted step
  exact alive_step alive (legal s action admitted) (step_cases step)

theorem reachable_gone {ok : State ι → Act ι → Prop}
    (legal : ∀ s action, ok s action → Legal s action) {s : State ι}
    (reachable : machine.Reachable ok s) (m : Mode) : s.gone m = 0 := by
  refine count_eq_zero_iff.mpr fun t => ?_
  have alive := reachable_alive legal reachable t
  unfold State.loc at alive
  cases loc : (s.thread t).loc with
  | dead m' =>
    rw [loc] at alive
    cases alive
  | _ => rfl

/-- **The exclusion**: with `rw_mutex` free, `rw_refcount` tells the locks that are out. -/
theorem Accounted.exclusion {s : State ι} (accounted : Accounted s) (owner : Owner s)
    (free : s.rwMutex = none) :
    (s.rw.rwRefcount = -1 ∧ s.outstanding .wr = 1 ∧ s.outstanding .rd = 0) ∨
      (0 ≤ s.rw.rwRefcount ∧ s.outstanding .rd = s.rw.rwRefcount ∧ s.outstanding .wr = 0) := by
  have accounts := accounted.accounts
  rw [locks_free owner free, locks_free owner free] at accounts
  have nonneg := outstanding_nonneg s .rd
  rcases accounts.cases nonneg accounted.few with ⟨none, count⟩ | ⟨one, none, count⟩
  · exact Or.inr ⟨by omega, count.symm, none⟩
  · exact Or.inl ⟨count, one, none⟩

/-- Without cancellations the wait counters count the threads in the wait loops. -/
theorem reachable_waiting {ok : State ι → Act ι → Prop}
    (legal : ∀ s action, ok s action → Legal s action) {s : State ι}
    (reachable : machine.Reachable ok s) (m : Mode) : s.rw.nwait m = s.waiting m := by
  have split := (reachable_counted reachable).2.eq m
  rw [reachable_gone legal reachable, add_zero] at split
  exact split

/-- **The accounting and the exclusion of the lock.** -/
theorem accounting {s : State ι} (reachable : machine.Reachable LegalFew s) :
    s.exited = false ∧ (s.rwMutex = none →
      ((s.rw.rwRefcount = -1 ∧ s.outstanding .wr = 1 ∧ s.outstanding .rd = 0) ∨
        (0 ≤ s.rw.rwRefcount ∧ s.outstanding .rd = s.rw.rwRefcount ∧ s.outstanding .wr = 0)) ∧
      s.rw.rwNwaitreaders = s.waiting .rd ∧ s.rw.rwNwaitwriters = s.waiting .wr) := by
  have accounted := reachable_accounted reachable
  have waiting := reachable_waiting (fun _ _ admitted => admitted.1) reachable
  exact ⟨accounted.running, fun free =>
    ⟨accounted.exclusion (reachable_counted reachable).1 free, waiting .rd, waiting .wr⟩⟩

/-- Thread `r` has a read lock and thread `w` waits for a write lock. -/
def readerThenWriter (r w : ι) : List (Act ι) :=
  [.call r (.lock .rd), .magic r, .mutexLock r 0, .mutexUnlock r,
    .call w (.lock .wr), .magic w, .mutexLock w 0, .condWait w 0]

theorem accounting_readerThenWriter :
    (machine.after (readerThenWriter (0 : Fin 2) 1)).rw.rwNwaitwriters =
      (machine.after (readerThenWriter (0 : Fin 2) 1)).waiting .wr ∧
    (machine.after (readerThenWriter (0 : Fin 2) 1)).waiting .wr = 1 :=
  ⟨((accounting (machine.reachable_after (by decide) (by decide))).2 (by decide)).2.2, by decide⟩

end Unpvol2.Rwlock
