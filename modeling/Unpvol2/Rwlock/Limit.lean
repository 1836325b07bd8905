/-
**The limit of the reader count.**

`rw_refcount` is an `int`, and neither `rdlock` nor `tryrdlock` looks at its value before
`rw_refcount++`. The read lock after the `2 ^ 31 - 1`st makes it -2147483648, which the other
functions take for a writer, and `unlock` for an error.

* `State.exceeds` — a section that lets a reader in where `rw_refcount` is at its limit.
* `Bounded` — what the lock should do: refuse such a reader, never count negative while a read lock
  is out, never end the process in `unlock`.
* `bounded_iff` — **exactly the runs in which no section exceeds the limit are bounded.**
-/

import Unpvol2.Rwlock.Wrappers

set_option linter.unusedSectionVars false

namespace Unpvol2.Rwlock

open C Interleaving

variable {ι : Type} [DecidableEq ι]

/-! ### Sections at the limit -/

/-- `INT_MAX`. -/
def intMax : ℤ := 2 ^ 31 - 1

/-- The thread gets `rw_mutex` and runs the section of `rdlock` or `tryrdlock`. -/
def State.asksToRead (s : State ι) : Act ι → Bool
  | .mutexLock t result =>
    s.rwMutex = none ∧ result = 0 ∧
      (s.loc t = .mutexLock (.lock .rd) ∨ s.loc t = .mutexLock (.trylock .rd))
  | .reacquire t result => s.rwMutex = none ∧ result = 0 ∧ s.loc t = .woken .rd
  | _ => false

/-- A reader comes in, and with it `rw_refcount` would exceed `INT_MAX`. -/
def State.exceeds (s : State ι) (action : Act ι) : Bool :=
  s.asksToRead action && !s.rw.busy .rd && decide (intMax < s.rw.rwRefcount + 1)

/-- The call is about to return an error. -/
def Loc.refused : Loc → Bool
  | .mutexUnlock _ result => result ≠ 0
  | _ => false

variable [Fintype ι]

/-- The threads and their lock, and whether every reader that would have exceeded the limit has been
refused. -/
def limits : Machine (State ι × Bool) (Act ι) :=
  machine.watched true fun refused s action s' =>
    refused && (!s.exceeds action || (s'.loc action.thread).refused)

/-- **The reader count does not wrap.** -/
structure Bounded (s : State ι × Bool) : Prop where
  refused : s.2 = true
  nonneg : 0 < s.1.outstanding .rd → 0 ≤ s.1.rw.rwRefcount
  running : s.1.exited = false

/-- No reader exceeds the limit. -/
def Roomy (s : State ι × Bool) (action : Act ι) : Prop := s.1.exceeds action = false

instance (s : State ι × Bool) : DecidablePred (Roomy s) :=
  fun _ => inferInstanceAs (Decidable (_ = _))

/-! ### What a section does to the count -/

/-- The count stays, a writer takes the free lock, or the count is one of readers. -/
def Counts (before after : ℤ) : Prop := after = before ∨ before = 0 ∧ after = -1 ∨ 0 ≤ after

section Sections

variable {rw : MyPthreadRwlockT}

theorem take_counts {m : Mode} (free : rw.busy m = false)
    (room : m = .rd → rw.rwRefcount < intMax) : Counts rw.rwRefcount (rw.take m).rwRefcount := by
  cases m with
  | rd =>
    have small := room rfl
    unfold intMax at small
    simp only [MyPthreadRwlockT.busy, Bool.or_eq_false_iff, decide_eq_false_iff_not] at free
    refine .inr (.inr ?_)
    show 0 ≤ int32 (rw.rwRefcount + 1)
    rw [int32_of_lt (by omega) (by omega)]
    omega
  | wr =>
    simp only [MyPthreadRwlockT.busy, decide_eq_false_iff_not, not_not] at free
    exact .inr (.inl ⟨free, rfl⟩)

theorem lockLoop_counts {m : Mode}
    (room : m = .rd → rw.busy .rd = false → rw.rwRefcount < intMax) :
    Counts rw.rwRefcount (lockLoop m rw).1.rwRefcount := by
  unfold lockLoop
  split
  · cases m <;> exact .inl rfl
  · rename_i free
    have free := Bool.eq_false_of_not_eq_true free
    exact take_counts free fun same => room same (same ▸ free)

theorem tryBody_counts {m : Mode}
    (room : m = .rd → rw.busy .rd = false → rw.rwRefcount < intMax) :
    Counts rw.rwRefcount (tryBody m rw).1.rwRefcount := by
  unfold tryBody
  split
  · exact .inl rfl
  · rename_i free
    have free := Bool.eq_false_of_not_eq_true free
    exact take_counts free fun same => room same (same ▸ free)

theorem unlock_counts (rw : MyPthreadRwlockT) :
    Counts rw.rwRefcount (myPthreadRwlockUnlock rw).1.rwRefcount := by
  unfold myPthreadRwlockUnlock
  split
  · rw [unlockWake_fst]
    refine .inr (.inr ?_)
    show 0 ≤ rw.rwRefcount - 1
    omega
  · split
    · rw [unlockWake_fst]
      exact .inr (.inr (le_refl 0))
    · exact .inl rfl

theorem body_counts {c : Call}
    (room : c = .lock .rd ∨ c = .trylock .rd → rw.busy .rd = false → rw.rwRefcount < intMax) :
    Counts rw.rwRefcount (body c rw).1.rwRefcount := by
  cases c with
  | lock m =>
    have counts : Counts rw.rwRefcount (lockLoop m rw).1.rwRefcount :=
      lockLoop_counts fun reads => room (.inl (by rw [reads]))
    cases m <;> exact counts
  | trylock m =>
    have counts : Counts rw.rwRefcount (tryBody m rw).1.rwRefcount :=
      tryBody_counts fun reads => room (.inr (by rw [reads]))
    cases m <;> exact counts
  | unlock => exact unlock_counts rw

theorem lockWaited_counts {m : Mode} {result : ℤ}
    (room : result = 0 → m = .rd → rw.busy .rd = false → rw.rwRefcount < intMax) :
    Counts rw.rwRefcount (lockWaited m result rw).1.rwRefcount := by
  unfold lockWaited
  split
  · cases m <;> exact .inl rfl
  · rename_i fine
    have counts : Counts (rw.addWait (-1) m).rwRefcount
        (lockLoop m (rw.addWait (-1) m)).1.rwRefcount := by
      refine lockLoop_counts fun reads free => ?_
      subst reads
      exact room (not_not.mp fine) rfl free
    cases m <;> exact counts

end Sections

/-! ### The invariant -/

/-- What the lock keeps while no reader exceeds the limit. -/
structure Within (s : State ι) : Prop where
  owner : Owner s
  accounted : Accounted s
  low : -1 ≤ s.rw.rwRefcount
  unread : s.rw.rwRefcount < 0 → s.outstanding .rd = 0

theorem within_start : Within (start : State ι) where
  owner := owner_start
  accounted := accounted_start
  low := by
    show (-1 : ℤ) ≤ 0
    decide
  unread := nofun

section Steps

variable {s s' : State ι} {action : Act ι}

/-- **A step within the limit changes the count in a section only**, and as the sections do. -/
theorem Step.counts (step : Step s action s') (roomy : s.exceeds action = false) :
    s'.rw.rwRefcount = s.rw.rwRefcount ∨
      s.rwMutex = none ∧ Counts s.rw.rwRefcount s'.rw.rwRefcount := by
  have room : s.asksToRead action = true → s.rw.busy .rd = false → s.rw.rwRefcount < intMax := by
    intro asks free
    unfold State.exceeds at roomy
    rw [asks, free] at roomy
    have small : ¬ intMax < s.rw.rwRefcount + 1 := of_decide_eq_false roomy
    omega
  cases step with
  | lock t c here free =>
    refine .inr ⟨free, body_counts fun reads => room ?_⟩
    refine decide_eq_true ⟨free, rfl, ?_⟩
    rw [here]
    rcases reads with rfl | rfl
    · exact .inl rfl
    · exact .inr rfl
  | reacquire t m result here free =>
    refine .inr ⟨free, lockWaited_counts fun fine reads => room ?_⟩
    refine decide_eq_true ⟨free, fine, ?_⟩
    rw [here, reads]
  | waitError t m result here failed =>
    left
    show (lockWaited m result s.rw).1.rwRefcount = _
    unfold lockWaited
    rw [if_pos failed]
    cases m <;> rfl
  | _ => exact .inl rfl

/-- The read locks that `rw_refcount` accounts for, while it is negative. -/
theorem Accounted.unread (accounted : Accounted s) (low : -1 ≤ s.rw.rwRefcount)
    (negative : s.rw.rwRefcount < 0) (nonneg : 0 ≤ s.locks .rd) (small : s.locks .rd < 2 ^ 31) :
    s.locks .rd = 0 := by
  rcases accounted.accounts.cases nonneg small with ⟨_, count⟩ | ⟨_, none, _⟩
  · omega
  · exact none

/-- **A step within the limit keeps the count right.** -/
theorem Within.step (within : Within s) (legal : Legal s action)
    (roomy : s.exceeds action = false) (step : Step s action s') : Within s' := by
  obtain ⟨owner, accounted, low, unread⟩ := within
  have counts := step.counts roomy
  have low' : -1 ≤ s'.rw.rwRefcount := by
    rcases counts with same | ⟨_, same | ⟨_, taken⟩ | nonneg⟩ <;> omega
  have few : FewReaders s' := by
    by_contra many
    have count := (accounted.freezes owner step many).count
    omega
  have after := accounted.step owner legal few step
  refine ⟨owner.step step, after, low', fun negative => ?_⟩
  rcases step.outstanding with kept | ⟨t, c, result, here, rfl⟩
  · rw [kept]
    have settled : s.rwMutex = none → s.rw.rwRefcount = 0 → s.outstanding .rd = 0 := by
      intro free zero
      have accounts := accounted.accounts
      rw [locks_free owner free, locks_free owner free] at accounts
      rcases accounts.cases (outstanding_nonneg s .rd) accounted.few with ⟨_, count⟩ | ⟨_, none, _⟩
      · omega
      · exact none
    rcases counts with same | ⟨free, same | ⟨zero, _⟩ | nonneg⟩
    · exact unread (same ▸ negative)
    · exact unread (same ▸ negative)
    · exact settled free zero
    · omega
  · have locks := accounted.leave_outstanding owner here .rd
    have nonneg := outstanding_nonneg (s.leave t c result) .rd
    unfold FewReaders at few
    rw [locks] at few nonneg ⊢
    exact accounted.unread low negative nonneg few

/-- The sections that let a reader in. -/
theorem body_letIn {rw : MyPthreadRwlockT} (free : rw.busy .rd = false) :
    body (.lock .rd) rw = (rw.take .rd, .mutexUnlock 0) ∧
      body (.trylock .rd) rw = (rw.take .rd, .mutexUnlock 0) :=
  ⟨if_neg (Bool.eq_false_iff.mp free), if_neg (Bool.eq_false_iff.mp free)⟩

/-- **A reader that asks and finds the lock free is let in**, whatever the count. -/
theorem exists_step_of_asks (running : s.exited = false) (asks : s.asksToRead action = true)
    (free : s.rw.busy .rd = false) :
    ∃ s', s.step action = some s' ∧ (s'.loc action.thread).refused = false := by
  have entered : ∀ (t : ι) (c : Call) (rw : MyPthreadRwlockT),
      ((s.enter t c (rw, .mutexUnlock 0)).loc t).refused = false := by
    intro t c rw
    rw [enter_loc, if_pos rfl]
    rfl
  have running : ¬ s.exited = true := Bool.eq_false_iff.mp running
  cases action with
  | mutexLock t result =>
    obtain ⟨unlocked, rfl, here⟩ := of_decide_eq_true asks
    have letIn := body_letIn free
    rcases here with here | here
    · refine ⟨s.enter t (.lock .rd) (s.rw.take .rd, .mutexUnlock 0), ?_, entered _ _ _⟩
      simp only [State.step, if_neg running, State.act, here, unlocked, letIn.1, ne_eq,
        not_true_eq_false, if_false, if_true]
    · refine ⟨s.enter t (.trylock .rd) (s.rw.take .rd, .mutexUnlock 0), ?_, entered _ _ _⟩
      simp only [State.step, if_neg running, State.act, here, unlocked, letIn.2, ne_eq,
        not_true_eq_false, if_false, if_true]
  | reacquire t result =>
    obtain ⟨unlocked, rfl, here⟩ := of_decide_eq_true asks
    have letIn : lockWaited .rd 0 s.rw = ((s.rw.addWait (-1) .rd).take .rd, .mutexUnlock 0) :=
      if_neg (Bool.eq_false_iff.mp free)
    refine ⟨s.enter t (.lock .rd) ((s.rw.addWait (-1) .rd).take .rd, .mutexUnlock 0), ?_,
      entered _ _ _⟩
    simp only [State.step, if_neg running, State.act, here, unlocked, letIn, if_true]
  | _ => cases asks

end Steps

/-! ### The result -/

/-- Legal use. -/
def LegalUnderLimits (s : State ι × Bool) (action : Act ι) : Prop := Legal s.1 action

instance (s : State ι × Bool) : DecidablePred (LegalUnderLimits s) :=
  fun action => inferInstanceAs (Decidable (Legal s.1 action))

theorem within_of_reachable {s : State ι × Bool}
    (reachable : limits.Reachable (fun s action => LegalUnderLimits s action ∧ Roomy s action) s) :
    Within s.1 ∧ s.2 = true := by
  refine reachable.induct (I := fun s => Within s.1 ∧ s.2 = true) ⟨within_start, rfl⟩ ?_
  rintro s action t _ ⟨within, refused⟩ ⟨legal, roomy⟩ step
  obtain ⟨step, note⟩ := Machine.watched_step step
  have roomy : s.1.exceeds action = false := roomy
  refine ⟨within.step legal roomy (step_cases step), ?_⟩
  rw [note, refused, roomy]
  rfl

theorem Within.bounded {s : State ι × Bool} (within : Within s.1) (refused : s.2 = true) :
    Bounded s where
  refused := refused
  nonneg := fun out => by
    by_contra negative
    have none := within.unread (not_le.mp negative)
    omega
  running := within.accounted.running

/-- **The reader count is bounded in exactly the runs of legal use in which no reader comes in
where `rw_refcount` is `INT_MAX`.** -/
theorem bounded_iff {actions : List (Act ι)}
    (legal : limits.Admitted LegalUnderLimits limits.init actions) :
    limits.Along Bounded limits.init actions ↔ limits.Admitted Roomy limits.init actions := by
  refine Machine.along_iff_admitted (fun s reachable => ?_) ?_ legal
  · obtain ⟨within, refused⟩ := within_of_reachable reachable
    exact within.bounded refused
  intro s action reachable _ bounded
  obtain ⟨within, _⟩ := within_of_reachable reachable
  by_contra crowded
  have exceeds : s.1.exceeds action = true := Bool.eq_true_of_not_eq_false crowded
  have parts := exceeds
  unfold State.exceeds at parts
  rw [Bool.and_eq_true, Bool.and_eq_true, Bool.not_eq_true'] at parts
  obtain ⟨⟨asks, free⟩, _⟩ := parts
  obtain ⟨s', step, letIn⟩ := exists_step_of_asks within.accounted.running asks free
  have refused := (bounded _ (Machine.step_watched s.2 step)).refused
  simp only [exceeds, letIn, Bool.not_true, Bool.or_false, Bool.and_false,
    Bool.false_eq_true] at refused

/-! ### A thread with many read locks -/

/-- The thread `t` has `n` read locks and nobody has any other. -/
structure Readers (t : ι) (n : ℕ) (s : State ι) : Prop where
  rw : s.rw = ⟨rwMagicValue, 0, 0, n⟩
  rwMutex : s.rwMutex = none
  thread : s.thread t = ⟨.idle, 0, n, 0⟩
  exited : s.exited = false

/-- `t` calls `rdlock` and gets to the end of its section. -/
def asksToRead (t : ι) : List (Act ι) := [.call t (.lock .rd), .magic t, .mutexLock t 0]

section Many

variable {s : State ι} {t : ι} {n : ℕ}

/-- The lock is granted. -/
theorem Readers.asks (readers : Readers t n s) :
    ∃ s', machine.run s (asksToRead t) = some s' ∧
      s'.rw = ⟨rwMagicValue, 0, 0, int32 (n + 1)⟩ ∧
      s'.thread t = ⟨.mutexUnlock (.lock .rd) 0, 0, n, 0⟩ ∧ s'.exited = false := by
  obtain ⟨rw, rwMutex, thread, exited⟩ := readers
  have free : (⟨rwMagicValue, 0, 0, n⟩ : MyPthreadRwlockT).busy .rd = false := by
    simp [MyPthreadRwlockT.busy]
  have granted := (body_letIn free).1
  refine ⟨?after, ?ran, ?_⟩
  case ran =>
    simp only [machine, Machine.run, asksToRead, State.step, State.act, State.goto, State.loc,
      State.enter, rw, rwMutex, thread, exited, granted, Function.update_self,
      Function.update_idem, Option.bind_some, if_true, ne_eq, not_true_eq_false, if_false,
      Bool.false_eq_true]
    rfl
  exact ⟨rfl, Function.update_self .., rfl⟩

/-- And returned. -/
theorem Readers.reads (readers : Readers t n s) (few : n + 1 < 2 ^ 31) :
    ∃ s', machine.run s (asksToRead t ++ [.mutexUnlock t]) = some s' ∧ Readers t (n + 1) s' := by
  obtain ⟨s₁, ran, rw, thread, exited⟩ := readers.asks
  have step : machine.step s₁ (.mutexUnlock t) = some (s₁.leave t (.lock .rd) 0) := by
    show s₁.step (.mutexUnlock t) = _
    simp only [State.step, exited, State.act, State.loc, thread, Bool.false_eq_true, if_false]
  refine ⟨s₁.leave t (.lock .rd) 0, ?_, ?_, rfl, ?_, exited⟩
  · rw [Machine.run_append, ran, Option.bind_some, Machine.run, step]
    rfl
  · show s₁.rw = _
    rw [rw, int32_of_lt (by omega) (by omega)]
    push_cast
    rfl
  · show Function.update s₁.thread t ((s₁.thread t).returned (.lock .rd) 0) t = _
    rw [Function.update_self, thread]
    rfl

theorem legal_asks (t : ι) (s : State ι) : machine.Admitted Legal s (asksToRead t) :=
  ⟨trivial, fun _ _ => ⟨trivial, fun _ _ => ⟨trivial, fun _ _ => trivial⟩⟩⟩

/-- **A thread may take as many read locks as it likes.** -/
theorem exists_readers (t : ι) {n : ℕ} (few : n < 2 ^ 31) :
    ∃ s, machine.Reachable Legal s ∧ Readers t n s := by
  induction n with
  | zero => exact ⟨start, Machine.Reaches.refl _, rfl, rfl, rfl, rfl⟩
  | succ n ih =>
    obtain ⟨s, reachable, readers⟩ := ih (by omega)
    obtain ⟨s', ran, more⟩ := readers.reads few
    have legal : machine.Admitted Legal s (asksToRead t ++ [.mutexUnlock t]) :=
      Machine.admitted_append (legal_asks t s) fun _ action member => by
        cases List.mem_singleton.mp member
        trivial
    exact ⟨s', reachable.trans (Machine.reaches_of_run ran legal), more⟩

end Many

theorem bounded_iff_oneReader :
    limits.Along Bounded limits.init (asksToRead (0 : Fin 2)) ↔
      limits.Admitted Roomy limits.init (asksToRead (0 : Fin 2)) :=
  bounded_iff (by decide)

/-- **The count is negative while 2147483647 read locks are out.** -/
theorem wrapped_refcount : ¬ ∀ s : State (Fin 1) × Bool,
    limits.Reachable LegalUnderLimits s → Bounded s := by
  intro bounded
  obtain ⟨s, reachable, readers⟩ := exists_readers (0 : Fin 1) (n := 2 ^ 31 - 1) (by decide)
  obtain ⟨s', ran, rw, thread, _⟩ := readers.asks
  obtain ⟨refused, watched⟩ := Machine.reaches_watched
    (reachable.trans (Machine.reaches_of_run ran (legal_asks 0 s))) true
  have nonneg := (bounded (s', refused) watched).nonneg
  have out : 0 < s'.outstanding .rd := by
    have most : ((s'.thread 0).held .rd : ℤ) ≤ s'.outstanding .rd :=
      le_total (w := fun x : Thread => (x.held .rd : ℤ)) (fun _ => Int.natCast_nonneg _) 0
    rw [thread] at most
    have own : ((2 ^ 31 - 1 : ℕ) : ℤ) ≤ s'.outstanding .rd := most
    omega
  have count : 0 ≤ s'.rw.rwRefcount := nonneg out
  rw [rw] at count
  revert count
  decide

end Unpvol2.Rwlock
