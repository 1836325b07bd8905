/-
**The lock of `my_rwlock/` is a read-write lock.**

`State.view` forgets everything about the lock but the locks that are out and where each thread
stands with its call: a call has taken effect once the section of the code that grants, refuses or
gives back its lock has run. `matches_step` turns each step into the invocation, the effect or the
return of a call of the atomic read-write lock, into none of them, or, where `pthread_mutex_lock`
fails, into a failure and its return.

* `linearizable` — **every run shows the calls and results of a run of the atomic lock.** A `try`
  call returns `EBUSY` only where its side is taken or, for a reader, a writer waits, or where a
  pthread call has returned `EBUSY` itself.
-/

import Unpvol2.Lib.SharedLock
import Unpvol2.Rwlock.Accounting

set_option linter.unusedSectionVars false

namespace Unpvol2.Rwlock

open Interleaving
open SharedLock (Side Held)

variable {ι : Type} [DecidableEq ι]

/-! ### What can be seen of the lock -/

def Mode.side : Mode → Side
  | .rd => .shared
  | .wr => .exclusive

def Mode.ofSide : Side → Mode
  | .shared => .rd
  | .exclusive => .wr

theorem Mode.ofSide_side (m : Mode) : Mode.ofSide m.side = m := by
  cases m <;> rfl

theorem Mode.ofSide_eq {m : Mode} {side : Side} : Mode.ofSide side = m ↔ side = m.side := by
  cases m <;> cases side <;> decide

/-- The operation of the atomic lock a function implements. -/
def Call.operation : Call → SharedLock.Call
  | .lock m => .lock m.side
  | .trylock m => .trylock m.side
  | .unlock => .unlock

/-- Pending until the section that decides the call has run, and done from then on. -/
def Loc.phase : Loc → Phase SharedLock.Call ℤ
  | .idle => .idle
  | .entered c | .mutexLock c => .pending c.operation
  | .condWait m | .asleep m | .woken m | .cancelled m | .dead m => .pending (.lock m.side)
  | .condSignal | .condBroadcast => .done .unlock 0
  | .mutexUnlock c result => .done c.operation result
  | .exit => .pending .unlock

/-- The locks of a thread, those included that are on their way in, and not those on their way
out. -/
def Thread.out (x : Thread) (side : Side) : ℕ := (x.locks (Mode.ofSide side)).toNat

def State.view (s : State ι) : Object.State (Held ι) ι SharedLock.Call ℤ where
  object := fun t => (s.thread t).out
  phase := fun t => (s.loc t).phase

/-- What a step shows: a call, or what it returns. -/
def State.event (s : State ι) : Act ι → List (Event ι SharedLock.Call ℤ)
  | .call t c => [.invoke t c.operation]
  | .magic t =>
    match s.loc t with
    | .entered c => if s.rw.rwMagic ≠ rwMagicValue then [.respond t c.operation einval] else []
    | _ => []
  | .mutexLock t result =>
    match s.loc t with
    | .mutexLock c => if result ≠ 0 then [.respond t c.operation result] else []
    | _ => []
  | .mutexUnlock t =>
    match s.loc t with
    | .mutexUnlock c result => [.respond t c.operation result]
    | _ => []
  | _ => []

theorem event_magic {s : State ι} {t : ι} {c : Call} (here : s.loc t = .entered c)
    (initialised : Initialised s.rw) : s.event (.magic t) = [] := by
  simp only [State.event, here]
  exact if_neg fun bad => bad initialised

theorem event_mutexLock {s : State ι} {t : ι} {c : Call} (here : s.loc t = .mutexLock c)
    (result : ℤ) : s.event (.mutexLock t result) =
      if result ≠ 0 then [.respond t c.operation result] else [] := by
  simp only [State.event, here]

theorem event_mutexUnlock {s : State ι} {t : ι} {c : Call} {result : ℤ}
    (here : s.loc t = .mutexUnlock c result) :
    s.event (.mutexUnlock t) = [.respond t c.operation result] := by
  simp only [State.event, here]

/-- The pthread calls return `0` or one of these. -/
def Act.FailsWith (errors : ℤ → Prop) : Act ι → Prop
  | .mutexLock _ result | .condWait _ result | .reacquire _ result => result = 0 ∨ errors result
  | _ => True

instance (errors : ℤ → Prop) [DecidablePred errors] :
    DecidablePred (Act.FailsWith errors : Act ι → Prop)
  | .mutexLock _ result | .condWait _ result | .reacquire _ result =>
    inferInstanceAs (Decidable (result = 0 ∨ errors result))
  | .call _ _ | .magic _ | .spurious _ | .condSignal _ _ | .condBroadcast _ | .mutexUnlock _
  | .cancel _ | .terminate _ => isTrue trivial

/-- The lock that `my_rwlock/` implements. -/
def rwlock (errors : ℤ → Prop) : Object (Held ι) ι SharedLock.Call ℤ :=
  SharedLock.sharedLock ebusy errors

/-! ### The locks of one thread -/

theorem out_of_plain {x : Thread} (plain : ∀ m, x.loc.grants m = false ∧ x.loc.releases = false)
    (side : Side) : x.out side = x.held (Mode.ofSide side) := by
  unfold Thread.out
  rw [locks_of_plain (plain _).1 (plain .rd).2]
  exact Int.toNat_natCast _

/-- The section has granted side `m`. -/
theorem out_granted (x : Thread) {c : Call} {m : Mode} (asks : c = .lock m ∨ c = .trylock m)
    (plain : ∀ m, x.loc.grants m = false ∧ x.loc.releases = false) :
    Thread.out { x with loc := .mutexUnlock c 0 } =
      Function.update x.out m.side (x.out m.side + 1) := by
  have grants : ∀ m', Loc.grants m' (.mutexUnlock c 0) = decide (m = m') := by
    intro m'
    rcases asks with rfl | rfl <;> cases m <;> cases m' <;> rfl
  have keeps : Loc.releases (.mutexUnlock c 0) = false := by
    rcases asks with rfl | rfl <;> rfl
  funext side
  have before := out_of_plain plain
  have locks : Thread.locks (Mode.ofSide side) { x with loc := .mutexUnlock c 0 } =
      ((x.held (Mode.ofSide side) + if m = Mode.ofSide side then 1 else 0 : ℕ) : ℤ) := by
    unfold Thread.locks
    rw [grants, keeps]
    simp only [decide_eq_true_eq, Bool.false_eq_true, false_and, if_false, sub_zero,
      Nat.cast_add, Nat.cast_ite, Nat.cast_one, Nat.cast_zero]
    rfl
  have after : Thread.out { x with loc := .mutexUnlock c 0 } side =
      x.held (Mode.ofSide side) + if m = Mode.ofSide side then 1 else 0 := by
    unfold Thread.out
    rw [locks]
    exact Int.toNat_natCast _
  rw [after]
  by_cases own : side = m.side
  · rw [own, Function.update_self, before, Mode.ofSide_side, if_pos rfl]
  · rw [Function.update_of_ne own, before, if_neg fun same => own (Mode.ofSide_eq.mp same.symm)]
    rfl

/-- The section has given back the caller's side. -/
theorem out_released (x : Thread) {loc : Loc} (releases : loc.releases = true)
    (plain : ∀ m, x.loc.grants m = false ∧ x.loc.releases = false) :
    Thread.out { x with loc := loc } =
      Function.update x.out x.released.side (x.out x.released.side - 1) := by
  have locks : ∀ m, Thread.locks m { x with loc := loc } =
      x.held m - if x.released = m then 1 else 0 := fun m => by
    rw [locks_of_releases (x := { x with loc := loc }) releases]
    cases m <;> rfl
  funext side
  have before := out_of_plain plain
  have after : Thread.out { x with loc := loc } side =
      (x.held (Mode.ofSide side) - if x.released = Mode.ofSide side then 1 else 0 : ℤ).toNat :=
    congrArg Int.toNat (locks _)
  rw [after]
  by_cases own : side = x.released.side
  · rw [own, Function.update_self, before, Mode.ofSide_side, if_pos rfl]
    omega
  · rw [Function.update_of_ne own, before,
      if_neg fun same => own (Mode.ofSide_eq.mp same.symm)]
    omega

theorem out_of_same {x y : Thread} (plain : ∀ m, x.loc.grants m = false ∧ x.loc.releases = false)
    (plain' : ∀ m, y.loc.grants m = false ∧ y.loc.releases = false)
    (held : ∀ m, x.held m = y.held m) : x.out = y.out := by
  funext side
  rw [out_of_plain plain, out_of_plain plain', held]

/-! ### The steps of the atomic lock -/

section Shows

variable {errors : ℤ → Prop} {s s' s'' : State ι} {t : ι} {x : Thread} {c : SharedLock.Call}
  {result : ℤ} {shown shown' : List (Event ι SharedLock.Call ℤ)}

/-- The atomic lock comes from the one view to the other, and shows this. -/
def Shows (errors : ℤ → Prop) (s s' : State ι) (shown : List (Event ι SharedLock.Call ℤ)) : Prop :=
  ∃ actions, (rwlock errors).machine.run s.view actions = some s'.view ∧
    (rwlock errors).machine.history Object.event s.view actions = shown

theorem Shows.trans (first : Shows errors s s' shown) (second : Shows errors s' s'' shown') :
    Shows errors s s'' (shown ++ shown') := by
  obtain ⟨before, ran, same⟩ := first
  obtain ⟨after, ran', same'⟩ := second
  refine ⟨before ++ after, ?_, ?_⟩
  · rw [Machine.run_append, ran]
    exact ran'
  · rw [Machine.history_append ran, same, same']

/-- One step. -/
theorem Shows.step (action : Object.Act (Held ι) ι SharedLock.Call ℤ)
    (step : (rwlock errors).machine.step s.view action = some s'.view) :
    Shows errors s s' (Object.event s.view action) := by
  refine ⟨[action], ?_, ?_⟩
  · rw [Machine.run, step]
    rfl
  · rw [Machine.history_cons step]
    exact List.append_nil _

theorem view_moved (thread : s'.thread = Function.update s.thread t x) :
    s'.view = ⟨Function.update s.view.object t x.out,
      Function.update s.view.phase t x.loc.phase⟩ := by
  unfold State.view State.loc
  rw [thread]
  congr 1
  · funext u
    by_cases same : u = t
    · rw [same, Function.update_self, Function.update_self]
    · rw [Function.update_of_ne same, Function.update_of_ne same]
  · funext u
    by_cases same : u = t
    · rw [same, Function.update_self, Function.update_self]
    · rw [Function.update_of_ne same, Function.update_of_ne same]

/-- The thread moves within its call. -/
theorem Shows.silent (thread : s'.thread = Function.update s.thread t x)
    (out : x.out = (s.thread t).out) (phase : x.loc.phase = (s.loc t).phase) :
    Shows errors s s' [] := by
  have same : s'.view = s.view := by
    rw [view_moved thread, out, phase]
    exact congrArg₂ Object.State.mk (Function.update_eq_self t _) (Function.update_eq_self t _)
  exact ⟨[], congrArg some same.symm, rfl⟩

theorem Shows.invoke (thread : s'.thread = Function.update s.thread t x)
    (out : x.out = (s.thread t).out) (idle : s.loc t = .idle) (phase : x.loc.phase = .pending c) :
    Shows errors s s' [.invoke t c] := by
  refine Shows.step (.invoke t c) ?_
  rw [Object.step_invoke (show s.view.phase t = .idle from congrArg Loc.phase idle),
    view_moved thread, out, phase]
  exact congrArg (fun object => some (Object.State.mk object _)) (Function.update_eq_self t _).symm

/-- The call takes effect. -/
theorem Shows.effect (thread : s'.thread = Function.update s.thread t x)
    (pending : (s.loc t).phase = .pending c) (phase : x.loc.phase = .done c result)
    (effect : SharedLock.Effect ebusy errors s.view.phase s.view.object t c result
      (Function.update s.view.object t x.out)) :
    Shows errors s s' [] := by
  refine Shows.step (.effect t result (Function.update s.view.object t x.out)) ?_
  rw [Object.step_effect pending effect, view_moved thread, phase]

theorem Shows.respond (thread : s'.thread = Function.update s.thread t x)
    (out : x.out = (s.thread t).out) (done : (s.loc t).phase = .done c result)
    (idle : x.loc = .idle) : Shows errors s s' [.respond t c result] := by
  have here : s.view.phase t = .done c result := done
  rw [← Object.event_respond here]
  refine Shows.step (.respond t) ?_
  rw [Object.step_respond here, view_moved thread, out, idle]
  exact congrArg (fun object => some (Object.State.mk object _)) (Function.update_eq_self t _).symm

/-- A failure has changed nothing. -/
theorem Shows.fail (thread : s'.thread = Function.update s.thread t x)
    (out : x.out = (s.thread t).out) (pending : (s.loc t).phase = .pending c)
    (phase : x.loc.phase = .done c result) (failed : result ≠ 0) (error : errors result) :
    Shows errors s s' [] := by
  refine Shows.effect thread pending phase ?_
  have same : Function.update s.view.object t x.out = s.view.object := by
    rw [out]
    exact Function.update_eq_self t _
  rw [same]
  exact .fail c result failed error

end Shows

/-! ### The sections -/

section Sections

variable [Fintype ι] {errors : ℤ → Prop} {s : State ι} {t : ι} {m : Mode} {rw : MyPthreadRwlockT}

/-- No lock of the side is out. -/
theorem Accounted.out_zero (accounted : Accounted s) (none : s.locks m = 0) (u : ι) :
    (s.thread u).out m.side = 0 := by
  have most := le_total (w := Thread.locks m) (fun u => accounted.thread_locks_nonneg u m) u
  unfold State.locks at none
  unfold Thread.out
  rw [Mode.ofSide_side]
  omega

theorem Accounted.locks_zero (accounted : Accounted s) (none : ∀ u, (s.thread u).out m.side = 0) :
    s.locks m = 0 := by
  refine total_eq_zero fun u => ?_
  have nonneg := accounted.thread_locks_nonneg u m
  have zero := none u
  unfold Thread.out at zero
  rw [Mode.ofSide_side] at zero
  omega

/-- Between the sections `rw_refcount` tells which locks are out. -/
theorem Accounted.known (accounted : Accounted s) (settled : ∀ m, s.locks m = s.outstanding m) :
    (s.locks .wr = 0 ∧ s.rw.rwRefcount = s.locks .rd ∧ 0 ≤ s.locks .rd) ∨
      (s.locks .wr = 1 ∧ s.locks .rd = 0 ∧ s.rw.rwRefcount = -1) := by
  have nonneg : 0 ≤ s.locks .rd := by
    rw [settled]
    exact outstanding_nonneg s .rd
  have small : s.locks .rd < 2 ^ 31 := by
    rw [settled]
    exact accounted.few
  rcases accounted.accounts.cases nonneg small with ⟨none, count⟩ | writer
  · exact .inl ⟨none, count, nonneg⟩
  · exact .inr writer

/-- **The test that lets a caller in finds its side free.** -/
theorem Accounted.free (accounted : Accounted s) (settled : ∀ m, s.locks m = s.outstanding m)
    (count : rw.rwRefcount = s.rw.rwRefcount) (idle : ¬ rw.busy m = true) :
    s.view.object.Free m.side := by
  have known := accounted.known settled
  cases m with
  | rd =>
    simp only [MyPthreadRwlockT.busy, Bool.or_eq_true, decide_eq_true_eq, not_or] at idle
    have none : s.locks .wr = 0 := by omega
    exact accounted.out_zero none
  | wr =>
    simp only [MyPthreadRwlockT.busy, decide_eq_true_eq, not_not] at idle
    have noReader : s.locks .rd = 0 := by omega
    have noWriter : s.locks .wr = 0 := by omega
    intro u side
    cases side with
    | shared => exact accounted.out_zero noReader u
    | exclusive => exact accounted.out_zero noWriter u

/-- **A caller is refused only where its side is taken**, or a writer waits. -/
theorem Accounted.taken (accounted : Accounted s) (settled : ∀ m, s.locks m = s.outstanding m)
    (waiting : s.rw.nwait .wr = s.waiting .wr) (busy : s.rw.busy m = true) :
    ¬ s.view.object.Free m.side ∨
      m.side = .shared ∧ ∃ u, s.view.phase u = .pending (.lock .exclusive) := by
  have known := accounted.known settled
  have held : s.locks .wr ≠ 0 → ¬ s.view.object.Free Mode.rd.side := fun out free =>
    out (accounted.locks_zero (m := .wr) free)
  cases m with
  | rd =>
    simp only [MyPthreadRwlockT.busy, Bool.or_eq_true, decide_eq_true_eq] at busy
    rcases busy with writer | waits
    · exact .inl (held (by omega))
    · right
      refine ⟨rfl, ?_⟩
      have positive : 0 < s.waiting .wr := by
        rw [← waiting]
        exact waits
      obtain ⟨u, found⟩ := exists_of_count_pos positive
      refine ⟨u, ?_⟩
      show (s.thread u).loc.phase = _
      cases loc : (s.thread u).loc with
      | condWait m | asleep m | woken m | cancelled m =>
        rw [loc] at found
        rw [show m = .wr from of_decide_eq_true found]
        rfl
      | _ =>
        rw [loc] at found
        cases found
  | wr =>
    simp only [MyPthreadRwlockT.busy, decide_eq_true_eq] at busy
    left
    intro free
    have noReader := accounted.locks_zero (m := .rd) fun u => free u .shared
    have noWriter := accounted.locks_zero (m := .wr) fun u => free u .exclusive
    omega

/-- A thread outside the sections, about to run one. -/
structure Entering (s : State ι) (t : ι) : Prop where
  accounted : Accounted s
  settled : ∀ m, s.locks m = s.outstanding m
  plain : ∀ m, (s.loc t).grants m = false ∧ (s.loc t).releases = false

variable (entering : Entering s t)

include entering

/-- The section has not touched the locks of the thread. -/
theorem Entering.out_kept {loc : Loc}
    (plain : ∀ m, loc.grants m = false ∧ loc.releases = false) :
    Thread.out { s.thread t with loc := loc } = (s.thread t).out :=
  out_of_same plain entering.plain fun m => by cases m <;> rfl

/-- The section has granted the lock. -/
theorem Entering.granted {c : Call} (asks : c = .lock m ∨ c = .trylock m) :
    Function.update s.view.object t (Thread.out { s.thread t with loc := .mutexUnlock c 0 }) =
      s.view.object.set t m.side (s.view.object t m.side + 1) := by
  rw [out_granted (s.thread t) asks entering.plain]
  rfl

theorem Entering.lockLoop (pending : (s.loc t).phase = .pending (.lock m.side))
    (count : rw.rwRefcount = s.rw.rwRefcount) :
    Shows errors s (s.enter t (.lock m) (lockLoop m rw)) [] := by
  unfold Rwlock.lockLoop
  split
  · exact .silent rfl (entering.out_kept fun _ => ⟨rfl, rfl⟩) pending.symm
  · rename_i idle
    refine .effect rfl pending rfl ?_
    show SharedLock.Effect ebusy errors _ _ t _ 0
      (Function.update _ t (Thread.out { s.thread t with loc := .mutexUnlock (.lock m) 0 }))
    rw [entering.granted (.inl rfl)]
    exact .lock m.side (entering.accounted.free entering.settled count idle)

theorem Entering.lockWaited {result : ℤ} (pending : (s.loc t).phase = .pending (.lock m.side))
    (error : result = 0 ∨ errors result) :
    Shows errors s (s.enter t (.lock m) (lockWaited m result s.rw)) [] := by
  unfold Rwlock.lockWaited
  split
  · rename_i failed
    refine .fail rfl (entering.out_kept fun m' => ?_) pending rfl failed
      (error.resolve_left failed)
    exact ⟨by simp only [Pthread.loc, Loc.grants, failed, decide_false, Bool.and_false], rfl⟩
  · exact entering.lockLoop pending (by cases m <;> rfl)

theorem Entering.tryBody (waiting : s.rw.nwait .wr = s.waiting .wr)
    (pending : (s.loc t).phase = .pending (.trylock m.side)) :
    Shows errors s (s.enter t (.trylock m) (tryBody m s.rw)) [] := by
  unfold Rwlock.tryBody
  split
  · rename_i busy
    refine .effect rfl pending rfl ?_
    have kept : Thread.out { s.thread t with loc := .mutexUnlock (.trylock m) ebusy } =
        (s.thread t).out :=
      entering.out_kept fun m' => ⟨by cases m <;> cases m' <;> rfl, rfl⟩
    have same : Function.update s.view.object t
        (Thread.out { s.thread t with loc := .mutexUnlock (.trylock m) ebusy }) =
          s.view.object := by
      rw [kept]
      exact Function.update_eq_self t _
    show SharedLock.Effect ebusy errors _ _ t _ ebusy
      (Function.update _ t (Thread.out { s.thread t with loc := .mutexUnlock (.trylock m) ebusy }))
    rw [same]
    exact .refuse m.side (entering.accounted.taken entering.settled waiting busy)
  · rename_i idle
    refine .effect rfl pending rfl ?_
    show SharedLock.Effect ebusy errors _ _ t _ 0
      (Function.update _ t (Thread.out { s.thread t with loc := .mutexUnlock (.trylock m) 0 }))
    rw [entering.granted (.inr rfl)]
    exact .trylock m.side (entering.accounted.free entering.settled rfl idle)

theorem Entering.unlock (here : s.loc t = .mutexLock .unlock) :
    Shows errors s (s.enter t .unlock (myPthreadRwlockUnlock s.rw)) [] := by
  have holds := entering.accounted.holders t (by rw [here]; rfl)
  have accounts := entering.accounted.accounts
  rw [entering.settled, entering.settled] at accounts
  have one := one_le_outstanding holds
  have out : 1 ≤ if (s.thread t).released = .rd then s.outstanding .rd else s.outstanding .wr := by
    cases side : (s.thread t).released <;> rw [side] at one <;> exact one
  obtain ⟨_, releases⟩ := unlock_accounts _ accounts (outstanding_nonneg s .rd)
    entering.accounted.few out
  have phase : ((myPthreadRwlockUnlock s.rw).2.loc .unlock).phase = .done .unlock 0 := by
    cases next : (myPthreadRwlockUnlock s.rw).2 with
    | condSignal | condBroadcast => rfl
    | mutexUnlock result =>
      rw [next] at releases
      rw [show result = 0 from of_decide_eq_true releases]
      rfl
    | condWait | exit =>
      rw [next] at releases
      cases releases
  refine .effect rfl (by rw [here]; rfl) phase ?_
  show SharedLock.Effect ebusy errors _ _ t _ 0 (Function.update _ t
    (Thread.out { s.thread t with loc := (myPthreadRwlockUnlock s.rw).2.loc .unlock }))
  rw [out_released (s.thread t) releases entering.plain]
  refine .unlock (s.thread t).released.side ?_
  show 0 < (s.thread t).out (s.thread t).released.side
  rw [out_of_plain entering.plain, Mode.ofSide_side]
  unfold Thread.Holds at holds
  unfold Thread.released
  split
  · assumption
  · exact holds.resolve_right ‹_›

end Sections

/-! ### The refinement -/

section Refinement

variable [Fintype ι] {errors : ℤ → Prop} {s s' : State ι}

/-- Waking a sleeper is not seen. -/
theorem view_wake (s : State ι) (m : Mode) (woken : Finset ι) :
    (s.wake m woken).view = s.view := by
  have same : ∀ u, ((s.wake m woken).thread u).out = (s.thread u).out ∧
      ((s.wake m woken).thread u).loc.phase = (s.thread u).loc.phase := by
    intro u
    show Thread.out (if u ∈ woken ∧ s.loc u = .asleep m then _ else _) = _ ∧
      Loc.phase (Thread.loc (if u ∈ woken ∧ s.loc u = .asleep m then _ else _)) = _
    split
    · rename_i sleeper
      have here : (s.thread u).loc = .asleep m := sleeper.2
      exact ⟨out_of_same (fun _ => ⟨rfl, rfl⟩) (fun _ => by rw [here]; exact ⟨rfl, rfl⟩)
        fun m' => by cases m' <;> rfl, by rw [here]; rfl⟩
    · exact ⟨rfl, rfl⟩
  exact congrArg₂ Object.State.mk (funext fun u => (same u).1) (funext fun u => (same u).2)

/-- Legal use, with few readers, and no errors of the pthread calls but these. -/
def LegalErrors (errors : ℤ → Prop) (s : State ι) (action : Act ι) : Prop :=
  LegalFew s action ∧ action.FailsWith errors

instance (errors : ℤ → Prop) [DecidablePred errors] (s : State ι) :
    DecidablePred (LegalErrors errors s) :=
  fun _ => inferInstanceAs (Decidable (_ ∧ _))

/-- **Each step is steps of the atomic lock** that show the same. -/
theorem shows_step {action : Act ι} (reachable : machine.Reachable LegalFew s)
    (admitted : LegalErrors errors s action) (step : Step s action s') :
    Shows errors s s' (s.event action) := by
  have accounted := reachable_accounted reachable
  have owner := (reachable_counted reachable).1
  have initialised := reachable_initialised reachable
  have waiting := reachable_waiting (fun _ _ legal => legal.1) reachable .wr
  -- a thread that stays outside the sections
  have same : ∀ (t : ι) {loc loc' : Loc}, s.loc t = loc →
      (∀ m, loc.grants m = false ∧ loc.releases = false) →
      (∀ m, loc'.grants m = false ∧ loc'.releases = false) →
      Thread.out { s.thread t with loc := loc' } = (s.thread t).out := by
    intro t loc loc' here plain plain'
    exact out_of_same plain' (fun m => by rw [show (s.thread t).loc = loc from here]; exact plain m)
      fun m => by cases m <;> rfl
  have entering : ∀ {t : ι}, s.rwMutex = none → Entering s t := fun {t} free =>
    ⟨accounted, locks_free owner free, outside_plain (owner.not_inside free t)⟩
  cases step with
  | call t c here =>
    exact .invoke rfl (same t here (fun _ => ⟨rfl, rfl⟩) fun _ => ⟨rfl, rfl⟩) here rfl
  | badMagic t c here bad => exact absurd initialised bad
  | magic t c here =>
    rw [event_magic here initialised]
    exact .silent rfl (same t here (fun _ => ⟨rfl, rfl⟩) fun _ => ⟨rfl, rfl⟩) (by rw [here]; rfl)
  | lockError t c result here failed =>
    rw [event_mutexLock here, if_pos failed]
    -- the failure, as if the call had come to its `pthread_mutex_unlock`, and its return
    have plain : ∀ m, (Loc.mutexUnlock c result).grants m = false ∧
        (Loc.mutexUnlock c result).releases = false := fun m => by
      cases c <;> simp [Loc.grants, Loc.releases, failed]
    have fails : Shows errors s (s.goto t (.mutexUnlock c result)) [] :=
      .fail rfl (same t here (fun _ => ⟨rfl, rfl⟩) plain) (by rw [here]; rfl) rfl failed
        (admitted.2.resolve_left failed)
    refine fails.trans (.respond (x := { s.thread t with loc := .idle, result := result }) ?_ ?_
      (by rw [goto_loc_self]; rfl) rfl)
    · exact (Function.update_idem _ _ _).symm
    · refine out_of_same (fun _ => ⟨rfl, rfl⟩) (fun m => ?_) fun m => ?_
      · rw [show ((s.goto t (.mutexUnlock c result)).thread t).loc = _ from goto_loc_self s t _]
        exact plain m
      · rw [goto_held]
        cases m <;> rfl
  | lock t c here free =>
    rw [event_mutexLock here, if_neg (fun failed => failed rfl)]
    have pending : (s.loc t).phase = .pending c.operation := by
      rw [here]
      rfl
    cases c with
    | lock m =>
      have looped : Shows errors s (s.enter t (.lock m) (lockLoop m s.rw)) [] :=
        (entering free).lockLoop pending rfl
      cases m <;> exact looped
    | trylock m =>
      have tried : Shows errors s (s.enter t (.trylock m) (tryBody m s.rw)) [] :=
        (entering free).tryBody waiting pending
      cases m <;> exact tried
    | unlock => exact (entering free).unlock here
  | waitError t m result here failed =>
    have at_wait : Entering s t :=
      ⟨accounted, locks_condWait owner here, fun _ => by rw [here]; exact ⟨rfl, rfl⟩⟩
    exact at_wait.lockWaited (by rw [here]; rfl) admitted.2
  | wait t m here =>
    exact .silent rfl (same t here (fun _ => ⟨rfl, rfl⟩) fun _ => ⟨rfl, rfl⟩) (by rw [here]; rfl)
  | spurious t m here =>
    exact .silent rfl (same t here (fun _ => ⟨rfl, rfl⟩) fun _ => ⟨rfl, rfl⟩) (by rw [here]; rfl)
  | reacquire t m result here free =>
    exact (entering free).lockWaited (by rw [here]; rfl) admitted.2
  | condSignal t woken here | condBroadcast t woken _ here =>
    show Shows errors s _ []
    unfold Shows
    rw [← view_wake s _ woken]
    have away : ∀ m, (s.wake m woken).loc t = s.loc t := fun m =>
      wake_loc_of_ne (by rw [here]; intro asleep; cases asleep)
    have own : ∀ m, ((s.wake m woken).thread t).loc = s.loc t := away
    refine Shows.silent rfl ?_ (by rw [away, here]; rfl)
    funext side
    unfold Thread.out
    rw [locks_of_releases rfl, locks_of_releases (by rw [own, here]; rfl)]
    cases side <;> rfl
  | mutexUnlock t c result here =>
    rw [event_mutexUnlock here]
    refine .respond rfl ?_ (by rw [here]; rfl) (returned_loc _ _ _)
    funext side
    exact congrArg Int.toNat (returned_locks here fun unlocking => accounted.holders t unlocking)
  | cancel t m here => exact admitted.1.1.elim
  | terminate t m here free =>
    exact .silent rfl (same t here (fun _ => ⟨rfl, rfl⟩) fun _ => ⟨rfl, rfl⟩) (by rw [here]; rfl)

theorem view_start (errors : ℤ → Prop) :
    (start : State ι).view = (rwlock errors).machine.init := by
  refine congrArg₂ Object.State.mk (funext fun u => funext fun side => ?_) rfl
  cases side <;> rfl

/-- **The lock is linearizable**: what any run of legal use shows is what a run of the atomic
read-write lock shows, and in its last state the locks that are out are those of the atomic
lock. -/
theorem linearizable {actions : List (Act ι)}
    (admitted : machine.Admitted (LegalErrors errors) start actions)
    (ran : machine.run start actions = some s) :
    ∃ effects, (rwlock errors).machine.run (rwlock errors).machine.init effects = some s.view ∧
      (rwlock errors).machine.history Object.event (rwlock errors).machine.init effects =
        machine.history State.event (start : State ι) actions := by
  have matched : ∃ effects,
      (rwlock errors).machine.Admitted Anything (start : State ι).view effects ∧
      (rwlock errors).machine.run (start : State ι).view effects = some s.view ∧
      (rwlock errors).machine.history Object.event (start : State ι).view effects =
        machine.history State.event (start : State ι) actions := by
    refine Machine.history_simulate State.view ?_ (Machine.Reaches.refl _) admitted ran
    intro s action s' reachable admitted step
    obtain ⟨effects, ran', same⟩ := shows_step (reachable.mono fun _ _ legal => legal.1) admitted
      (step_cases step)
    exact ⟨effects, Machine.admitted_anything _ _, ran', same⟩
  obtain ⟨effects, _, ran', same⟩ := matched
  rw [← view_start]
  exact ⟨effects, ran', same⟩

/-- The states of legal use are states of the atomic lock. -/
theorem reachable_view (reachable : machine.Reachable (LegalErrors errors) s) :
    (rwlock errors).machine.Reachable Anything s.view := by
  refine reachable.induct (I := fun s => (rwlock errors).machine.Reachable Anything s.view) ?_ ?_
  · rw [show (machine.init : State ι).view = (rwlock errors).machine.init from view_start errors]
    exact Machine.Reaches.refl _
  · intro s action s' reachable image admitted step
    obtain ⟨effects, ran, _⟩ := shows_step (reachable.mono fun _ _ legal => legal.1) admitted
      (step_cases step)
    exact image.trans (Machine.reaches_of_run ran (Machine.admitted_anything _ _))

/-- A reader has the lock, and a writer that tries is refused. -/
def readerThenTrywriter (r w : ι) : List (Act ι) :=
  [.call r (.lock .rd), .magic r, .mutexLock r 0, .mutexUnlock r,
    .call w (.trylock .wr), .magic w, .mutexLock w 0, .mutexUnlock w]

theorem linearizable_readerThenTrywriter :
    ∃ effects, (rwlock fun _ => False).machine.history Object.event
        (rwlock fun _ => False).machine.init effects =
      [.invoke (0 : Fin 2) (.lock .shared), .respond 0 (.lock .shared) 0,
        .invoke 1 (.trylock .exclusive), .respond 1 (.trylock .exclusive) ebusy] := by
  obtain ⟨effects, _, same⟩ := @linearizable (Fin 2) _ _ (fun _ => False) _
    (readerThenTrywriter 0 1) (by decide) (Machine.run_after (by decide))
  exact ⟨effects, same.trans (by decide)⟩

end Refinement

end Unpvol2.Rwlock
