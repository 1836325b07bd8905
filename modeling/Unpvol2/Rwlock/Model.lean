/-
**The read-write lock of `my_rwlock/`, call by call.**

`my_pthread_rwlock_rdlock`, `wrlock`, `tryrdlock`, `trywrlock` and `unlock`, run by any number of
threads on one initialised lock. The code between two pthread calls is a function of the lock's
fields, under the source's name; it runs while the caller holds `rw_mutex` and ends in the next
pthread call. A thread's `Loc` is the pthread call it stands at, and one step is one of these:

* a thread calls a lock function (`call`) and tests `rw_magic` (`magic`);
* a pthread call returns and the thread runs on to the next one. `pthread_mutex_lock` and
  `pthread_cond_wait` return `0` or an error of the environment's choice; `pthread_cond_wait`
  releases `rw_mutex` and sleeps in one step, may wake without a signal, and takes `rw_mutex` again
  before it returns, with an error or without;
* `pthread_cond_signal` wakes the sleepers the environment names, at least one if there is one;
  `pthread_cond_broadcast` wakes all;
* a thread in `pthread_cond_wait` is cancelled: it takes `rw_mutex` again, runs the cleanup handlers
  that were pushed, and is gone.

What no code of the lock reads, and the statements need, is on the thread as well: how many read
and write locks it has been granted by calls that returned `0` and has not released (`reads`,
`writes`).
-/

import Mathlib.Data.Fintype.Basic
import Mathlib.Data.Finset.Basic
import Mathlib.Tactic.Common
import Unpvol2.Lib.C
import Unpvol2.Lib.Machine

namespace Unpvol2.Rwlock

open C Interleaving

/-! ### The lock's fields and the code between two pthread calls -/

/-- `RW_MAGIC`. -/
def rwMagicValue : ℤ := 0x19283746

/-- `EBUSY` and `EINVAL` of `<errno.h>`. -/
def ebusy : ℤ := 16
def einval : ℤ := 22

/-- The fields of `my_pthread_rwlock_t` that are not pthread objects. -/
structure MyPthreadRwlockT where
  rwMagic : ℤ
  /-- the number waiting -/
  rwNwaitreaders : ℤ
  /-- the number waiting -/
  rwNwaitwriters : ℤ
  /-- `-1` if a writer has the lock, else the number of readers holding the lock -/
  rwRefcount : ℤ
deriving DecidableEq

/-- `PTHREAD_RWLOCK_INITIALIZER`, and what `my_pthread_rwlock_init` leaves. -/
def pthreadRwlockInitializer : MyPthreadRwlockT := ⟨rwMagicValue, 0, 0, 0⟩

/-- The two sides of the lock. -/
inductive Mode
  | rd
  | wr
deriving DecidableEq

/-- The functions of the lock. -/
inductive Call
  /-- `my_pthread_rwlock_rdlock`, `my_pthread_rwlock_wrlock` -/
  | lock (mode : Mode)
  /-- `my_pthread_rwlock_tryrdlock`, `my_pthread_rwlock_trywrlock` -/
  | trylock (mode : Mode)
  /-- `my_pthread_rwlock_unlock` -/
  | unlock
deriving DecidableEq

/-- How a stretch of code that holds `rw_mutex` ends: in a pthread call, or in `exit(1)`. -/
inductive Pthread
  /-- `pthread_cond_wait` on `rw_condreaders` or `rw_condwriters` -/
  | condWait (mode : Mode)
  /-- `pthread_cond_signal(&rw->rw_condwriters)` -/
  | condSignal
  /-- `pthread_cond_broadcast(&rw->rw_condreaders)` -/
  | condBroadcast
  /-- `pthread_mutex_unlock(&rw->rw_mutex); return(result)` -/
  | mutexUnlock (result : ℤ)
  | exit
deriving DecidableEq

namespace MyPthreadRwlockT

/-- The wait counter of a side. -/
def nwait (rw : MyPthreadRwlockT) : Mode → ℤ
  | .rd => rw.rwNwaitreaders
  | .wr => rw.rwNwaitwriters

/-- `rw_nwaitreaders += change` or `rw_nwaitwriters += change`; the counts are of threads, so they
stay within an `int`. -/
def addWait (rw : MyPthreadRwlockT) (change : ℤ) : Mode → MyPthreadRwlockT
  | .rd => { rw with rwNwaitreaders := rw.rwNwaitreaders + change }
  | .wr => { rw with rwNwaitwriters := rw.rwNwaitwriters + change }

/-- The test that makes a caller wait, or be refused: a reader gives preference to waiting
writers. -/
def busy (rw : MyPthreadRwlockT) : Mode → Bool
  | .rd => rw.rwRefcount < 0 || rw.rwNwaitwriters > 0
  | .wr => rw.rwRefcount ≠ 0

/-- The lock is handed to the caller: `rw_refcount++`, an `int`, or `rw_refcount = -1`. -/
def take (rw : MyPthreadRwlockT) : Mode → MyPthreadRwlockT
  | .rd => { rw with rwRefcount := int32 (rw.rwRefcount + 1) }
  | .wr => { rw with rwRefcount := -1 }

end MyPthreadRwlockT

/-- The `while` loop of `rdlock` and `wrlock` and what follows it, entered with `result == 0`: the
test, and either the wait or the grant. -/
def lockLoop (mode : Mode) (rw : MyPthreadRwlockT) : MyPthreadRwlockT × Pthread :=
  if rw.busy mode then (rw.addWait 1 mode, .condWait mode)
  else (rw.take mode, .mutexUnlock 0)

/-- The rest of the loop's body after `pthread_cond_wait` returned `result`. -/
def lockWaited (mode : Mode) (result : ℤ) (rw : MyPthreadRwlockT) : MyPthreadRwlockT × Pthread :=
  if result ≠ 0 then (rw.addWait (-1) mode, .mutexUnlock result)
  else lockLoop mode (rw.addWait (-1) mode)

/-- The body of the two `try` functions: no wait, `EBUSY` instead. -/
def tryBody (mode : Mode) (rw : MyPthreadRwlockT) : MyPthreadRwlockT × Pthread :=
  if rw.busy mode then (rw, .mutexUnlock ebusy) else (rw.take mode, .mutexUnlock 0)

/-- The second half of `unlock`: give preference to waiting writers over waiting readers. -/
def unlockWake (rw : MyPthreadRwlockT) : MyPthreadRwlockT × Pthread :=
  if rw.rwNwaitwriters > 0 then
    if rw.rwRefcount = 0 then (rw, .condSignal) else (rw, .mutexUnlock 0)
  else if rw.rwNwaitreaders > 0 then (rw, .condBroadcast)
  else (rw, .mutexUnlock 0)

def myPthreadRwlockRdlock : MyPthreadRwlockT → MyPthreadRwlockT × Pthread := lockLoop .rd

def myPthreadRwlockWrlock : MyPthreadRwlockT → MyPthreadRwlockT × Pthread := lockLoop .wr

def myPthreadRwlockTryrdlock : MyPthreadRwlockT → MyPthreadRwlockT × Pthread := tryBody .rd

def myPthreadRwlockTrywrlock : MyPthreadRwlockT → MyPthreadRwlockT × Pthread := tryBody .wr

def myPthreadRwlockUnlock (rw : MyPthreadRwlockT) : MyPthreadRwlockT × Pthread :=
  if rw.rwRefcount > 0 then unlockWake { rw with rwRefcount := rw.rwRefcount - 1 }
  else if rw.rwRefcount = -1 then unlockWake { rw with rwRefcount := 0 }
  else (rw, .exit)

/-- What a function runs once `pthread_mutex_lock` has returned `0`. -/
def body : Call → MyPthreadRwlockT → MyPthreadRwlockT × Pthread
  | .lock .rd => myPthreadRwlockRdlock
  | .lock .wr => myPthreadRwlockWrlock
  | .trylock .rd => myPthreadRwlockTryrdlock
  | .trylock .wr => myPthreadRwlockTrywrlock
  | .unlock => myPthreadRwlockUnlock

/-- `my_pthread_rwlock_destroy`, its reads and its write taken together. -/
def myPthreadRwlockDestroy (rw : MyPthreadRwlockT) : ℤ × MyPthreadRwlockT :=
  if rw.rwMagic ≠ rwMagicValue then (einval, rw)
  else if rw.rwRefcount ≠ 0 ∨ rw.rwNwaitreaders ≠ 0 ∨ rw.rwNwaitwriters ≠ 0 then (ebusy, rw)
  else (0, { rw with rwMagic := 0 })

/-! ### Threads -/

/-- Where a thread stands. -/
inductive Loc
  /-- outside the lock's functions -/
  | idle
  /-- in the call, before the test of `rw_magic` -/
  | entered (call : Call)
  /-- at `pthread_mutex_lock` -/
  | mutexLock (call : Call)
  /-- at `pthread_cond_wait`, still holding `rw_mutex` -/
  | condWait (mode : Mode)
  /-- asleep in `pthread_cond_wait` -/
  | asleep (mode : Mode)
  /-- in `pthread_cond_wait`, no longer asleep, about to take `rw_mutex` again -/
  | woken (mode : Mode)
  | condSignal
  | condBroadcast
  /-- at `pthread_mutex_unlock`, about to return `result` -/
  | mutexUnlock (call : Call) (result : ℤ)
  | exit
  /-- cancelled in `pthread_cond_wait`, about to take `rw_mutex` again -/
  | cancelled (mode : Mode)
  /-- terminated by the cancellation -/
  | dead (mode : Mode)
deriving DecidableEq

/-- The location at which a stretch of code ends. -/
def Pthread.loc (call : Call) : Pthread → Loc
  | .condWait mode => .condWait mode
  | .condSignal => .condSignal
  | .condBroadcast => .condBroadcast
  | .mutexUnlock result => .mutexUnlock call result
  | .exit => .exit

/-- A thread: where it stands, what its last call returned, and the locks it has been granted and
has not released. -/
structure Thread where
  loc : Loc
  result : ℤ
  reads : ℕ
  writes : ℕ
deriving DecidableEq

namespace Thread

def held (x : Thread) : Mode → ℕ
  | .rd => x.reads
  | .wr => x.writes

/-- The thread holds the lock. -/
def Holds (x : Thread) : Prop := 0 < x.reads ∨ 0 < x.writes

instance (x : Thread) : Decidable x.Holds := inferInstanceAs (Decidable (_ ∨ _))

/-- The side an `unlock` of this thread gives back. -/
def released (x : Thread) : Mode := if 0 < x.writes then .wr else .rd

/-- The call returns `result`: a lock call that returns `0` has granted its lock, an `unlock` that
returns `0` has given one back. -/
def returned (x : Thread) (call : Call) (result : ℤ) : Thread :=
  if result ≠ 0 then { x with loc := .idle, result := result }
  else match call with
    | .lock .rd | .trylock .rd => ⟨.idle, 0, x.reads + 1, x.writes⟩
    | .lock .wr | .trylock .wr => ⟨.idle, 0, x.reads, x.writes + 1⟩
    | .unlock =>
      match x.released with
      | .rd => ⟨.idle, 0, x.reads - 1, x.writes⟩
      | .wr => ⟨.idle, 0, x.reads, x.writes - 1⟩

end Thread

/-! ### The system -/

/-- The lock, the owner of `rw_mutex`, the threads, and whether one of them has run `exit(1)`,
which ends the process. -/
structure State (ι : Type) where
  rw : MyPthreadRwlockT
  rwMutex : Option ι
  thread : ι → Thread
  exited : Bool

/-- One step: which thread moves, and what the environment chooses for it. -/
inductive Act (ι : Type)
  | call (t : ι) (call : Call)
  | magic (t : ι)
  /-- `pthread_mutex_lock` returns `result` -/
  | mutexLock (t : ι) (result : ℤ)
  /-- `pthread_cond_wait` goes to sleep, or returns the error `result` at once -/
  | condWait (t : ι) (result : ℤ)
  /-- the sleep ends with no signal sent -/
  | spurious (t : ι)
  /-- `pthread_cond_wait` has `rw_mutex` again and returns `result` -/
  | reacquire (t : ι) (result : ℤ)
  | condSignal (t : ι) (woken : Finset ι)
  | condBroadcast (t : ι)
  | mutexUnlock (t : ι)
  | cancel (t : ι)
  | terminate (t : ι)

/-- The thread that moves. -/
def Act.thread {ι : Type} : Act ι → ι
  | .call t _ | .magic t | .mutexLock t _ | .condWait t _ | .spurious t | .reacquire t _
  | .condSignal t _ | .condBroadcast t | .mutexUnlock t | .cancel t | .terminate t => t

variable {ι : Type} [DecidableEq ι]

namespace State

def loc (s : State ι) (t : ι) : Loc := (s.thread t).loc

/-- Thread `t` moves to `loc`. -/
def goto (s : State ι) (t : ι) (loc : Loc) : State ι :=
  { s with thread := Function.update s.thread t { s.thread t with loc := loc } }

/-- Thread `t` returns an error without having taken `rw_mutex`. -/
def fail (s : State ι) (t : ι) (result : ℤ) : State ι :=
  { s with thread := Function.update s.thread t { s.thread t with loc := .idle, result := result } }

/-- Thread `t`, holding `rw_mutex`, has run a stretch of code. -/
def enter (s : State ι) (t : ι) (call : Call) (ran : MyPthreadRwlockT × Pthread) : State ι :=
  { s.goto t (ran.2.loc call) with
    rw := ran.1
    rwMutex := some t
    exited := s.exited || decide (ran.2 = .exit) }

/-- Thread `t` releases `rw_mutex` and sleeps, in one step. -/
def sleep (s : State ι) (t : ι) (mode : Mode) : State ι :=
  { s.goto t (.asleep mode) with rwMutex := none }

/-- The sleepers of one side among `woken` wake. -/
def wake (s : State ι) (mode : Mode) (woken : Finset ι) : State ι :=
  { s with
    thread := fun u =>
      if u ∈ woken ∧ s.loc u = .asleep mode then { s.thread u with loc := .woken mode }
      else s.thread u }

/-- Thread `t` releases `rw_mutex` and returns. -/
def leave (s : State ι) (t : ι) (call : Call) (result : ℤ) : State ι :=
  { s with
    rwMutex := none
    thread := Function.update s.thread t ((s.thread t).returned call result) }

/-- The handlers on the cleanup stack while a thread is in `pthread_cond_wait`: neither function
calls `pthread_cleanup_push`. -/
def cleanupHandlers : Mode → List (State ι → State ι)
  | .rd => []
  | .wr => []

/-- A cancelled thread has `rw_mutex` again, runs its handlers and terminates. -/
def terminate (s : State ι) (t : ι) (mode : Mode) : State ι :=
  (cleanupHandlers mode).foldl (fun s handler => handler s)
    { s.goto t (.dead mode) with rwMutex := some t }

end State

/-- The start: the initialised lock, and all threads outside it. -/
def start : State ι := ⟨pthreadRwlockInitializer, none, fun _ => ⟨.idle, 0, 0, 0⟩, false⟩

variable [Fintype ι]

/-- One step of a process that has not ended. -/
def State.act (s : State ι) : Act ι → Option (State ι)
  | .call t call =>
    if s.loc t = .idle then some (s.goto t (.entered call)) else none
  | .magic t =>
    match s.loc t with
    | .entered call =>
      if s.rw.rwMagic ≠ rwMagicValue then some (s.fail t einval)
      else some (s.goto t (.mutexLock call))
    | _ => none
  | .mutexLock t result =>
    match s.loc t with
    | .mutexLock call =>
      if result ≠ 0 then some (s.fail t result)
      else if s.rwMutex = none then some (s.enter t call (body call s.rw))
      else none
    | _ => none
  | .condWait t result =>
    match s.loc t with
    | .condWait mode =>
      if result ≠ 0 then some (s.enter t (.lock mode) (lockWaited mode result s.rw))
      else some (s.sleep t mode)
    | _ => none
  | .spurious t =>
    match s.loc t with
    | .asleep mode => some (s.goto t (.woken mode))
    | _ => none
  | .reacquire t result =>
    match s.loc t with
    | .woken mode =>
      if s.rwMutex = none then some (s.enter t (.lock mode) (lockWaited mode result s.rw))
      else none
    | _ => none
  | .condSignal t woken =>
    match s.loc t with
    | .condSignal =>
      if (∀ u ∈ woken, s.loc u = .asleep .wr) ∧
          ((∃ u, s.loc u = .asleep .wr) → woken.Nonempty) then
        some ((s.wake .wr woken).goto t (.mutexUnlock .unlock 0))
      else none
    | _ => none
  | .condBroadcast t =>
    match s.loc t with
    | .condBroadcast => some ((s.wake .rd Finset.univ).goto t (.mutexUnlock .unlock 0))
    | _ => none
  | .mutexUnlock t =>
    match s.loc t with
    | .mutexUnlock call result => some (s.leave t call result)
    | _ => none
  | .cancel t =>
    match s.loc t with
    | .asleep mode | .woken mode => some (s.goto t (.cancelled mode))
    | _ => none
  | .terminate t =>
    match s.loc t with
    | .cancelled mode => if s.rwMutex = none then some (s.terminate t mode) else none
    | _ => none

def State.step (s : State ι) (action : Act ι) : Option (State ι) :=
  if s.exited then none else s.act action

/-- The threads and their lock. -/
def machine : Machine (State ι) (Act ι) := ⟨start, State.step⟩

/-! ### What the callers and the environment promise -/

/-- Only a holder calls `unlock`, and no thread is cancelled. -/
def Legal (s : State ι) : Act ι → Prop
  | .call t .unlock => (s.thread t).Holds
  | .cancel _ => False
  | _ => True

/-- Every pthread call succeeds. -/
def Succeeds : Act ι → Prop
  | .mutexLock _ result | .condWait _ result | .reacquire _ result => result = 0
  | _ => True

/-- A step inside the lock: no call, and no cancellation. -/
def Act.inner : Act ι → Bool
  | .call _ _ | .cancel _ => false
  | _ => true

/-- A step inside the lock that a thread takes by itself. -/
def Act.own : Act ι → Bool
  | .call _ _ | .cancel _ | .spurious _ => false
  | _ => true

instance (s : State ι) : DecidablePred (Legal s)
  | .call t .unlock => inferInstanceAs (Decidable (s.thread t).Holds)
  | .cancel _ => isFalse id
  | .call _ (.lock _) | .call _ (.trylock _) | .magic _ | .mutexLock _ _ | .condWait _ _
  | .spurious _ | .reacquire _ _ | .condSignal _ _ | .condBroadcast _ | .mutexUnlock _
  | .terminate _ => isTrue trivial

instance : DecidablePred (Succeeds : Act ι → Prop)
  | .mutexLock _ result | .condWait _ result | .reacquire _ result =>
    inferInstanceAs (Decidable (result = 0))
  | .call _ _ | .magic _ | .spurious _ | .condSignal _ _ | .condBroadcast _ | .mutexUnlock _
  | .cancel _ | .terminate _ => isTrue trivial

end Unpvol2.Rwlock
