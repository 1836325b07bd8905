/-
**`rwlock`: readers and writers on a read-write lock of the system.**

The code is that of `test1`, with the locks of the system in place of the hand-written ones. A call
of the lock is one statement here: `pthread_rwlock_rdlock` and `pthread_rwlock_wrlock` go on when
their side of the lock is free, whoever else waits, and `pthread_rwlock_unlock` gives back what the
thread has. The calls succeed, and a thread that has nothing does not come back from
`pthread_rwlock_unlock`.

The options, the counters' changes and the granularity of the other statements are those of `test1`:
`shared.nreaders++` and its companions are a load and a store.
-/

import Unpvol2.Lib.SharedLock
import Unpvol2.Test1.Model

namespace Unpvol2.Rwlockc

open C Interleaving
open SharedLock (Side Held)
open Test1 (Change Options)

/-! ### The threads -/

/-- The statement a thread stands at. -/
inductive Pc
  /-- `i < nloop` -/
  | test
  /-- `pthread_rwlock_rdlock(&shared.rwlock)` or `pthread_rwlock_wrlock(&shared.rwlock)` -/
  | lock
  /-- `pthread_mutex_lock(&shared.rcountlock)` before a change of the counter -/
  | countLock (change : Change)
  /-- `shared.nreaders` or `shared.nwriters` is read -/
  | load (change : Change)
  /-- and is written, `value` having been read -/
  | store (change : Change) (value : ℤ)
  /-- `pthread_mutex_unlock(&shared.rcountlock)` -/
  | countUnlock (change : Change)
  /-- `if (shared.nwriters > limit)` -/
  | testWriters
  /-- `if (shared.nreaders > 0)` -/
  | testReaders
  /-- `pthread_rwlock_unlock(&shared.rwlock)` -/
  | unlock
  /-- `i++` -/
  | increment
  /-- after `return(NULL)` -/
  | returned
deriving DecidableEq

/-- A thread; `reader` is the function of the shared side, `writer` that of the exclusive one. -/
structure Thread where
  function : Side
  pc : Pc
  i : ℤ
deriving DecidableEq

/-! ### The process -/

/-- `shared`, the threads, and whether one of them has run `exit(-1)`. -/
structure State (ι : Type) where
  rwlock : Held ι
  rcountlock : Option ι
  nreaders : ℤ
  nwriters : ℤ
  thread : ι → Thread
  exited : Bool

variable {ι : Type} [DecidableEq ι]

namespace State

/-- Thread `t` goes on to the statement `pc`. -/
def goto (s : State ι) (t : ι) (pc : Pc) : State ι :=
  { s with thread := Function.update s.thread t { s.thread t with pc := pc } }

/-- `exit(-1)`. -/
def exit (s : State ι) : State ι := { s with exited := true }

/-- The loop test `i < nloop`. -/
def test (nloop : ℤ) (s : State ι) (t : ι) : State ι :=
  if (s.thread t).i < nloop then s.goto t .lock else s.goto t .returned

/-- `i++`. -/
def round (s : State ι) (t : ι) : State ι :=
  { s with thread :=
      Function.update s.thread t { s.thread t with pc := .test, i := (s.thread t).i + 1 } }

/-- `pthread_mutex_lock(&shared.rcountlock)`. -/
def countLock (s : State ι) (t : ι) (next : Pc) : Option (State ι) :=
  if s.rcountlock = none then some { s.goto t next with rcountlock := some t } else none

/-- `pthread_mutex_unlock(&shared.rcountlock)`. -/
def countUnlock (s : State ι) (t : ι) (next : Pc) : State ι :=
  { s.goto t next with rcountlock := none }

/-- The thread gets a lock. -/
def grant (s : State ι) (t : ι) (side : Side) (next : Pc) : State ι :=
  { s.goto t next with rwlock := s.rwlock.set t side (s.rwlock t side + 1) }

/-- The thread gives a lock back. -/
def release (s : State ι) (t : ι) (side : Side) (next : Pc) : State ι :=
  { s.goto t next with rwlock := s.rwlock.set t side (s.rwlock t side - 1) }

/-- `pthread_rwlock_unlock(&shared.rwlock)`. -/
def unlock (s : State ι) (t : ι) : Option (State ι) :=
  if 0 < s.rwlock t .exclusive then some (s.release t .exclusive .increment)
  else if 0 < s.rwlock t .shared then some (s.release t .shared .increment)
  else none

variable [Fintype ι]

/-- `pthread_rwlock_rdlock` or `pthread_rwlock_wrlock`. -/
def lock (s : State ι) (t : ι) (side : Side) (next : Pc) : Option (State ι) :=
  if s.rwlock.Free side then some (s.grant t side next) else none

/-- The next statement of `reader`. -/
def reader (nloop : ℤ) (s : State ι) (t : ι) : Pc → Option (State ι)
  | .test => some (s.test nloop t)
  | .lock => s.lock t .shared (.countLock .inc)
  | .countLock change => s.countLock t (.load change)
  | .load change => some (s.goto t (.store change s.nreaders))
  | .store change value =>
    some { s.goto t (.countUnlock change) with nreaders := int32 (value + change.delta) }
  | .countUnlock .inc => some (s.countUnlock t .testWriters)
  | .testWriters => if s.nwriters > 0 then some s.exit else some (s.goto t (.countLock .dec))
  | .countUnlock .dec => some (s.countUnlock t .unlock)
  | .unlock => s.unlock t
  | .increment => some (s.round t)
  | .testReaders | .returned => none

/-- The next statement of `writer`. -/
def writer (nloop : ℤ) (s : State ι) (t : ι) : Pc → Option (State ι)
  | .test => some (s.test nloop t)
  | .lock => s.lock t .exclusive (.load .inc)
  | .load change => some (s.goto t (.store change s.nwriters))
  | .store .inc value =>
    some { s.goto t .testWriters with nwriters := int32 (value + Change.inc.delta) }
  | .testWriters => if s.nwriters > 1 then some s.exit else some (s.goto t .testReaders)
  | .testReaders => if s.nreaders > 0 then some s.exit else some (s.goto t (.load .dec))
  | .store .dec value =>
    some { s.goto t .unlock with nwriters := int32 (value + Change.dec.delta) }
  | .unlock => s.unlock t
  | .increment => some (s.round t)
  | .countLock _ | .countUnlock _ | .returned => none

/-- The next statement of thread `t`. -/
def run (nloop : ℤ) (s : State ι) (t : ι) : Option (State ι) :=
  match (s.thread t).function with
  | .shared => s.reader nloop t (s.thread t).pc
  | .exclusive => s.writer nloop t (s.thread t).pc

def step (nloop : ℤ) (s : State ι) (t : ι) : Option (State ι) :=
  if s.exited then none else s.run nloop t

end State

/-- The start: nobody has the lock, and every thread is at the top of its function. -/
def start (function : ι → Side) : State ι :=
  ⟨fun _ _ => 0, none, 0, 0, fun t => ⟨function t, .test, 0⟩, false⟩

variable [Fintype ι]

/-- The threads of `function`, each with `nloop` rounds. -/
def system (nloop : ℤ) (function : ι → Side) : Machine (State ι) ι :=
  ⟨start function, State.step nloop⟩

/-- The function of each thread that `main` creates. -/
def functionOf (o : Options) : o.Threads → Side
  | .inl _ => .shared
  | .inr _ => .exclusive

/-- `rwlock` with its options. -/
def rwlock (o : Options) : Machine (State o.Threads) o.Threads :=
  system o.nloop.toInt (functionOf o)

/-- The threads' statements, each with its thread as it stands; calls of the lock are not shown. -/
def State.event (s : State ι) (t : ι) : List (ι × Thread) :=
  match (s.thread t).pc with
  | .lock | .unlock => []
  | _ => [(t, s.thread t)]

/-- No thread can take a step. -/
def Stuck (nloop : ℤ) (s : State ι) : Prop := ∀ t, s.step nloop t = none

end Unpvol2.Rwlockc
