/-
**`test1`: readers and writers on the hand-written lock.**

`main` starts `nreaders` threads in `reader` and `nwriters` threads in `writer`. Each runs `nloop`
rounds of: take the lock, check that no thread is in the lock that the lock should keep out, give
the lock back. `shared.nreaders` is changed under `rcountlock`; `shared.nwriters` is changed, and
both are read, under no mutex at all.

One step of a thread is one statement, and `shared.nreaders++` and its three companions are two
steps, a load and a store. The steps inside `my_pthread_rwlock_rdlock`, `wrlock` and `unlock` are
those of `Rwlock.machine`; the lock calls, like the calls on `rcountlock`, return no value that
`test1` looks at.
-/

import Mathlib.Data.Fintype.Sum
import Mathlib.Logic.Function.Basic
import Unpvol2.Rwlock.Model

namespace Unpvol2.Test1

open C Interleaving Rwlock

/-! ### The threads -/

/-- The options `-n`, `-r` and `-w`. -/
structure Options where
  nloop : Int32
  nreaders : Int32
  nwriters : Int32

/-- The values of the globals before the options are read. -/
def Options.initial : Options := ⟨1000, 6, 4⟩

/-- The threads that the two `for` loops of `main` create. -/
abbrev Options.Threads (o : Options) : Type :=
  Fin o.nreaders.toInt.toNat ⊕ Fin o.nwriters.toInt.toNat

/-- The function a thread is created with: `reader` is the thread function of side `.rd`, `writer`
that of side `.wr`. -/
def Options.function (o : Options) : o.Threads → Mode
  | .inl _ => .rd
  | .inr _ => .wr

/-- The two changes of a counter. -/
inductive Change
  | inc
  | dec
deriving DecidableEq

def Change.delta : Change → ℤ
  | .inc => 1
  | .dec => -1

/-- The statement a thread stands at. -/
inductive Pc
  /-- `i < nloop` -/
  | test
  /-- at the call of `my_pthread_rwlock_rdlock` or `my_pthread_rwlock_wrlock` -/
  | lock
  /-- in that call -/
  | locking
  /-- at `pthread_mutex_lock(&shared.rcountlock)` before a change of the counter -/
  | countLock (change : Change)
  /-- `shared.nreaders` or `shared.nwriters` is read -/
  | load (change : Change)
  /-- and is written, `value` having been read -/
  | store (change : Change) (value : ℤ)
  /-- at `pthread_mutex_unlock(&shared.rcountlock)` -/
  | countUnlock (change : Change)
  /-- `if (shared.nwriters > limit)` -/
  | testWriters
  /-- `if (shared.nreaders > 0)` -/
  | testReaders
  /-- at the call of `my_pthread_rwlock_unlock` -/
  | unlock
  /-- in that call -/
  | unlocking
  /-- after `return(NULL)` -/
  | returned
deriving DecidableEq

/-- A thread: its function, the statement it stands at, and its loop counter. -/
structure Thread where
  function : Mode
  pc : Pc
  i : ℤ
deriving DecidableEq

/-! ### The process -/

/-- The lock and the rest of `shared`, the threads, and whether one of them has run `exit(-1)`. -/
structure State (ι : Type) where
  rwlock : Rwlock.State ι
  rcountlock : Option ι
  nreaders : ℤ
  nwriters : ℤ
  thread : ι → Thread
  exited : Bool

/-- One step: of the thread's own statements, or inside a function of the lock. -/
inductive Act (ι : Type)
  | run (t : ι)
  | lock (action : Rwlock.Act ι)

variable {ι : Type} [DecidableEq ι]

namespace State

/-- Thread `t` goes on to the statement `pc`. -/
def goto (s : State ι) (t : ι) (pc : Pc) : State ι :=
  { s with thread := Function.update s.thread t { s.thread t with pc := pc } }

/-- `exit(-1)`. -/
def exit (s : State ι) : State ι := { s with exited := true }

/-- The loop test `i < nloop`. -/
def test (nloop : ℤ) (s : State ι) (t : ι) : State ι :=
  if (s.thread t).i < nloop then s.goto t .lock else s.goto t .returned

/-- `i++`, and back to the loop test. -/
def round (s : State ι) (t : ι) : State ι :=
  { s with thread :=
      Function.update s.thread t { s.thread t with pc := .test, i := (s.thread t).i + 1 } }

/-- `pthread_mutex_lock(&shared.rcountlock)` returns when the mutex is free. -/
def countLock (s : State ι) (t : ι) (next : Pc) : Option (State ι) :=
  if s.rcountlock = none then some { s.goto t next with rcountlock := some t } else none

/-- `pthread_mutex_unlock(&shared.rcountlock)`. -/
def countUnlock (s : State ι) (t : ι) (next : Pc) : State ι :=
  { s.goto t next with rcountlock := none }

variable [Fintype ι]

/-- The thread enters a function of the lock. -/
def call (s : State ι) (t : ι) (call : Call) (next : Pc) : Option (State ι) :=
  (s.rwlock.step (.call t call)).map fun rwlock => { s.goto t next with rwlock := rwlock }

/-- The thread is back from the function. -/
def back (s : State ι) (t : ι) (after : State ι) : Option (State ι) :=
  if s.rwlock.loc t = .idle then some after else none

/-- The next statement of `reader`. -/
def reader (nloop : ℤ) (s : State ι) (t : ι) : Pc → Option (State ι)
  | .test => some (s.test nloop t)
  | .lock => s.call t (.lock .rd) .locking
  | .locking => s.back t (s.goto t (.countLock .inc))
  | .countLock change => s.countLock t (.load change)
  | .load change => some (s.goto t (.store change s.nreaders))
  | .store change value =>
    some { s.goto t (.countUnlock change) with nreaders := int32 (value + change.delta) }
  | .countUnlock .inc => some (s.countUnlock t .testWriters)
  | .testWriters => if s.nwriters > 0 then some s.exit else some (s.goto t (.countLock .dec))
  | .countUnlock .dec => some (s.countUnlock t .unlock)
  | .unlock => s.call t .unlock .unlocking
  | .unlocking => s.back t (s.round t)
  | .testReaders | .returned => none

/-- The next statement of `writer`. -/
def writer (nloop : ℤ) (s : State ι) (t : ι) : Pc → Option (State ι)
  | .test => some (s.test nloop t)
  | .lock => s.call t (.lock .wr) .locking
  | .locking => s.back t (s.goto t (.load .inc))
  | .load change => some (s.goto t (.store change s.nwriters))
  | .store .inc value =>
    some { s.goto t .testWriters with nwriters := int32 (value + Change.inc.delta) }
  | .testWriters => if s.nwriters > 1 then some s.exit else some (s.goto t .testReaders)
  | .testReaders => if s.nreaders > 0 then some s.exit else some (s.goto t (.load .dec))
  | .store .dec value =>
    some { s.goto t .unlock with nwriters := int32 (value + Change.dec.delta) }
  | .unlock => s.call t .unlock .unlocking
  | .unlocking => s.back t (s.round t)
  | .countLock _ | .countUnlock _ | .returned => none

/-- The next statement of thread `t`. -/
def run (nloop : ℤ) (s : State ι) (t : ι) : Option (State ι) :=
  match (s.thread t).function with
  | .rd => s.reader nloop t (s.thread t).pc
  | .wr => s.writer nloop t (s.thread t).pc

/-- The process has ended. -/
def ended (s : State ι) : Bool := s.exited || s.rwlock.exited

/-- A step inside the lock: only the threads' statements call its functions, and no thread is
cancelled. -/
def inside (s : State ι) (action : Rwlock.Act ι) : Option (State ι) :=
  if action.inner then (s.rwlock.step action).map fun rwlock => { s with rwlock := rwlock }
  else none

def step (nloop : ℤ) (s : State ι) (action : Act ι) : Option (State ι) :=
  if s.ended then none else
    match action with
    | .run t => s.run nloop t
    | .lock action => s.inside action

end State

variable [Fintype ι]

/-- The start: the initialised lock, and every thread at the top of its function. -/
def start (function : ι → Mode) : State ι :=
  ⟨Rwlock.start, none, 0, 0, fun t => ⟨function t, .test, 0⟩, false⟩

/-- The threads of `function`, each with `nloop` rounds. -/
def system (nloop : ℤ) (function : ι → Mode) : Machine (State ι) (Act ι) :=
  ⟨start function, State.step nloop⟩

/-- `test1` with its options. -/
def test1 (o : Options) : Machine (State o.Threads) (Act o.Threads) :=
  system o.nloop.toInt o.function

/-- Every pthread call succeeds. -/
def Succeeds (_ : State ι) : Act ι → Prop
  | .run _ => True
  | .lock action => Rwlock.Succeeds action

instance (s : State ι) : DecidablePred (Succeeds s)
  | .run _ => isTrue trivial
  | .lock action => inferInstanceAs (Decidable (Rwlock.Succeeds action))

/-- No thread can take a step; a wake-up without a signal is no thread's step. -/
def Stuck (nloop : ℤ) (s : State ι) : Prop :=
  (∀ t, s.step nloop (.run t) = none) ∧
    ∀ action : Rwlock.Act ι, action.own = true → Rwlock.Succeeds action →
      s.step nloop (.lock action) = none

end Unpvol2.Test1
