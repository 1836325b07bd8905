/-
**`incr_rwlock1`: threads that count under the write lock.**

`main` takes the write lock, creates `nthreads` threads in `incr`, releases the lock, joins the
threads and compares `shared.counter` with `nloop * nthreads`. Each thread runs `nloop` rounds of:
take the write lock, `shared.counter++`, release the lock. `shared.counter++` is two steps, a load
and a store.

The steps inside the lock are those of `Rwlock.process`: `Pthread_rwlock_wrlock` and
`Pthread_rwlock_unlock` end the process when the function they call returns an error. `none` is the
thread of `main`, and `some t` the one created with `tid[t]`; `pthread_create` and `pthread_join`
do not fail. The calls around the timer change nothing here.
-/

import Mathlib.Data.Fintype.Option
import Mathlib.Logic.Function.Basic
import Unpvol2.Rwlock.Wrappers

namespace Unpvol2.Incr

open C Interleaving Rwlock

/-- `MAXNTHREADS`. -/
def maxnthreads : ℕ := 100

/-- `nloop` and `nthreads`, as `main` has read them from its arguments. -/
structure Arguments where
  nloop : ℕ
  nthreads : ℕ
  nloop_lt : nloop < 2 ^ 31
  nthreads_le : nthreads ≤ maxnthreads

/-- The statement `main` stands at. -/
inductive MainPc
  /-- at the call of `Pthread_rwlock_wrlock` -/
  | wrlock
  /-- in that call -/
  | wrlocking
  /-- at the test of the first loop, and `Pthread_create` -/
  | create
  /-- at the call of `Pthread_rwlock_unlock` -/
  | unlock
  /-- in that call -/
  | unlocking
  /-- at the test of the second loop, and `Pthread_join` -/
  | join
  /-- `if (shared.counter != nloop * nthreads)` -/
  | compare
  /-- after `exit(0)` -/
  | exited
deriving DecidableEq

structure Main where
  pc : MainPc
  i : ℕ

/-- The statement a thread in `incr` stands at. -/
inductive Pc
  /-- not yet created -/
  | unborn
  /-- `i < nloop` -/
  | test
  /-- at the call of `Pthread_rwlock_wrlock` -/
  | wrlock
  /-- in that call -/
  | wrlocking
  /-- `shared.counter` is read -/
  | load
  /-- and is written, `value` having been read -/
  | store (value : ℤ)
  /-- at the call of `Pthread_rwlock_unlock` -/
  | unlock
  /-- in that call -/
  | unlocking
  /-- after `return(NULL)` -/
  | returned
deriving DecidableEq

structure Thread where
  pc : Pc
  i : ℕ

/-- The lock, the counter, `main`, the threads, and what `main` has printed as the counter's wrong
value. -/
structure State (n : ℕ) where
  process : Process (Option (Fin n))
  counter : ℤ
  main : Main
  thread : Fin n → Thread
  error : Option ℤ

/-- One step: of a thread's own statements, or inside a function of the lock. -/
inductive Act (n : ℕ)
  | run (u : Option (Fin n))
  | lock (action : Rwlock.Act (Option (Fin n)))

variable {n : ℕ}

namespace State

def mainTo (s : State n) (pc : MainPc) (i : ℕ) : State n := { s with main := ⟨pc, i⟩ }

/-- `main` has created the thread `t`. -/
def create (s : State n) (t : Fin n) : State n :=
  { s.mainTo .create (t + 1) with thread := Function.update s.thread t ⟨.test, 0⟩ }

/-- Thread `t` goes on to the statement `pc`. -/
def goto (s : State n) (t : Fin n) (pc : Pc) : State n :=
  { s with thread := Function.update s.thread t { s.thread t with pc := pc } }

/-- `i++`, and back to the loop test. -/
def round (s : State n) (t : Fin n) : State n :=
  { s with thread := Function.update s.thread t ⟨.test, (s.thread t).i + 1⟩ }

/-- The thread enters a function of the lock. -/
def call (s : State n) (u : Option (Fin n)) (c : Call) (after : State n) : Option (State n) :=
  (s.process.step (.call u c)).map fun process => { after with process := process }

/-- The thread is back from the function. -/
def back (s : State n) (u : Option (Fin n)) (after : State n) : Option (State n) :=
  if s.process.lock.loc u = .idle then some after else none

/-- The next statement of `main`. -/
def runMain (nloop : ℕ) (s : State n) : Option (State n) :=
  match s.main.pc with
  | .wrlock => s.call none (.lock .wr) (s.mainTo .wrlocking 0)
  | .wrlocking => s.back none (s.mainTo .create 0)
  | .create =>
    if more : s.main.i < n then some (s.create ⟨s.main.i, more⟩) else some (s.mainTo .unlock 0)
  | .unlock => s.call none .unlock (s.mainTo .unlocking 0)
  | .unlocking => s.back none (s.mainTo .join 0)
  | .join =>
    if more : s.main.i < n then
      if (s.thread ⟨s.main.i, more⟩).pc = .returned then some (s.mainTo .join (s.main.i + 1))
      else none
    else some (s.mainTo .compare 0)
  | .compare =>
    -- the product is an `int`, the counter a `long`
    some { s.mainTo .exited 0 with
      error := if s.counter ≠ int32 (nloop * n) then some s.counter else none }
  | .exited => none

/-- The next statement of thread `t`. -/
def incr (nloop : ℕ) (s : State n) (t : Fin n) : Option (State n) :=
  match (s.thread t).pc with
  | .test => some (s.goto t (if (s.thread t).i < nloop then .wrlock else .returned))
  | .wrlock => s.call (some t) (.lock .wr) (s.goto t .wrlocking)
  | .wrlocking => s.back (some t) (s.goto t .load)
  | .load => some (s.goto t (.store s.counter))
  | .store value => some { s.goto t .unlock with counter := int64 (value + 1) }
  | .unlock => s.call (some t) .unlock (s.goto t .unlocking)
  | .unlocking => s.back (some t) (s.round t)
  | .unborn | .returned => none

/-- The process has ended. -/
def ended (s : State n) : Bool :=
  s.process.ended.isSome || s.process.lock.exited || decide (s.main.pc = .exited)

def step (nloop : ℕ) (s : State n) (action : Act n) : Option (State n) :=
  if s.ended then none else
    match action with
    | .run none => s.runMain nloop
    | .run (some t) => s.incr nloop t
    | .lock action =>
      -- only the statements above call a function, and no thread is cancelled
      if action.inner then
        (s.process.step action).map fun process => { s with process := process }
      else none

end State

/-- The initialised lock, and `main` at its first call. -/
def start (n : ℕ) : State n :=
  ⟨⟨Rwlock.start, none⟩, 0, ⟨.wrlock, 0⟩, fun _ => ⟨.unborn, 0⟩, none⟩

/-- The program with its arguments. -/
def incrRwlock1 (a : Arguments) : Machine (State a.nthreads) (Act a.nthreads) :=
  ⟨start a.nthreads, State.step a.nloop⟩

/-! ### What the program should do -/

/-- `main` has called `Pthread_rwlock_unlock`. -/
def MainPc.unlocked : MainPc → Bool
  | .unlocking | .join | .compare | .exited => true
  | .wrlock | .wrlocking | .create | .unlock => false

/-- `main` has released its write lock: it has called `unlock`, whose section has given it back. -/
def State.Released (s : State n) : Prop :=
  s.main.pc.unlocked = true ∧ (s.process.lock.thread none).locks .wr = 0

/-- **The self-check is right.** -/
structure Right (nloop : ℕ) (s : State n) : Prop where
  /-- who is about to increment finds the lock released by `main` -/
  released : ∀ t value, (s.thread t).pc = .store value → s.Released
  /-- after the joins the counter has its value -/
  joined : s.main.pc = .compare ∨ s.main.pc = .exited → s.counter = nloop * n
  /-- and no error is reported -/
  verdict : s.main.pc = .exited → s.error = none

end Unpvol2.Incr
