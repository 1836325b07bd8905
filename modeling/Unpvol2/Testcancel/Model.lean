/-
**`testcancel`: a writer that is cancelled while a reader has the lock.**

`thread1` takes a read lock, cancels `thread2` and gives the lock back; `thread2` takes a write lock
and gives it back; `main` joins both, prints the counts and destroys the lock. The steps inside the
lock are those of `Rwlock.machine`, and the wrappers run `exit(1)` on a result that is not `0`.

A cancellation waits until its thread comes to a cancellation point: `sleep` and `pthread_cond_wait`
are such points, and `printf` may be one. How long a `sleep` takes is open, so that the threads may
come to the lock in any order; the one thing that the sleeps are relied on for is that `thread2` has
been created and not yet joined when it is cancelled.
-/

import Mathlib.Data.Fintype.Defs
import Unpvol2.Rwlock.Wrappers

namespace Unpvol2.Testcancel

open Interleaving Rwlock

/-- The threads that `main` creates. -/
inductive Tid
  | thread1
  | thread2
deriving DecidableEq

instance : Fintype Tid :=
  ⟨{.thread1, .thread2}, fun t => by cases t <;> decide⟩

/-- The statement `main` stands at. -/
inductive MainPc
  /-- `Pthread_create(&tid1, NULL, thread1, NULL)` -/
  | create1
  /-- `Pthread_create(&tid2, NULL, thread2, NULL)` -/
  | create2
  /-- `Pthread_join(tid2, &status)` -/
  | join2
  /-- `if (status != PTHREAD_CANCELED)` -/
  | status2 (canceled : Bool)
  /-- `Pthread_join(tid1, &status)`, and `status` is `NULL` -/
  | join1
  /-- `printf` of the three counts -/
  | counts
  /-- `Pthread_rwlock_destroy(&rwlock)`, and `exit(0)` -/
  | destroy
deriving DecidableEq

/-- The statement of `thread1`. -/
inductive Pc1
  /-- not yet created -/
  | notYet
  /-- `Pthread_rwlock_rdlock(&rwlock)` -/
  | rdlock
  /-- in that call -/
  | rdlocking
  /-- `printf("thread1() got a read lock\n")` -/
  | got
  /-- `pthread_cancel(tid2)` -/
  | cancel
  /-- `Pthread_rwlock_unlock(&rwlock)` -/
  | unlock
  /-- in that call -/
  | unlocking
  | returned
deriving DecidableEq

/-- The statement of `thread2`. -/
inductive Pc2
  | notYet
  /-- `printf("thread2() trying to obtain a write lock\n")` -/
  | trying
  /-- `Pthread_rwlock_wrlock(&rwlock)` -/
  | wrlock
  /-- in that call -/
  | wrlocking
  /-- `printf("thread2() got a write lock\n")` -/
  | got
  /-- `sleep(1)` -/
  | sleep
  | unlock
  | unlocking
  | returned
  /-- cancelled at one of its own statements -/
  | canceled
deriving DecidableEq

/-- The lines of the output. -/
inductive Line
  | gotRead
  | trying
  | gotWrite
  /-- `thread2 status = %p` -/
  | status2
  /-- `rw_refcount = %d, rw_nwaitreaders = %d, rw_nwaitwriters = %d` -/
  | counts (refcount nwaitreaders nwaitwriters : ℤ)
  /-- the line of a wrapper -/
  | error (message : String)
deriving DecidableEq

/-- The lock, the three threads, whether `thread2` has been asked to cancel, and the status of the
process that has called `exit`. -/
structure State where
  rwlock : Rwlock.State Tid
  main : MainPc
  thread1 : Pc1
  thread2 : Pc2
  requested : Bool
  stdout : List Line
  exit : Option ℤ

/-- One step. -/
inductive Act
  | main
  | thread1
  | thread2
  /-- `thread2` acts on its cancellation -/
  | canceled
  | lock (action : Rwlock.Act Tid)

namespace State

def print (s : State) (line : Line) : State := { s with stdout := s.stdout ++ [line] }

/-- A wrapper looks at its result. -/
def checked (s : State) (w : Wrapped) (next : State) : State :=
  match w with
  | .returns _ => next
  | .exit message => { s.print (.error message) with exit := some 1 }

/-- A thread enters a function of the lock. -/
def call (s : State) (t : Tid) (call : Call) (next : State) : Option State :=
  (s.rwlock.step (.call t call)).map fun rwlock => { next with rwlock := rwlock }

/-- It is back from the function, and in the wrapper. -/
def back (s : State) (t : Tid) (call : Call) (next : State) : Option State :=
  if s.rwlock.loc t = .idle then
    some (s.checked (wrapper call (s.rwlock.thread t).result) next)
  else none

/-- `thread2` has been terminated by its cancellation. -/
def gone (s : State) : Bool :=
  decide (s.thread2 = .canceled) || decide (s.rwlock.loc .thread2 = .dead .wr)

/-- The next statement of `main`. -/
def mainStep (s : State) : Option State :=
  match s.main with
  | .create1 => some { s with main := .create2, thread1 := .rdlock }
  | .create2 => some { s with main := .join2, thread2 := .trying }
  | .join2 =>
    if s.gone then some { s with main := .status2 true }
    else if s.thread2 = .returned then some { s with main := .status2 false }
    else none
  | .status2 canceled =>
    some { (if canceled then s else s.print .status2) with main := .join1 }
  | .join1 => if s.thread1 = .returned then some { s with main := .counts } else none
  | .counts =>
    some { s.print (.counts s.rwlock.rw.rwRefcount s.rwlock.rw.rwNwaitreaders
      s.rwlock.rw.rwNwaitwriters) with main := .destroy }
  | .destroy =>
    let destroyed := myPthreadRwlockDestroy s.rwlock.rw
    some (s.checked (orExit "pthread_rwlock_destroy error" destroyed.1)
      { s with rwlock := { s.rwlock with rw := destroyed.2 }, exit := some 0 })

/-- The next statement of `thread1`. -/
def thread1Step (s : State) : Option State :=
  match s.thread1 with
  | .notYet => none
  | .rdlock => s.call .thread1 (.lock .rd) { s with thread1 := .rdlocking }
  | .rdlocking => s.back .thread1 (.lock .rd) { s with thread1 := .got }
  | .got => some { s.print .gotRead with thread1 := .cancel }
  | .cancel => some { s with thread1 := .unlock, requested := true }
  | .unlock => s.call .thread1 .unlock { s with thread1 := .unlocking }
  | .unlocking => s.back .thread1 .unlock { s with thread1 := .returned }
  | .returned => none

/-- The next statement of `thread2`; it does not sleep on when it should cancel. -/
def thread2Step (s : State) : Option State :=
  match s.thread2 with
  | .notYet => none
  | .trying => some { s.print .trying with thread2 := .wrlock }
  | .wrlock => s.call .thread2 (.lock .wr) { s with thread2 := .wrlocking }
  | .wrlocking => s.back .thread2 (.lock .wr) { s with thread2 := .got }
  | .got => some { s.print .gotWrite with thread2 := .sleep }
  | .sleep => if s.requested then none else some { s with thread2 := .unlock }
  | .unlock => s.call .thread2 .unlock { s with thread2 := .unlocking }
  | .unlocking => s.back .thread2 .unlock { s with thread2 := .returned }
  | .returned | .canceled => none

/-- `thread2` acts on its cancellation where it can. -/
def canceledStep (s : State) : Option State :=
  if s.requested then
    match s.thread2 with
    | .trying | .got | .sleep => some { s with thread2 := .canceled }
    | .wrlocking =>
      (s.rwlock.step (.cancel .thread2)).map fun rwlock => { s with rwlock := rwlock }
    | _ => none
  else none

/-- A step inside the lock. -/
def inside (s : State) (action : Rwlock.Act Tid) : Option State :=
  if action.inner then (s.rwlock.step action).map fun rwlock => { s with rwlock := rwlock }
  else none

/-- The process has ended. -/
def ended (s : State) : Bool := s.exit.isSome || s.rwlock.exited

def step (s : State) (action : Act) : Option State :=
  if s.ended then none else
    match action with
    | .main => s.mainStep
    | .thread1 => s.thread1Step
    | .thread2 => s.thread2Step
    | .canceled => s.canceledStep
    | .lock action => s.inside action

end State

/-- `main` has initialised the lock. -/
def start : State := ⟨Rwlock.start, .create1, .notYet, .notYet, false, [], none⟩

def machine : Machine State Act := ⟨start, State.step⟩

/-- The pthread calls succeed, and `thread2` is there when it is cancelled. -/
def Timely (s : State) : Act → Prop
  | .thread1 => s.thread1 = .cancel → s.main = .join2
  | .lock action => Succeeds action
  | _ => True

instance (s : State) : DecidablePred (Timely s)
  | .thread1 => inferInstanceAs (Decidable (_ → _))
  | .lock action => inferInstanceAs (Decidable (Succeeds action))
  | .main | .thread2 | .canceled => isTrue trivial

/-- A step that its thread takes by itself. -/
def Act.Own : Act → Prop
  | .lock action => action.own = true ∧ Succeeds action
  | _ => True

/-- Nothing more happens. -/
def Stuck (s : State) : Prop := ∀ action : Act, action.Own → s.step action = none

end Unpvol2.Testcancel
