/-
**`prodcons6`: producers and one consumer that sleeps on a condition variable.**

A producer stores the next index under `put.mutex`; then, under `nready.mutex`, it counts the item
as ready, and signals `nready.cond` before it does so if the count is 0. The consumer takes one from
the count, sleeping on `nready.cond` while it is 0, and then reads `buff[i]` with no mutex held.

One step is one statement, and the store, each increment and the read are steps of their own.
`pthread_cond_wait` releases the mutex and sleeps in one step; a signal wakes the consumer if it
sleeps and is lost otherwise; it may also wake up by itself (`Act.spurious`). Awake, it needs the
mutex again before it returns. An access outside `buff` is no step. `stored` is read by no code: it
lists the indices stored and the values stored there.
-/

import Mathlib.Data.Fintype.Basic
import Mathlib.Logic.Function.Basic
import Unpvol2.Lib.Machine

namespace Unpvol2.Prodcons6

open Interleaving

/-- `MAXNITEMS`. -/
def maxnitems : ℕ := 1000000

/-! ### The threads -/

/-- The statement of `produce` a thread stands at. -/
inductive ProducePc
  /-- `pthread_mutex_lock(&put.mutex)` -/
  | lockPut
  /-- the test `put.nput >= nitems` -/
  | testPut
  /-- `pthread_mutex_unlock(&put.mutex)`, the array is full -/
  | unlockEnd
  /-- `buff[put.nput] = put.nval` -/
  | store
  /-- `put.nput++` -/
  | incNput
  /-- `put.nval++` -/
  | incNval
  /-- `pthread_mutex_unlock(&put.mutex)` -/
  | unlockPut
  /-- `pthread_mutex_lock(&nready.mutex)` -/
  | lockReady
  /-- the test `nready.nready == 0` -/
  | testReady
  /-- `pthread_cond_signal(&nready.cond)` -/
  | signal
  /-- `nready.nready++` -/
  | incReady
  /-- `pthread_mutex_unlock(&nready.mutex)` -/
  | unlockReady
  /-- `*((int *) arg) += 1` -/
  | count
  | returned
deriving DecidableEq

/-- The statement of `consume` the consumer stands at. -/
inductive ConsumePc
  /-- the test `i < nitems` -/
  | test
  /-- `pthread_mutex_lock(&nready.mutex)` -/
  | lock
  /-- the test `nready.nready == 0` -/
  | testReady
  /-- `pthread_cond_wait(&nready.cond, &nready.mutex)` -/
  | wait
  /-- asleep on `nready.cond` -/
  | asleep
  /-- woken up, and to lock `nready.mutex` again -/
  | woken
  /-- `nready.nready--` -/
  | decReady
  /-- `pthread_mutex_unlock(&nready.mutex)` -/
  | unlock
  /-- the comparison of `buff[i]` with `i` -/
  | read
  /-- `i++` -/
  | next
  | returned
deriving DecidableEq

/-- A producer and its entry of `count[]`. -/
structure Producer where
  pc : ProducePc
  count : ℕ
deriving DecidableEq

/-- The consumer and its `i`. -/
structure Consumer where
  pc : ConsumePc
  i : ℕ
deriving DecidableEq

/-- A thread of the process. -/
inductive Thread (π : Type)
  | producer (p : π)
  | consumer
deriving DecidableEq

/-! ### The process -/

/-- The globals, the threads, and the lines the consumer has printed. -/
structure State (π : Type) where
  buff : ℕ → ℕ
  /-- `put.mutex` -/
  putMutex : Option π
  /-- `put.nput`, next index to store -/
  nput : ℕ
  /-- `put.nval`, next value to store -/
  nval : ℕ
  /-- `nready.mutex` -/
  readyMutex : Option (Thread π)
  /-- `nready.nready`, number ready for consumer -/
  nready : ℤ
  producer : π → Producer
  consumer : Consumer
  errors : List (ℕ × ℕ)
  stored : List (ℕ × ℕ)

/-- Which thread moves, or that the consumer wakes up without a signal. -/
inductive Act (π : Type)
  | produce (p : π)
  | consume
  | spurious

variable {π : Type} [DecidableEq π]

namespace State

/-- Producer `p` goes on to `pc`. -/
def produceTo (s : State π) (p : π) (pc : ProducePc) : State π :=
  { s with producer := Function.update s.producer p { s.producer p with pc := pc } }

/-- The consumer goes on to `pc`. -/
def consumeTo (s : State π) (pc : ConsumePc) : State π :=
  { s with consumer := { s.consumer with pc := pc } }

/-- `pthread_cond_signal(&nready.cond)`: the consumer is the only thread that sleeps on it. -/
def signal (s : State π) : State π :=
  if s.consumer.pc = .asleep then s.consumeTo .woken else s

/-- `buff[put.nput] = put.nval`. -/
def store (s : State π) : State π :=
  { s with
    buff := Function.update s.buff s.nput s.nval
    stored := s.stored ++ [(s.nput, s.nval)] }

/-- The comparison of `buff[i]` with `i`. -/
def read (s : State π) : State π :=
  let i := s.consumer.i
  { s with errors := if s.buff i ≠ i then s.errors ++ [(i, s.buff i)] else s.errors }

/-- The next statement of `produce`. -/
def produce (nitems : ℤ) (s : State π) (p : π) : Option (State π) :=
  match (s.producer p).pc with
  | .lockPut =>
    if s.putMutex = none then some { s.produceTo p .testPut with putMutex := some p } else none
  | .testPut => some (s.produceTo p (if (s.nput : ℤ) ≥ nitems then .unlockEnd else .store))
  | .unlockEnd => some { s.produceTo p .returned with putMutex := none }
  | .store => if s.nput < maxnitems then some (s.store.produceTo p .incNput) else none
  | .incNput => some { s.produceTo p .incNval with nput := s.nput + 1 }
  | .incNval => some { s.produceTo p .unlockPut with nval := s.nval + 1 }
  | .unlockPut => some { s.produceTo p .lockReady with putMutex := none }
  | .lockReady =>
    if s.readyMutex = none then
      some { s.produceTo p .testReady with readyMutex := some (.producer p) }
    else none
  | .testReady => some (s.produceTo p (if s.nready = 0 then .signal else .incReady))
  | .signal => some (s.signal.produceTo p .incReady)
  | .incReady => some { s.produceTo p .unlockReady with nready := s.nready + 1 }
  | .unlockReady => some { s.produceTo p .count with readyMutex := none }
  | .count =>
    some { s with producer := Function.update s.producer p ⟨.lockPut, (s.producer p).count + 1⟩ }
  | .returned => none

/-- The next statement of `consume`. -/
def consume (nitems : ℤ) (s : State π) : Option (State π) :=
  match s.consumer.pc with
  | .test => some (s.consumeTo (if (s.consumer.i : ℤ) < nitems then .lock else .returned))
  | .lock =>
    if s.readyMutex = none then some { s.consumeTo .testReady with readyMutex := some .consumer }
    else none
  | .testReady => some (s.consumeTo (if s.nready = 0 then .wait else .decReady))
  | .wait => some { s.consumeTo .asleep with readyMutex := none }
  | .asleep => none
  | .woken =>
    if s.readyMutex = none then some { s.consumeTo .testReady with readyMutex := some .consumer }
    else none
  | .decReady => some { s.consumeTo .unlock with nready := s.nready - 1 }
  | .unlock => some { s.consumeTo .read with readyMutex := none }
  | .read => if s.consumer.i < maxnitems then some (s.read.consumeTo .next) else none
  | .next => some { s with consumer := ⟨.test, s.consumer.i + 1⟩ }
  | .returned => none

def step (nitems : ℤ) (s : State π) : Act π → Option (State π)
  | .produce p => s.produce nitems p
  | .consume => s.consume nitems
  | .spurious => if s.consumer.pc = .asleep then some (s.consumeTo .woken) else none

end State

/-- The state in which `main` has created the threads. -/
def start : State π where
  buff := fun _ => 0
  putMutex := none
  nput := 0
  nval := 0
  readyMutex := none
  nready := 0
  producer := fun _ => ⟨.lockPut, 0⟩
  consumer := ⟨.test, 0⟩
  errors := []
  stored := []

/-- `prodcons6` with `nitems` items. -/
def machine (nitems : ℤ) : Machine (State π) (Act π) := ⟨start, State.step nitems⟩

end Unpvol2.Prodcons6
