/-
**`prodcons3`: any number of producers, one consumer, one buffer.**

Producers take a token of `nempty`, store under `mutex` and post a token of `nstored`. A producer
that finds `nput >= nitems` hands its token of `nempty` back and returns, and posts nothing else.
The consumer counts for itself: it fetches item `i` for each `i < nitems`, and gives a token of
`nempty` back for each.

One step of a thread is one semaphore operation, one critical section, or a statement on its own
variable (`count[]`, `i`). `sem_post` always succeeds and `sem_wait` goes on when the count is
positive. `fetched` is read by no code: it lists what the consumer has found in the buffer.
-/

import Mathlib.Algebra.GroupWithZero.Nat
import Mathlib.Data.Fintype.Basic
import Mathlib.Logic.Function.Basic
import Unpvol2.Lib.Machine

namespace Unpvol2.Prodcons3

open Interleaving

/-- `NBUFF`. -/
def nbuff : ℕ := 10

instance : NeZero nbuff := ⟨by decide⟩

/-- The place of item `n`: `n % NBUFF`. -/
def slot (n : ℕ) : Fin nbuff := Fin.ofNat nbuff n

/-! ### The threads -/

/-- The statement of `produce` a thread stands at. -/
inductive ProducePc
  /-- `sem_wait(&shared.nempty)` -/
  | waitEmpty
  /-- `sem_wait(&shared.mutex)` -/
  | waitMutex
  /-- the test `nput >= nitems`, and the store -/
  | critical
  /-- `sem_post(&shared.nempty)`, all done -/
  | doneEmpty
  /-- `sem_post(&shared.mutex)` -/
  | doneMutex
  /-- `sem_post(&shared.mutex)` after a store -/
  | postMutex
  /-- `sem_post(&shared.nstored)`, one more stored item -/
  | postStored
  /-- `*((int *) arg) += 1` -/
  | count
  | returned
deriving DecidableEq

/-- The statement of `consume` the consumer stands at. -/
inductive ConsumePc
  /-- the test `i < nitems` -/
  | test
  /-- `sem_wait(&shared.nstored)` -/
  | waitStored
  /-- `sem_wait(&shared.mutex)` -/
  | waitMutex
  /-- the comparison of `buff[i % NBUFF]` with `i` -/
  | critical
  /-- `sem_post(&shared.mutex)` -/
  | postMutex
  /-- `sem_post(&shared.nempty)`, one more empty slot -/
  | postEmpty
  /-- `i++` -/
  | next
  | returned
deriving DecidableEq

/-- A producer and its entry of `count[]`. -/
structure Producer where
  pc : ProducePc
  count : ℕ
deriving DecidableEq

/-- The consumer and its `i`. -/
structure Consumer where
  pc : ConsumePc
  i : ℕ
deriving DecidableEq

/-! ### The process -/

/-- `shared`, the threads, and the lines the error branch has printed. -/
structure State (π : Type) where
  buff : Fin nbuff → ℕ
  nput : ℕ
  nputval : ℕ
  mutex : ℕ
  nempty : ℕ
  nstored : ℕ
  producer : π → Producer
  consumer : Consumer
  errors : List (ℕ × ℕ)
  fetched : List ℕ

/-- Which thread moves. -/
inductive Act (π : Type)
  | produce (p : π)
  | consume

variable {π : Type} [DecidableEq π]

namespace State

/-- Producer `p` goes on to `pc`. -/
def produceTo (s : State π) (p : π) (pc : ProducePc) : State π :=
  { s with producer := Function.update s.producer p { s.producer p with pc := pc } }

/-- The consumer goes on to `pc`. -/
def consumeTo (s : State π) (pc : ConsumePc) : State π :=
  { s with consumer := { s.consumer with pc := pc } }

/-- The item is put into the buffer. -/
def store (s : State π) : State π :=
  { s with
    buff := Function.update s.buff (slot s.nput) s.nputval
    nput := s.nput + 1
    nputval := s.nputval + 1 }

/-- The consumer looks at item `i`. -/
def fetch (s : State π) : State π :=
  let i := s.consumer.i
  { s with
    errors := if s.buff (slot i) ≠ i then s.errors ++ [(i, s.buff (slot i))] else s.errors
    fetched := s.fetched ++ [s.buff (slot i)] }

/-- The next statement of `produce`. -/
def produce (nitems : ℤ) (s : State π) (p : π) : Option (State π) :=
  match (s.producer p).pc with
  | .waitEmpty =>
    if 0 < s.nempty then some { s.produceTo p .waitMutex with nempty := s.nempty - 1 } else none
  | .waitMutex =>
    if 0 < s.mutex then some { s.produceTo p .critical with mutex := s.mutex - 1 } else none
  | .critical =>
    if (s.nput : ℤ) ≥ nitems then some (s.produceTo p .doneEmpty)
    else some (s.store.produceTo p .postMutex)
  | .doneEmpty => some { s.produceTo p .doneMutex with nempty := s.nempty + 1 }
  | .doneMutex => some { s.produceTo p .returned with mutex := s.mutex + 1 }
  | .postMutex => some { s.produceTo p .postStored with mutex := s.mutex + 1 }
  | .postStored => some { s.produceTo p .count with nstored := s.nstored + 1 }
  | .count =>
    some { s with producer := Function.update s.producer p ⟨.waitEmpty, (s.producer p).count + 1⟩ }
  | .returned => none

/-- The next statement of `consume`. -/
def consume (nitems : ℤ) (s : State π) : Option (State π) :=
  match s.consumer.pc with
  | .test => some (s.consumeTo (if (s.consumer.i : ℤ) < nitems then .waitStored else .returned))
  | .waitStored =>
    if 0 < s.nstored then some { s.consumeTo .waitMutex with nstored := s.nstored - 1 } else none
  | .waitMutex =>
    if 0 < s.mutex then some { s.consumeTo .critical with mutex := s.mutex - 1 } else none
  | .critical => some (s.fetch.consumeTo .postMutex)
  | .postMutex => some { s.consumeTo .postEmpty with mutex := s.mutex + 1 }
  | .postEmpty => some { s.consumeTo .next with nempty := s.nempty + 1 }
  | .next => some { s with consumer := ⟨.test, s.consumer.i + 1⟩ }
  | .returned => none

def step (nitems : ℤ) (s : State π) : Act π → Option (State π)
  | .produce p => s.produce nitems p
  | .consume => s.consume nitems

end State

/-- The state in which `main` has initialised the semaphores and created the threads. -/
def start : State π where
  buff := fun _ => 0
  nput := 0
  nputval := 0
  mutex := 1
  nempty := nbuff
  nstored := 0
  producer := fun _ => ⟨.waitEmpty, 0⟩
  consumer := ⟨.test, 0⟩
  errors := []
  fetched := []

/-- `prodcons3` with `nitems` items. -/
def machine (nitems : ℤ) : Machine (State π) (Act π) := ⟨start, State.step nitems⟩

end Unpvol2.Prodcons3
