/-
**`prodcons4`: any number of producers, any number of consumers, one buffer.**

Producers take a token of `nempty`, store under `mutex` and post a token of `nstored`; consumers go
the other way round. Once `nitems` items have been stored a producer posts one more token of
`nstored` to let a consumer terminate, hands its token of `nempty` back and returns; a consumer
that finds `nget >= nitems` hands its token of `nstored` on and returns.

One step of a thread is one semaphore operation, one critical section, or the change of its own
count. `sem_post` always succeeds and `sem_wait` goes on when the count is positive. `stored` and
`fetched` are read by no code: they list the items in the order in which they were put into `buff`
and taken out of it.
-/

import Mathlib.Data.Fintype.Basic
import Mathlib.Logic.Function.Basic
import Unpvol2.Lib.Machine

namespace Unpvol2.Prodcons4

open Interleaving

/-- `NBUFF`. -/
def nbuff : ℕ := 10

/-- The place of item `n`: `n % NBUFF`. -/
def slot (n : ℕ) : Fin nbuff := ⟨n % nbuff, Nat.mod_lt n (by decide)⟩

/-! ### The threads -/

/-- The statement of `produce` a thread stands at. -/
inductive ProducePc
  /-- `sem_wait(&shared.nempty)` -/
  | waitEmpty
  /-- `sem_wait(&shared.mutex)` -/
  | waitMutex
  /-- the test `nput >= nitems`, and the store -/
  | critical
  /-- `sem_post(&shared.nstored)`, to let consumers terminate -/
  | doneStored
  /-- `sem_post(&shared.nempty)` -/
  | doneEmpty
  /-- `sem_post(&shared.mutex)` -/
  | doneMutex
  /-- `sem_post(&shared.mutex)` after a store -/
  | postMutex
  /-- `sem_post(&shared.nstored)`, one more stored item -/
  | postStored
  /-- `*((int *) arg) += 1` -/
  | count
  | returned
deriving DecidableEq

/-- The statement of `consume` a thread stands at. -/
inductive ConsumePc
  /-- `sem_wait(&shared.nstored)` -/
  | waitStored
  /-- `sem_wait(&shared.mutex)` -/
  | waitMutex
  /-- the test `nget >= nitems`, and the fetch -/
  | critical
  /-- `sem_post(&shared.nstored)`, for the next consumer -/
  | doneStored
  /-- `sem_post(&shared.mutex)` -/
  | doneMutex
  /-- `sem_post(&shared.mutex)` after a fetch -/
  | postMutex
  /-- `sem_post(&shared.nempty)`, one more empty slot -/
  | postEmpty
  /-- `*((int *) arg) += 1` -/
  | count
  | returned
deriving DecidableEq

/-- A thread and its entry of `prodcount[]` or `conscount[]`. -/
structure Thread (Pc : Type) where
  pc : Pc
  count : ℕ
deriving DecidableEq

/-! ### The process -/

/-- `shared`, the threads, the lines the error branch has printed, and the items stored and fetched
so far. -/
structure State (π κ : Type) where
  buff : Fin nbuff → ℕ
  /-- item number: 0, 1, 2, ... -/
  nput : ℕ
  /-- value to store in `buff[]` -/
  nputval : ℕ
  /-- item number: 0, 1, 2, ... -/
  nget : ℕ
  /-- value expected from `buff[]` -/
  ngetval : ℕ
  mutex : ℕ
  nempty : ℕ
  nstored : ℕ
  producer : π → Thread ProducePc
  consumer : κ → Thread ConsumePc
  errors : List (Fin nbuff × ℕ)
  stored : List ℕ
  fetched : List ℕ

/-- Which thread moves. -/
inductive Act (π κ : Type)
  | produce (p : π)
  | consume (c : κ)

variable {π κ : Type} [DecidableEq π] [DecidableEq κ]

namespace State

/-- Producer `p` goes on to `pc`. -/
def produceTo (s : State π κ) (p : π) (pc : ProducePc) : State π κ :=
  { s with producer := Function.update s.producer p { s.producer p with pc := pc } }

/-- Consumer `c` goes on to `pc`. -/
def consumeTo (s : State π κ) (c : κ) (pc : ConsumePc) : State π κ :=
  { s with consumer := Function.update s.consumer c { s.consumer c with pc := pc } }

/-- The item is put into the buffer. -/
def store (s : State π κ) : State π κ :=
  { s with
    buff := Function.update s.buff (slot s.nput) s.nputval
    nput := s.nput + 1
    nputval := s.nputval + 1
    stored := s.stored ++ [s.nputval] }

/-- An item is taken out of the buffer, and compared with the one expected. -/
def fetch (s : State π κ) : State π κ :=
  let i := slot s.nget
  { s with
    errors := if s.buff i ≠ s.ngetval then s.errors ++ [(i, s.buff i)] else s.errors
    nget := s.nget + 1
    ngetval := s.ngetval + 1
    fetched := s.fetched ++ [s.buff i] }

/-- The next statement of `produce`. -/
def produce (nitems : ℤ) (s : State π κ) (p : π) : Option (State π κ) :=
  match (s.producer p).pc with
  | .waitEmpty =>
    if 0 < s.nempty then some { s.produceTo p .waitMutex with nempty := s.nempty - 1 } else none
  | .waitMutex =>
    if 0 < s.mutex then some { s.produceTo p .critical with mutex := s.mutex - 1 } else none
  | .critical =>
    if (s.nput : ℤ) ≥ nitems then some (s.produceTo p .doneStored)
    else some (s.store.produceTo p .postMutex)
  | .doneStored => some { s.produceTo p .doneEmpty with nstored := s.nstored + 1 }
  | .doneEmpty => some { s.produceTo p .doneMutex with nempty := s.nempty + 1 }
  | .doneMutex => some { s.produceTo p .returned with mutex := s.mutex + 1 }
  | .postMutex => some { s.produceTo p .postStored with mutex := s.mutex + 1 }
  | .postStored => some { s.produceTo p .count with nstored := s.nstored + 1 }
  | .count =>
    some { s with producer := Function.update s.producer p ⟨.waitEmpty, (s.producer p).count + 1⟩ }
  | .returned => none

/-- The next statement of `consume`. -/
def consume (nitems : ℤ) (s : State π κ) (c : κ) : Option (State π κ) :=
  match (s.consumer c).pc with
  | .waitStored =>
    if 0 < s.nstored then some { s.consumeTo c .waitMutex with nstored := s.nstored - 1 } else none
  | .waitMutex =>
    if 0 < s.mutex then some { s.consumeTo c .critical with mutex := s.mutex - 1 } else none
  | .critical =>
    if (s.nget : ℤ) ≥ nitems then some (s.consumeTo c .doneStored)
    else some (s.fetch.consumeTo c .postMutex)
  | .doneStored => some { s.consumeTo c .doneMutex with nstored := s.nstored + 1 }
  | .doneMutex => some { s.consumeTo c .returned with mutex := s.mutex + 1 }
  | .postMutex => some { s.consumeTo c .postEmpty with mutex := s.mutex + 1 }
  | .postEmpty => some { s.consumeTo c .count with nempty := s.nempty + 1 }
  | .count =>
    some { s with consumer := Function.update s.consumer c ⟨.waitStored, (s.consumer c).count + 1⟩ }
  | .returned => none

def step (nitems : ℤ) (s : State π κ) : Act π κ → Option (State π κ)
  | .produce p => s.produce nitems p
  | .consume c => s.consume nitems c

end State

/-- The state in which `main` has initialised the semaphores and created the threads. -/
def start : State π κ where
  buff := fun _ => 0
  nput := 0
  nputval := 0
  nget := 0
  ngetval := 0
  mutex := 1
  nempty := nbuff
  nstored := 0
  producer := fun _ => ⟨.waitEmpty, 0⟩
  consumer := fun _ => ⟨.waitStored, 0⟩
  errors := []
  stored := []
  fetched := []

/-- `prodcons4` with `nitems` items. -/
def machine (nitems : ℤ) : Machine (State π κ) (Act π κ) := ⟨start, State.step nitems⟩

end Unpvol2.Prodcons4
