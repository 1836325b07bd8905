/-
**`mycat1` and `mycat2`: copying a file to the standard output.**

`mycat1` is one loop of `read` and `write`. In `mycat2` a producer reads into the slots of a ring
and a consumer writes them out. The two take turns on a slot by the semaphores `nempty` and
`nstored` only: the sections under `mutex` are empty. A slot of count 0 tells the consumer to end.

A system call is a step that fixes what it returns (`Act.read`, `Act.write`), one step for each byte
that it moves, and the return. It may return -1, and `read` returns at most `BUFFSIZE` and what is
left of the file, `write` at most the count it is given. `size_t` takes a count that is negative to
one that is huge. `chunks`, `put` and `got` are read by no code: the results of the reads, and how
many slots each thread has gone on from.
-/

import Mathlib.Data.List.Range
import Mathlib.Algebra.Group.Int.Defs
import Mathlib.Algebra.GroupWithZero.Nat
import Mathlib.Logic.Function.Basic
import Unpvol2.Lib.Machine

namespace Unpvol2.Mycat2

open Interleaving

/-- `NBUFF`. -/
def nbuff : ℕ := 8

instance : NeZero nbuff := ⟨by decide⟩

/-- `BUFFSIZE`. -/
def buffsize : ℕ := 8192

/-- The first `n` bytes of a buffer. -/
def bytes {β : Type} (data : ℕ → β) (n : ℕ) : List β := (List.range n).map data

/-- What a `ssize_t` is as a `size_t`. -/
def sizeT (n : ℤ) : ℤ := n % 2 ^ 64

/-! ### `mycat1` -/

/-- The loop of `mycat1` with a buffer of `size` bytes: what is left of the file, what has been
written, and the results of the calls of `Read`. It is still running when they are used up. -/
def mycat1 {β : Type} (size : ℕ) : List ℕ → List β → List β → Option (List β)
  | [], _, _ => none
  | 0 :: _, rest, stdout => if rest = [] then some stdout else none
  | (n + 1) :: results, rest, stdout =>
    if n + 1 ≤ size ∧ n + 1 ≤ rest.length then
      mycat1 size results (rest.drop (n + 1)) (stdout ++ rest.take (n + 1))
    else none

/-! ### The threads of `mycat2` -/

/-- The statement of `produce` the producer stands at. -/
inductive ProducePc
  /-- `sem_wait(&shared.nempty)` -/
  | waitEmpty
  /-- `sem_wait(&shared.mutex)` -/
  | waitMutex
  /-- `sem_post(&shared.mutex)` -/
  | postMutex
  /-- the call of `read(fd, shared.buff[i].data, BUFFSIZE)` -/
  | read
  /-- inside `read` -/
  | reading
  /-- the assignment of its result to `shared.buff[i].n` -/
  | assign
  /-- the test `shared.buff[i].n == 0` -/
  | test
  /-- `sem_post(&shared.nstored)`, and the return -/
  | endStored
  /-- `if (++i >= NBUFF) i = 0` -/
  | advance
  /-- `sem_post(&shared.nstored)` -/
  | postStored
  | returned
deriving DecidableEq

/-- The statement of `consume` the consumer stands at. -/
inductive ConsumePc
  /-- `sem_wait(&shared.nstored)` -/
  | waitStored
  /-- `sem_wait(&shared.mutex)` -/
  | waitMutex
  /-- `sem_post(&shared.mutex)` -/
  | postMutex
  /-- the test `shared.buff[i].n == 0` -/
  | test
  /-- the call of `write(STDOUT_FILENO, shared.buff[i].data, shared.buff[i].n)` -/
  | write
  /-- inside `write` -/
  | writing
  /-- `if (++i >= NBUFF) i = 0` -/
  | advance
  /-- `sem_post(&shared.nempty)` -/
  | postEmpty
  | returned
deriving DecidableEq

/-- A thread, its `i`, and its running system call: what it will return, and the bytes it has
moved. -/
structure Thread (Pc : Type) where
  pc : Pc
  i : ℕ
  result : ℤ
  done : ℕ
deriving DecidableEq

/-- A buffer and its count. -/
structure Slot (β : Type) where
  data : ℕ → β
  n : ℤ

/-! ### The process -/

/-- `shared`, the offset of `fd`, what has been written, and the threads. -/
structure State (β : Type) where
  buff : Fin nbuff → Slot β
  mutex : ℕ
  nempty : ℕ
  nstored : ℕ
  offset : ℕ
  stdout : List β
  producer : Thread ProducePc
  consumer : Thread ConsumePc
  chunks : List (List β)
  put : ℕ
  got : ℕ

/-- Which thread moves; for the call of a system call, also what it will return. -/
inductive Act
  | produce
  | read (result : ℤ)
  | consume
  | write (result : ℤ)

variable {β : Type}

/-- `if (++i >= NBUFF) i = 0`. -/
def next (i : ℕ) : ℕ := if i + 1 ≥ nbuff then 0 else i + 1

/-- The slot with index `i`. -/
def slot (i : ℕ) : Fin nbuff := Fin.ofNat nbuff i

namespace State

/-- The producer goes on to `pc`. -/
def produceTo (s : State β) (pc : ProducePc) : State β :=
  { s with producer := { s.producer with pc := pc } }

/-- The consumer goes on to `pc`. -/
def consumeTo (s : State β) (pc : ConsumePc) : State β :=
  { s with consumer := { s.consumer with pc := pc } }

/-- The slot the producer is at. -/
def filled (s : State β) : Slot β := s.buff (slot s.producer.i)

/-- The slot the consumer is at. -/
def emptied (s : State β) : Slot β := s.buff (slot s.consumer.i)

/-- `read` moves one byte. -/
def fill (s : State β) (byte : β) : State β :=
  let new := { s.filled with data := Function.update s.filled.data s.producer.done byte }
  { s with
    buff := Function.update s.buff (slot s.producer.i) new
    offset := s.offset + 1
    producer := { s.producer with done := s.producer.done + 1 } }

/-- The result of `read` is assigned to the count of the slot. -/
def assign (s : State β) : State β :=
  { s with
    buff := Function.update s.buff (slot s.producer.i) { s.filled with n := s.producer.result }
    chunks := s.chunks ++ [bytes s.filled.data s.producer.done] }

/-- `write` moves one byte. -/
def drain (s : State β) : State β :=
  { s with
    stdout := s.stdout ++ [s.emptied.data s.consumer.done]
    consumer := { s.consumer with done := s.consumer.done + 1 } }

/-- The next step of `produce`, the call of `read` apart. -/
def produce (file : List β) (s : State β) : Option (State β) :=
  match s.producer.pc with
  | .waitEmpty =>
    if 0 < s.nempty then some { s.produceTo .waitMutex with nempty := s.nempty - 1 } else none
  | .waitMutex =>
    if 0 < s.mutex then some { s.produceTo .postMutex with mutex := s.mutex - 1 } else none
  | .postMutex => some { s.produceTo .read with mutex := s.mutex + 1 }
  | .read => none
  | .reading =>
    if s.producer.done < s.producer.result then file[s.offset]?.map s.fill
    else some (s.produceTo .assign)
  | .assign => some (s.assign.produceTo .test)
  | .test => some (s.produceTo (if s.filled.n = 0 then .endStored else .advance))
  | .endStored => some { s.produceTo .returned with nstored := s.nstored + 1 }
  | .advance =>
    some { s with
      producer := { s.producer with pc := .postStored, i := next s.producer.i }
      put := s.put + 1 }
  | .postStored => some { s.produceTo .waitEmpty with nstored := s.nstored + 1 }
  | .returned => none

/-- `read` is called and will return `result`. -/
def read (file : List β) (s : State β) (result : ℤ) : Option (State β) :=
  if s.producer.pc = .read ∧ -1 ≤ result ∧ result ≤ buffsize ∧
      s.offset + result ≤ file.length then
    some { s with
      producer := { s.producer with pc := .reading, result := result, done := 0 } }
  else none

/-- The next step of `consume`, the call of `write` apart. -/
def consume (s : State β) : Option (State β) :=
  match s.consumer.pc with
  | .waitStored =>
    if 0 < s.nstored then some { s.consumeTo .waitMutex with nstored := s.nstored - 1 } else none
  | .waitMutex =>
    if 0 < s.mutex then some { s.consumeTo .postMutex with mutex := s.mutex - 1 } else none
  | .postMutex => some { s.consumeTo .test with mutex := s.mutex + 1 }
  | .test => some (s.consumeTo (if s.emptied.n = 0 then .returned else .write))
  | .write => none
  | .writing =>
    if s.consumer.done < s.consumer.result then some s.drain else some (s.consumeTo .advance)
  | .advance =>
    some { s with
      consumer := { s.consumer with pc := .postEmpty, i := next s.consumer.i }
      got := s.got + 1 }
  | .postEmpty => some { s.consumeTo .waitStored with nempty := s.nempty + 1 }
  | .returned => none

/-- `write` is called and will return `result`. -/
def write (s : State β) (result : ℤ) : Option (State β) :=
  if s.consumer.pc = .write ∧ -1 ≤ result ∧ result ≤ sizeT s.emptied.n then
    some { s with
      consumer := { s.consumer with pc := .writing, result := result, done := 0 } }
  else none

def step (file : List β) (s : State β) : Act → Option (State β)
  | .produce => s.produce file
  | .read result => s.read file result
  | .consume => s.consume
  | .write result => s.write result

end State

/-- The state in which `main` has opened the file, initialised the semaphores and created the
threads, whatever is in the buffers. -/
def start (memory : Fin nbuff → Slot β) : State β where
  buff := memory
  mutex := 1
  nempty := nbuff
  nstored := 0
  offset := 0
  stdout := []
  producer := ⟨.waitEmpty, 0, 0, 0⟩
  consumer := ⟨.waitStored, 0, 0, 0⟩
  chunks := []
  put := 0
  got := 0

/-- `mycat2` on a file. -/
def machine (file : List β) (memory : Fin nbuff → Slot β) : Machine (State β) Act :=
  ⟨start memory, State.step file⟩

/-- A `read` succeeds, and returns 0 at the end of the file only; a `write` is complete. -/
def Complete (file : List β) (s : State β) : Act → Prop
  | .read result => 0 < result ∨ (result = 0 ∧ s.offset = file.length)
  | .write result => result = s.emptied.n
  | _ => True

instance (file : List β) (s : State β) : ∀ action, Decidable (Complete file s action)
  | .read result => inferInstanceAs (Decidable (0 < result ∨ (result = 0 ∧ _)))
  | .write result => inferInstanceAs (Decidable (result = s.emptied.n))
  | .produce => isTrue trivial
  | .consume => isTrue trivial

end Unpvol2.Mycat2
