/-
**`prodcons2` and `prodcons3` with a mutex: an array filled by many producers.**

`main` starts the producers and one consumer and joins them. `prodcons2` starts the consumer when
all producers have been joined; `prodcons3` starts it before, and the consumer looks in a loop,
under the mutex, whether the item it wants is there. `produce` is the same in both.

One step is one statement; `pthread_create` and the other calls succeed. `count[]` is not
initialised before `main` writes it, and its start is any array. An access outside `buff` is no
step. `waits` is read by no code: it counts how often the consumer has found nothing ready.
-/

import Mathlib.Data.Int.Order.Basic
import Mathlib.Logic.Function.Basic
import Unpvol2.Lib.Machine

namespace Unpvol2.Prodcons2

open Interleaving

/-- `MAXNITEMS`. -/
def maxnitems : ℕ := 1000000

/-- `MAXNTHREADS`. -/
def maxnthreads : ℕ := 100

inductive Program
  | prodcons2
  | prodcons3
deriving DecidableEq

/-! ### The threads -/

/-- The statement of `main` it stands at. -/
inductive MainPc
  /-- the test `i < nthreads` of the first loop -/
  | testCreate
  /-- `count[i] = 0` -/
  | zero
  /-- `pthread_create(&tid_produce[i], NULL, produce, &count[i])` and `i++` -/
  | create
  /-- `pthread_create(&tid_consume, NULL, consume, NULL)` -/
  | createConsumer
  /-- the test `i < nthreads` of the second loop -/
  | testJoin
  /-- `pthread_join(tid_produce[i], NULL)` -/
  | join
  /-- `printf("count[%d] = %d\n", i, count[i])` and `i++` -/
  | print
  /-- `pthread_join(tid_consume, NULL)` -/
  | joinConsumer
  | exited
deriving DecidableEq

/-- What follows the first loop of `main`. -/
def Program.created : Program → MainPc
  | .prodcons2 => .testJoin
  | .prodcons3 => .createConsumer

/-- What follows the start of the consumer. -/
def Program.started : Program → MainPc
  | .prodcons2 => .joinConsumer
  | .prodcons3 => .testJoin

/-- What follows the second loop of `main`. -/
def Program.joined : Program → MainPc
  | .prodcons2 => .createConsumer
  | .prodcons3 => .joinConsumer

/-- The statement of `produce` a producer stands at. -/
inductive ProducePc
  /-- not created yet -/
  | unborn
  /-- `pthread_mutex_lock(&shared.mutex)` -/
  | lock
  /-- the test `shared.nput >= nitems` -/
  | test
  /-- `pthread_mutex_unlock(&shared.mutex)`, the array is full -/
  | unlockEnd
  /-- `shared.buff[shared.nput] = shared.nval` -/
  | store
  /-- `shared.nput++` -/
  | incNput
  /-- `shared.nval++` -/
  | incNval
  /-- `pthread_mutex_unlock(&shared.mutex)` -/
  | unlock
  /-- `*((int *) arg) += 1` -/
  | count
  | returned
deriving DecidableEq

/-- The statement of `consume`, or of `consume_wait`, the consumer stands at. -/
inductive ConsumePc
  /-- not created yet -/
  | unborn
  /-- the test `i < nitems` -/
  | test
  /-- `pthread_mutex_lock(&shared.mutex)` -/
  | lock
  /-- the test `i < shared.nput` -/
  | testReady
  /-- `pthread_mutex_unlock(&shared.mutex)`, an item is ready -/
  | unlockReady
  /-- `pthread_mutex_unlock(&shared.mutex)`, none is -/
  | unlockAgain
  /-- the comparison of `shared.buff[i]` with `i`, and `printf` -/
  | read
  /-- `i++` -/
  | next
  | returned
deriving DecidableEq

/-- What follows the test of `consume`'s loop. -/
def Program.wanted : Program → ConsumePc
  | .prodcons2 => .read
  | .prodcons3 => .lock

structure Main where
  pc : MainPc
  i : ℕ
deriving DecidableEq

structure Consumer where
  pc : ConsumePc
  i : ℕ
deriving DecidableEq

/-- Who may hold the mutex. -/
inductive Thread
  | producer (k : ℕ)
  | consumer
deriving DecidableEq

/-- A line of the output: `count[i]` or a wrong `buff[i]`. -/
inductive Line
  | count (i : ℕ) (value : ℤ)
  | buff (i value : ℕ)
deriving DecidableEq

/-! ### The process -/

structure State where
  /-- `shared` -/
  mutex : Option Thread
  buff : ℕ → ℕ
  nput : ℕ
  nval : ℕ
  main : Main
  /-- `count[]` of `main` -/
  count : ℕ → ℤ
  producer : ℕ → ProducePc
  consumer : Consumer
  stdout : List Line
  waits : ℕ

/-- Which thread moves. -/
inductive Act
  | main
  | produce (k : ℕ)
  | consume
deriving DecidableEq

namespace State

def mainTo (s : State) (pc : MainPc) : State :=
  { s with main := { s.main with pc := pc } }

def produceTo (s : State) (k : ℕ) (pc : ProducePc) : State :=
  { s with producer := Function.update s.producer k pc }

def consumeTo (s : State) (pc : ConsumePc) : State :=
  { s with consumer := { s.consumer with pc := pc } }

/-- The next statement of `main`. -/
def mainStep (program : Program) (nthreads : ℤ) (s : State) : Option State :=
  let i := s.main.i
  match s.main.pc with
  | .testCreate =>
    some (if i < nthreads then s.mainTo .zero else { s with main := ⟨program.created, 0⟩ })
  | .zero => some { s.mainTo .create with count := Function.update s.count i 0 }
  | .create => some { s.produceTo i .lock with main := ⟨.testCreate, i + 1⟩ }
  | .createConsumer => some ((s.consumeTo .test).mainTo program.started)
  | .testJoin => some (s.mainTo (if i < nthreads then .join else program.joined))
  | .join => if s.producer i = .returned then some (s.mainTo .print) else none
  | .print =>
    some { s with main := ⟨.testJoin, i + 1⟩, stdout := s.stdout ++ [.count i (s.count i)] }
  | .joinConsumer => if s.consumer.pc = .returned then some (s.mainTo .exited) else none
  | .exited => none

/-- The next statement of `produce`. -/
def produce (nitems : ℤ) (s : State) (k : ℕ) : Option State :=
  match s.producer k with
  | .unborn => none
  | .lock =>
    if s.mutex = none then some { s.produceTo k .test with mutex := some (.producer k) } else none
  | .test => some (s.produceTo k (if (s.nput : ℤ) ≥ nitems then .unlockEnd else .store))
  | .unlockEnd => some { s.produceTo k .returned with mutex := none }
  | .store =>
    if s.nput < maxnitems then
      some { s.produceTo k .incNput with buff := Function.update s.buff s.nput s.nval }
    else none
  | .incNput => some { s.produceTo k .incNval with nput := s.nput + 1 }
  | .incNval => some { s.produceTo k .unlock with nval := s.nval + 1 }
  | .unlock => some { s.produceTo k .count with mutex := none }
  | .count =>
    some { s.produceTo k .lock with count := Function.update s.count k (s.count k + 1) }
  | .returned => none

/-- The next statement of `consume` and `consume_wait`. -/
def consume (program : Program) (nitems : ℤ) (s : State) : Option State :=
  let i := s.consumer.i
  match s.consumer.pc with
  | .unborn => none
  | .test => some (s.consumeTo (if i < nitems then program.wanted else .returned))
  | .lock =>
    if s.mutex = none then some { s.consumeTo .testReady with mutex := some .consumer } else none
  | .testReady =>
    some (if i < s.nput then s.consumeTo .unlockReady
      else { s.consumeTo .unlockAgain with waits := s.waits + 1 })
  | .unlockReady => some { s.consumeTo .read with mutex := none }
  | .unlockAgain => some { s.consumeTo .lock with mutex := none }
  | .read =>
    if i < maxnitems then
      some { s.consumeTo .next with
        stdout := if s.buff i ≠ i then s.stdout ++ [.buff i (s.buff i)] else s.stdout }
    else none
  | .next => some { s with consumer := ⟨.test, i + 1⟩ }
  | .returned => none

def step (program : Program) (nitems nthreads : ℤ) (s : State) : Act → Option State
  | .main => s.mainStep program nthreads
  | .produce k => s.produce nitems k
  | .consume => s.consume program nitems

end State

/-- The process at the first loop of `main`. -/
def start (count : ℕ → ℤ) : State where
  mutex := none
  buff := fun _ => 0
  nput := 0
  nval := 0
  main := ⟨.testCreate, 0⟩
  count := count
  producer := fun _ => .unborn
  consumer := ⟨.unborn, 0⟩
  stdout := []
  waits := 0

/-- `nitems`, from what `atoi` returns. -/
def nitemsOf (items : ℤ) : ℤ := min items maxnitems

/-- `nthreads`. -/
def nthreadsOf (threads : ℤ) : ℤ := min threads maxnthreads

/-- A program with its two arguments. -/
def machine (program : Program) (items threads : ℤ) (count : ℕ → ℤ) : Machine State Act :=
  ⟨start count, State.step program (nitemsOf items) (nthreadsOf threads)⟩

end Unpvol2.Prodcons2
