/-
**`prodcons1`: a producer and a consumer with semaphores that have names.**

`main` makes three semaphores under fixed names, starts the two threads, joins them and removes the
names. `O_EXCL` gives it a new semaphore, which no other process opens, or `SEM_FAILED` where the
name is taken; `main` does not look, and the first `sem_wait` or `sem_post` on `SEM_FAILED` kills
the process.

`Process` is one process; whether a name is taken is open there, and in `State` any number of them
share the names. A process may be killed from outside, and `semunlink` may remove a name at any
time. `prodcons2` has its semaphores in its own memory: it is a process that finds no name taken.

One step is a call, or a statement that reads or writes `shared.buff`. The loop's `i++` is part of
its last `sem_post`. The items are never negative, so `i` and the items are `ℕ`.
-/

import Mathlib.Algebra.GroupWithZero.Nat
import Mathlib.Logic.Function.Basic
import Unpvol2.Lib.Machine

namespace Unpvol2.Prodcons1

open Interleaving

/-- `NBUFF`. -/
def nbuff : ℕ := 10

instance : NeZero nbuff := ⟨by decide⟩

/-- The place of item `n`: `n % NBUFF`. -/
def slot (n : ℕ) : Fin nbuff := Fin.ofNat nbuff n

/-- The semaphores: `"/semmutex"`, `"/semnempty"` and `"/semnstored"`. -/
inductive Name
  | mutex
  | nempty
  | nstored
deriving DecidableEq

/-- The value a semaphore is made with. -/
def Name.initial : Name → ℕ
  | .mutex => 1
  | .nempty => nbuff
  | .nstored => 0

/-! ### One process -/

/-- The statement `main` stands at. -/
inductive MainPc
  /-- `sem_open(name, O_CREAT | O_EXCL, FILE_MODE, value)` -/
  | openSem (name : Name)
  /-- `pthread_create(&tid_produce, NULL, produce, NULL)` -/
  | createProduce
  | createConsume
  /-- `pthread_join(tid_produce, NULL)` -/
  | joinProduce
  | joinConsume
  /-- `sem_unlink(name)` -/
  | unlink (name : Name)
  | exited
deriving DecidableEq

/-- The statement of `produce` the producer stands at. -/
inductive ProducePc
  /-- the thread has not been created -/
  | notYet
  /-- `i < nitems` -/
  | test
  /-- `sem_wait(shared.nempty)` -/
  | waitEmpty
  /-- `sem_wait(shared.mutex)` -/
  | waitMutex
  /-- `shared.buff[i % NBUFF] = i` -/
  | store
  /-- `printf` -/
  | print
  /-- `sem_post(shared.mutex)` -/
  | postMutex
  /-- `sem_post(shared.nstored)` and `i++` -/
  | postStored
  | returned
deriving DecidableEq

/-- The statement of `consume` the consumer stands at. -/
inductive ConsumePc
  | notYet
  /-- `i < nitems` -/
  | test
  /-- `sem_wait(shared.nstored)` -/
  | waitStored
  /-- `sem_wait(shared.mutex)` -/
  | waitMutex
  /-- `if (shared.buff[i % NBUFF] != i)` -/
  | compare
  /-- `printf`, in one branch or the other -/
  | print (differs : Bool)
  /-- `sem_post(shared.mutex)` -/
  | postMutex
  /-- `sem_post(shared.nempty)` and `i++` -/
  | postEmpty
  | returned
deriving DecidableEq

structure Producer where
  pc : ProducePc
  i : ℕ
deriving DecidableEq

structure Consumer where
  pc : ConsumePc
  i : ℕ
deriving DecidableEq

/-- The lines of the output. -/
inductive Line
  /-- `producer put %d` -/
  | put (value : ℕ)
  /-- `consumer get %d` -/
  | get (value : ℕ)
  /-- `buff[%d] = %d` -/
  | differs (i value : ℕ)
deriving DecidableEq

/-- The pointers to semaphores that are not `SEM_FAILED`, the values of these semaphores, the
buffer, the threads, the output, and whether the process has been killed. -/
structure Process where
  opened : Name → Bool
  sem : Name → ℕ
  buff : Fin nbuff → ℕ
  main : MainPc
  producer : Producer
  consumer : Consumer
  stdout : List Line
  killed : Bool

/-- Who moves in a process; `main` is told whether the name it opens is taken. -/
inductive Move
  | main (taken : Bool)
  | produce
  | consume
  /-- a signal from outside -/
  | kill

namespace Process

def produceTo (x : Process) (pc : ProducePc) : Process :=
  { x with producer := { x.producer with pc := pc } }

def consumeTo (x : Process) (pc : ConsumePc) : Process :=
  { x with consumer := { x.consumer with pc := pc } }

/-- `sem_wait`; the thread goes on as in `next`. -/
def wait (x : Process) (name : Name) (next : Process) : Option Process :=
  if x.opened name then
    if 0 < x.sem name then
      some { next with sem := Function.update x.sem name (x.sem name - 1) }
    else none
  else some { x with killed := true }

/-- `sem_post`. -/
def post (x : Process) (name : Name) (next : Process) : Process :=
  if x.opened name then { next with sem := Function.update x.sem name (x.sem name + 1) }
  else { x with killed := true }

/-- `sem_open`. -/
def openSem (x : Process) (name : Name) (taken : Bool) (next : MainPc) : Process :=
  if taken then { x with main := next }
  else
    { x with
      opened := Function.update x.opened name true
      sem := Function.update x.sem name name.initial
      main := next }

/-- The next statement of `main`. -/
def mainStep (x : Process) (taken : Bool) : Option Process :=
  match x.main with
  | .openSem .mutex => some (x.openSem .mutex taken (.openSem .nempty))
  | .openSem .nempty => some (x.openSem .nempty taken (.openSem .nstored))
  | .openSem .nstored => some (x.openSem .nstored taken .createProduce)
  | .createProduce => some { x.produceTo .test with main := .createConsume }
  | .createConsume => some { x.consumeTo .test with main := .joinProduce }
  | .joinProduce => if x.producer.pc = .returned then some { x with main := .joinConsume } else none
  | .joinConsume =>
    if x.consumer.pc = .returned then some { x with main := .unlink .mutex } else none
  | .unlink .mutex => some { x with main := .unlink .nempty }
  | .unlink .nempty => some { x with main := .unlink .nstored }
  | .unlink .nstored => some { x with main := .exited }
  | .exited => none

/-- The next statement of `produce`. -/
def produce (nitems : ℤ) (x : Process) : Option Process :=
  let i := x.producer.i
  match x.producer.pc with
  | .test => some (x.produceTo (if (i : ℤ) < nitems then .waitEmpty else .returned))
  | .waitEmpty => x.wait .nempty (x.produceTo .waitMutex)
  | .waitMutex => x.wait .mutex (x.produceTo .store)
  | .store => some { x.produceTo .print with buff := Function.update x.buff (slot i) i }
  | .print => some { x.produceTo .postMutex with stdout := x.stdout ++ [.put (x.buff (slot i))] }
  | .postMutex => some (x.post .mutex (x.produceTo .postStored))
  | .postStored => some (x.post .nstored { x with producer := ⟨.test, i + 1⟩ })
  | .notYet | .returned => none

/-- The next statement of `consume`. -/
def consume (nitems : ℤ) (x : Process) : Option Process :=
  let i := x.consumer.i
  match x.consumer.pc with
  | .test => some (x.consumeTo (if (i : ℤ) < nitems then .waitStored else .returned))
  | .waitStored => x.wait .nstored (x.consumeTo .waitMutex)
  | .waitMutex => x.wait .mutex (x.consumeTo .compare)
  | .compare => some (x.consumeTo (.print (decide (x.buff (slot i) ≠ i))))
  | .print differs =>
    let line := if differs then Line.differs i (x.buff (slot i)) else .get (x.buff (slot i))
    some { x.consumeTo .postMutex with stdout := x.stdout ++ [line] }
  | .postMutex => some (x.post .mutex (x.consumeTo .postEmpty))
  | .postEmpty => some (x.post .nempty { x with consumer := ⟨.test, i + 1⟩ })
  | .notYet | .returned => none

/-- The process is over. -/
def ended (x : Process) : Bool := x.killed || decide (x.main = .exited)

def step (nitems : ℤ) (x : Process) (move : Move) : Option Process :=
  if x.ended then none else
    match move with
    | .main taken => x.mainStep taken
    | .produce => x.produce nitems
    | .consume => x.consume nitems
    | .kill => some { x with killed := true }

/-- Before the first statement of `main`. -/
def start : Process where
  opened := fun _ => false
  sem := fun _ => 0
  buff := fun _ => 0
  main := .openSem .mutex
  producer := ⟨.notYet, 0⟩
  consumer := ⟨.notYet, 0⟩
  stdout := []
  killed := false

/-- A process, whatever names it finds taken. -/
def machine (nitems : ℤ) : Machine Process Move := ⟨start, step nitems⟩

end Process

/-! ### The processes and the names -/

/-- Which process has made the semaphore a name leads to, and the processes. -/
structure State (ι : Type) where
  name : Name → Option ι
  process : ι → Process

inductive Act (ι : Type)
  | main (p : ι)
  | produce (p : ι)
  | consume (p : ι)
  | kill (p : ι)
  /-- `semunlink` removes a name -/
  | semunlink (name : Name)

variable {ι : Type} [DecidableEq ι]

/-- `main` opens a name that is taken. -/
def MainPc.taken (used : Name → Option ι) : MainPc → Bool
  | .openSem name => (used name).isSome
  | _ => false

/-- The names after a statement of `main` of process `p`. -/
def MainPc.names (p : ι) (used : Name → Option ι) : MainPc → Name → Option ι
  | .openSem name => if used name = none then Function.update used name (some p) else used
  | .unlink name => Function.update used name none
  | _ => used

namespace State

/-- Process `p` moves. -/
def move (nitems : ι → ℤ) (s : State ι) (p : ι) (move : Move) : Option (State ι) :=
  ((s.process p).step (nitems p) move).map fun x =>
    { s with process := Function.update s.process p x }

def step (nitems : ι → ℤ) (s : State ι) : Act ι → Option (State ι)
  | .main p =>
    let pc := (s.process p).main
    (s.move nitems p (.main (pc.taken s.name))).map fun s' => { s' with name := pc.names p s.name }
  | .produce p => s.move nitems p .produce
  | .consume p => s.move nitems p .consume
  | .kill p => s.move nitems p .kill
  | .semunlink name => some { s with name := Function.update s.name name none }

end State

/-- No name is taken, and no process has begun. -/
def start : State ι := ⟨fun _ => none, fun _ => Process.start⟩

/-- `prodcons1` started any number of times, each with its own number of items. -/
def machine (nitems : ι → ℤ) : Machine (State ι) (Act ι) := ⟨start, State.step nitems⟩

/-! ### `prodcons2` -/

/-- The threads of one process. -/
inductive Thread
  | main
  | produce
  | consume

def Thread.move : Thread → Move
  | .main => .main false
  | .produce => .produce
  | .consume => .consume

/-- `prodcons2` with `nitems` items: `sem_init` and `sem_destroy` stand where `sem_open` and
`sem_unlink` do. -/
def prodcons2 (nitems : ℤ) : Machine Process Thread :=
  ⟨Process.start, fun x thread => x.step nitems thread.move⟩

end Unpvol2.Prodcons1
