/-
**`lockmain`: sequence numbers from a shared file.**

Any number of processes take 20 numbers each: a process locks, reads the number in `SEQFILE`, prints
it, writes the next one over it and unlocks. `my_lock` and `my_unlock` are those of `lockmain` (a
write lock of `fcntl` on the whole file) or those of `lockopen` (a lock file that is created with
`O_CREAT|O_EXCL` and removed).

One step is one system call, or the statements between two of them. Each process has opened the file
for itself, so it has an offset of its own. A `fcntl` that is not granted does not return; it may
also return -1 (`Act.interrupt`), which the program does not look at. `line` is the string in
`line[]`. What a process has printed is its `printf`, as far as its sequence number goes.
-/

import Mathlib.Data.Fintype.Basic
import Mathlib.Logic.Function.Basic
import Unpvol2.Lib.File
import Unpvol2.Lib.Machine

namespace Unpvol2.Lockmain

open C Interleaving

/-- `MAXLINE`. -/
def maxline : ℕ := 4096

/-- How often `main` goes through its loop. -/
def rounds : ℕ := 20

/-- Whose `my_lock` and `my_unlock`. -/
inductive Lock
  | fcntl
  | lockopen
deriving DecidableEq

/-! ### The processes -/

/-- The statement of `main` a process stands at. -/
inductive Pc
  /-- the test `i < 20` -/
  | test
  /-- `my_lock(fd)`; with `lockopen` the test of its loop -/
  | lock
  /-- `close(tempfd)` of `lockopen` -/
  | closeLock
  /-- `lseek(fd, 0L, SEEK_SET)`, before the read -/
  | seekRead
  /-- `read(fd, line, MAXLINE)`, and the NUL behind -/
  | read
  /-- `sscanf(line, "%ld\n", &seqno)` -/
  | scan
  /-- `printf` -/
  | print
  /-- `seqno++`, and `snprintf(line, sizeof(line), "%ld\n", seqno)` -/
  | format
  /-- `lseek(fd, 0L, SEEK_SET)`, before the write -/
  | seekWrite
  /-- `write(fd, line, strlen(line))` -/
  | write
  /-- `my_unlock(fd)` -/
  | unlock
  /-- `i++` -/
  | next
  | exited
deriving DecidableEq

/-- A process: its variables, and the offset of its `fd`. -/
structure Process where
  pc : Pc
  i : ℕ
  offset : ℕ
  line : List Char
  seqno : ℤ
deriving DecidableEq

/-! ### The system -/

/-- `SEQFILE`, the owner of its record lock, whether `LOCKFILE` exists, the processes, and the
sequence numbers printed. -/
structure State (π : Type) where
  file : List Char
  owner : Option π
  lockfile : Bool
  process : π → Process
  printed : List ℤ

/-- Which process moves, or whose `fcntl(fd, F_SETLKW, &lock)` returns -1. -/
inductive Act (π : Type)
  | run (p : π)
  | interrupt (p : π)

variable {π : Type} [DecidableEq π]

namespace State

/-- The process `p` becomes `x`. -/
def set (s : State π) (p : π) (x : Process) : State π :=
  { s with process := Function.update s.process p x }

/-- The process `p` goes on to `pc`. -/
def goTo (s : State π) (p : π) (pc : Pc) : State π :=
  s.set p { s.process p with pc := pc }

/-- The record lock, when `p` has none any more. -/
def ownerWithout (s : State π) (p : π) : Option π :=
  if s.owner = some p then none else s.owner

/-- `my_lock(fd)`. -/
def myLock (lock : Lock) (s : State π) (p : π) : Option (State π) :=
  match lock with
  | .fcntl =>
    if s.owner = none ∨ s.owner = some p then some { s.goTo p .seekRead with owner := some p }
    else none
  | .lockopen =>
    -- `EEXIST`: someone else has the lock, loop around and try again
    if s.lockfile = true then some s
    else some { s.goTo p .closeLock with lockfile := true }

/-- `my_unlock(fd)`. -/
def myUnlock (lock : Lock) (s : State π) (p : π) : State π :=
  match lock with
  | .fcntl => { s.goTo p .next with owner := s.ownerWithout p }
  | .lockopen => { s.goTo p .next with lockfile := false }

/-- The next statement of process `p`. -/
def run (lock : Lock) (s : State π) (p : π) : Option (State π) :=
  let x := s.process p
  match x.pc with
  | .test =>
    if x.i < rounds then some (s.goTo p .lock)
    else some { s.goTo p .exited with owner := s.ownerWithout p }
  | .lock => s.myLock lock p
  | .closeLock => some (s.goTo p .seekRead)
  | .seekRead => some (s.set p { x with pc := .read, offset := 0 })
  | .read =>
    let bytes := readAt s.file x.offset maxline
    some (s.set p { x with
      pc := .scan, offset := x.offset + bytes.length, line := untilNul bytes })
  | .scan =>
    let number := (scanLong x.line).map Prod.fst
    some (s.set p { x with pc := .print, seqno := number.getD x.seqno })
  | .print => some { s.goTo p .format with printed := s.printed ++ [x.seqno] }
  | .format =>
    let seqno := int64 (x.seqno + 1)
    some (s.set p { x with
      pc := .seekWrite, seqno := seqno, line := (printInt seqno ++ ['\n']).take maxline })
  | .seekWrite => some (s.set p { x with pc := .write, offset := 0 })
  | .write =>
    some { s.set p { x with pc := .unlock, offset := x.offset + x.line.length } with
      file := writeAt s.file x.offset x.line }
  | .unlock => some (s.myUnlock lock p)
  | .next => some (s.set p { x with pc := .test, i := x.i + 1 })
  | .exited => none

/-- The `fcntl` of `my_lock` returns -1, and `my_lock` returns without the lock. -/
def interrupt (lock : Lock) (s : State π) (p : π) : Option (State π) :=
  if lock = .fcntl ∧ (s.process p).pc = .lock then some (s.goTo p .seekRead) else none

def step (lock : Lock) (s : State π) : Act π → Option (State π)
  | .run p => s.run lock p
  | .interrupt p => s.interrupt lock p

end State

/-- Each process has opened the file, and no lock is held. -/
def start (file : List Char) (stack : π → ℤ) : State π where
  file := file
  owner := none
  lockfile := false
  process := fun p => ⟨.test, 0, 0, [], stack p⟩
  printed := []

/-- The processes with one kind of lock, on a file; `seqno` is at first what is on the stack. -/
def machine (lock : Lock) (file : List Char) (stack : π → ℤ) : Machine (State π) (Act π) :=
  ⟨start file stack, State.step lock⟩

/-- A lock call returns only once it is granted. -/
def Granted (_ : State π) : Act π → Prop
  | .run _ => True
  | .interrupt _ => False

instance (s : State π) : ∀ action, Decidable (Granted s action)
  | .run _ => isTrue trivial
  | .interrupt _ => isFalse id

end Unpvol2.Lockmain
