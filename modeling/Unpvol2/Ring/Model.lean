/-
**The shared-memory ring of `client2` and `server2`.**

Clients put messages into `NMESG` slots of `MESGSIZE` bytes, one server prints them. A client takes
a token of `nempty` (or counts an overflow), is granted the next slot under `mutex`, gives `mutex`
back, copies its message into the slot, and posts `nstored`. The server takes a token of `nstored`
and prints the slots in the order of their index.

A run starts when the server has initialised the memory. One step of a process is one semaphore
operation, the grant of a slot (`offset = msgoff[nput]` and the change of `nput`), the copy of one
byte, the load or the store of `noverflow++`, or one pass of the server over a slot. The semaphore
calls fail only where `sem_trywait` reports `EAGAIN`.

`granted` and the number `grant` of a client's last grant are read by no code: they tell which
message each slot was granted for.
-/

import Mathlib.Data.Fintype.Basic
import Unpvol2.Lib.C
import Unpvol2.Lib.Machine

namespace Unpvol2.Ring

open C Interleaving

/-- `MESGSIZE`: max #bytes per message, incl. null at end. -/
def mesgsize : ℕ := 256

/-- `NMESG`: max #messages. -/
def nmesg : ℕ := 16

/-- `snprintf(mesg, MESGSIZE, "pid %ld: message %d", (long) pid, i)`. -/
def mesgText (pid i : ℕ) : List Char :=
  ("pid ".toList ++ decimal pid ++ ": message ".toList ++ decimal i).take (mesgsize - 1)

/-! ### The processes -/

/-- The statement of `client2` a process stands at. -/
inductive ClientPc
  /-- `i < nloop`, and the message is written into `mesg` -/
  | loop
  /-- `sem_trywait(&ptr->nempty)` -/
  | trywait
  /-- `sem_wait(&ptr->noverflowmutex)` -/
  | overflowWait
  /-- `ptr->noverflow++`, the load -/
  | overflowLoad
  /-- and the store -/
  | overflowStore (value : ℤ)
  /-- `sem_post(&ptr->noverflowmutex)` -/
  | overflowPost
  /-- `sem_wait(&ptr->mutex)` -/
  | waitMutex
  /-- `offset = ptr->msgoff[ptr->nput]`, and the next `nput` -/
  | grab
  /-- `sem_post(&ptr->mutex)` -/
  | postMutex
  /-- `strcpy(&ptr->msgdata[offset], mesg)`, at byte `j` -/
  | copy (j : ℕ)
  /-- `sem_post(&ptr->nstored)` -/
  | postStored
  | exited
deriving DecidableEq

/-- The statement of `server2` the process stands at. -/
inductive ServerPc
  /-- `sem_wait(&ptr->nstored)` -/
  | waitStored
  /-- `sem_wait(&ptr->mutex)` -/
  | waitMutex
  /-- a slot is printed, and the next `index` -/
  | print
  /-- `sem_post(&ptr->mutex)` -/
  | postMutex
  /-- `sem_post(&ptr->nempty)` -/
  | postEmpty
  /-- `sem_wait(&ptr->noverflowmutex)` -/
  | overflowWait
  /-- `temp = ptr->noverflow` -/
  | overflowRead
  /-- `sem_post(&ptr->noverflowmutex)` -/
  | overflowPost
  /-- `if (temp != lastnoverflow)` -/
  | overflowTest
deriving DecidableEq

/-- A client: its process id and number of loops, and its variables. -/
structure Client where
  pid : ℕ
  nloop : ℤ
  pc : ClientPc
  i : ℕ
  mesg : List Char
  offset : ℕ
  grant : ℕ

structure Server where
  pc : ServerPc
  index : ℕ
  lastnoverflow : ℤ
  temp : ℤ
deriving DecidableEq

/-- A grant: which client, for the message of which round. -/
structure Grant (ι : Type) where
  client : ι
  i : ℕ
  mesg : List Char
deriving DecidableEq

/-! ### The system -/

/-- The fields of `shmstruct`, the processes, what the server has printed (slots and overflow
counts), and the slots granted so far. -/
structure State (ι : Type) where
  mutex : ℕ
  nempty : ℕ
  nstored : ℕ
  /-- index into `msgoff[]` for next put -/
  nput : ℕ
  /-- #overflows by senders -/
  noverflow : ℤ
  noverflowmutex : ℕ
  /-- offset in shared memory of each message -/
  msgoff : ℕ → ℕ
  /-- the actual messages -/
  msgdata : ℕ → Char
  client : ι → Client
  server : Server
  output : List (ℕ × List Char)
  overflows : List ℤ
  granted : List (Grant ι)

/-- Which process moves. -/
inductive Act (ι : Type)
  | client (c : ι)
  | server

variable {ι : Type} [DecidableEq ι]

/-- `if (++n >= NMESG) n = 0`. -/
def nextIndex (n : ℕ) : ℕ := if n + 1 ≥ nmesg then 0 else n + 1

namespace State

def pc (s : State ι) (c : ι) : ClientPc := (s.client c).pc

/-- Client `c` goes on to `pc`. -/
def clientTo (s : State ι) (c : ι) (pc : ClientPc) : State ι :=
  { s with client := Function.update s.client c { s.client c with pc := pc } }

/-- The client ends its round: `i++`. -/
def round (s : State ι) (c : ι) : State ι :=
  { s with client :=
      Function.update s.client c { s.client c with pc := .loop, i := (s.client c).i + 1 } }

/-- The server goes on to `pc`. -/
def serverTo (s : State ι) (pc : ServerPc) : State ι :=
  { s with server := { s.server with pc := pc } }

/-- The client begins a round. -/
def compose (s : State ι) (c : ι) : State ι :=
  let x := s.client c
  { s with client :=
      Function.update s.client c { x with pc := .trywait, mesg := mesgText x.pid x.i } }

/-- The client is granted the next slot. -/
def grab (s : State ι) (c : ι) : State ι :=
  let x := s.client c
  { s with
    client := Function.update s.client c
      ⟨x.pid, x.nloop, .postMutex, x.i, x.mesg, s.msgoff s.nput, s.granted.length⟩
    nput := nextIndex s.nput
    granted := s.granted ++ [⟨c, x.i, x.mesg⟩] }

/-- The client copies byte `j` of its message; `strcpy` ends with the NUL. -/
def copy (s : State ι) (c : ι) (j : ℕ) : State ι :=
  { s.clientTo c (if j < (s.client c).mesg.length then .copy (j + 1) else .postStored) with
    msgdata := Function.update s.msgdata ((s.client c).offset + j) (byte (s.client c).mesg j) }

/-- The server prints the slot `index`. -/
def print (s : State ι) : State ι :=
  let offset := s.msgoff s.server.index
  { s with
    output := s.output ++ [(s.server.index, read s.msgdata offset (nmesg * mesgsize - offset))]
    server := { s.server with pc := .postMutex, index := nextIndex s.server.index } }

/-- The server compares the overflow counts. -/
def overflowTest (s : State ι) : State ι :=
  if s.server.temp ≠ s.server.lastnoverflow then
    { s with
      overflows := s.overflows ++ [s.server.temp]
      server := { s.server with pc := .waitStored, lastnoverflow := s.server.temp } }
  else s.serverTo .waitStored

/-- The next statement of client `c`. -/
def clientStep (s : State ι) (c : ι) : Option (State ι) :=
  match s.pc c with
  | .loop =>
    if ((s.client c).i : ℤ) < (s.client c).nloop then some (s.compose c)
    else some (s.clientTo c .exited)
  | .trywait =>
    if 0 < s.nempty then some { s.clientTo c .waitMutex with nempty := s.nempty - 1 }
    else some (s.clientTo c .overflowWait)
  | .overflowWait =>
    if 0 < s.noverflowmutex then
      some { s.clientTo c .overflowLoad with noverflowmutex := s.noverflowmutex - 1 }
    else none
  | .overflowLoad => some (s.clientTo c (.overflowStore s.noverflow))
  | .overflowStore value =>
    some { s.clientTo c .overflowPost with noverflow := int64 (value + 1) }
  | .overflowPost => some { s.round c with noverflowmutex := s.noverflowmutex + 1 }
  | .waitMutex =>
    if 0 < s.mutex then some { s.clientTo c .grab with mutex := s.mutex - 1 } else none
  | .grab => some (s.grab c)
  | .postMutex => some { s.clientTo c (.copy 0) with mutex := s.mutex + 1 }
  | .copy j => some (s.copy c j)
  | .postStored => some { s.round c with nstored := s.nstored + 1 }
  | .exited => none

/-- The next statement of the server. -/
def serverStep (s : State ι) : Option (State ι) :=
  match s.server.pc with
  | .waitStored =>
    if 0 < s.nstored then some { s.serverTo .waitMutex with nstored := s.nstored - 1 } else none
  | .waitMutex =>
    if 0 < s.mutex then some { s.serverTo .print with mutex := s.mutex - 1 } else none
  | .print => some s.print
  | .postMutex => some { s.serverTo .postEmpty with mutex := s.mutex + 1 }
  | .postEmpty => some { s.serverTo .overflowWait with nempty := s.nempty + 1 }
  | .overflowWait =>
    if 0 < s.noverflowmutex then
      some { s.serverTo .overflowRead with noverflowmutex := s.noverflowmutex - 1 }
    else none
  | .overflowRead =>
    some { s with server := { s.server with pc := .overflowPost, temp := int32 s.noverflow } }
  | .overflowPost => some { s.serverTo .overflowTest with noverflowmutex := s.noverflowmutex + 1 }
  | .overflowTest => some s.overflowTest

def step (s : State ι) : Act ι → Option (State ι)
  | .client c => s.clientStep c
  | .server => s.serverStep

end State

/-- The command line and the process id of a client. -/
structure Args where
  pid : ℕ
  nloop : ℤ

/-- The memory as the server has initialised it, zeroed by `ftruncate`, and every client at the top
of its loop. -/
def start (args : ι → Args) : State ι where
  mutex := 1
  nempty := nmesg
  nstored := 0
  nput := 0
  noverflow := 0
  noverflowmutex := 1
  msgoff := fun index => index * mesgsize
  msgdata := fun _ => nul
  client := fun c => ⟨(args c).pid, (args c).nloop, .loop, 0, [], 0, 0⟩
  server := ⟨.waitStored, 0, 0, 0⟩
  output := []
  overflows := []
  granted := []

/-- One `server2`, and a `client2` for each of `args`. -/
def machine (args : ι → Args) : Machine (State ι) (Act ι) := ⟨start args, State.step⟩

end Unpvol2.Ring
