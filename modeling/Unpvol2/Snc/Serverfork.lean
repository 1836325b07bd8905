/-
**`serverfork` and its clients.**

The server opens the server FIFO once. It reads 64 bytes at most, and forks a child for what it has
read; the child scans its own copy of `buf`, opens the client's FIFO and the file, copies the file,
and exits. The server does not wait for it and reads on.

The server FIFO is a stream of bytes here: a client writes its 64 bytes at once, and where one
request ends and the next begins is not in the stream. `children` are all children that have been
forked, those that have exited included. The clients are those of `Client`.

`written` and `reads` are read by no code: the clients in the order of their writes, and what the
reads of the server FIFO that were not empty have returned.
-/

import Unpvol2.Snc.Client

set_option linter.unusedSectionVars false

namespace Unpvol2.Snc.Serverfork

open C Interleaving
open Servern (Client ClientPc Stack View)

/-! ### The processes -/

/-- The call of `serverfork` the process stands at. -/
inductive ServerPc
  /-- `open(serverfifo, O_RDONLY)` -/
  | openServer
  /-- inside, when the server FIFO had been opened `seen` times for writing -/
  | openingServer (seen : ℕ)
  /-- `read(sfd, buf, sizeof(buf))` -/
  | read
  /-- `fork()` -/
  | fork
deriving DecidableEq

/-- The call of the child the process stands at. -/
inductive ChildPc
  /-- the `sscanf` -/
  | scan
  /-- the `snprintf`, and `open(buf, O_WRONLY)` -/
  | openClient
  /-- inside, when the FIFO had been opened `seen` times for reading -/
  | openingClient (seen : ℕ)
  /-- `open(pathname, O_RDONLY)` -/
  | openFile
  /-- `read(fd, buf, sizeof(buf))`, where `rest` is left of the file -/
  | copy (rest : List Char)
  /-- `write(cfd, buf, rnum)` -/
  | copyWrite (rnum : ℕ) (rest : List Char)
  /-- `close(fd)` and `close(cfd)` -/
  | closeClient
  /-- `exit(-1)`, or `SIGPIPE`, with the client FIFO open -/
  | abort
  /-- `exit`, with the server FIFO open -/
  | exit
  | exited
deriving DecidableEq

/-- The server, and its variables. -/
structure Server where
  pc : ServerPc
  buf : Buffer 64
  cpid : ℤ
  pathname : List Char

/-- A child: its variables, and the name `cfd` was opened under. -/
structure Child where
  pc : ChildPc
  buf : Buffer 64
  cpid : ℤ
  pathname : List Char
  cfd : List Char

/-- `buf` with the name of the FIFO of the client `cpid`. -/
def Child.clientBuf (x : Child) : Buffer 64 := clientFifoBuf x.buf x.cpid

/-- The child goes on to `pc`. -/
def Child.goes (x : Child) (pc : ChildPc) : Child := { x with pc := pc }

/-! ### The system -/

/-- The server FIFO, the client FIFOs by their names, the processes, and what has been written and
read. -/
structure State (ι : Type) where
  fifo : Fifo Char
  fifos : List Char → Option (Fifo Char)
  client : ι → Client
  server : Server
  children : List Child
  written : List ι
  reads : List (List Char)

/-- Which process moves; for the server also whether its `fork` fails. -/
inductive Act (ι : Type)
  | client (c : ι)
  | server
  | forkFails
  | child (k : ℕ)

variable {ι : Type} [DecidableEq ι]

namespace State

/-- The FIFO of client `c`. -/
def own (s : State ι) (args : ι → Args) (c : ι) : Option (Fifo Char) :=
  s.fifos (clientFifo (args c).pid)

/-- What client `c` has in front of it. -/
def view (s : State ι) (args : ι → Args) (c : ι) : View Char :=
  ⟨s.fifo, s.own args c, s.client c⟩

/-- Client `c` has changed it. -/
def put (s : State ι) (args : ι → Args) (c : ι) (v : View Char) : State ι :=
  { s with
    fifo := v.server
    fifos := Function.update s.fifos (clientFifo (args c).pid) v.own
    client := Function.update s.client c v.client
    written :=
      if (s.client c).pc = .write ∧ v.client.pc = .closeServer then s.written ++ [c]
      else s.written }

/-- The next call of client `c`. -/
def clientStep (args : ι → Args) (s : State ι) (c : ι) : Option (State ι) :=
  ((s.view args c).step (args c).request.bytes).map (s.put args c)

/-- The server goes on to `pc`. -/
def serverTo (s : State ι) (pc : ServerPc) : State ι :=
  { s with server := { s.server with pc := pc } }

/-- The next call of the server. -/
def serverStep (s : State ι) : Option (State ι) :=
  match s.server.pc with
  | .openServer =>
    let pc := if 0 < s.fifo.writers then .read else .openingServer s.fifo.writeOpens
    some { s.serverTo pc with fifo := s.fifo.openRead }
  | .openingServer seen => if s.fifo.writeOpens ≠ seen then some (s.serverTo .read) else none
  | .read =>
    let bytes := s.fifo.data.take 64
    if bytes ≠ [] then
      some { s with
        server := { s.server with pc := .fork, buf := s.server.buf.overwrite bytes }
        fifo := s.fifo.drop 64
        reads := s.reads ++ [bytes] }
    -- `read` returns 0, and is called again
    else if s.fifo.writers = 0 then some s
    else none
  | .fork =>
    some { s.serverTo .read with
      children := s.children ++ [⟨.scan, s.server.buf, s.server.cpid, s.server.pathname, []⟩]
      fifo := s.fifo.dupRead }

/-- `fork` returns -1, and the server reads on. -/
def forkFails (s : State ι) : Option (State ι) :=
  match s.server.pc with
  | .fork => some (s.serverTo .read)
  | _ => none

/-- Child `k` becomes `x`. -/
def setChild (s : State ι) (k : ℕ) (x : Child) : State ι :=
  { s with children := s.children.set k x }

/-- What a client FIFO is becomes `f`. -/
def setFifo (s : State ι) (name : List Char) (f : Option (Fifo Char)) : State ι :=
  { s with fifos := Function.update s.fifos name f }

/-- The next call of child `k`, which is `x`. -/
def childCall (files : List Char → Option (List Char)) (s : State ι) (k : ℕ) (x : Child) :
    Option (State ι) :=
  match x.pc with
  | .scan =>
    let scanned := scanRequest x.buf x.cpid x.pathname
    some (s.setChild k { x with pc := .openClient, cpid := scanned.1, pathname := scanned.2 })
  | .openClient =>
    let buf := x.clientBuf
    match s.fifos x.clientBuf.str with
    | some f =>
      let pc := if 0 < f.readers then .openFile else .openingClient f.readOpens
      some ((s.setChild k { x with pc := pc, buf := buf, cfd := buf.str }).setFifo buf.str
        (some f.openWrite))
    | none => some (s.setChild k { x with pc := .exit, buf := buf })
  | .openingClient seen =>
    match s.fifos x.cfd with
    | some f => if f.readOpens ≠ seen then some (s.setChild k (x.goes .openFile)) else none
    | none => none
  | .openFile =>
    match files x.pathname with
    | some content => some (s.setChild k (x.goes (.copy content)))
    | none => some (s.setChild k (x.goes .abort))
  | .copy rest =>
    let chunk := rest.take 64
    let pc := if chunk = [] then .closeClient else .copyWrite chunk.length (rest.drop 64)
    some (s.setChild k { x with pc := pc, buf := x.buf.overwrite chunk })
  | .copyWrite rnum rest =>
    match s.fifos x.cfd with
    | some f =>
      if 0 < f.readers then
        some ((s.setChild k (x.goes (.copy rest))).setFifo x.cfd
          (some (f.write (x.buf.bytes.take rnum))))
      else some (s.setChild k (x.goes .abort))
    | none => some (s.setChild k (x.goes .abort))
  | .closeClient | .abort =>
    some ((s.setChild k (x.goes .exit)).setFifo x.cfd ((s.fifos x.cfd).map Fifo.closeWrite))
  | .exit => some { s.setChild k (x.goes .exited) with fifo := s.fifo.closeRead }
  | .exited => none

/-- The next call of child `k`. -/
def childStep (files : List Char → Option (List Char)) (s : State ι) (k : ℕ) : Option (State ι) :=
  s.children[k]?.bind (s.childCall files k)

def step (files : List Char → Option (List Char)) (args : ι → Args) (s : State ι) :
    Act ι → Option (State ι)
  | .client c => s.clientStep args c
  | .server => s.serverStep
  | .forkFails => s.forkFails
  | .child k => s.childStep files k

end State

/-- The calls of child `k`, which is `x`. -/
inductive ChildCall (files : List Char → Option (List Char)) (s : State ι) (k : ℕ) (x : Child) :
    State ι → Prop
  | scan (here : x.pc = .scan) :
      ChildCall files s k x
        (s.setChild k
          { x with
            pc := .openClient
            cpid := (scanRequest x.buf x.cpid x.pathname).1
            pathname := (scanRequest x.buf x.cpid x.pathname).2 })
  | openClient (here : x.pc = .openClient) {f : Fifo Char}
      (found : s.fifos x.clientBuf.str = some f) :
      ChildCall files s k x
        ((s.setChild k
          { x with
            pc := if 0 < f.readers then .openFile else .openingClient f.readOpens
            buf := x.clientBuf
            cfd := x.clientBuf.str }).setFifo x.clientBuf.str (some f.openWrite))
  | openClientFails (here : x.pc = .openClient) (absent : s.fifos x.clientBuf.str = none) :
      ChildCall files s k x (s.setChild k { x with pc := .exit, buf := x.clientBuf })
  | openedClient {seen : ℕ} (here : x.pc = .openingClient seen) {f : Fifo Char}
      (found : s.fifos x.cfd = some f) (opened : f.readOpens ≠ seen) :
      ChildCall files s k x (s.setChild k (x.goes .openFile))
  | openFile (here : x.pc = .openFile) {content : List Char}
      (readable : files x.pathname = some content) :
      ChildCall files s k x (s.setChild k (x.goes (.copy content)))
  | openFileFails (here : x.pc = .openFile) (absent : files x.pathname = none) :
      ChildCall files s k x (s.setChild k (x.goes .abort))
  | copy {rest : List Char} (here : x.pc = .copy rest) :
      ChildCall files s k x
        (s.setChild k
          { x with
            pc := if rest.take 64 = [] then .closeClient
              else .copyWrite (rest.take 64).length (rest.drop 64)
            buf := x.buf.overwrite (rest.take 64) })
  | copyWrite {rnum : ℕ} {rest : List Char} (here : x.pc = .copyWrite rnum rest) {f : Fifo Char}
      (found : s.fifos x.cfd = some f) (reader : 0 < f.readers) :
      ChildCall files s k x
        ((s.setChild k (x.goes (.copy rest))).setFifo x.cfd
          (some (f.write (x.buf.bytes.take rnum))))
  | copyFails {rnum : ℕ} {rest : List Char} (here : x.pc = .copyWrite rnum rest)
      (unread : ∀ f, s.fifos x.cfd = some f → f.readers = 0) :
      ChildCall files s k x (s.setChild k (x.goes .abort))
  | closeClient (here : x.pc = .closeClient) :
      ChildCall files s k x
        ((s.setChild k (x.goes .exit)).setFifo x.cfd ((s.fifos x.cfd).map Fifo.closeWrite))
  | abort (here : x.pc = .abort) :
      ChildCall files s k x
        ((s.setChild k (x.goes .exit)).setFifo x.cfd ((s.fifos x.cfd).map Fifo.closeWrite))
  | exit (here : x.pc = .exit) :
      ChildCall files s k x { s.setChild k (x.goes .exited) with fifo := s.fifo.closeRead }

/-- **The inversion of the child's step.** -/
theorem child_cases {files : List Char → Option (List Char)} {s s' : State ι} {k : ℕ}
    (step : s.childStep files k = some s') :
    ∃ x, s.children[k]? = some x ∧ ChildCall files s k x s' := by
  obtain ⟨x, found, step⟩ := Option.bind_eq_some_iff.mp step
  refine ⟨x, found, ?_⟩
  unfold State.childCall at step
  split at step
  case h_1 here =>
    cases step
    exact .scan here
  case h_2 here =>
    dsimp only at step
    split at step
    · cases step
      exact .openClient here ‹_›
    · cases step
      exact .openClientFails here ‹_›
  case h_3 here =>
    split at step
    · split at step
      · cases step
        exact .openedClient here ‹_› ‹_›
      · cases step
    · cases step
  case h_4 here =>
    split at step
    · cases step
      exact .openFile here ‹_›
    · cases step
      exact .openFileFails here ‹_›
  case h_5 here =>
    cases step
    exact .copy here
  case h_6 here =>
    split at step
    · rename_i f name
      split at step
      · cases step
        exact .copyWrite here name ‹_›
      · cases step
        refine .copyFails here fun g found => ?_
        cases name.symm.trans found
        omega
    · rename_i none
      cases step
      refine .copyFails here fun g found => ?_
      cases none.symm.trans found
  case h_7 here =>
    cases step
    exact .closeClient here
  case h_8 here =>
    cases step
    exact .abort here
  case h_9 here =>
    cases step
    exact .exit here
  case h_10 => cases step

/-- The server has made its FIFO. -/
def start (stack : Stack) : State ι where
  fifo := Fifo.fresh
  fifos := fun _ => none
  client := fun _ => ⟨.mkfifo, []⟩
  server := ⟨.openServer, stack.buf, stack.cpid, stack.pathname⟩
  children := []
  written := []
  reads := []

/-- One `serverfork`, and a `client` for each of `args`. -/
def machine (files : List Char → Option (List Char)) (stack : Stack) (args : ι → Args) :
    Machine (State ι) (Act ι) :=
  ⟨start stack, State.step files args⟩

/-- `fork` does not fail. -/
def Forks (_ : State ι) : Act ι → Prop
  | .forkFails => False
  | _ => True

instance (s : State ι) : ∀ action, Decidable (Forks s action)
  | .forkFails => isFalse id
  | .client _ | .server | .child _ => isTrue trivial

end Unpvol2.Snc.Serverfork
