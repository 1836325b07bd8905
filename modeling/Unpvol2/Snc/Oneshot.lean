/-
**`server` and its clients.**

The server answers one request. It opens the server FIFO, reads 64 bytes at most and closes the FIFO
again; from there on it does what a child of `serverfork` does (`Server.child`), and at last it
removes the name of the server FIFO. Who has the FIFO open then keeps it; who comes later finds no
name, and exits. The clients are those of `Client`.

`written` is read by no code: the clients in the order of their writes.
-/

import Unpvol2.Snc.Serverfork

set_option linter.unusedSectionVars false

namespace Unpvol2.Snc.Oneshot

open C Interleaving
open Servern (Client ClientPc Stack View)
open Serverfork (Child ChildPc)

/-! ### The processes -/

/-- The call of `server` the process stands at. -/
inductive ServerPc
  /-- `open(serverfifo, O_RDONLY)` -/
  | openServer
  /-- inside, when the server FIFO had been opened `seen` times for writing -/
  | openingServer (seen : ℕ)
  /-- `read(sfd, buf, sizeof(buf))` -/
  | read
  /-- the `sscanf` -/
  | scan
  /-- `close(sfd)` -/
  | closeServer
  /-- the `snprintf`, and `open(buf, O_WRONLY)` -/
  | openClient
  /-- inside, when the FIFO had been opened `seen` times for reading -/
  | openingClient (seen : ℕ)
  /-- `open(pathname, O_RDONLY)` -/
  | openFile
  /-- `read(fd, buf, sizeof(buf))`, where `rest` is left of the file -/
  | copy (rest : List Char)
  /-- `write(cfd, buf, rnum)` -/
  | copyWrite (rnum : ℕ) (rest : List Char)
  /-- `close(fd)` and `close(cfd)` -/
  | closeClient
  /-- `exit(-1)`, or `SIGPIPE`, with the client FIFO open -/
  | abort
  /-- `unlink(serverfifo)` -/
  | unlink
  | exited
deriving DecidableEq

/-- The server: its variables, and the name `cfd` was opened under. -/
structure Server where
  pc : ServerPc
  buf : Buffer 64
  cpid : ℤ
  pathname : List Char
  cfd : List Char

/-- `buf` with the name of the FIFO of the client `cpid`. -/
def Server.clientBuf (x : Server) : Buffer 64 := clientFifoBuf x.buf x.cpid

/-! ### The system -/

/-- The server FIFO, whether it has its name, the client FIFOs by their names, the processes, and
what has been written. -/
structure State (ι : Type) where
  fifo : Fifo Char
  linked : Bool
  fifos : List Char → Option (Fifo Char)
  client : ι → Client
  server : Server
  written : List ι

/-- Which process moves. -/
inductive Act (ι : Type)
  | client (c : ι)
  | server

variable {ι : Type} [DecidableEq ι]

namespace State

/-- The FIFO of client `c`. -/
def own (s : State ι) (args : ι → Args) (c : ι) : Option (Fifo Char) :=
  s.fifos (clientFifo (args c).pid)

/-- What client `c` has in front of it. -/
def view (s : State ι) (args : ι → Args) (c : ι) : View Char :=
  ⟨s.fifo, s.own args c, s.client c⟩

/-- Client `c` has changed it. -/
def put (s : State ι) (args : ι → Args) (c : ι) (v : View Char) : State ι :=
  { s with
    fifo := v.server
    fifos := Function.update s.fifos (clientFifo (args c).pid) v.own
    client := Function.update s.client c v.client
    written :=
      if (s.client c).pc = .write ∧ v.client.pc = .closeServer then s.written ++ [c]
      else s.written }

/-- The next call of client `c`; without the name its `open` fails, and it calls `exit(-1)`. -/
def clientStep (args : ι → Args) (s : State ι) (c : ι) : Option (State ι) :=
  if (s.client c).pc = .openServer ∧ s.linked = false then
    some (s.put args c ((s.view args c).clientTo .aborted))
  else ((s.view args c).step (args c).request.bytes).map (s.put args c)

/-- The server goes on to `pc`. -/
def serverTo (s : State ι) (pc : ServerPc) : State ι :=
  { s with server := { s.server with pc := pc } }

/-- What a client FIFO is becomes `f`. -/
def setFifo (s : State ι) (name : List Char) (f : Option (Fifo Char)) : State ι :=
  { s with fifos := Function.update s.fifos name f }

/-- The next call of the server. -/
def serverStep (files : List Char → Option (List Char)) (s : State ι) : Option (State ι) :=
  match s.server.pc with
  | .openServer =>
    let pc := if 0 < s.fifo.writers then .read else .openingServer s.fifo.writeOpens
    some { s.serverTo pc with fifo := s.fifo.openRead }
  | .openingServer seen => if s.fifo.writeOpens ≠ seen then some (s.serverTo .read) else none
  | .read =>
    let bytes := s.fifo.data.take 64
    if bytes ≠ [] then
      some { s with
        server := { s.server with pc := .scan, buf := s.server.buf.overwrite bytes }
        fifo := s.fifo.drop 64 }
    -- `read` returns 0 and leaves `buf` as it was
    else if s.fifo.writers = 0 then some (s.serverTo .scan)
    else none
  | .scan =>
    let scanned := scanRequest s.server.buf s.server.cpid s.server.pathname
    some { s with
      server := { s.server with pc := .closeServer, cpid := scanned.1, pathname := scanned.2 } }
  | .closeServer => some { s.serverTo .openClient with fifo := s.fifo.closeRead }
  | .openClient =>
    let buf := s.server.clientBuf
    match s.fifos s.server.clientBuf.str with
    | some f =>
      let pc := if 0 < f.readers then .openFile else .openingClient f.readOpens
      some ({ s with server := { s.server with pc := pc, buf := buf, cfd := buf.str } }.setFifo
        buf.str (some f.openWrite))
    | none => some { s with server := { s.server with pc := .exited, buf := buf } }
  | .openingClient seen =>
    match s.fifos s.server.cfd with
    | some f => if f.readOpens ≠ seen then some (s.serverTo .openFile) else none
    | none => none
  | .openFile =>
    match files s.server.pathname with
    | some content => some (s.serverTo (.copy content))
    | none => some (s.serverTo .abort)
  | .copy rest =>
    let chunk := rest.take 64
    let pc := if chunk = [] then .closeClient else .copyWrite chunk.length (rest.drop 64)
    some { s with server := { s.server with pc := pc, buf := s.server.buf.overwrite chunk } }
  | .copyWrite rnum rest =>
    match s.fifos s.server.cfd with
    | some f =>
      if 0 < f.readers then
        some ((s.serverTo (.copy rest)).setFifo s.server.cfd
          (some (f.write (s.server.buf.bytes.take rnum))))
      else some (s.serverTo .abort)
    | none => some (s.serverTo .abort)
  | .closeClient =>
    some ((s.serverTo .unlink).setFifo s.server.cfd ((s.fifos s.server.cfd).map Fifo.closeWrite))
  | .abort =>
    some ((s.serverTo .exited).setFifo s.server.cfd ((s.fifos s.server.cfd).map Fifo.closeWrite))
  | .unlink => some { s.serverTo .exited with linked := false }
  | .exited => none

def step (files : List Char → Option (List Char)) (args : ι → Args) (s : State ι) :
    Act ι → Option (State ι)
  | .client c => s.clientStep args c
  | .server => s.serverStep files

end State

/-- The server has made its FIFO. -/
def start (stack : Stack) : State ι where
  fifo := Fifo.fresh
  linked := true
  fifos := fun _ => none
  client := fun _ => ⟨.mkfifo, []⟩
  server := ⟨.openServer, stack.buf, stack.cpid, stack.pathname, []⟩
  written := []

/-- One `server`, and a `client` for each of `args`. -/
def machine (files : List Char → Option (List Char)) (stack : Stack) (args : ι → Args) :
    Machine (State ι) (Act ι) :=
  ⟨start stack, State.step files args⟩

/-! ### The server as a child of `serverfork` -/

/-- The call of a child that does the same to the client's FIFO. -/
def ServerPc.child : ServerPc → ChildPc
  | .openServer | .openingServer _ | .read | .scan => .scan
  | .closeServer | .openClient => .openClient
  | .openingClient seen => .openingClient seen
  | .openFile => .openFile
  | .copy rest => .copy rest
  | .copyWrite rnum rest => .copyWrite rnum rest
  | .closeClient => .closeClient
  | .abort => .abort
  | .unlink | .exited => .exit

def Server.child (x : Server) : Child := ⟨x.pc.child, x.buf, x.cpid, x.pathname, x.cfd⟩

/-- The server has the server FIFO open. -/
def ServerPc.listens : ServerPc → ℕ
  | .openingServer _ | .read | .scan | .closeServer => 1
  | _ => 0

/-- The server has closed it again. -/
def ServerPc.closed : ServerPc → Bool
  | .openServer | .openingServer _ | .read | .scan | .closeServer => false
  | _ => true

/-- How often the server has opened it. -/
def ServerPc.opens : ServerPc → ℕ
  | .openServer => 0
  | _ => 1

/-- The server has read a request. -/
def ServerPc.taken : ServerPc → Bool
  | .openServer | .openingServer _ | .read => false
  | _ => true

/-- The calls of the server after it has read, seen as calls of the child. -/
inductive ServerCall (files : List Char → Option (List Char)) (s : State ι) : State ι → Prop
  | scan (here : s.server.pc = .scan) :
      ServerCall files s
        { s with server :=
          { s.server with
            pc := .closeServer
            cpid := (scanRequest s.server.buf s.server.cpid s.server.pathname).1
            pathname := (scanRequest s.server.buf s.server.cpid s.server.pathname).2 } }
  | closeServer (here : s.server.pc = .closeServer) :
      ServerCall files s { s.serverTo .openClient with fifo := s.fifo.closeRead }
  | openClient (here : s.server.pc = .openClient) {f : Fifo Char}
      (found : s.fifos s.server.clientBuf.str = some f) :
      ServerCall files s
        ({ s with server :=
          { s.server with
            pc := if 0 < f.readers then .openFile else .openingClient f.readOpens
            buf := s.server.clientBuf
            cfd := s.server.clientBuf.str } }.setFifo s.server.clientBuf.str (some f.openWrite))
  | openClientFails (here : s.server.pc = .openClient)
      (absent : s.fifos s.server.clientBuf.str = none) :
      ServerCall files s
        { s with server := { s.server with pc := .exited, buf := s.server.clientBuf } }
  | openedClient {seen : ℕ} (here : s.server.pc = .openingClient seen) {f : Fifo Char}
      (found : s.fifos s.server.cfd = some f) (opened : f.readOpens ≠ seen) :
      ServerCall files s (s.serverTo .openFile)
  | openFile (here : s.server.pc = .openFile) {content : List Char}
      (readable : files s.server.pathname = some content) :
      ServerCall files s (s.serverTo (.copy content))
  | openFileFails (here : s.server.pc = .openFile) (absent : files s.server.pathname = none) :
      ServerCall files s (s.serverTo .abort)
  | copy {rest : List Char} (here : s.server.pc = .copy rest) :
      ServerCall files s
        { s with server :=
          { s.server with
            pc := if rest.take 64 = [] then .closeClient
              else .copyWrite (rest.take 64).length (rest.drop 64)
            buf := s.server.buf.overwrite (rest.take 64) } }
  | copyWrite {rnum : ℕ} {rest : List Char} (here : s.server.pc = .copyWrite rnum rest)
      {f : Fifo Char} (found : s.fifos s.server.cfd = some f) (reader : 0 < f.readers) :
      ServerCall files s
        ((s.serverTo (.copy rest)).setFifo s.server.cfd
          (some (f.write (s.server.buf.bytes.take rnum))))
  | copyFails {rnum : ℕ} {rest : List Char} (here : s.server.pc = .copyWrite rnum rest)
      (unread : ∀ f, s.fifos s.server.cfd = some f → f.readers = 0) :
      ServerCall files s (s.serverTo .abort)
  | closeClient (here : s.server.pc = .closeClient) :
      ServerCall files s
        ((s.serverTo .unlink).setFifo s.server.cfd ((s.fifos s.server.cfd).map Fifo.closeWrite))
  | abort (here : s.server.pc = .abort) :
      ServerCall files s
        ((s.serverTo .exited).setFifo s.server.cfd ((s.fifos s.server.cfd).map Fifo.closeWrite))
  | unlink (here : s.server.pc = .unlink) :
      ServerCall files s { s.serverTo .exited with linked := false }

/-- **The inversion of the server's step** after the read. -/
theorem server_cases {files : List Char → Option (List Char)} {s s' : State ι}
    (step : s.serverStep files = some s') (taken : s.server.pc.taken = true) :
    ServerCall files s s' := by
  unfold State.serverStep at step
  split at step <;> rename_i here <;> rw [here] at taken
  case h_1 | h_2 | h_3 => cases taken
  case h_4 =>
    cases step
    exact .scan here
  case h_5 =>
    cases step
    exact .closeServer here
  case h_6 =>
    dsimp only at step
    split at step
    · cases step
      exact .openClient here ‹_›
    · cases step
      exact .openClientFails here ‹_›
  case h_7 =>
    split at step
    · split at step
      · cases step
        exact .openedClient here ‹_› ‹_›
      · cases step
    · cases step
  case h_8 =>
    split at step
    · cases step
      exact .openFile here ‹_›
    · cases step
      exact .openFileFails here ‹_›
  case h_9 =>
    cases step
    exact .copy here
  case h_10 =>
    split at step
    · rename_i f name
      split at step
      · cases step
        exact .copyWrite here name ‹_›
      · cases step
        refine .copyFails here fun g found => ?_
        cases name.symm.trans found
        omega
    · rename_i none
      cases step
      refine .copyFails here fun g found => ?_
      cases none.symm.trans found
  case h_11 =>
    cases step
    exact .closeClient here
  case h_12 =>
    cases step
    exact .abort here
  case h_13 =>
    cases step
    exact .unlink here
  case h_14 => cases step

end Unpvol2.Snc.Oneshot
