/-
**`servern` and its clients.**

A client makes its own FIFO, writes its request to the server FIFO, and reads its own FIFO up to the
end of file. The server opens the server FIFO, reads one request, closes the FIFO again, writes the
file to the client's FIFO, and starts over.

One step of a process is one call. An `open` is two: the process arrives, and gets on when the other
side is there (see `Fifo`). A request is one item of the server FIFO, since 64 bytes are written and
read as a whole; a client FIFO is a FIFO of bytes, under its name. `files` is what can be opened for
reading. A write to a client FIFO without a reader is the end of the server (`SIGPIPE`), the failed
write of a client takes it to its `exit(-1)`.

`served` is read by no code: it is the requests the server has finished.
-/

import Mathlib.Logic.Function.Basic
import Unpvol2.Lib.Fifo
import Unpvol2.Lib.Machine
import Unpvol2.Snc.Codec

namespace Unpvol2.Snc.Servern

open C Interleaving

/-! ### The processes -/

/-- The call of `client` a process stands at. -/
inductive ClientPc
  /-- `mkfifo(clientfifo, ...)` -/
  | mkfifo
  /-- `open(serverfifo, O_WRONLY)` -/
  | openServer
  /-- inside, when the server FIFO had been opened `seen` times for reading -/
  | openingServer (seen : ℕ)
  /-- `write(sfd, buf, sizeof(buf))` -/
  | write
  /-- `exit(-1)` -/
  | exit
  | aborted
  /-- `close(sfd)` -/
  | closeServer
  /-- `open(clientfifo, O_RDONLY)` -/
  | openClient
  /-- inside, when the FIFO had been opened `seen` times for writing -/
  | openingClient (seen : ℕ)
  /-- `read(cfd, buf, sizeof(buf))` -/
  | read
  /-- `close(cfd)` -/
  | closeClient
  /-- `unlink(clientfifo)` -/
  | unlink
  | exited
deriving DecidableEq

/-- The call of `servern` the process stands at. -/
inductive ServerPc
  /-- `open(serverfifo, O_RDONLY)` -/
  | openServer
  /-- inside, when the server FIFO had been opened `seen` times for writing -/
  | openingServer (seen : ℕ)
  /-- `read(sfd, buf, sizeof(buf))`, and the `sscanf` -/
  | read
  /-- `close(sfd)` -/
  | closeServer
  /-- the `snprintf`, and `open(buf, O_WRONLY)` -/
  | openClient
  /-- inside, when the FIFO had been opened `seen` times for reading -/
  | openingClient (seen : ℕ)
  /-- `open(pathname, O_RDONLY)` -/
  | openFile
  /-- `read(fd, buf, sizeof(buf))`, where `rest` is left of the file -/
  | copy (rest : List Char)
  /-- `write(cfd, buf, rnum)` -/
  | copyWrite (rnum : ℕ) (rest : List Char)
  /-- `close(fd)` and `close(cfd)` -/
  | closeClient
  /-- `exit(-1)`, or `SIGPIPE`, with the client FIFO open -/
  | exit
  | exited
deriving DecidableEq

/-- A client, and what it has written to its standard output. -/
structure Client where
  pc : ClientPc
  output : List Char

/-- The server: its variables, and the name `cfd` was opened under. -/
structure Server where
  pc : ServerPc
  buf : Buffer 64
  cpid : ℤ
  pathname : List Char
  cfd : List Char

/-- `buf` with the name of the FIFO of the client `cpid`. -/
def Server.clientBuf (x : Server) : Buffer 64 := clientFifoBuf x.buf x.cpid

/-! ### The system -/

/-- The server FIFO, the client FIFOs by their names, the processes, and the requests served. -/
structure State (ι : Type) where
  fifo : Fifo (Buffer 64)
  fifos : List Char → Option (Fifo Char)
  client : ι → Client
  server : Server
  served : List (ℤ × List Char)

/-- Which process moves. -/
inductive Act (ι : Type)
  | client (c : ι)
  | server

variable {ι : Type} [DecidableEq ι]

namespace State

def pc (s : State ι) (c : ι) : ClientPc := (s.client c).pc

/-- Client `c` goes on to `pc`. -/
def clientTo (s : State ι) (c : ι) (pc : ClientPc) : State ι :=
  { s with client := Function.update s.client c { s.client c with pc := pc } }

/-- Client `c` writes to its standard output. -/
def print (s : State ι) (c : ι) (bytes : List Char) : State ι :=
  { s with client :=
      Function.update s.client c { s.client c with output := (s.client c).output ++ bytes } }

/-- The server goes on to `pc`. -/
def serverTo (s : State ι) (pc : ServerPc) : State ι :=
  { s with server := { s.server with pc := pc } }

/-- What a client FIFO is becomes `f`. -/
def setFifo (s : State ι) (name : List Char) (f : Option (Fifo Char)) : State ι :=
  { s with fifos := Function.update s.fifos name f }

/-- The FIFO of client `c`. -/
def own (s : State ι) (args : ι → Args) (c : ι) : Option (Fifo Char) :=
  s.fifos (clientFifo (args c).pid)

def setOwn (s : State ι) (args : ι → Args) (c : ι) (f : Option (Fifo Char)) : State ι :=
  s.setFifo (clientFifo (args c).pid) f

/-- The next call of client `c`. -/
def clientStep (args : ι → Args) (s : State ι) (c : ι) : Option (State ι) :=
  match s.pc c with
  | .mkfifo =>
    match s.own args c with
    | none => some ((s.clientTo c .openServer).setOwn args c (some Fifo.fresh))
    | some _ => some (s.clientTo c .openServer)
  | .openServer =>
    let pc := if 0 < s.fifo.readers then .write else .openingServer s.fifo.readOpens
    some { s.clientTo c pc with fifo := s.fifo.openWrite }
  | .openingServer seen => if s.fifo.readOpens ≠ seen then some (s.clientTo c .write) else none
  | .write =>
    if 0 < s.fifo.readers then
      some { s.clientTo c .closeServer with fifo := s.fifo.write [(args c).request] }
    else some (s.clientTo c .exit)
  | .exit => some { s.clientTo c .aborted with fifo := s.fifo.closeWrite }
  | .aborted => none
  | .closeServer => some { s.clientTo c .openClient with fifo := s.fifo.closeWrite }
  | .openClient =>
    match s.own args c with
    | some f =>
      let pc := if 0 < f.writers then .read else .openingClient f.writeOpens
      some ((s.clientTo c pc).setOwn args c (some f.openRead))
    -- `open` fails, and so do the calls on the descriptor
    | none => some (s.clientTo c .unlink)
  | .openingClient seen =>
    match s.own args c with
    | some f => if f.writeOpens ≠ seen then some (s.clientTo c .read) else none
    | none => none
  | .read =>
    match s.own args c with
    | some f =>
      if f.data ≠ [] then
        some ((s.print c (f.data.take 64)).setOwn args c (some (f.drop 64)))
      else if f.writers = 0 then some (s.clientTo c .closeClient)
      else none
    | none => none
  | .closeClient =>
    match s.own args c with
    | some f => some ((s.clientTo c .unlink).setOwn args c (some f.closeRead))
    | none => none
  | .unlink => some ((s.clientTo c .exited).setOwn args c none)
  | .exited => none

/-- The request in `buf` is scanned. -/
def scan (s : State ι) (buf : Buffer 64) : State ι :=
  let scanned := scanRequest buf s.server.cpid s.server.pathname
  { s with server := ⟨.closeServer, buf, scanned.1, scanned.2, s.server.cfd⟩ }

/-- The next call of the server. -/
def serverStep (files : List Char → Option (List Char)) (s : State ι) : Option (State ι) :=
  match s.server.pc with
  | .openServer =>
    let pc := if 0 < s.fifo.writers then .read else .openingServer s.fifo.writeOpens
    some { s.serverTo pc with fifo := s.fifo.openRead }
  | .openingServer seen => if s.fifo.writeOpens ≠ seen then some (s.serverTo .read) else none
  | .read =>
    match s.fifo.data with
    | request :: _ => some { s.scan request with fifo := s.fifo.drop 1 }
    -- `read` returns 0 and leaves `buf` as it was
    | [] => if s.fifo.writers = 0 then some (s.scan s.server.buf) else none
  | .closeServer => some { s.serverTo .openClient with fifo := s.fifo.closeRead }
  | .openClient =>
    let buf := s.server.clientBuf
    match s.fifos s.server.clientBuf.str with
    | some f =>
      let pc := if 0 < f.readers then .openFile else .openingClient f.readOpens
      some ({ s with server := { s.server with pc := pc, buf := buf, cfd := buf.str } }.setFifo
        buf.str (some f.openWrite))
    | none => some { s with server := { s.server with pc := .exited, buf := buf } }
  | .openingClient seen =>
    match s.fifos s.server.cfd with
    | some f => if f.readOpens ≠ seen then some (s.serverTo .openFile) else none
    | none => none
  | .openFile =>
    match files s.server.pathname with
    | some content => some (s.serverTo (.copy content))
    | none => some (s.serverTo .exit)
  | .copy rest =>
    let chunk := rest.take 64
    let pc := if chunk = [] then .closeClient else .copyWrite chunk.length (rest.drop 64)
    some { s with server := { s.server with pc := pc, buf := s.server.buf.overwrite chunk } }
  | .copyWrite rnum rest =>
    match s.fifos s.server.cfd with
    | some f =>
      if 0 < f.readers then
        some ((s.serverTo (.copy rest)).setFifo s.server.cfd
          (some (f.write (s.server.buf.bytes.take rnum))))
      else some (s.serverTo .exit)
    | none => some (s.serverTo .exit)
  | .closeClient =>
    some ({ s.serverTo .openServer with
      served := s.served ++ [(s.server.cpid, s.server.pathname)] }.setFifo
        s.server.cfd ((s.fifos s.server.cfd).map Fifo.closeWrite))
  | .exit =>
    some ((s.serverTo .exited).setFifo s.server.cfd ((s.fifos s.server.cfd).map Fifo.closeWrite))
  | .exited => none

def step (files : List Char → Option (List Char)) (args : ι → Args) (s : State ι) :
    Act ι → Option (State ι)
  | .client c => s.clientStep args c
  | .server => s.serverStep files

end State

/-- What the server finds on its stack. -/
structure Stack where
  buf : Buffer 64
  cpid : ℤ
  pathname : List Char

/-- The server has made its FIFO. -/
def start (stack : Stack) : State ι where
  fifo := Fifo.fresh
  fifos := fun _ => none
  client := fun _ => ⟨.mkfifo, []⟩
  server := ⟨.openServer, stack.buf, stack.cpid, stack.pathname, []⟩
  served := []

/-- One `servern`, and a `client` for each of `args`. -/
def machine (files : List Char → Option (List Char)) (stack : Stack) (args : ι → Args) :
    Machine (State ι) (Act ι) :=
  ⟨start stack, State.step files args⟩

end Unpvol2.Snc.Servern
