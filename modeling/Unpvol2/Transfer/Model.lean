/-
**`spipe` and `sfifo`: a client, a server, and two pipes.**

The client reads a path from its standard input and writes it to the first pipe; the server reads
it there, opens the file and writes its bytes to the second pipe, which the client copies to its
standard output until the end of file. In `spipe` the two are the pipes `p1` and `p2`, and after
the `fork` each process closes the ends it does not use. In `sfifo` they are the FIFOs `f1` and
`f2`, opened for reading and writing before the `fork`, and no process closes an end.

A run starts after the `fork`. One step is a statement of one process, and `n` the number of bytes
it moves: what a `read` returns, a part of what a `write` has to write, 0 for the other statements.
A process that writes to a pipe nobody can read from is killed. `files` is what `open` finds.
-/

import Mathlib.Data.Finset.Insert
import Unpvol2.Lib.Machine
import Unpvol2.Lib.Pipe
import Unpvol2.Lib.Stdio

namespace Unpvol2.Transfer

open C Interleaving

inductive Process
  | client
  | server
deriving DecidableEq

/-- The statement the client stands at. -/
inductive ClientPc
  /-- `close(p1[0])` -/
  | closeRequest
  /-- `close(p2[1])` -/
  | closeReply
  /-- `read(0, buf, 512)` -/
  | read
  /-- `write(2, "reach EOF\n", 10)` -/
  | eof
  /-- `write(p1[1], buf, rnum)` -/
  | request
  /-- `read(p2[0], buf, 512)` -/
  | receive
  /-- `write(1, buf, rnum)` -/
  | print
  | exited
deriving DecidableEq

/-- The statement the server stands at. -/
inductive ServerPc
  /-- `close(p1[1])` -/
  | closeRequest
  /-- `close(p2[0])` -/
  | closeReply
  /-- `read(p1[0], buf, 512)` -/
  | request
  /-- `buf[rnum-1] = '\0'` -/
  | terminate
  /-- `open(buf, O_RDONLY)` -/
  | openFile
  /-- `write(p2[1], "openerror\n", 11)` -/
  | error
  /-- `read(fd, buf, 512)` -/
  | read
  /-- `write(p2[1], buf, rnum)` -/
  | send
  /-- `close(fd)` -/
  | close
  /-- `waitpid(p, NULL, 0)` -/
  | waitpid
  | exited
deriving DecidableEq

structure Client where
  pc : ClientPc
  buf : Buffer 512
  rnum : ℕ
  /-- what the running `write` has still to write -/
  left : List Char

structure Server where
  pc : ServerPc
  buf : Buffer 512
  rnum : ℕ
  /-- what the running `write` has still to write -/
  left : List Char
  /-- the open file -/
  file : List Char
  offset : ℕ

/-- The array after `buf[rnum-1] = '\0'`; with `rnum` 0 the byte before the array is written. -/
def Server.terminated (x : Server) : Buffer 512 :=
  if x.rnum = 0 then x.buf else x.buf.set (x.rnum - 1) nul

/-- What has not been read of the file. -/
def Server.rest (x : Server) : List Char := x.file.drop x.offset

structure State where
  p1 : Pipe Process Char
  p2 : Pipe Process Char
  stdin : List Char
  stdout : List Char
  stderr : List Char
  client : Client
  server : Server

/-- One step, and the bytes it moves. -/
inductive Act
  | client (n : ℕ)
  | server (n : ℕ)

/-- The 11 bytes of `"openerror\n"`. -/
def openerror : List Char := "openerror\n".toList ++ [nul]

namespace State

/-- The client goes on to `pc`. -/
def clientTo (s : State) (pc : ClientPc) : State := { s with client := { s.client with pc := pc } }

/-- The server goes on to `pc`. -/
def serverTo (s : State) (pc : ServerPc) : State := { s with server := { s.server with pc := pc } }

/-- The client has read the bytes, and starts to write them. -/
def clientFill (s : State) (pc : ClientPc) (bytes : List Char) : State :=
  let buf := s.client.buf.overwrite bytes
  { s with client := ⟨pc, buf, bytes.length, buf.bytes.take bytes.length⟩ }

/-- The server has read the bytes from the file, and starts to write them. -/
def serverFill (s : State) (bytes : List Char) : State :=
  let buf := s.server.buf.overwrite bytes
  { s with server := { s.server with
      pc := .send
      buf := buf
      rnum := bytes.length
      left := buf.bytes.take bytes.length
      offset := s.server.offset + bytes.length } }

/-- The client has written `n` bytes more, and goes on to `pc` after the last. -/
def clientWrote (s : State) (n : ℕ) (pc : ClientPc) : State :=
  let left := s.client.left.drop n
  { s with client := { s.client with
      left := left
      pc := if left = [] then pc else s.client.pc } }

/-- The server has written `n` bytes more, and goes on to `pc` after the last. -/
def serverWrote (s : State) (n : ℕ) (pc : ServerPc) : State :=
  let left := s.server.left.drop n
  { s with server := { s.server with
      left := left
      pc := if left = [] then pc else s.server.pc } }

/-- The client ends. -/
def clientExit (s : State) : State :=
  { s.clientTo .exited with p1 := s.p1.leave .client, p2 := s.p2.leave .client }

/-- The server ends. -/
def serverExit (s : State) : State :=
  { s.serverTo .exited with p1 := s.p1.leave .server, p2 := s.p2.leave .server }

/-- The next statement of the client. -/
def clientStep (s : State) (n : ℕ) : Option State :=
  match s.client.pc with
  | .closeRequest =>
    if n = 0 then some { s.clientTo .closeReply with p1 := s.p1.closeRead .client } else none
  | .closeReply =>
    if n = 0 then some { s.clientTo .read with p2 := s.p2.closeWrite .client } else none
  | .read =>
    if s.stdin = [] ∧ n = 0 then some (s.clientTo .eof)
    else if 0 < n ∧ n ≤ 512 ∧ n ≤ s.stdin.length then
      some { s.clientFill .request (s.stdin.take n) with stdin := s.stdin.drop n }
    else none
  | .eof =>
    if n = 0 then some { s.clientExit with stderr := s.stderr ++ "reach EOF\n".toList } else none
  | .request =>
    if s.p1.readers = ∅ then if n = 0 then some s.clientExit else none
    else (s.p1.write s.client.left n).map fun p1 => { s.clientWrote n .receive with p1 := p1 }
  | .receive =>
    (s.p2.read 512 n).map fun (bytes, p2) =>
      if n = 0 then s.clientExit else { s.clientFill .print bytes with p2 := p2 }
  | .print =>
    if 0 < n ∧ n ≤ s.client.left.length then
      some { s.clientWrote n .receive with stdout := s.stdout ++ s.client.left.take n }
    else none
  | .exited => none

/-- `write(p2[1], ...)`; the server goes on to `pc` after the last byte. -/
def serverWrite (s : State) (n : ℕ) (pc : ServerPc) : Option State :=
  if s.p2.readers = ∅ then if n = 0 then some s.serverExit else none
  else (s.p2.write s.server.left n).map fun p2 => { s.serverWrote n pc with p2 := p2 }

/-- The next statement of the server. -/
def serverStep (files : List Char → Option (List Char)) (s : State) (n : ℕ) : Option State :=
  match s.server.pc with
  | .closeRequest =>
    if n = 0 then some { s.serverTo .closeReply with p1 := s.p1.closeWrite .server } else none
  | .closeReply =>
    if n = 0 then some { s.serverTo .request with p2 := s.p2.closeRead .server } else none
  | .request =>
    (s.p1.read 512 n).map fun (bytes, p1) =>
      { s with
        p1 := p1
        server := { s.server with
          pc := .terminate
          buf := s.server.buf.overwrite bytes
          rnum := n } }
  | .terminate =>
    if n = 0 then
      some { s with server := { s.server with pc := .openFile, buf := s.server.terminated } }
    else none
  | .openFile =>
    if n = 0 then
      match files s.server.buf.str with
      | none => some { s with server := { s.server with pc := .error, left := openerror } }
      | some file =>
        some { s with server := { s.server with pc := .read, file := file, offset := 0 } }
    else none
  | .error => s.serverWrite n .waitpid
  | .read =>
    if s.server.rest = [] ∧ n = 0 then some (s.serverTo .close)
    else if 0 < n ∧ n ≤ 512 ∧ n ≤ s.server.rest.length then
      some (s.serverFill (s.server.rest.take n))
    else none
  | .send => s.serverWrite n .read
  | .close => if n = 0 then some (s.serverTo .waitpid) else none
  -- the server has no child, so `waitpid` fails at once
  | .waitpid => if n = 0 then some s.serverExit else none
  | .exited => none

def step (files : List Char → Option (List Char)) (s : State) : Act → Option State
  | .client n => s.clientStep n
  | .server n => s.serverStep files n

end State

/-- After the `fork`: both processes have both ends of both pipes, which hold nothing, and stand at
their first statement. -/
def start (clientPc : ClientPc) (serverPc : ServerPc) (capacity : Process → ℕ)
    (buf : Process → Buffer 512) (line : List Char) : State where
  p1 := ⟨capacity .client, {.client, .server}, {.client, .server}, []⟩
  p2 := ⟨capacity .server, {.client, .server}, {.client, .server}, []⟩
  stdin := line
  stdout := []
  stderr := []
  client := ⟨clientPc, buf .client, 0, []⟩
  server := ⟨serverPc, buf .server, 0, [], [], 0⟩

section Programs

variable (files : List Char → Option (List Char)) (capacity : Process → ℕ)
  (buf : Process → Buffer 512) (line : List Char)

/-- `spipe`; `capacity` is that of the pipe the process writes to. -/
def spipe : Machine State Act :=
  ⟨start .closeRequest .closeRequest capacity buf line, State.step files⟩

/-- `sfifo`; `f1` and `f2` are the two pipes. -/
def sfifo : Machine State Act :=
  ⟨start .read .request capacity buf line, State.step files⟩

/-- The server reads the whole line at once. -/
def Delivered (s : State) : Act → Prop
  | .client _ => True
  | .server n => s.server.pc = .request → n = line.length

instance (s : State) : DecidablePred (Delivered line s)
  | .client _ => isTrue trivial
  | .server _ => inferInstanceAs (Decidable (_ → _))

/-- No process can do anything. -/
def Stuck (s : State) : Prop := ∀ action, s.step files action = none

/-- What the server has to send: the file, or the message. -/
def answer (path : List Char) : List Char := (files path).getD openerror

end Programs

end Unpvol2.Transfer
