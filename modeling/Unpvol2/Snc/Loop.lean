/-
**The loop of `servern`, whatever it is sent.**

Here the server is alone: what its calls return is up to the action. A `read` of the server FIFO
returns any 0 to 64 bytes; the client FIFO and the file can be opened or not; a client FIFO has a
reader or not, and without one `write` ends the process (`SIGPIPE`). The string in `buf` may not end
in `buf`, so `sscanf` goes on into what lies behind it (`behind`), and the word it finds there may
not fit into `pathname`: it is written past the end of the array, and nothing is known of the
process from then on (`overflowed`).

* `running_iff` — **in exactly the runs in which no call fails, and every word fits, the server runs
  on**: it does not exit, and does not write past `pathname`.
* `servern_loop` — the server of `Servern`, with its clients and their FIFOs, takes steps of this
  loop.
-/

import Unpvol2.Snc.Step

set_option linter.unusedSectionVars false

namespace Unpvol2.Snc.Loop

open C Interleaving Servern

/-- The call of `servern` the process stands at. -/
inductive Pc
  /-- `open(serverfifo, O_RDONLY)` -/
  | openServer
  /-- `read(sfd, buf, sizeof(buf))`, and the `sscanf` -/
  | read
  /-- `close(sfd)`, and the `snprintf` -/
  | closeServer
  /-- `open(buf, O_WRONLY)` -/
  | openClient
  /-- `open(pathname, O_RDONLY)` -/
  | openFile
  /-- `read(fd, buf, sizeof(buf))`, where `rest` is left of the file -/
  | copy (rest : List Char)
  /-- `write(cfd, buf, rnum)` -/
  | copyWrite (rnum : ℕ) (rest : List Char)
  /-- `close(fd)` and `close(cfd)` -/
  | closeClient
  | exited
  /-- `sscanf` has written past `pathname` -/
  | overflowed
deriving DecidableEq

/-- The variables of the server. -/
structure State where
  pc : Pc
  buf : Buffer 64
  cpid : ℤ
  pathname : List Char
deriving DecidableEq

/-- The next call, and what it returns. -/
inductive Act
  | openServer (opened : Bool)
  | read (bytes behind : List Char)
  | readFails
  | closeServer
  | openClient (opened : Bool)
  | openFile (content : Option (List Char))
  | copy
  | write (reader : Bool)
  | closeClient

namespace State

/-- `sscanf(buf, "%d %s", ...)` when `read` has returned `bytes`: what is assigned. -/
def scanned (s : State) (bytes behind : List Char) : Option ℤ × Option (List Char) :=
  scanIntWord (untilNul ((s.buf.overwrite bytes).bytes ++ behind))

/-- The word that is assigned, if any, fits into `char pathname[64]` with its NUL. -/
def fits (s : State) (bytes behind : List Char) : Bool :=
  ((s.scanned bytes behind).2.getD []).length < 64

/-- What `read` has returned is scanned; a variable that is not assigned keeps its value. -/
def scan (s : State) (bytes behind : List Char) : State where
  pc := if s.fits bytes behind = true then .closeServer else .overflowed
  buf := s.buf.overwrite bytes
  cpid := (s.scanned bytes behind).1.getD s.cpid
  pathname := (s.scanned bytes behind).2.getD s.pathname

/-- What is found in 64 bytes fits. -/
theorem fits_of_length {s : State} {bytes behind text : List Char}
    (scanned : s.scanned bytes behind = scanIntWord text) (short : text.length ≤ 64) :
    s.fits bytes behind = true := by
  unfold fits
  rw [scanned]
  exact decide_eq_true (scanIntWord_length short (by decide))

/-- The name that the next call opens. -/
def opens (s : State) : Option (List Char) :=
  match s.pc with
  | .openClient => some s.buf.str
  | .openFile => some s.pathname
  | _ => none

def step (s : State) (action : Act) : Option State :=
  match s.pc, action with
  | .openServer, .openServer opened =>
    some { s with pc := if opened = true then .read else .exited }
  | .read, .read bytes behind => if bytes.length ≤ 64 then some (s.scan bytes behind) else none
  | .read, .readFails => some { s with pc := .exited }
  | .closeServer, .closeServer =>
    some { s with pc := .openClient, buf := clientFifoBuf s.buf s.cpid }
  | .openClient, .openClient opened =>
    some { s with pc := if opened = true then .openFile else .exited }
  | .openFile, .openFile (some content) => some { s with pc := .copy content }
  | .openFile, .openFile none => some { s with pc := .exited }
  | .copy rest, .copy =>
    let chunk := rest.take 64
    let pc := if chunk = [] then .closeClient else .copyWrite chunk.length (rest.drop 64)
    some { s with pc := pc, buf := s.buf.overwrite chunk }
  | .copyWrite _ rest, .write reader =>
    some { s with pc := if reader = true then .copy rest else .exited }
  | .closeClient, .closeClient => some { s with pc := .openServer }
  | _, _ => none

end State

/-- The server has made its FIFO. -/
def start (stack : Stack) : State := ⟨.openServer, stack.buf, stack.cpid, stack.pathname⟩

/-- The loop, from what is on the stack. -/
def machine (stack : Stack) : Machine State Act := ⟨start stack, State.step⟩

/-! ### When the server exits -/

/-- The server has not exited, and has not written past `pathname`. -/
def Running (s : State) : Prop := s.pc ≠ .exited ∧ s.pc ≠ .overflowed

instance : DecidablePred Running := fun _ => inferInstanceAs (Decidable (_ ∧ _))

/-- The call does not fail: the FIFOs and the file are opened, the request is read and its word fits
into `pathname`, and the client FIFO has a reader. -/
def Succeeds (s : State) (action : Act) : Prop :=
  match s.pc, action with
  | .openServer, .openServer opened => opened = true
  | .read, .read bytes behind => bytes.length ≤ 64 → s.fits bytes behind = true
  | .read, .readFails => False
  | .openClient, .openClient opened => opened = true
  | .openFile, .openFile content => content ≠ none
  | .copyWrite _ _, .write reader => reader = true
  | _, _ => True

/-- **A step ends the loop exactly if its call fails.** -/
theorem running_step_iff {s : State} {action : Act} :
    (∀ s' ∈ s.step action, Running s') ↔ Succeeds s action := by
  obtain ⟨pc, buf, cpid, pathname⟩ := s
  unfold State.step Succeeds Running
  cases pc <;> cases action <;> simp [State.scan]
  case openServer.openServer opened => cases opened <;> simp
  case read.read bytes behind =>
    cases State.fits ⟨.read, buf, cpid, pathname⟩ bytes behind <;> simp
  case openClient.openClient opened => cases opened <;> simp
  case openFile content => cases content <;> simp
  case copy => split <;> simp
  case copyWrite.write reader => cases reader <;> simp

/-- **The server runs on in exactly the runs in which no call fails and every word fits.** -/
theorem running_iff (stack : Stack) (actions : List Act) :
    (machine stack).Along Running (start stack) actions ↔
      (machine stack).Admitted Succeeds (start stack) actions := by
  have any := Machine.admitted_anything (M := machine stack) (start stack) actions
  refine Machine.along_iff_admitted (fun s reachable => ?_)
    (fun s action _ _ running => running_step_iff.mp running) any
  refine reachable.induct (I := Running) ?_ ?_
  · constructor <;> intro ended <;> cases ended
  · intro s action s' _ _ admitted step
    exact running_step_iff.mpr admitted.2 s' step

/-- The calls on the server FIFO succeed. -/
def Listens (_ : State) : Act → Prop
  | .openServer opened => opened = true
  | .readFails => False
  | _ => True

instance (s : State) : ∀ action, Decidable (Listens s action)
  | .openServer opened => inferInstanceAs (Decidable (opened = true))
  | .readFails => isFalse id
  | .read _ _ | .closeServer | .openClient _ | .openFile _ | .copy | .write _ | .closeClient =>
    isTrue trivial

/-- Nothing but NULs. -/
def blankStack : Stack := ⟨⟨List.replicate 64 nul, by decide⟩, 0, []⟩

/-- A live client asks for a file that cannot be opened. -/
def noSuchFile : List Act :=
  [.openServer true, .read ("7 a".toList ++ [nul]) [], .closeServer, .openClient true,
    .openFile none]

/-- **One bad request stops the server**: it exits when the file cannot be opened. -/
theorem stops_at_noSuchFile : ¬ ∀ (stack : Stack) (s : State),
    (machine stack).Reachable Listens s → Running s := by
  intro running
  have reachable : (machine blankStack).Reachable Listens ((machine blankStack).after noSuchFile) :=
    Machine.reachable_after (by decide) (by decide)
  exact absurd (running blankStack _ reachable) (by decide)

/-! ### The server among its clients -/

/-- The call the loop stands at. -/
def pcOf : ServerPc → Pc
  | .openServer | .openingServer _ => .openServer
  | .read => .read
  | .closeServer => .closeServer
  | .openClient | .openingClient _ => .openClient
  | .openFile => .openFile
  | .copy rest => .copy rest
  | .copyWrite rnum rest => .copyWrite rnum rest
  | .closeClient => .closeClient
  | .exit | .exited => .exited

/-- The variables of the loop. -/
def loopOf (x : Server) : State :=
  ⟨pcOf x.pc, if x.pc = .openClient then x.clientBuf else x.buf, x.cpid, x.pathname⟩

section Servern

variable {ι : Type} [DecidableEq ι] {files : List Char → Option (List Char)} {args : ι → Args}
  {s s' : Servern.State ι}

theorem loop_client {c : ι} (step : ClientStep args s c s') :
    loopOf s'.server = loopOf s.server := by
  cases step <;> rfl

theorem loopOf_openClient {x : Server} (here : x.pc = .openClient) :
    loopOf x = ⟨.openClient, x.clientBuf, x.cpid, x.pathname⟩ := by
  unfold loopOf
  rw [here, if_pos rfl]
  rfl

/-- The scan of a whole buffer: what is found in 64 bytes fits. -/
theorem scan_eq {buf new : Buffer 64} {cpid : ℤ} {pathname bytes : List Char}
    (read : buf.overwrite bytes = new) :
    State.scan ⟨.read, buf, cpid, pathname⟩ bytes [] =
      ⟨.closeServer, new, (scanRequest new cpid pathname).1,
        (scanRequest new cpid pathname).2⟩ := by
  have scanned : State.scanned ⟨.read, buf, cpid, pathname⟩ bytes [] = scanIntWord new.str := by
    unfold State.scanned Buffer.str
    rw [read, List.append_nil]
  have fits := State.fits_of_length scanned new.length_str_le
  unfold State.scan
  rw [fits, scanned, read]
  rfl

/-- **A step of the server is a step of the loop**, or it waits inside a call. -/
theorem loop_server (step : ServerStep files s s') : loopOf s'.server = loopOf s.server ∨
    ∃ action, (loopOf s.server).step action = some (loopOf s'.server) := by
  have loop : ∀ {pc : ServerPc}, s.server.pc = pc → pc ≠ .openClient →
      loopOf s.server = ⟨pcOf pc, s.server.buf, s.server.cpid, s.server.pathname⟩ := by
    intro pc here other
    unfold loopOf
    rw [here, if_neg other]
  cases step with
  | openServer here =>
    rw [loop here nofun]
    by_cases writer : 0 < s.fifo.writers
    · refine Or.inr ⟨.openServer true, ?_⟩
      simp [State.step, State.serverTo, loopOf, pcOf, writer]
    · refine Or.inl ?_
      simp [State.serverTo, loopOf, pcOf, writer]
  | openedServer here =>
    rw [loop here nofun]
    exact Or.inr ⟨.openServer true, rfl⟩
  | read here =>
    rename_i request _ _
    rw [loop here nofun]
    refine Or.inr ⟨.read request.bytes [], ?_⟩
    show (if request.bytes.length ≤ 64 then _ else none) = _
    rw [if_pos (Nat.le_of_eq request.length_eq)]
    exact congrArg some (scan_eq (Buffer.overwrite_full _ _))
  | ended here =>
    rw [loop here nofun]
    exact Or.inr ⟨.read [] [], congrArg some (scan_eq (Buffer.overwrite_nil _))⟩
  | closeServer here =>
    rw [loop here nofun]
    exact Or.inr ⟨.closeServer, rfl⟩
  | openClient here =>
    rename_i f _
    rw [loopOf_openClient here]
    by_cases reader : 0 < f.readers
    · refine Or.inr ⟨.openClient true, ?_⟩
      simp [State.step, State.setFifo, loopOf, pcOf, reader]
    · refine Or.inl ?_
      simp [State.setFifo, loopOf, pcOf, reader]
  | openClientFails here =>
    rw [loopOf_openClient here]
    exact Or.inr ⟨.openClient false, rfl⟩
  | openedClient here =>
    rw [loop here nofun]
    exact Or.inr ⟨.openClient true, rfl⟩
  | openFile here =>
    rename_i content _
    rw [loop here nofun]
    exact Or.inr ⟨.openFile (some content), rfl⟩
  | openFileFails here =>
    rw [loop here nofun]
    exact Or.inr ⟨.openFile none, rfl⟩
  | copy here =>
    rename_i rest
    rw [loop here nofun]
    refine Or.inr ⟨.copy, ?_⟩
    by_cases last : rest.take 64 = []
    · simp [State.step, loopOf, pcOf, last]
    · simp [State.step, loopOf, pcOf, last]
  | copyWrite here =>
    rw [loop here nofun]
    exact Or.inr ⟨.write true, rfl⟩
  | copyFails here =>
    rw [loop here nofun]
    exact Or.inr ⟨.write false, rfl⟩
  | closeClient here =>
    rw [loop here nofun]
    exact Or.inr ⟨.closeClient, rfl⟩
  | exit here =>
    rw [loop here nofun]
    exact Or.inl rfl

/-- **The server of `Servern` is this loop.** -/
theorem servern_loop {stack : Stack}
    (reachable : (Servern.machine files stack args).Reachable Anything s) :
    (machine stack).Reachable Anything (loopOf s.server) := by
  refine Machine.Reachable.simulate (N := machine stack) (fun s : Servern.State ι =>
    loopOf s.server) rfl ?_ reachable
  intro s action s' _ _ step
  cases action with
  | client c => exact Or.inl (loop_client (client_cases step))
  | server =>
    rcases loop_server (server_cases step) with same | ⟨action, step⟩
    · exact Or.inl same
    · exact Or.inr ⟨action, trivial, step⟩

end Servern

end Unpvol2.Snc.Loop
