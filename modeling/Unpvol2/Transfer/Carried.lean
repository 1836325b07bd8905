/-
**What the client and the server carry over the two pipes.**

Both programs move the request through the first pipe and the answer through the second one. That
this goes right does not depend on who has which ends open besides: the invariant holds in the runs
of `spipe` and of `sfifo` in which the server reads the request at once.

* `Carried` — the bytes that the client has printed and holds, those in the second pipe, and those
  that the server has still to send are the answer; before the server reads the request, the bytes
  in the first pipe and those that the client has still to write are the line.
* `carried_step` — every step keeps it.
-/

import Unpvol2.Transfer.Step

namespace Unpvol2.Transfer

open C Interleaving

/-- The line for a path. -/
def requestLine (path : List Char) : List Char := path ++ ['\n']

theorem length_requestLine (path : List Char) : (requestLine path).length = path.length + 1 := by
  unfold requestLine
  rw [List.length_append]
  rfl

theorem requestLine_ne_nil (path : List Char) : requestLine path ≠ [] := by
  refine List.ne_nil_of_length_pos ?_
  rw [length_requestLine]
  exact Nat.succ_pos _

/-- The client has read the line or a part of it. -/
def ClientPc.asked : ClientPc → Bool
  | .closeRequest | .closeReply | .read => false
  | _ => true

/-- The client has written what it read. -/
def ClientPc.receiving : ClientPc → Bool
  | .receive | .print | .exited => true
  | _ => false

/-- The client is in a `write` of what it has read. -/
def ClientPc.writing : ClientPc → Bool
  | .request | .print => true
  | _ => false

/-- A client that has not read the line is nowhere behind the read. -/
theorem ClientPc.unasked {pc : ClientPc} (asked : pc.asked = false) :
    pc.receiving = false ∧ pc.writing = false ∧ pc ≠ .eof ∧ pc ≠ .exited ∧ pc ≠ .request ∧
      pc ≠ .print := by
  cases pc with
  | closeRequest | closeReply | read => exact ⟨rfl, rfl, nofun, nofun, nofun, nofun⟩
  | eof | request | receive | print | exited => cases asked

/-- The server has not read the request. -/
def ServerPc.early : ServerPc → Bool
  | .closeRequest | .closeReply | .request => true
  | _ => false

/-- The server is in a `write`. -/
def ServerPc.writing : ServerPc → Bool
  | .error | .send => true
  | _ => false

/-- A server in a `write` has not ended. -/
theorem ServerPc.running {pc : ServerPc} (here : pc = .error ∨ pc = .send) : pc ≠ .exited := by
  rcases here with rfl | rfl <;> exact nofun

/-- What the client has still to write of the request. -/
def Client.asking (x : Client) : List Char := if x.pc = .request then x.left else []

/-- What the client has still to print of what it has received. -/
def Client.held (x : Client) : List Char := if x.pc = .print then x.left else []

/-- What the server has still to send, if it sends the answer. -/
def Server.ahead (reply : List Char) (x : Server) : List Char :=
  match x.pc with
  | .closeRequest | .closeReply | .request | .terminate | .openFile => reply
  | .error => x.left
  | .read => x.rest
  | .send => x.left ++ x.rest
  | .close | .waitpid | .exited => []

/-! ### The invariant -/

variable (files : List Char → Option (List Char)) (path : List Char)

structure Carried (s : State) : Prop where
  /-- the client has not found its standard input empty -/
  reads : s.client.pc ≠ .eof
  unread : s.client.pc.asked = false → s.stdin = requestLine path
  taken : s.client.pc.asked = true → s.stdin.length < (requestLine path).length
  clientLeft : s.client.pc.writing = true → s.client.left ≠ []
  /-- the line, in the first pipe and on its way there -/
  asking : s.server.pc.early = true → s.p1.data ++ s.client.asking ++ s.stdin = requestLine path
  asked : s.server.pc.early = false → s.client.pc.receiving = true
  got : s.server.pc = .terminate →
    s.server.rnum = (requestLine path).length ∧
      s.server.buf.bytes.take s.server.rnum = requestLine path
  named : s.server.pc = .openFile → s.server.buf.str = path
  serverLeft : s.server.pc.writing = true → s.server.left ≠ []
  /-- the answer, from the standard output back to the file -/
  flow : s.stdout ++ s.client.held ++ s.p2.data ++ s.server.ahead (answer files path) =
    answer files path
  clientEnd : s.client.pc ≠ .exited → .client ∈ s.p2.readers
  serverEnd : s.server.pc ≠ .exited → .server ∈ s.p1.readers ∧ .server ∈ s.p2.writers
  ended : s.client.pc = .exited → s.server.pc = .exited ∧ s.p2.data = []

variable {files path} {s s' : State}

theorem answer_none (absent : files path = none) : answer files path = openerror := by
  rw [answer, absent]
  rfl

theorem answer_some {file : List Char} (there : files path = some file) :
    answer files path = file := by
  rw [answer, there]
  rfl

/-- The server of a client that has not written its request has not read it. -/
theorem Carried.early (carried : Carried files path s) (before : s.client.pc.receiving = false) :
    s.server.pc.early = true := by
  by_contra late
  have receiving := carried.asked (Bool.eq_false_of_not_eq_true late)
  exact Bool.false_ne_true (before.symm.trans receiving)

/-- The server outlives its client's writes. -/
theorem Carried.running (carried : Carried files path s)
    (before : s.client.pc.receiving = false) : s.server.pc ≠ .exited := by
  intro here
  have early := carried.early before
  rw [here] at early
  cases early

/-- The client that is about to read finds the line. -/
theorem Carried.stdin_ne (carried : Carried files path s) (here : s.client.pc = .read) :
    s.stdin ≠ [] := by
  have unread := carried.unread (by rw [here]; rfl)
  rw [unread]
  exact requestLine_ne_nil path

/-- Somebody can read what the client writes. -/
theorem Carried.p1_readers (carried : Carried files path s) (here : s.client.pc = .request) :
    s.p1.readers ≠ ∅ :=
  Finset.ne_empty_of_mem (carried.serverEnd (carried.running (by rw [here]; rfl))).1

/-- Somebody can read what the server writes. -/
theorem Carried.p2_readers (carried : Carried files path s) (running : s.server.pc ≠ .exited) :
    s.p2.readers ≠ ∅ :=
  Finset.ne_empty_of_mem (carried.clientEnd fun gone => running (carried.ended gone).1)

/-! ### The client -/

/-- After a read the running `write` has the bytes to write that have been read. -/
theorem left_clientFill (s : State) (pc : ClientPc) {bytes : List Char}
    (short : bytes.length ≤ 512) : (s.clientFill pc bytes).client.left = bytes :=
  Buffer.take_overwrite s.client.buf short

section Wrote

variable (s : State) (n : ℕ)

/-- The client is in the same `write`, or behind it. -/
theorem clientWrote_pc {P : ClientPc → Prop} {pc : ClientPc} (last : P pc)
    (more : P s.client.pc) : P (s.clientWrote n pc).client.pc := by
  show P (if s.client.left.drop n = [] then pc else s.client.pc)
  split
  · exact last
  · exact more

/-- What the client has still to write, if it is in a `write`. -/
theorem clientWrote_left {here : ClientPc} (pc : s.client.pc = here) (away : here ≠ .receive) :
    (if (s.clientWrote n .receive).client.pc = here then (s.clientWrote n .receive).client.left
      else []) = s.client.left.drop n := by
  show (if (if s.client.left.drop n = [] then .receive else s.client.pc) = here then
    s.client.left.drop n else []) = s.client.left.drop n
  by_cases last : s.client.left.drop n = []
  · rw [if_pos last, if_neg (Ne.symm away), last]
  · rw [if_neg last, if_pos pc]

/-- The client in a `write` has something to write. -/
theorem clientWrote_more {pc : ClientPc} (away : pc.writing = false) :
    (s.clientWrote n pc).client.pc.writing = true → (s.clientWrote n pc).client.left ≠ [] := by
  show (if s.client.left.drop n = [] then pc else s.client.pc).writing = true →
    s.client.left.drop n ≠ []
  split
  · exact fun writing => absurd (away.symm.trans writing) Bool.false_ne_true
  · exact fun _ => by assumption

end Wrote

/-- The client closes the ends it does not use: the server keeps its own. -/
theorem Carried.clientClose (carried : Carried files path s) {pc : ClientPc}
    {p1 p2 : Pipe Process Char} (before : s.client.pc.asked = false) (after : pc.asked = false)
    (data1 : p1.data = s.p1.data) (data2 : p2.data = s.p2.data)
    (readers1 : .server ∈ s.p1.readers → .server ∈ p1.readers)
    (writers2 : .server ∈ s.p2.writers → .server ∈ p2.writers)
    (readers2 : .client ∈ s.p2.readers → .client ∈ p2.readers) :
    Carried files path { s.clientTo pc with p1 := p1, p2 := p2 } := by
  obtain ⟨receiving, _, _, running, noRequest, noPrint⟩ := ClientPc.unasked before
  obtain ⟨_, idle, noEof, running', noRequest', noPrint'⟩ := ClientPc.unasked after
  have early := carried.early receiving
  refine { carried with
    reads := noEof
    unread := fun _ => carried.unread before
    taken := fun asked => absurd (after.symm.trans asked) Bool.false_ne_true
    clientLeft := fun writing => absurd (idle.symm.trans writing) Bool.false_ne_true
    asking := fun _ => ?_
    asked := fun late => absurd (early.symm.trans late) Bool.false_ne_true.symm
    flow := ?_
    clientEnd := fun _ => readers2 (carried.clientEnd running)
    serverEnd := fun alive =>
      ⟨readers1 (carried.serverEnd alive).1, writers2 (carried.serverEnd alive).2⟩
    ended := fun gone => absurd gone running' }
  · have asking := carried.asking early
    unfold Client.asking at asking ⊢
    rw [if_neg noRequest] at asking
    show p1.data ++ (if pc = .request then _ else []) ++ _ = _
    rw [if_neg noRequest', data1]
    exact asking
  · have flow := carried.flow
    unfold Client.held at flow ⊢
    rw [if_neg noPrint] at flow
    show _ ++ (if pc = .print then _ else []) ++ p2.data ++ _ = _
    rw [if_neg noPrint', data2]
    exact flow

theorem Carried.read (carried : Carried files path s) {n : ℕ} (here : s.client.pc = .read)
    (positive : 0 < n) (short : n ≤ 512) (there : n ≤ s.stdin.length) :
    Carried files path
      { s.clientFill .request (s.stdin.take n) with stdin := s.stdin.drop n } := by
  have before : s.client.pc.receiving = false := by
    rw [here]
    rfl
  have stdin := carried.unread (by rw [here]; rfl)
  have length : (s.stdin.take n).length = n := List.length_take_of_le there
  have left : (s.clientFill .request (s.stdin.take n)).client.left = s.stdin.take n :=
    left_clientFill s .request (by omega)
  have early := carried.early before
  have running := carried.running before
  refine { carried with
    reads := nofun
    unread := nofun
    taken := fun _ => ?_
    clientLeft := fun _ => ?_
    asking := fun _ => ?_
    asked := fun late => absurd (early.symm.trans late) Bool.false_ne_true.symm
    flow := ?_
    clientEnd := fun _ => carried.clientEnd (by rw [here]; exact nofun)
    ended := nofun }
  · show (s.stdin.drop n).length < _
    rw [List.length_drop, ← stdin]
    omega
  · show (s.clientFill .request (s.stdin.take n)).client.left ≠ []
    rw [left]
    exact List.ne_nil_of_length_pos (by omega)
  · have asking := carried.asking early
    unfold Client.asking at asking
    rw [here, if_neg nofun, List.append_nil] at asking
    show s.p1.data ++ (s.clientFill .request (s.stdin.take n)).client.left ++ s.stdin.drop n = _
    rw [left, List.append_assoc, List.take_append_drop]
    exact asking
  · have flow := carried.flow
    unfold Client.held at flow ⊢
    rw [here] at flow
    exact flow

theorem Carried.request (carried : Carried files path s) {n : ℕ} {p1 : Pipe Process Char}
    (here : s.client.pc = .request) (moved : s.p1.write s.client.left n = some p1) :
    Carried files path { s.clientWrote n .receive with p1 := p1 } := by
  obtain ⟨data, _⟩ := Pipe.write_some moved
  obtain ⟨_, readers, _⟩ := Pipe.write_ends moved
  have before : s.client.pc.receiving = false := by
    rw [here]
    rfl
  have early := carried.early before
  refine { carried with
    reads := clientWrote_pc s n (P := (· ≠ .eof)) nofun carried.reads
    unread := clientWrote_pc s n (P := fun pc => pc.asked = false → _) nofun carried.unread
    taken := clientWrote_pc s n (P := fun pc => pc.asked = true → _)
      (fun _ => carried.taken (by rw [here]; rfl)) carried.taken
    clientLeft := clientWrote_more s n rfl
    asking := fun _ => ?_
    asked := fun late => absurd (early.symm.trans late) Bool.false_ne_true.symm
    flow := ?_
    clientEnd := fun _ => carried.clientEnd (by rw [here]; exact nofun)
    serverEnd := fun running => ?_
    ended := clientWrote_pc s n (P := fun pc => pc = .exited → _) nofun carried.ended }
  · have asking := carried.asking early
    unfold Client.asking at asking ⊢
    rw [if_pos here] at asking
    show p1.data ++ (if (s.clientWrote n .receive).client.pc = .request then _ else []) ++ _ = _
    rw [clientWrote_left s n here nofun, data, List.append_assoc s.p1.data, List.take_append_drop]
    exact asking
  · have flow := carried.flow
    unfold Client.held at flow ⊢
    rw [here, if_neg nofun] at flow
    have away : (s.clientWrote n .receive).client.pc ≠ .print :=
      clientWrote_pc s n (P := (· ≠ .print)) nofun (by rw [here]; exact nofun)
    show s.stdout ++ (if (s.clientWrote n .receive).client.pc = .print then _ else []) ++ _ ++ _ = _
    rw [if_neg away]
    exact flow
  · show Process.server ∈ p1.readers ∧ _
    rw [readers]
    exact carried.serverEnd running

theorem Carried.receiveEnd (carried : Carried files path s) {bytes : List Char}
    {p2 : Pipe Process Char} (here : s.client.pc = .receive)
    (ended : s.p2.read 512 0 = some (bytes, p2)) : Carried files path s.clientExit := by
  obtain ⟨empty, writers⟩ := Pipe.read_zero ended
  have gone : s.server.pc = .exited := by
    by_contra running
    have member := (carried.serverEnd running).2
    rw [writers] at member
    exact absurd member (Finset.notMem_empty _)
  refine { carried with
    reads := nofun
    unread := nofun
    taken := fun _ => carried.taken (by rw [here]; rfl)
    clientLeft := nofun
    asking := fun early => ?_
    asked := fun _ => rfl
    flow := ?_
    clientEnd := fun running => absurd rfl running
    serverEnd := fun running => absurd gone running
    ended := fun _ => ⟨gone, empty⟩ }
  · have early : s.server.pc.early = true := early
    rw [gone] at early
    cases early
  · have flow := carried.flow
    unfold Client.held at flow ⊢
    rw [here] at flow
    exact flow

theorem Carried.receive (carried : Carried files path s) {n : ℕ} {bytes : List Char}
    {p2 : Pipe Process Char} (here : s.client.pc = .receive) (nonzero : n ≠ 0)
    (moved : s.p2.read 512 n = some (bytes, p2)) :
    Carried files path { s.clientFill .print bytes with p2 := p2 } := by
  obtain ⟨data, length, short⟩ := Pipe.read_some moved
  obtain ⟨_, readers, writers⟩ := Pipe.read_ends moved
  have left : (s.clientFill .print bytes).client.left = bytes :=
    left_clientFill s .print (by omega)
  refine { carried with
    reads := nofun
    unread := nofun
    taken := fun _ => carried.taken (by rw [here]; rfl)
    clientLeft := fun _ => ?_
    asking := fun early => ?_
    asked := fun _ => rfl
    flow := ?_
    clientEnd := fun _ => ?_
    serverEnd := fun running => ?_
    ended := nofun }
  · show (s.clientFill .print bytes).client.left ≠ []
    rw [left]
    exact List.ne_nil_of_length_pos (by omega)
  · have asking := carried.asking early
    unfold Client.asking at asking ⊢
    rw [here] at asking
    exact asking
  · have flow := carried.flow
    unfold Client.held at flow ⊢
    rw [here, if_neg nofun, List.append_nil, data, ← List.append_assoc] at flow
    show s.stdout ++ (s.clientFill .print bytes).client.left ++ p2.data ++ _ = _
    rw [left]
    exact flow
  · show Process.client ∈ p2.readers
    rw [readers]
    exact carried.clientEnd (by rw [here]; exact nofun)
  · show _ ∧ Process.server ∈ p2.writers
    rw [writers]
    exact carried.serverEnd running

theorem Carried.print (carried : Carried files path s) {n : ℕ} (here : s.client.pc = .print) :
    Carried files path
      { s.clientWrote n .receive with stdout := s.stdout ++ s.client.left.take n } := by
  refine { carried with
    reads := clientWrote_pc s n (P := (· ≠ .eof)) nofun carried.reads
    unread := clientWrote_pc s n (P := fun pc => pc.asked = false → _) nofun carried.unread
    taken := clientWrote_pc s n (P := fun pc => pc.asked = true → _)
      (fun _ => carried.taken (by rw [here]; rfl)) carried.taken
    clientLeft := clientWrote_more s n rfl
    asking := fun early => ?_
    asked := fun late => clientWrote_pc s n (P := fun pc => pc.receiving = true) rfl
      (carried.asked late)
    flow := ?_
    clientEnd := fun _ => carried.clientEnd (by rw [here]; exact nofun)
    ended := clientWrote_pc s n (P := fun pc => pc = .exited → _) nofun carried.ended }
  · have asking := carried.asking early
    unfold Client.asking at asking ⊢
    rw [here, if_neg nofun] at asking
    have away : (s.clientWrote n .receive).client.pc ≠ .request :=
      clientWrote_pc s n (P := (· ≠ .request)) nofun (by rw [here]; exact nofun)
    show _ ++ (if (s.clientWrote n .receive).client.pc = .request then _ else []) ++ _ = _
    rw [if_neg away]
    exact asking
  · have flow := carried.flow
    unfold Client.held at flow ⊢
    rw [if_pos here] at flow
    show s.stdout ++ s.client.left.take n ++
      (if (s.clientWrote n .receive).client.pc = .print then _ else []) ++ _ ++ _ = _
    rw [clientWrote_left s n here nofun, List.append_assoc s.stdout, List.take_append_drop]
    exact flow

/-! ### The server -/

/-- The server goes on to a statement that sends what the one before sends, and closes ends that
nobody needs. -/
theorem Carried.serverGoto (carried : Carried files path s) (pc : ServerPc)
    {p1 p2 : Pipe Process Char} (running : s.server.pc ≠ .exited)
    (early : pc.early = s.server.pc.early) (writing : pc.writing = false)
    (got : pc ≠ .terminate) (named : pc ≠ .openFile)
    (ahead : ({ s.server with pc := pc } : Server).ahead (answer files path) =
      s.server.ahead (answer files path))
    (data1 : p1.data = s.p1.data) (data2 : p2.data = s.p2.data)
    (serverEnd : pc ≠ .exited → .server ∈ p1.readers ∧ .server ∈ p2.writers)
    (readers2 : .client ∈ s.p2.readers → .client ∈ p2.readers) :
    Carried files path { s.serverTo pc with p1 := p1, p2 := p2 } := by
  refine { carried with
    asking := fun before => ?_
    asked := fun late => carried.asked (early.symm.trans late)
    got := fun here => absurd here got
    named := fun here => absurd here named
    serverLeft := fun here => absurd (writing.symm.trans here) Bool.false_ne_true
    flow := ?_
    clientEnd := fun alive => readers2 (carried.clientEnd alive)
    serverEnd := serverEnd
    ended := fun gone => absurd (carried.ended gone).1 running }
  · show p1.data ++ _ ++ _ = _
    rw [data1]
    exact carried.asking (early.symm.trans before)
  · show _ ++ _ ++ p2.data ++ ({ s.server with pc := pc } : Server).ahead _ = _
    rw [data2, ahead]
    exact carried.flow

/-- **The request is read at once**: then the client has written all of it. -/
theorem Carried.serverRequest (carried : Carried files path s) {n : ℕ} {bytes : List Char}
    {p1 : Pipe Process Char} (here : s.server.pc = .request)
    (moved : s.p1.read 512 n = some (bytes, p1)) (whole : n = (requestLine path).length) :
    Carried files path
      { s with
        p1 := p1
        server := { s.server with
          pc := .terminate
          buf := s.server.buf.overwrite bytes
          rnum := n } } := by
  obtain ⟨data, length, short⟩ := Pipe.read_some moved
  obtain ⟨_, readers, _⟩ := Pipe.read_ends moved
  have asking := carried.asking (by rw [here]; rfl)
  rw [data] at asking
  have lengths := congrArg List.length asking
  simp only [List.length_append, length, whole] at lengths
  have left : p1.data = [] ∧ s.client.asking = [] ∧ s.stdin = [] :=
    ⟨List.length_eq_zero_iff.mp (by omega), List.length_eq_zero_iff.mp (by omega),
      List.length_eq_zero_iff.mp (by omega)⟩
  obtain ⟨none, wrote, stdin⟩ := left
  rw [none, wrote, stdin, List.append_nil, List.append_nil, List.append_nil] at asking
  refine { carried with
    asking := nofun
    asked := fun _ => ?_
    got := fun _ => ⟨whole, ?_⟩
    named := nofun
    serverLeft := nofun
    flow := ?_
    serverEnd := fun _ => ?_
    ended := fun gone => absurd (here.symm.trans (carried.ended gone).1) nofun }
  · show s.client.pc.receiving = true
    cases pc : s.client.pc with
    | receive | print | exited => rfl
    | closeRequest | closeReply | read =>
      have unread := carried.unread (by rw [pc]; rfl)
      exact absurd (unread.symm.trans stdin) (requestLine_ne_nil path)
    | eof => exact absurd pc carried.reads
    | request =>
      unfold Client.asking at wrote
      rw [if_pos pc] at wrote
      exact absurd wrote (carried.clientLeft (by rw [pc]; rfl))
  · show (s.server.buf.overwrite bytes).bytes.take n = _
    rw [← length, Buffer.take_overwrite s.server.buf (by omega), asking]
  · have flow := carried.flow
    unfold Server.ahead at flow
    rw [here] at flow
    exact flow
  · show Process.server ∈ p1.readers ∧ _
    rw [readers]
    exact carried.serverEnd (by rw [here]; exact nofun)

/-- **The string after the store**, where `read` has returned the bytes. -/
theorem terminated_str {x : Server} {bytes : List Char} (positive : bytes ≠ [])
    (read : x.buf.bytes.take x.rnum = bytes) (length : bytes.length = x.rnum) :
    x.terminated.str = untilNul bytes.dropLast := by
  have nonempty := List.length_pos_iff.mpr positive
  have last : x.rnum - 1 = bytes.dropLast.length := by
    rw [List.length_dropLast, length]
  have all : x.buf.bytes = bytes.dropLast ++ bytes.getLast positive :: x.buf.bytes.drop x.rnum := by
    conv_lhs => rw [← List.take_append_drop x.rnum x.buf.bytes, read,
      ← List.dropLast_append_getLast positive]
    rw [List.append_assoc]
    rfl
  unfold Server.terminated Buffer.str Buffer.set
  rw [if_neg (by omega), last]
  show untilNul (x.buf.bytes.set bytes.dropLast.length nul) = _
  rw [all, List.set_append_right _ nul (Nat.le_refl _), Nat.sub_self]
  exact untilNul_nul _ _

/-- The NUL over the newline ends the path. -/
theorem str_terminated (ended : nul ∉ path) {x : Server} (rnum : x.rnum = (requestLine path).length)
    (bytes : x.buf.bytes.take x.rnum = requestLine path) : x.terminated.str = path := by
  have cut : (requestLine path).dropLast = path := List.dropLast_concat
  rw [terminated_str (requestLine_ne_nil path) bytes rnum.symm, cut, untilNul_eq_self ended]

theorem Carried.terminate (carried : Carried files path s) (ended : nul ∉ path)
    (here : s.server.pc = .terminate) :
    Carried files path
      { s with server := { s.server with pc := .openFile, buf := s.server.terminated } } := by
  obtain ⟨rnum, bytes⟩ := carried.got here
  refine { carried with
    asking := nofun
    asked := fun _ => carried.asked (by rw [here]; rfl)
    got := nofun
    named := fun _ => str_terminated ended rnum bytes
    serverLeft := nofun
    flow := ?_
    serverEnd := fun _ => carried.serverEnd (by rw [here]; exact nofun)
    ended := fun gone => absurd (here.symm.trans (carried.ended gone).1) nofun }
  have flow := carried.flow
  unfold Server.ahead at flow
  rw [here] at flow
  exact flow

/-- The server has opened the file, or not. -/
theorem Carried.opened (carried : Carried files path s) (here : s.server.pc = .openFile)
    {server : Server} (away : server.pc.early = false)
    (pcs : server.pc = .error ∨ server.pc = .read)
    (left : server.pc.writing = true → server.left ≠ [])
    (reply : server.ahead (answer files path) = answer files path) :
    Carried files path { s with server := server } := by
  have flow := carried.flow
  unfold Server.ahead at flow
  rw [here] at flow
  have running : server.pc ≠ .terminate ∧ server.pc ≠ .openFile := by
    rcases pcs with pc | pc <;> rw [pc] <;> exact ⟨nofun, nofun⟩
  refine { carried with
    asking := fun early => absurd (away.symm.trans early) Bool.false_ne_true
    asked := fun _ => carried.asked (by rw [here]; rfl)
    got := fun pc => absurd pc running.1
    named := fun pc => absurd pc running.2
    serverLeft := left
    flow := ?_
    serverEnd := fun _ => carried.serverEnd (by rw [here]; exact nofun)
    ended := fun gone => absurd (here.symm.trans (carried.ended gone).1) nofun }
  show _ ++ _ ++ _ ++ server.ahead (answer files path) = _
  rw [reply]
  exact flow

/-- The server in a `write` is in it still, or behind it. -/
theorem serverWrote_pc (s : State) (n : ℕ) {P : ServerPc → Prop} {pc : ServerPc} (last : P pc)
    (more : P s.server.pc) : P (s.serverWrote n pc).server.pc := by
  show P (if s.server.left.drop n = [] then pc else s.server.pc)
  split
  · exact last
  · exact more

/-- What the server that sends the message has still to send. -/
theorem ahead_error (s : State) (n : ℕ) (reply : List Char) (here : s.server.pc = .error) :
    s.server.ahead reply = s.server.left ++ [] ∧
      (s.serverWrote n .waitpid).server.ahead reply = s.server.left.drop n ++ [] := by
  rw [List.append_nil, List.append_nil]
  constructor
  · unfold Server.ahead
    rw [here]
  · unfold Server.ahead State.serverWrote
    by_cases last : s.server.left.drop n = []
    · simp only [last, if_true]
    · simp only [if_neg last, here]

/-- What the server that sends the file has still to send. -/
theorem ahead_send (s : State) (n : ℕ) (reply : List Char) (here : s.server.pc = .send) :
    s.server.ahead reply = s.server.left ++ s.server.rest ∧
      (s.serverWrote n .read).server.ahead reply = s.server.left.drop n ++ s.server.rest := by
  constructor
  · unfold Server.ahead
    rw [here]
  · unfold Server.ahead State.serverWrote
    by_cases last : s.server.left.drop n = []
    · simp only [last, if_true, List.nil_append]
      rfl
    · simp only [if_neg last, here]
      rfl

/-- **A `write` of the server** moves bytes of what it has to send into the pipe. -/
theorem Carried.write (carried : Carried files path s) {n : ℕ} {p2 : Pipe Process Char}
    {pc : ServerPc} (here : s.server.pc.writing = true)
    (behind : pc = .waitpid ∨ pc = .read)
    {after : List Char} (ahead : s.server.ahead (answer files path) = s.server.left ++ after)
    (wrote : (s.serverWrote n pc).server.ahead (answer files path) = s.server.left.drop n ++ after)
    (moved : s.p2.write s.server.left n = some p2) :
    Carried files path { s.serverWrote n pc with p2 := p2 } := by
  obtain ⟨data, _⟩ := Pipe.write_some moved
  obtain ⟨_, readers, writers⟩ := Pipe.write_ends moved
  have late : s.server.pc.early = false := by
    cases now : s.server.pc <;> rw [now] at here <;> first | rfl | cases here
  have alive : s.server.pc ≠ .exited := fun now => by
    rw [now] at here
    cases here
  obtain ⟨noTerminate, noOpen⟩ : s.server.pc ≠ .terminate ∧ s.server.pc ≠ .openFile := by
    constructor <;> intro now <;> rw [now] at here <;> cases here
  obtain ⟨late', noTerminate', noOpen', silent⟩ :
      pc.early = false ∧ pc ≠ .terminate ∧ pc ≠ .openFile ∧ pc.writing = false := by
    rcases behind with rfl | rfl <;> exact ⟨rfl, nofun, nofun, rfl⟩
  refine { carried with
    asking := fun early => ?_
    asked := fun _ => carried.asked late
    got := fun now =>
      absurd now (serverWrote_pc s n (P := (· ≠ .terminate)) noTerminate' noTerminate)
    named := fun now => absurd now (serverWrote_pc s n (P := (· ≠ .openFile)) noOpen' noOpen)
    serverLeft := ?_
    flow := ?_
    clientEnd := fun running => ?_
    serverEnd := fun _ => ?_
    ended := fun gone => absurd (carried.ended gone).1 alive }
  · exact absurd ((serverWrote_pc s n (P := fun pc => pc.early = false) late' late).symm.trans
      early) Bool.false_ne_true
  · show (if s.server.left.drop n = [] then pc else s.server.pc).writing = true →
      s.server.left.drop n ≠ []
    split
    · exact fun writing => absurd (silent.symm.trans writing) Bool.false_ne_true
    · exact fun _ => by assumption
  · have flow := carried.flow
    show _ ++ _ ++ p2.data ++ (s.serverWrote n pc).server.ahead (answer files path) = _
    rw [data, wrote, ← List.append_assoc _ s.p2.data, List.append_assoc _ (s.server.left.take n),
      ← List.append_assoc (s.server.left.take n), List.take_append_drop, ← ahead]
    exact flow
  · show Process.client ∈ p2.readers
    rw [readers]
    exact carried.clientEnd running
  · show _ ∧ Process.server ∈ p2.writers
    rw [writers]
    exact carried.serverEnd alive

/-- The server has the bytes to send that it has read, and the others in the file. -/
theorem serverFill_text (s : State) {n : ℕ} (short : n ≤ 512) (there : n ≤ s.server.rest.length) :
    (s.serverFill (s.server.rest.take n)).server.left = s.server.rest.take n ∧
      (s.serverFill (s.server.rest.take n)).server.rest = s.server.rest.drop n := by
  have length : (s.server.rest.take n).length = n := List.length_take_of_le there
  refine ⟨Buffer.take_overwrite s.server.buf (by omega), ?_⟩
  show s.server.file.drop (s.server.offset + (s.server.rest.take n).length) = _
  rw [length, Server.rest, List.drop_drop]

/-- The server reads from the file what it sends next. -/
theorem Carried.serverRead (carried : Carried files path s) {n : ℕ} (here : s.server.pc = .read)
    (positive : 0 < n) (short : n ≤ 512) (there : n ≤ s.server.rest.length) :
    Carried files path (s.serverFill (s.server.rest.take n)) := by
  obtain ⟨left, rest⟩ := serverFill_text s short there
  refine { carried with
    asking := nofun
    asked := fun _ => carried.asked (by rw [here]; rfl)
    got := nofun
    named := nofun
    serverLeft := fun _ => ?_
    flow := ?_
    serverEnd := fun _ => carried.serverEnd (by rw [here]; exact nofun)
    ended := fun gone => absurd (here.symm.trans (carried.ended gone).1) nofun }
  · rw [left]
    exact List.ne_nil_of_length_pos (by rw [List.length_take_of_le there]; exact positive)
  · have flow := carried.flow
    unfold Server.ahead at flow
    rw [here] at flow
    show _ ++ _ ++ _ ++ ((s.serverFill (s.server.rest.take n)).server.left ++
      (s.serverFill (s.server.rest.take n)).server.rest) = _
    rw [left, rest, List.take_append_drop]
    exact flow

/-! ### The runs -/

/-- **Every step keeps the bytes together**, if the server reads the request at once. -/
theorem carried_step (ended : nul ∉ path) {action : Act} (carried : Carried files path s)
    (delivered : Delivered (requestLine path) s action) (step : Step files s action s') :
    Carried files path s' := by
  have other : Process.client ≠ .server := nofun
  cases step with
  | closeRequest here =>
    exact carried.clientClose (by rw [here]; rfl) rfl rfl rfl (Finset.mem_erase_of_ne_of_mem nofun)
      id id
  | closeReply here =>
    exact carried.clientClose (by rw [here]; rfl) rfl rfl rfl id
      (Finset.mem_erase_of_ne_of_mem nofun) id
  | readEnd here empty => exact absurd empty (carried.stdin_ne here)
  | read here positive short there => exact carried.read here positive short there
  | eof here => exact absurd here carried.reads
  | requestBroken here broken => exact absurd broken (carried.p1_readers here)
  | request here whole moved => exact carried.request here moved
  | receiveEnd here ended => exact carried.receiveEnd here ended
  | receive here nonzero moved => exact carried.receive here nonzero moved
  | print here positive there => exact carried.print here
  | serverCloseRequest here =>
    have running : s.server.pc ≠ .exited := by rw [here]; exact nofun
    exact carried.serverGoto .closeReply running (by rw [here]; rfl) rfl nofun nofun
      (by unfold Server.ahead; rw [here]) rfl rfl (fun _ => carried.serverEnd running) id
  | serverCloseReply here =>
    have running : s.server.pc ≠ .exited := by rw [here]; exact nofun
    exact carried.serverGoto .request running (by rw [here]; rfl) rfl nofun nofun
      (by unfold Server.ahead; rw [here]) rfl rfl (fun _ => carried.serverEnd running)
      (Finset.mem_erase_of_ne_of_mem other)
  | serverRequest here moved => exact carried.serverRequest here moved (delivered here)
  | terminate here => exact carried.terminate ended here
  | openError here absent =>
    have reply : answer files path = openerror := answer_none (carried.named here ▸ absent)
    exact carried.opened here rfl (Or.inl rfl) (fun _ => List.cons_ne_nil _ _) reply.symm
  | openFile here there =>
    have reply := answer_some (carried.named here ▸ there)
    exact carried.opened here rfl (Or.inr rfl) nofun reply.symm
  | serverBroken here broken => exact absurd broken (carried.p2_readers (ServerPc.running here))
  | error here whole moved =>
    obtain ⟨ahead, wrote⟩ := ahead_error s _ (answer files path) here
    exact carried.write (by rw [here]; rfl) (Or.inl rfl) ahead wrote moved
  | serverReadEnd here ended =>
    have running : s.server.pc ≠ .exited := by rw [here]; exact nofun
    exact carried.serverGoto .close running (by rw [here]; rfl) rfl nofun nofun
      (by unfold Server.ahead; rw [here]; exact ended.symm) rfl rfl
      (fun _ => carried.serverEnd running) id
  | serverRead here positive short there => exact carried.serverRead here positive short there
  | send here whole moved =>
    obtain ⟨ahead, wrote⟩ := ahead_send s _ (answer files path) here
    exact carried.write (by rw [here]; rfl) (Or.inr rfl) ahead wrote moved
  | close here =>
    have running : s.server.pc ≠ .exited := by rw [here]; exact nofun
    exact carried.serverGoto .waitpid running (by rw [here]; rfl) rfl nofun nofun
      (by unfold Server.ahead; rw [here]) rfl rfl (fun _ => carried.serverEnd running) id
  | waitpid here =>
    have running : s.server.pc ≠ .exited := by rw [here]; exact nofun
    exact carried.serverGoto .exited running (by rw [here]; rfl) rfl nofun nofun
      (by unfold Server.ahead; rw [here]) rfl rfl (fun alive => absurd rfl alive)
      (Finset.mem_erase_of_ne_of_mem other)

/-- After the `fork`, the client before its read and the server before its own. -/
theorem carried_start {clientPc : ClientPc} {serverPc : ServerPc} (capacity : Process → ℕ)
    (buf : Process → Buffer 512) (unasked : clientPc.asked = false)
    (early : serverPc.early = true) :
    Carried files path (start clientPc serverPc capacity buf (requestLine path)) := by
  obtain ⟨_, idle, noEof, running, noRequest, noPrint⟩ := ClientPc.unasked unasked
  obtain ⟨noTerminate, noOpen, silent, all⟩ : serverPc ≠ .terminate ∧ serverPc ≠ .openFile ∧
      serverPc.writing = false ∧
      ∀ reply, (⟨serverPc, buf .server, 0, [], [], 0⟩ : Server).ahead reply = reply := by
    cases serverPc with
    | closeRequest | closeReply | request => exact ⟨nofun, nofun, rfl, fun _ => rfl⟩
    | terminate | openFile | error | read | send | close | waitpid | exited => cases early
  exact {
    reads := noEof
    unread := fun _ => rfl
    taken := fun asked => absurd (unasked.symm.trans asked) Bool.false_ne_true
    clientLeft := fun writing => absurd (idle.symm.trans writing) Bool.false_ne_true
    asking := fun _ => by
      show [] ++ (if clientPc = .request then _ else []) ++ requestLine path = _
      rw [if_neg noRequest]
      rfl
    asked := fun late => absurd (early.symm.trans late) Bool.false_ne_true.symm
    got := fun here => absurd here noTerminate
    named := fun here => absurd here noOpen
    serverLeft := fun writing => absurd (silent.symm.trans writing) Bool.false_ne_true
    flow := by
      show [] ++ (if clientPc = .print then _ else []) ++ [] ++ _ = _
      rw [if_neg noPrint]
      exact all _
    clientEnd := fun _ => Finset.mem_insert_self _ _
    serverEnd := fun _ =>
      have member := Finset.mem_insert_of_mem (Finset.mem_singleton_self Process.server)
      ⟨member, member⟩
    ended := fun gone => absurd gone running }

end Unpvol2.Transfer
