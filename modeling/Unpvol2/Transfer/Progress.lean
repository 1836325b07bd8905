/-
**How far the client and the server get.**

* `Waiting` — the server has ended and the client waits for bytes or for the end of file.
* `exists_step` — **short of that, and of the end of both, some process can go on.** If the first
  pipe has room for the request it can do so without reading the request in two parts.
* `weight_lt` — a weight that drops at every step, so no run goes on for ever: a byte weighs less
  the farther it has come.
-/

import Unpvol2.Transfer.Carried

namespace Unpvol2.Transfer

open C Interleaving

variable {files : List Char → Option (List Char)} {path : List Char} {s s' : State} {action : Act}

/-- No step changes the pipes' capacities. -/
theorem capacity_step (step : Step files s action s') :
    s'.p1.capacity = s.p1.capacity ∧ s'.p2.capacity = s.p2.capacity := by
  cases step with
  | request here whole moved => exact ⟨(Pipe.write_ends moved).1, rfl⟩
  | receive here nonzero moved => exact ⟨rfl, (Pipe.read_ends moved).1⟩
  | serverRequest here moved => exact ⟨(Pipe.read_ends moved).1, rfl⟩
  | error here whole moved | send here whole moved =>
    exact ⟨rfl, (Pipe.write_ends moved).1⟩
  | closeRequest | closeReply | readEnd | read | eof | requestBroken | receiveEnd | print
  | serverCloseRequest | serverCloseReply | terminate | openError | openFile | serverBroken
  | serverReadEnd | serverRead | close | waitpid => exact ⟨rfl, rfl⟩

/-! ### Who can go on -/

/-- The client waits, and there is no server any more. -/
structure Waiting (s : State) : Prop where
  client : s.client.pc = .receive
  server : s.server.pc = .exited
  empty : s.p2.data = []
  writers : s.p2.writers ≠ ∅

/-- Both have ended. -/
def Ended (s : State) : Prop := s.client.pc = .exited ∧ s.server.pc = .exited

/-- The client has read the line at once. -/
def Whole (s : State) : Prop := s.client.pc.asked = true → s.stdin = []

/-- What one process can do, without reading a part of the line. -/
def CanStep (files : List Char → Option (List Char)) (path : List Char) (s : State) : Prop :=
  ∃ action s', Step files s action s' ∧
    ((requestLine path).length ≤ s.p1.capacity → Whole s →
      Delivered (requestLine path) s action ∧ Whole s')

/-- A server that has read the request can go on, or the second pipe is full, or it has ended. -/
theorem server_canStep (carried : Carried files path s) (late : s.server.pc.early = false) :
    CanStep files path s ∨ s.p2.capacity ≤ s.p2.data.length ∨ s.server.pc = .exited := by
  have own : ∀ {n : ℕ}, Delivered (requestLine path) s (.server n) := fun here => by
    rw [here] at late
    cases late
  cases here : s.server.pc with
  | closeRequest | closeReply | request =>
    rw [here] at late
    cases late
  | terminate => exact Or.inl ⟨_, _, .terminate here, fun _ whole => ⟨own, whole⟩⟩
  | openFile =>
    cases found : files s.server.buf.str with
    | none => exact Or.inl ⟨_, _, .openError here found, fun _ whole => ⟨own, whole⟩⟩
    | some file => exact Or.inl ⟨_, _, .openFile here found, fun _ whole => ⟨own, whole⟩⟩
  | error =>
    have readers := carried.p2_readers (ServerPc.running (Or.inl here))
    by_cases room : s.p2.data.length < s.p2.capacity
    · have left := carried.serverLeft (by rw [here]; rfl)
      exact Or.inl ⟨_, _, .error here readers (Pipe.exists_write left room),
        fun _ whole => ⟨own, whole⟩⟩
    · exact Or.inr (Or.inl (Nat.le_of_not_lt room))
  | read =>
    by_cases ended : s.server.rest = []
    · exact Or.inl ⟨_, _, .serverReadEnd here ended, fun _ whole => ⟨own, whole⟩⟩
    · exact Or.inl ⟨_, _, .serverRead here Nat.one_pos (by omega) (List.length_pos_iff.mpr ended),
        fun _ whole => ⟨own, whole⟩⟩
  | send =>
    have readers := carried.p2_readers (ServerPc.running (Or.inr here))
    by_cases room : s.p2.data.length < s.p2.capacity
    · have left := carried.serverLeft (by rw [here]; rfl)
      exact Or.inl ⟨_, _, .send here readers (Pipe.exists_write left room),
        fun _ whole => ⟨own, whole⟩⟩
    · exact Or.inr (Or.inl (Nat.le_of_not_lt room))
  | close => exact Or.inl ⟨_, _, .close here, fun _ whole => ⟨own, whole⟩⟩
  | waitpid => exact Or.inl ⟨_, _, .waitpid here, fun _ whole => ⟨own, whole⟩⟩
  | exited => exact Or.inr (Or.inr rfl)

/-- A client that has bytes to read or to print can go on. -/
theorem client_canStep (here : s.client.pc = .receive ∧ s.p2.data ≠ [] ∨ s.client.pc = .print)
    (left : s.client.pc.writing = true → s.client.left ≠ []) : CanStep files path s := by
  rcases here with ⟨here, bytes⟩ | here
  · refine ⟨_, _, .receive here Nat.one_ne_zero (Pipe.exists_read_one bytes (by omega)),
      fun _ whole => ⟨trivial, fun _ => whole ?_⟩⟩
    rw [here]
    rfl
  · have some := List.length_pos_iff.mpr (left (by rw [here]; rfl))
    refine ⟨_, _, .print here Nat.one_pos some, fun _ whole => ⟨trivial, fun _ => whole ?_⟩⟩
    rw [here]
    rfl

/-- **The request gets to the server**: while the server has not read it, some process can go on. -/
theorem early_canStep (carried : Carried files path s) (short : path.length < 512)
    (room : 0 < s.p1.capacity) (early : s.server.pc.early = true) : CanStep files path s := by
  have length := length_requestLine path
  cases server : s.server.pc with
  | closeRequest =>
    have other : s.server.pc ≠ .request := by rw [server]; exact nofun
    exact ⟨_, _, .serverCloseRequest server, fun _ whole => ⟨fun here => absurd here other, whole⟩⟩
  | closeReply =>
    have other : s.server.pc ≠ .request := by rw [server]; exact nofun
    exact ⟨_, _, .serverCloseReply server, fun _ whole => ⟨fun here => absurd here other, whole⟩⟩
  | request =>
    have asking := carried.asking early
    cases here : s.client.pc with
    | closeRequest =>
      exact ⟨_, _, .closeRequest here, fun _ _ => ⟨trivial, nofun⟩⟩
    | closeReply => exact ⟨_, _, .closeReply here, fun _ _ => ⟨trivial, nofun⟩⟩
    | read =>
      have stdin := carried.unread (by rw [here]; rfl)
      have all : s.stdin.length = path.length + 1 := by rw [stdin, length]
      refine ⟨_, _, .read here (show 0 < s.stdin.length by omega) (by omega) (Nat.le_refl _),
        fun _ _ => ⟨trivial, fun _ => ?_⟩⟩
      exact List.drop_length
    | eof => exact absurd here carried.reads
    | request =>
      have readers := carried.p1_readers here
      have left := carried.clientLeft (by rw [here]; rfl)
      unfold Client.asking at asking
      rw [if_pos here] at asking
      have lengths := congrArg List.length asking
      have some := List.length_pos_iff.mpr left
      simp only [List.length_append] at lengths
      by_cases fits : s.p1.data.length < s.p1.capacity
      · refine ⟨_, _, .request here readers (Pipe.exists_write left fits), fun _ whole =>
          ⟨trivial, fun _ => whole ?_⟩⟩
        rw [here]
        rfl
      · have bytes : s.p1.data ≠ [] := List.ne_nil_of_length_pos (by omega)
        exact ⟨_, _, .serverRequest server (Pipe.exists_read_one bytes (by omega)),
          fun roomy _ => absurd roomy (by omega)⟩
    | receive | print | exited =>
      have none : s.client.asking = [] := by
        unfold Client.asking
        rw [here, if_neg nofun]
      rw [none, List.append_nil] at asking
      have taken := carried.taken (by rw [here]; rfl)
      have lengths := congrArg List.length asking
      rw [List.length_append] at lengths
      have bytes : s.p1.data ≠ [] := List.ne_nil_of_length_pos (by omega)
      refine ⟨_, _, .serverRequest server (Pipe.exists_read bytes (by omega)), fun _ whole =>
        ⟨fun _ => ?_, whole⟩⟩
      have stdin := whole (by rw [here]; rfl)
      rw [stdin, List.append_nil] at asking
      rw [asking]
  | terminate | openFile | error | read | send | close | waitpid | exited =>
    rw [server] at early
    cases early

/-- **Some process can go on** until both have ended, or only the client waits. -/
theorem exists_step (carried : Carried files path s) (short : path.length < 512)
    (room1 : 0 < s.p1.capacity) (room2 : 0 < s.p2.capacity) :
    CanStep files path s ∨ Waiting s ∨ Ended s := by
  by_cases early : s.server.pc.early = true
  · exact Or.inl (early_canStep carried short room1 early)
  have late := Bool.eq_false_of_not_eq_true early
  have receiving := carried.asked late
  rcases server_canStep carried late with goes | full | gone
  · exact Or.inl goes
  · have bytes : s.p2.data ≠ [] := List.ne_nil_of_length_pos (by omega)
    cases here : s.client.pc with
    | receive => exact Or.inl (client_canStep (Or.inl ⟨here, bytes⟩) carried.clientLeft)
    | print => exact Or.inl (client_canStep (Or.inr here) carried.clientLeft)
    | exited => exact absurd (carried.ended here).2 bytes
    | closeRequest | closeReply | read | eof | request =>
      rw [here] at receiving
      cases receiving
  · cases here : s.client.pc with
    | receive =>
      by_cases empty : s.p2.data = []
      · by_cases writers : s.p2.writers = ∅
        · refine Or.inl ⟨_, _, .receiveEnd here (Pipe.read_atEnd empty writers), fun _ whole =>
            ⟨trivial, fun _ => whole ?_⟩⟩
          rw [here]
          rfl
        · exact Or.inr (Or.inl ⟨here, gone, empty, writers⟩)
      · exact Or.inl (client_canStep (Or.inl ⟨here, empty⟩) carried.clientLeft)
    | print => exact Or.inl (client_canStep (Or.inr here) carried.clientLeft)
    | exited => exact Or.inr (Or.inr ⟨here, gone⟩)
    | closeRequest | closeReply | read | eof | request =>
      rw [here] at receiving
      cases receiving

/-- Nothing happens where the client waits. -/
theorem stuck_of_waiting (waiting : Waiting s) : Stuck files s := by
  obtain ⟨client, server, empty, writers⟩ := waiting
  intro action
  by_contra moves
  obtain ⟨s', step⟩ := Option.ne_none_iff_exists'.mp moves
  cases step_iff.mp step with
  | closeRequest here | closeReply here | readEnd here | read here | eof here
  | requestBroken here | request here | print here => exact nomatch client.symm.trans here
  | receiveEnd here ended => exact writers (Pipe.read_zero ended).2
  | receive here nonzero moved =>
    obtain ⟨data, length, _⟩ := Pipe.read_some moved
    rw [empty] at data
    rw [(List.append_eq_nil_iff.mp data.symm).1] at length
    exact nonzero length.symm
  | serverCloseRequest here | serverCloseReply here | serverRequest here | terminate here
  | openError here | openFile here | error here | serverReadEnd here | serverRead here
  | send here | close here | waitpid here => exact nomatch server.symm.trans here
  | serverBroken here =>
    rcases here with here | here <;> exact nomatch server.symm.trans here

/-- Nothing happens after the end. -/
theorem stuck_of_ended (ended : Ended s) : Stuck files s := by
  obtain ⟨client, server⟩ := ended
  intro action
  by_contra moves
  obtain ⟨s', step⟩ := Option.ne_none_iff_exists'.mp moves
  cases step_iff.mp step with
  | closeRequest here | closeReply here | readEnd here | read here | eof here
  | requestBroken here | request here | receiveEnd here | receive here | print here =>
    exact nomatch client.symm.trans here
  | serverCloseRequest here | serverCloseReply here | serverRequest here | terminate here
  | openError here | openFile here | error here | serverReadEnd here | serverRead here
  | send here | close here | waitpid here => exact nomatch server.symm.trans here
  | serverBroken here =>
    rcases here with here | here <;> exact nomatch server.symm.trans here

/-- **A state in which nothing can happen** is one where the client waits, or the end. -/
theorem stuck_cases (carried : Carried files path s) (short : path.length < 512)
    (room1 : 0 < s.p1.capacity) (room2 : 0 < s.p2.capacity) (stuck : Stuck files s) :
    Waiting s ∨ Ended s := by
  refine (exists_step carried short room1 room2).resolve_left ?_
  rintro ⟨action, s', step, _⟩
  exact nomatch (stuck action).symm.trans (step_iff.mpr step)

/-- There the client has printed all of the answer. -/
theorem stdout_of_waiting (carried : Carried files path s) (final : Waiting s ∨ Ended s) :
    s.stdout = answer files path := by
  have flow := carried.flow
  unfold Client.held Server.ahead at flow
  rcases final with ⟨client, server, empty, _⟩ | ⟨client, server⟩
  · rw [client, server, empty, if_neg nofun, List.append_nil, List.append_nil, List.append_nil]
      at flow
    exact flow
  · rw [client, server, (carried.ended client).2, if_neg nofun, List.append_nil, List.append_nil,
      List.append_nil] at flow
    exact flow

/-! ### The weight -/

/-- The statements a client has before it. -/
def ClientPc.weight : ClientPc → ℕ
  | .closeRequest => 6
  | .closeReply => 5
  | .read => 4
  | .eof | .request => 3
  | .receive | .print => 2
  | .exited => 0

/-- The statements a server has before it. -/
def ServerPc.weight : ServerPc → ℕ
  | .closeRequest => 9
  | .closeReply => 8
  | .request => 7
  | .terminate => 6
  | .openFile => 5
  | .error | .read | .send => 4
  | .close => 3
  | .waitpid => 2
  | .exited => 0

/-- The bytes of the answer that are not in the second pipe. -/
def Server.weight (reply : List Char) (x : Server) : ℕ :=
  match x.pc with
  | .closeRequest | .closeReply | .request | .terminate | .openFile => 4 * reply.length
  | .error => 3 * x.left.length
  | .read => 4 * x.rest.length
  | .send => 3 * x.left.length + 4 * x.rest.length
  | .close | .waitpid | .exited => 0

def State.weight (reply : List Char) (s : State) : ℕ :=
  s.client.pc.weight + s.server.pc.weight +
    (3 * s.stdin.length + 2 * s.client.asking.length + s.p1.data.length) +
    (s.server.weight reply + 2 * s.p2.data.length + s.client.held.length)

section Drops

variable (reply : List Char)

/-- The client that writes the request moves bytes into the first pipe. -/
theorem weight_request {n : ℕ} {p1 : Pipe Process Char} (here : s.client.pc = .request)
    (moved : s.p1.write s.client.left n = some p1) :
    ({ s.clientWrote n .receive with p1 := p1 } : State).weight reply < s.weight reply := by
  obtain ⟨data, positive, there⟩ := Pipe.write_some moved
  have away : (s.clientWrote n .receive).client.pc ≠ .print :=
    clientWrote_pc s n (P := (· ≠ .print)) nofun (by rw [here]; exact nofun)
  have pc : (s.clientWrote n .receive).client.pc.weight ≤ s.client.pc.weight :=
    clientWrote_pc s n (P := fun pc => pc.weight ≤ s.client.pc.weight) (by rw [here]; decide)
      (Nat.le_refl _)
  have asking : (s.clientWrote n .receive).client.asking = s.client.left.drop n :=
    clientWrote_left s n here nofun
  have held : (s.clientWrote n .receive).client.held = [] := if_neg away
  have before : s.client.asking = s.client.left := if_pos here
  have nothing : s.client.held = [] := if_neg (by rw [here]; exact nofun)
  show (s.clientWrote n .receive).client.pc.weight + s.server.pc.weight +
    (3 * s.stdin.length + 2 * (s.clientWrote n .receive).client.asking.length + p1.data.length) +
    (s.server.weight reply + 2 * s.p2.data.length +
      (s.clientWrote n .receive).client.held.length) < _
  unfold State.weight
  rw [asking, held, before, nothing, data, List.length_append, List.length_drop,
    List.length_take_of_le there]
  omega

/-- The client that prints has fewer bytes to print. -/
theorem weight_print {n : ℕ} (here : s.client.pc = .print) (positive : 0 < n)
    (there : n ≤ s.client.left.length) :
    ({ s.clientWrote n .receive with
        stdout := s.stdout ++ s.client.left.take n } : State).weight reply < s.weight reply := by
  have away : (s.clientWrote n .receive).client.pc ≠ .request :=
    clientWrote_pc s n (P := (· ≠ .request)) nofun (by rw [here]; exact nofun)
  have pc : (s.clientWrote n .receive).client.pc.weight ≤ s.client.pc.weight :=
    clientWrote_pc s n (P := fun pc => pc.weight ≤ s.client.pc.weight) (by rw [here]; decide)
      (Nat.le_refl _)
  have held : (s.clientWrote n .receive).client.held = s.client.left.drop n :=
    clientWrote_left s n here nofun
  have asking : (s.clientWrote n .receive).client.asking = [] := if_neg away
  have before : s.client.held = s.client.left := if_pos here
  have nothing : s.client.asking = [] := if_neg (by rw [here]; exact nofun)
  show (s.clientWrote n .receive).client.pc.weight + s.server.pc.weight +
    (3 * s.stdin.length + 2 * (s.clientWrote n .receive).client.asking.length +
      s.p1.data.length) +
    (s.server.weight reply + 2 * s.p2.data.length +
      (s.clientWrote n .receive).client.held.length) < _
  unfold State.weight
  rw [asking, held, before, nothing, List.length_drop]
  omega

/-- A `write` of the server moves bytes into the second pipe. -/
theorem weight_write {n after : ℕ} {pc : ServerPc} {p2 : Pipe Process Char}
    (weight : s.server.weight reply = 3 * s.server.left.length + after)
    (wrote : (s.serverWrote n pc).server.weight reply =
      3 * (s.server.left.drop n).length + after)
    (lower : pc.weight ≤ s.server.pc.weight)
    (moved : s.p2.write s.server.left n = some p2) :
    ({ s.serverWrote n pc with p2 := p2 } : State).weight reply < s.weight reply := by
  obtain ⟨data, positive, there⟩ := Pipe.write_some moved
  have pcs : (s.serverWrote n pc).server.pc.weight ≤ s.server.pc.weight :=
    serverWrote_pc s n (P := fun pc => pc.weight ≤ s.server.pc.weight) lower (Nat.le_refl _)
  show s.client.pc.weight + (s.serverWrote n pc).server.pc.weight +
    (3 * s.stdin.length + 2 * s.client.asking.length + s.p1.data.length) +
    ((s.serverWrote n pc).server.weight reply + 2 * p2.data.length + s.client.held.length) < _
  unfold State.weight
  rw [weight, wrote, data, List.length_append, List.length_drop, List.length_take_of_le there]
  omega

/-- What a `write` of the server leaves of its weight. -/
theorem weight_serverWrote (s : State) (n : ℕ) :
    (s.server.pc = .error → (s.serverWrote n .waitpid).server.weight reply =
      3 * (s.server.left.drop n).length + 0) ∧
    (s.server.pc = .send → (s.serverWrote n .read).server.weight reply =
      3 * (s.server.left.drop n).length + 4 * s.server.rest.length) := by
  constructor
  · intro here
    unfold Server.weight State.serverWrote
    by_cases last : s.server.left.drop n = []
    · simp only [last, if_true, List.length_nil]
    · simp only [if_neg last, here, Nat.add_zero]
  · intro here
    unfold Server.weight State.serverWrote
    by_cases last : s.server.left.drop n = []
    · simp only [last, if_true, List.length_nil, Nat.mul_zero, Nat.zero_add]
      rfl
    · simp only [if_neg last, here]
      rfl

/-- The client that reads the line has fewer bytes of it before it. -/
theorem weight_read {n : ℕ} (here : s.client.pc = .read) (positive : 0 < n) (short : n ≤ 512)
    (there : n ≤ s.stdin.length) :
    ({ s.clientFill .request (s.stdin.take n) with
        stdin := s.stdin.drop n } : State).weight reply < s.weight reply := by
  have length : (s.stdin.take n).length = n := List.length_take_of_le there
  have left : (s.clientFill .request (s.stdin.take n)).client.asking = s.stdin.take n :=
    left_clientFill s .request (by omega)
  have none : s.client.asking = [] ∧ s.client.held = [] := by
    unfold Client.asking Client.held
    rw [here]
    exact ⟨rfl, rfl⟩
  show 3 + s.server.pc.weight + (3 * (s.stdin.drop n).length +
    2 * (s.clientFill .request (s.stdin.take n)).client.asking.length + s.p1.data.length) +
    (s.server.weight reply + 2 * s.p2.data.length + 0) < _
  unfold State.weight
  rw [left, length, none.1, none.2, here, List.length_drop]
  show _ < 4 + _ + (_ + 2 * 0 + _) + (_ + _ + 0)
  omega

/-- The client that receives moves bytes out of the second pipe. -/
theorem weight_receive {n : ℕ} {bytes : List Char} {p2 : Pipe Process Char}
    (here : s.client.pc = .receive) (nonzero : n ≠ 0)
    (moved : s.p2.read 512 n = some (bytes, p2)) :
    ({ s.clientFill .print bytes with p2 := p2 } : State).weight reply < s.weight reply := by
  obtain ⟨data, length, short⟩ := Pipe.read_some moved
  have left : (s.clientFill .print bytes).client.held = bytes :=
    left_clientFill s .print (by omega)
  have none : s.client.asking = [] ∧ s.client.held = [] := by
    unfold Client.asking Client.held
    rw [here]
    exact ⟨rfl, rfl⟩
  show 2 + s.server.pc.weight + (3 * s.stdin.length + 0 + s.p1.data.length) +
    (s.server.weight reply + 2 * p2.data.length +
      (s.clientFill .print bytes).client.held.length) < _
  unfold State.weight
  rw [left, none.1, none.2, here, data, List.length_append]
  show _ < 2 + _ + (_ + 0 + _) + (_ + _ + 0)
  omega

/-- The server that reads from the file has fewer bytes there. -/
theorem weight_serverRead {n : ℕ} (here : s.server.pc = .read) (positive : 0 < n) (short : n ≤ 512)
    (there : n ≤ s.server.rest.length) :
    (s.serverFill (s.server.rest.take n)).weight reply < s.weight reply := by
  obtain ⟨left, rest⟩ := serverFill_text s short there
  show s.client.pc.weight + 4 + _ +
    (3 * (s.serverFill (s.server.rest.take n)).server.left.length +
      4 * (s.serverFill (s.server.rest.take n)).server.rest.length + _ + _) < _
  rw [left, rest, List.length_take_of_le there, List.length_drop]
  simp only [State.weight, Server.weight, here, ServerPc.weight]
  show s.client.pc.weight + 4 + (3 * s.stdin.length + 2 * s.client.asking.length +
    s.p1.data.length) + (_ + 2 * s.p2.data.length + s.client.held.length) < _
  omega

end Drops

/-- **Every step makes the weight smaller.** -/
theorem weight_lt (carried : Carried files path s) (step : Step files s action s') :
    s'.weight (answer files path) < s.weight (answer files path) := by
  cases step with
  | closeRequest here | closeReply here =>
    simp only [State.weight, State.clientTo, Client.asking, Client.held, here, ClientPc.weight,
      Pipe.closeRead, Pipe.closeWrite, reduceCtorEq, if_false]
    omega
  | readEnd here empty => exact absurd empty (carried.stdin_ne here)
  | read here positive short there => exact weight_read _ here positive short there
  | eof here => exact absurd here carried.reads
  | requestBroken here broken => exact absurd broken (carried.p1_readers here)
  | request here whole moved => exact weight_request _ here moved
  | receiveEnd here ended =>
    simp only [State.weight, State.clientExit, State.clientTo, Client.asking, Client.held, here,
      ClientPc.weight, Pipe.leave, Pipe.closeRead, Pipe.closeWrite, reduceCtorEq, if_false]
    omega
  | receive here nonzero moved => exact weight_receive _ here nonzero moved
  | print here positive there => exact weight_print _ here positive there
  | serverCloseRequest here | serverCloseReply here | terminate here =>
    simp only [State.weight, State.serverTo, Server.weight, here, ServerPc.weight, Pipe.closeRead,
      Pipe.closeWrite]
    omega
  | serverRequest here moved =>
    obtain ⟨data, _⟩ := Pipe.read_some moved
    simp only [State.weight, Server.weight, here, ServerPc.weight, data, List.length_append]
    omega
  | openError here absent =>
    have reply : answer files path = openerror := answer_none (carried.named here ▸ absent)
    simp only [State.weight, Server.weight, here, ServerPc.weight, reply]
    omega
  | openFile here there =>
    have reply := answer_some (carried.named here ▸ there)
    simp only [State.weight, Server.weight, Server.rest, here, ServerPc.weight, reply,
      List.drop_zero]
    omega
  | serverBroken here broken => exact absurd broken (carried.p2_readers (ServerPc.running here))
  | error here whole moved =>
    have weight : s.server.weight (answer files path) = 3 * s.server.left.length + 0 := by
      unfold Server.weight
      rw [here]
      rfl
    exact weight_write _ weight ((weight_serverWrote _ s _).1 here) (by rw [here]; decide) moved
  | serverReadEnd here ended | close here =>
    simp only [State.weight, State.serverTo, Server.weight, here, ServerPc.weight]
    omega
  | serverRead here positive short there => exact weight_serverRead _ here positive short there
  | send here whole moved =>
    have weight : s.server.weight (answer files path) =
        3 * s.server.left.length + 4 * s.server.rest.length := by
      unfold Server.weight
      rw [here]
    exact weight_write _ weight ((weight_serverWrote _ s _).2 here) (by rw [here]; decide) moved
  | waitpid here =>
    simp only [State.weight, State.serverExit, State.serverTo, Server.weight, here,
      ServerPc.weight, Pipe.leave, Pipe.closeRead, Pipe.closeWrite]
    omega

end Unpvol2.Transfer
