/-
**The steps of the client and the server.**

`step_iff` lists them, with what each needs and what it does.
-/

import Unpvol2.Transfer.Model

namespace Unpvol2.Transfer

open C Interleaving

/-- The steps. -/
inductive Step (files : List Char → Option (List Char)) (s : State) : Act → State → Prop
  | closeRequest (here : s.client.pc = .closeRequest) :
    Step files s (.client 0) { s.clientTo .closeReply with p1 := s.p1.closeRead .client }
  | closeReply (here : s.client.pc = .closeReply) :
    Step files s (.client 0) { s.clientTo .read with p2 := s.p2.closeWrite .client }
  | readEnd (here : s.client.pc = .read) (empty : s.stdin = []) :
    Step files s (.client 0) (s.clientTo .eof)
  | read {n : ℕ} (here : s.client.pc = .read) (positive : 0 < n) (short : n ≤ 512)
    (there : n ≤ s.stdin.length) :
    Step files s (.client n)
      { s.clientFill .request (s.stdin.take n) with stdin := s.stdin.drop n }
  | eof (here : s.client.pc = .eof) :
    Step files s (.client 0) { s.clientExit with stderr := s.stderr ++ "reach EOF\n".toList }
  | requestBroken (here : s.client.pc = .request) (broken : s.p1.readers = ∅) :
    Step files s (.client 0) s.clientExit
  | request {n : ℕ} {p1 : Pipe Process Char} (here : s.client.pc = .request)
    (whole : s.p1.readers ≠ ∅) (moved : s.p1.write s.client.left n = some p1) :
    Step files s (.client n) { s.clientWrote n .receive with p1 := p1 }
  | receiveEnd {bytes : List Char} {p2 : Pipe Process Char} (here : s.client.pc = .receive)
    (ended : s.p2.read 512 0 = some (bytes, p2)) : Step files s (.client 0) s.clientExit
  | receive {n : ℕ} {bytes : List Char} {p2 : Pipe Process Char} (here : s.client.pc = .receive)
    (nonzero : n ≠ 0) (moved : s.p2.read 512 n = some (bytes, p2)) :
    Step files s (.client n) { s.clientFill .print bytes with p2 := p2 }
  | print {n : ℕ} (here : s.client.pc = .print) (positive : 0 < n)
    (there : n ≤ s.client.left.length) :
    Step files s (.client n)
      { s.clientWrote n .receive with stdout := s.stdout ++ s.client.left.take n }
  | serverCloseRequest (here : s.server.pc = .closeRequest) :
    Step files s (.server 0) { s.serverTo .closeReply with p1 := s.p1.closeWrite .server }
  | serverCloseReply (here : s.server.pc = .closeReply) :
    Step files s (.server 0) { s.serverTo .request with p2 := s.p2.closeRead .server }
  | serverRequest {n : ℕ} {bytes : List Char} {p1 : Pipe Process Char}
    (here : s.server.pc = .request) (moved : s.p1.read 512 n = some (bytes, p1)) :
    Step files s (.server n)
      { s with
        p1 := p1
        server := { s.server with
          pc := .terminate
          buf := s.server.buf.overwrite bytes
          rnum := n } }
  | terminate (here : s.server.pc = .terminate) :
    Step files s (.server 0)
      { s with server := { s.server with pc := .openFile, buf := s.server.terminated } }
  | openError (here : s.server.pc = .openFile) (absent : files s.server.buf.str = none) :
    Step files s (.server 0)
      { s with server := { s.server with pc := .error, left := openerror } }
  | openFile {file : List Char} (here : s.server.pc = .openFile)
    (there : files s.server.buf.str = some file) :
    Step files s (.server 0)
      { s with server := { s.server with pc := .read, file := file, offset := 0 } }
  | serverBroken (here : s.server.pc = .error ∨ s.server.pc = .send) (broken : s.p2.readers = ∅) :
    Step files s (.server 0) s.serverExit
  | error {n : ℕ} {p2 : Pipe Process Char} (here : s.server.pc = .error)
    (whole : s.p2.readers ≠ ∅) (moved : s.p2.write s.server.left n = some p2) :
    Step files s (.server n) { s.serverWrote n .waitpid with p2 := p2 }
  | serverReadEnd (here : s.server.pc = .read) (ended : s.server.rest = []) :
    Step files s (.server 0) (s.serverTo .close)
  | serverRead {n : ℕ} (here : s.server.pc = .read) (positive : 0 < n) (short : n ≤ 512)
    (there : n ≤ s.server.rest.length) :
    Step files s (.server n) (s.serverFill (s.server.rest.take n))
  | send {n : ℕ} {p2 : Pipe Process Char} (here : s.server.pc = .send)
    (whole : s.p2.readers ≠ ∅) (moved : s.p2.write s.server.left n = some p2) :
    Step files s (.server n) { s.serverWrote n .read with p2 := p2 }
  | close (here : s.server.pc = .close) : Step files s (.server 0) (s.serverTo .waitpid)
  | waitpid (here : s.server.pc = .waitpid) : Step files s (.server 0) s.serverExit

variable {files : List Char → Option (List Char)} {s s' : State} {action : Act}

theorem step_client {n : ℕ} (step : s.clientStep n = some s') : Step files s (.client n) s' := by
  unfold State.clientStep at step
  split at step
  case h_1 here =>
    split_ifs at step with none
    cases step
    cases none
    exact .closeRequest here
  case h_2 here =>
    split_ifs at step with none
    cases step
    cases none
    exact .closeReply here
  case h_3 here =>
    split_ifs at step with ended some
    · cases step
      obtain ⟨empty, rfl⟩ := ended
      exact .readEnd here empty
    · cases step
      exact .read here some.1 some.2.1 some.2.2
  case h_4 here =>
    split_ifs at step with none
    cases step
    cases none
    exact .eof here
  case h_5 here =>
    split_ifs at step with broken none
    · cases step
      cases none
      exact .requestBroken here broken
    · obtain ⟨p1, moved, rfl⟩ := Option.map_eq_some_iff.mp step
      exact .request here broken moved
  case h_6 here =>
    obtain ⟨⟨bytes, p2⟩, moved, rfl⟩ := Option.map_eq_some_iff.mp step
    by_cases none : n = 0
    · cases none
      exact .receiveEnd here moved
    · show Step files s (.client n) (if n = 0 then _ else _)
      rw [if_neg none]
      exact .receive here none moved
  case h_7 here =>
    split_ifs at step with some
    cases step
    exact .print here some.1 some.2
  case h_8 here => cases step

theorem step_server {n : ℕ} (step : s.serverStep files n = some s') :
    Step files s (.server n) s' := by
  unfold State.serverStep at step
  split at step
  case h_1 here =>
    split_ifs at step with none
    cases step
    cases none
    exact .serverCloseRequest here
  case h_2 here =>
    split_ifs at step with none
    cases step
    cases none
    exact .serverCloseReply here
  case h_3 here =>
    obtain ⟨⟨bytes, p1⟩, moved, rfl⟩ := Option.map_eq_some_iff.mp step
    exact .serverRequest here moved
  case h_4 here =>
    split_ifs at step with none
    cases step
    cases none
    exact .terminate here
  case h_5 here =>
    split_ifs at step with none
    cases none
    split at step
    · rename_i absent
      cases step
      exact .openError here absent
    · rename_i file there
      cases step
      exact .openFile here there
  case h_6 here =>
    unfold State.serverWrite at step
    split_ifs at step with broken none
    · cases step
      cases none
      exact .serverBroken (Or.inl here) broken
    · obtain ⟨p2, moved, rfl⟩ := Option.map_eq_some_iff.mp step
      exact .error here broken moved
  case h_7 here =>
    split_ifs at step with ended some
    · cases step
      obtain ⟨empty, rfl⟩ := ended
      exact .serverReadEnd here empty
    · cases step
      exact .serverRead here some.1 some.2.1 some.2.2
  case h_8 here =>
    unfold State.serverWrite at step
    split_ifs at step with broken none
    · cases step
      cases none
      exact .serverBroken (Or.inr here) broken
    · obtain ⟨p2, moved, rfl⟩ := Option.map_eq_some_iff.mp step
      exact .send here broken moved
  case h_9 here =>
    split_ifs at step with none
    cases step
    cases none
    exact .close here
  case h_10 here =>
    split_ifs at step with none
    cases step
    cases none
    exact .waitpid here
  case h_11 here => cases step

/-- **A step is one of those listed.** -/
theorem step_iff : s.step files action = some s' ↔ Step files s action s' := by
  constructor
  · intro step
    cases action with
    | client n => exact step_client step
    | server n => exact step_server step
  · intro step
    cases step with
    | closeRequest here | closeReply here | eof here =>
      simp only [State.step, State.clientStep, here, if_true]
    | readEnd here empty => simp only [State.step, State.clientStep, here, empty, and_self, if_true]
    | read here positive short there =>
      simp only [State.step, State.clientStep, here]
      rw [if_neg (fun ended => absurd ended.2 (Nat.ne_of_gt positive)),
        if_pos ⟨positive, short, there⟩]
    | requestBroken here broken =>
      simp only [State.step, State.clientStep, here, broken, if_true]
    | request here whole moved =>
      simp only [State.step, State.clientStep, here, if_neg whole, moved, Option.map_some]
    | receiveEnd here ended =>
      simp only [State.step, State.clientStep, here, ended, Option.map_some, if_true]
    | receive here nonzero moved =>
      simp only [State.step, State.clientStep, here, moved, Option.map_some, if_neg nonzero]
    | print here positive there =>
      simp only [State.step, State.clientStep, here, positive, there, and_self, if_true]
    | serverCloseRequest here | serverCloseReply here | terminate here | close here
    | waitpid here => simp only [State.step, State.serverStep, here, if_true]
    | serverRequest here moved =>
      simp only [State.step, State.serverStep, here, moved, Option.map_some]
    | openError here absent => simp only [State.step, State.serverStep, here, absent, if_true]
    | openFile here there => simp only [State.step, State.serverStep, here, there, if_true]
    | serverBroken here broken =>
      rcases here with here | here <;>
        simp only [State.step, State.serverStep, State.serverWrite, here, broken, if_true]
    | error here whole moved | send here whole moved =>
      simp only [State.step, State.serverStep, State.serverWrite, here, if_neg whole, moved,
        Option.map_some]
    | serverReadEnd here ended =>
      simp only [State.step, State.serverStep, here, ended, and_self, if_true]
    | serverRead here positive short there =>
      simp only [State.step, State.serverStep, here]
      rw [if_neg (fun ended => absurd ended.2 (Nat.ne_of_gt positive)),
        if_pos ⟨positive, short, there⟩]

end Unpvol2.Transfer
