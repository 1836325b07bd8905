/-
**`spipe` transfers the file and ends.**

Each process has closed the ends it does not use before its first `read`. So when the server ends,
nobody has the second pipe open for writing, and the client reads the end of the file.

* `spipe_transfers` — **the client prints a prefix of the file at all times, and where no process
  can go on both have ended and the whole file is printed.**
* `spipe_length_le` — no run is longer than the weight of the start.
-/

import Unpvol2.Transfer.Progress

namespace Unpvol2.Transfer

open C Interleaving

/-- Who has no end for writing of the second pipe. -/
structure Closed (s : State) : Prop where
  client : s.client.pc ≠ .closeRequest → s.client.pc ≠ .closeReply → .client ∉ s.p2.writers
  server : s.server.pc = .exited → .server ∉ s.p2.writers

variable {files : List Char → Option (List Char)} {path : List Char} {s s' : State} {action : Act}

/-- **Nobody gets an end for writing back.** -/
theorem closed_step (closed : Closed s) (step : Step files s action s') : Closed s' := by
  cases step with
  | closeRequest here => exact ⟨fun _ away => absurd rfl away, closed.server⟩
  | closeReply here =>
    refine ⟨fun _ _ => Finset.notMem_erase _ _, fun gone member => ?_⟩
    exact closed.server gone (Finset.mem_of_mem_erase member)
  | readEnd here | read here | print here =>
    have client := closed.client (by rw [here]; exact nofun) (by rw [here]; exact nofun)
    exact ⟨fun _ _ => client, closed.server⟩
  | request here whole moved =>
    have client := closed.client (by rw [here]; exact nofun) (by rw [here]; exact nofun)
    exact ⟨fun _ _ => client, closed.server⟩
  | eof here | requestBroken here | receiveEnd here =>
    refine ⟨fun _ _ => Finset.notMem_erase _ _, fun gone member => ?_⟩
    exact closed.server gone (Finset.mem_of_mem_erase member)
  | receive here nonzero moved =>
    obtain ⟨_, _, writers⟩ := Pipe.read_ends moved
    have client := closed.client (by rw [here]; exact nofun) (by rw [here]; exact nofun)
    exact ⟨fun _ _ => writers ▸ client, fun gone => writers ▸ closed.server gone⟩
  | serverCloseRequest | serverCloseReply | serverRequest | terminate | openError | openFile
  | serverReadEnd | serverRead | close => exact ⟨closed.client, nofun⟩
  | serverBroken | waitpid =>
    refine ⟨fun away away' member => ?_, fun _ => Finset.notMem_erase _ _⟩
    exact closed.client away away' (Finset.mem_of_mem_erase member)
  | @error n p2 here whole moved =>
    obtain ⟨_, _, writers⟩ := Pipe.write_ends moved
    have running : (s.serverWrote n .waitpid).server.pc ≠ .exited :=
      serverWrote_pc s n (P := (· ≠ .exited)) nofun (by rw [here]; exact nofun)
    exact ⟨fun away away' => writers ▸ closed.client away away', fun gone => absurd gone running⟩
  | @send n p2 here whole moved =>
    obtain ⟨_, _, writers⟩ := Pipe.write_ends moved
    have running : (s.serverWrote n .read).server.pc ≠ .exited :=
      serverWrote_pc s n (P := (· ≠ .exited)) nofun (by rw [here]; exact nofun)
    exact ⟨fun away away' => writers ▸ closed.client away away', fun gone => absurd gone running⟩

/-- Then a client that waits has a server. -/
theorem Closed.not_waiting (closed : Closed s) : ¬ Waiting s := by
  rintro ⟨client, server, _, writers⟩
  refine writers (Finset.eq_empty_of_forall_notMem fun process => ?_)
  cases process with
  | client => exact closed.client (by rw [client]; exact nofun) (by rw [client]; exact nofun)
  | server => exact closed.server server

section Spipe

variable {capacity : Process → ℕ} {buf : Process → Buffer 512}

/-- What holds of `spipe` at all times. -/
theorem spipe_reaches (ended : nul ∉ path)
    (reachable : (spipe files capacity buf (requestLine path)).Reachable
      (Delivered (requestLine path)) s) :
    Carried files path s ∧ Closed s ∧ s.p1.capacity = capacity .client ∧
      s.p2.capacity = capacity .server := by
  refine reachable.induct (I := fun s => Carried files path s ∧ Closed s ∧
    s.p1.capacity = capacity .client ∧ s.p2.capacity = capacity .server) ?_ ?_
  · exact ⟨carried_start capacity buf rfl rfl, ⟨fun away => absurd rfl away, nofun⟩, rfl, rfl⟩
  · rintro s action s' _ ⟨carried, closed, room1, room2⟩ delivered step
    have step := step_iff.mp step
    obtain ⟨same1, same2⟩ := capacity_step step
    exact ⟨carried_step ended carried delivered step, closed_step closed step,
      same1.trans room1, same2.trans room2⟩

/-- **`spipe` transfers the file exactly and both processes end**, whatever the capacities of the
pipes and however the reads and writes are split up and follow each other. -/
theorem spipe_transfers {content : List Char} (ended : nul ∉ path) (short : path.length < 512)
    (there : files path = some content) (room : ∀ process, 0 < capacity process)
    (reachable : (spipe files capacity buf (requestLine path)).Reachable
      (Delivered (requestLine path)) s) :
    s.stdout <+: content ∧ (Stuck files s → Ended s ∧ s.stdout = content) := by
  obtain ⟨carried, closed, room1, room2⟩ := spipe_reaches ended reachable
  have flow := carried.flow
  rw [answer_some there, List.append_assoc, List.append_assoc] at flow
  refine ⟨⟨_, flow⟩, fun stuck => ?_⟩
  have final := stuck_cases carried short (room1 ▸ room _) (room2 ▸ room _) stuck
  refine ⟨final.resolve_left closed.not_waiting, ?_⟩
  rw [stdout_of_waiting carried final]
  exact answer_some there

/-- The file `a` holds two bytes. -/
def twoBytes (path : List Char) : Option (List Char) :=
  if path = ['a'] then some ['h', 'i'] else none

/-- Both have closed their ends, the request has been written in two parts and read at once, and
the file comes byte by byte through a pipe for one byte. -/
def transfer : List Act :=
  [.client 0, .server 0, .server 0, .client 0, .client 2, .client 1, .client 1, .server 2,
    .server 0, .server 0, .server 2, .server 1, .client 1, .server 1, .client 1, .server 0,
    .client 1, .server 0, .client 1, .server 0, .client 0]

theorem spipe_transfers_twoBytes :
    ((spipe twoBytes (fun process => if process = .client then 2 else 1)
      (fun _ => Buffer.filled nul) (requestLine ['a'])).after transfer).stdout = ['h', 'i'] :=
  ((spipe_transfers (by decide) (by decide) (show twoBytes ['a'] = some ['h', 'i'] from rfl)
    (fun process => by cases process <;> decide)
    (Machine.reachable_after (by decide) (by decide))).2
      (stuck_of_ended ⟨by decide, by decide⟩)).2

/-- **No run of `spipe` goes on for ever.** -/
theorem spipe_length_le (ended : nul ∉ path) {actions : List Act}
    (delivered : (spipe files capacity buf (requestLine path)).Admitted
      (Delivered (requestLine path)) (spipe files capacity buf (requestLine path)).init actions)
    (ran : (spipe files capacity buf (requestLine path)).run
      (spipe files capacity buf (requestLine path)).init actions = some s) :
    actions.length ≤ 18 + 3 * path.length + 4 * (answer files path).length := by
  have bound : actions.length ≤ (start .closeRequest .closeRequest capacity buf
      (requestLine path)).weight (answer files path) :=
    Machine.admitted_length_le (I := Carried files path) (State.weight (answer files path))
      (fun s action s' carried delivered step =>
        carried_step ended carried delivered (step_iff.mp step))
      (fun s action s' carried _ step => weight_lt carried (step_iff.mp step))
      (carried_start capacity buf rfl rfl) delivered ran
  have weight : (start .closeRequest .closeRequest capacity buf (requestLine path)).weight
      (answer files path) =
        6 + 9 + (3 * (requestLine path).length + 0 + 0) +
          (4 * (answer files path).length + 0 + 0) := rfl
  have length := length_requestLine path
  omega

end Spipe

end Unpvol2.Transfer
