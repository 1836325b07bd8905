/-
**`sfifo` transfers the file and does not end.**

Both FIFOs are opened for reading and writing, and no process closes one. So the client itself has
`f2` open for writing, and its `read` from it never returns 0.

* `Open` — the client runs and has the end for writing of the second pipe. Every step keeps it.
* `sfifo_never_ends` — **whatever the file and the request, `sfifo` comes to where the client waits
  for the end of the file it has printed, and it never ends.**
-/

import Unpvol2.Transfer.Progress

namespace Unpvol2.Transfer

open C Interleaving

/-- The client is behind its `open`s and has not ended. -/
def ClientPc.running : ClientPc → Bool
  | .closeRequest | .closeReply | .exited => false
  | _ => true

/-- The client runs and could write to the pipe it reads from. -/
structure Open (s : State) : Prop where
  running : s.client.pc.running = true
  writer : .client ∈ s.p2.writers

variable {files : List Char → Option (List Char)} {path : List Char} {s s' : State} {action : Act}

/-- **The client never sees the end of the file.** -/
theorem open_step (carried : Carried files path s) (isOpen : Open s)
    (step : Step files s action s') : Open s' := by
  obtain ⟨running, writer⟩ := isOpen
  cases step with
  | closeRequest here | closeReply here =>
    rw [here] at running
    cases running
  | readEnd | read => exact ⟨rfl, writer⟩
  | eof here => exact absurd here carried.reads
  | requestBroken here broken => exact absurd broken (carried.p1_readers here)
  | request | print =>
    exact ⟨clientWrote_pc s _ (P := fun pc => pc.running = true) rfl running, writer⟩
  | receiveEnd here ended =>
    have writers := (Pipe.read_zero ended).2
    rw [writers] at writer
    exact absurd writer (Finset.notMem_empty _)
  | receive here nonzero moved =>
    obtain ⟨_, _, writers⟩ := Pipe.read_ends moved
    exact ⟨rfl, writers ▸ writer⟩
  | serverCloseRequest | serverCloseReply | serverRequest | terminate | openError | openFile
  | serverReadEnd | serverRead | close => exact ⟨running, writer⟩
  | serverBroken | waitpid =>
    exact ⟨running, Finset.mem_erase_of_ne_of_mem nofun writer⟩
  | error here whole moved | send here whole moved =>
    obtain ⟨_, _, writers⟩ := Pipe.write_ends moved
    exact ⟨running, writers ▸ writer⟩

/-- A client that has not ended has not ended. -/
theorem Open.not_ended (isOpen : Open s) : s.client.pc ≠ .exited := by
  intro here
  have running := isOpen.running
  rw [here] at running
  cases running

section Sfifo

variable {capacity : Process → ℕ} {buf : Process → Buffer 512}

/-- What holds of `sfifo` at all times. -/
structure Kept (files : List Char → Option (List Char)) (path : List Char)
    (capacity : Process → ℕ) (s : State) : Prop where
  carried : Carried files path s
  isOpen : Open s
  room1 : s.p1.capacity = capacity .client
  room2 : s.p2.capacity = capacity .server

theorem kept_step (ended : nul ∉ path) (kept : Kept files path capacity s)
    (delivered : Delivered (requestLine path) s action) (step : Step files s action s') :
    Kept files path capacity s' := by
  obtain ⟨same1, same2⟩ := capacity_step step
  exact ⟨carried_step ended kept.carried delivered step, open_step kept.carried kept.isOpen step,
    same1.trans kept.room1, same2.trans kept.room2⟩

theorem kept_start :
    Kept files path capacity (sfifo files capacity buf (requestLine path)).init :=
  ⟨carried_start capacity buf rfl rfl, ⟨rfl, Finset.mem_insert_self _ _⟩, rfl, rfl⟩

/-- **The client comes to wait** for the end of the file: the FIFO has room for the request. -/
theorem exists_waiting (ended : nul ∉ path) (short : path.length < 512)
    (room : ∀ process, 0 < capacity process) (fits : (requestLine path).length ≤ capacity .client) :
    ∃ s, (sfifo files capacity buf (requestLine path)).Reachable (Delivered (requestLine path)) s ∧
      Waiting s := by
  obtain ⟨s, reachable, _, waiting⟩ := Machine.exists_reaches_of_rank
    (M := sfifo files capacity buf (requestLine path))
    (I := fun s => Kept files path capacity s ∧ Whole s) Waiting
    (State.weight (answer files path)) (fun s ⟨kept, whole⟩ away => by
      rcases exists_step kept.carried short (kept.room1 ▸ room _) (kept.room2 ▸ room _) with
        ⟨action, s', step, goes⟩ | waiting | gone
      · obtain ⟨delivered, whole'⟩ := goes (kept.room1 ▸ fits) whole
        exact ⟨action, s', delivered, step_iff.mpr step,
          ⟨kept_step ended kept delivered step, whole'⟩, weight_lt kept.carried step⟩
      · exact absurd waiting away
      · exact absurd gone.1 kept.isOpen.not_ended)
    ⟨kept_start, nofun⟩
  exact ⟨s, reachable, waiting⟩

/-- **`sfifo` does not end**, for any request and any file: the client never does, and every state
in which no process can go on is one where it waits and has printed the whole file. -/
theorem sfifo_never_ends {content : List Char} (ended : nul ∉ path) (short : path.length < 512)
    (there : files path = some content) (room : ∀ process, 0 < capacity process)
    (fits : (requestLine path).length ≤ capacity .client) :
    (¬ ∀ s, (sfifo files capacity buf (requestLine path)).Reachable
        (Delivered (requestLine path)) s → Stuck files s → Ended s ∧ s.stdout = content) ∧
      ∀ s, (sfifo files capacity buf (requestLine path)).Reachable
        (Delivered (requestLine path)) s →
          s.client.pc ≠ .exited ∧ s.stdout <+: content ∧
            (Stuck files s → Waiting s ∧ s.stdout = content) := by
  constructor
  · intro ends
    obtain ⟨s, reachable, waiting⟩ : ∃ s, (sfifo files capacity buf (requestLine path)).Reachable
        (Delivered (requestLine path)) s ∧ Waiting s := exists_waiting ended short room fits
    have final := (ends s reachable (stuck_of_waiting waiting)).1
    exact nomatch waiting.client.symm.trans final.1
  · intro s reachable
    have kept : Kept files path capacity s := by
      refine reachable.induct (I := Kept files path capacity) kept_start ?_
      exact fun s action s' _ kept delivered step =>
        kept_step ended kept delivered (step_iff.mp step)
    have flow := kept.carried.flow
    rw [answer_some there, List.append_assoc, List.append_assoc] at flow
    refine ⟨kept.isOpen.not_ended, ⟨_, flow⟩, fun stuck => ?_⟩
    have final := stuck_cases kept.carried short (kept.room1 ▸ room _) (kept.room2 ▸ room _) stuck
    refine ⟨final.resolve_right fun gone => kept.isOpen.not_ended gone.1, ?_⟩
    rw [stdout_of_waiting kept.carried final]
    exact answer_some there

end Sfifo

/-- The file `a` holds one byte. -/
def oneByte (path : List Char) : Option (List Char) := if path = ['a'] then some ['x'] else none

/-- `sfifo` and its one-byte file, with FIFOs for 512 bytes. -/
def small : Machine State Act :=
  sfifo oneByte (fun _ => 512) (fun _ => Buffer.filled nul) (requestLine ['a'])

/-- The request, the byte of the file, the end of the server. -/
def transferred : List Act :=
  [.client 2, .client 2, .server 2, .server 0, .server 0, .server 1, .server 1, .server 0,
    .server 0, .server 0, .client 1, .client 1]

theorem sfifo_never_ends_oneByte : Waiting (small.after transferred) :=
  (((sfifo_never_ends (by decide) (by decide) (show oneByte ['a'] = some ['x'] from rfl)
    (fun _ => by decide) (by decide)).2 (small.after transferred)
      (Machine.reachable_after (by decide) (by decide))).2.2
        (stuck_of_waiting ⟨by decide, by decide, by decide, by decide⟩)).1

/-- The byte is printed, the server has ended, and nothing happens any more. -/
theorem client_waits_for_itself :
    ¬ ∀ s, small.Reachable (Delivered (requestLine ['a'])) s → Stuck oneByte s →
      Ended s ∧ s.stdout = ['x'] := by
  intro ends
  have final := ends (small.after transferred) (Machine.reachable_after (by decide) (by decide))
    (stuck_of_waiting ⟨by decide, by decide, by decide, by decide⟩)
  exact absurd final.1.1 (by decide)

end Unpvol2.Transfer
