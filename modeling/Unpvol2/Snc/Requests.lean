/-
**What becomes of a request.**

`ClientPc.stage` and `Server.stage` say how far a client has got, and how far the server has got
with that client. `Fate` relates the two to the client's FIFO and to the places its request can be
in: a written request is in the server FIFO, is being served, or has been served, and in one of the
three only. The two sides meet once: the server opens the client's FIFO before the client reads
anything, the client leaves it only after the server has closed it.

The lemmas of `Fate` are the moves of the two sides.
-/

import Mathlib.Tactic.SplitIfs
import Unpvol2.Snc.Servern

namespace Unpvol2.Snc.Servern

open C Interleaving

/-! ### The stages -/

/-- How far the client has got. -/
def ClientPc.stage : ClientPc → ℕ
  | .mkfifo => 0
  | .openServer | .openingServer _ | .write | .exit | .aborted => 1
  | .closeServer | .openClient => 2
  | .openingClient _ => 3
  | .read => 4
  | .closeClient => 5
  | .unlink => 6
  | .exited => 7

/-- How far the server has got with the client it serves. -/
def ServerPc.stage : ServerPc → ℕ
  | .closeServer | .openClient => 1
  | .openingClient _ => 2
  | .openFile | .copy _ | .copyWrite _ _ | .closeClient => 3
  | _ => 0

/-- How far the server has got with the client `pid`. -/
def Server.stage (server : Server) (pid : ℤ) : ℕ :=
  if server.cpid = pid then server.pc.stage else 0

theorem Server.stage_own {server : Server} {pid : ℤ} (own : server.cpid = pid) :
    server.stage pid = server.pc.stage :=
  if_pos own

theorem Server.stage_other {server : Server} {pid : ℤ} (other : server.cpid ≠ pid) :
    server.stage pid = 0 :=
  if_neg other

theorem Server.stage_idle {server : Server} (idle : server.pc.stage = 0) (pid : ℤ) :
    server.stage pid = 0 := by
  unfold Server.stage
  split
  · exact idle
  · rfl

/-! ### The client FIFO -/

/-- Who has the client FIFO open, and how often it has been opened. -/
structure Counts (client server served : ℕ) (f : Fifo Char) : Prop where
  readers : f.readers = if 3 ≤ client ∧ client ≤ 5 then 1 else 0
  readOpens : f.readOpens = if 3 ≤ client then 1 else 0
  writers : f.writers = if 2 ≤ server then 1 else 0
  writeOpens : f.writeOpens = served + if 2 ≤ server then 1 else 0

/-- A client, the server's stage with it, its FIFO, and the numbers of its requests in the server
FIFO and among the requests served. -/
structure Fate (client server : ℕ) (own : Option (Fifo Char)) (stored served : ℕ) : Prop where
  accounted : stored + (if 1 ≤ server then 1 else 0) + served = if 2 ≤ client then 1 else 0
  absent : client = 0 → own = none
  present : 1 ≤ client → client ≤ 6 → ∃ f, own = some f ∧ Counts client server served f
  met : 3 ≤ server ∨ 1 ≤ served → 3 ≤ client
  entered : 4 ≤ client → 1 ≤ served ∨ 2 ≤ server
  left : 5 ≤ client → server ≤ 1

section Moves

variable {client server stored served : ℕ} {own : Option (Fifo Char)} {f : Fifo Char}

/-- The client is being served: it has written its request and has not left its FIFO. -/
theorem Fate.serving (fate : Fate client server own stored served) (serves : 1 ≤ server) :
    stored = 0 ∧ served = 0 ∧ 2 ≤ client ∧ client ≤ 4 := by
  obtain ⟨accounted, _, _, _, entered, left⟩ := fate
  split_ifs at accounted <;> omega

/-- So its FIFO is there. -/
theorem Fate.own_of_serving (fate : Fate client server own stored served) (serves : 1 ≤ server) :
    ∃ f, own = some f ∧ Counts client server served f := by
  obtain ⟨_, _, wrote, here⟩ := fate.serving serves
  exact fate.present (by omega) (by omega)

/-! #### Moves of the client -/

theorem Fate.mkfifo (fate : Fate 0 server own stored served) :
    Fate 1 server (some Fifo.fresh) stored served := by
  obtain ⟨accounted, _, _, _, _, _⟩ := fate
  refine ⟨accounted, nofun, fun _ _ => ⟨_, rfl, ?_⟩, ?_, nofun, nofun⟩
  · constructor <;> simp only [Fifo.fresh] <;> split_ifs at accounted ⊢ <;> omega
  · split_ifs at accounted <;> omega

/-- The request is written. -/
theorem Fate.write (fate : Fate 1 server own stored served) :
    Fate 2 server own (stored + 1) served := by
  obtain ⟨accounted, _, present, _, _, _⟩ := fate
  obtain ⟨f, same, counts⟩ := present (le_refl 1) (by omega)
  refine ⟨?_, nofun, fun _ _ => ⟨f, same, ?_⟩, ?_, nofun, nofun⟩
  · split_ifs at accounted ⊢ <;> omega
  · exact ⟨counts.readers, counts.readOpens, counts.writers, counts.writeOpens⟩
  · split_ifs at accounted <;> omega

/-- The client opens its FIFO and waits for the server, or finds it there. -/
theorem Fate.openClient (fate : Fate 2 server (some f) stored served) :
    Fate (if 0 < f.writers then 4 else 3) server (some f.openRead) stored served := by
  obtain ⟨accounted, _, present, met, _, left⟩ := fate
  obtain ⟨_, ⟨⟩, readers, readOpens, writers, writeOpens⟩ := present (by omega) (by omega)
  have unread : f.readers = 0 := readers
  have unopened : f.readOpens = 0 := readOpens
  by_cases found : 0 < f.writers
  · rw [if_pos found]
    refine ⟨accounted, nofun, fun _ _ => ⟨_, rfl, ?_, ?_, writers, writeOpens⟩, fun _ => by omega,
      ?_, nofun⟩
    · show f.readers + 1 = 1
      rw [unread]
    · show f.readOpens + 1 = 1
      rw [unopened]
    · intro _
      split_ifs at writers <;> omega
  · rw [if_neg found]
    refine ⟨accounted, nofun, fun _ _ => ⟨_, rfl, ?_, ?_, writers, writeOpens⟩, fun _ => by omega,
      nofun, nofun⟩
    · show f.readers + 1 = 1
      rw [unread]
    · show f.readOpens + 1 = 1
      rw [unopened]

/-- If it waits, the server has not opened it yet. -/
theorem Fate.unwritten (fate : Fate 2 server (some f) stored served) (waits : ¬ 0 < f.writers) :
    f.writeOpens = 0 := by
  obtain ⟨_, _, present, met, _, _⟩ := fate
  obtain ⟨_, ⟨⟩, _, _, writers, writeOpens⟩ := present (by omega) (by omega)
  split_ifs at writers writeOpens <;> omega

/-- The client finds that the server has opened its FIFO. -/
theorem Fate.openedClient (fate : Fate 3 server (some f) stored served)
    (opened : f.writeOpens ≠ 0) : Fate 4 server (some f) stored served := by
  obtain ⟨accounted, _, present, met, _, left⟩ := fate
  obtain ⟨_, ⟨⟩, counts⟩ := present (by omega) (by omega)
  have writeOpens := counts.writeOpens
  refine ⟨accounted, nofun, fun _ _ => ⟨f, rfl, ?_⟩, fun _ => by omega, ?_, nofun⟩
  · exact ⟨counts.readers, counts.readOpens, counts.writers, counts.writeOpens⟩
  · split_ifs at writeOpens <;> omega

/-- The bytes of a client FIFO do not matter to the request's fate. -/
theorem Fate.data (fate : Fate client server (some f) stored served) {data : List Char} :
    Fate client server (some { f with data := data }) stored served := by
  obtain ⟨accounted, absent, present, met, entered, left⟩ := fate
  refine ⟨accounted, fun none => absurd (absent none) nofun, fun low high => ⟨_, rfl, ?_⟩, met,
    entered, left⟩
  obtain ⟨_, ⟨⟩, counts⟩ := present low high
  exact ⟨counts.readers, counts.readOpens, counts.writers, counts.writeOpens⟩

/-- The client has read up to the end of file: the server has closed the FIFO. -/
theorem Fate.ended (fate : Fate 4 server (some f) stored served) (closed : f.writers = 0) :
    Fate 5 server (some f) stored served := by
  obtain ⟨accounted, _, present, met, entered, _⟩ := fate
  obtain ⟨_, ⟨⟩, counts⟩ := present (by omega) (by omega)
  have writers := counts.writers
  refine ⟨accounted, nofun, fun _ _ => ⟨f, rfl, ?_⟩, fun _ => by omega, fun _ => entered (by omega),
    ?_⟩
  · exact ⟨counts.readers, counts.readOpens, counts.writers, counts.writeOpens⟩
  · split_ifs at writers <;> omega

theorem Fate.closeClient (fate : Fate 5 server (some f) stored served) :
    Fate 6 server (some f.closeRead) stored served := by
  obtain ⟨accounted, _, present, met, entered, left⟩ := fate
  obtain ⟨_, ⟨⟩, readers, readOpens, writers, writeOpens⟩ := present (by omega) (by omega)
  refine ⟨accounted, nofun, fun _ _ => ⟨_, rfl, ?_⟩, fun _ => by omega, fun _ => entered (by omega),
    fun _ => left (by omega)⟩
  constructor
  · rw [Fifo.closeRead_readers, readers]
    rfl
  · rw [Fifo.closeRead_readOpens, readOpens]
    rfl
  · rw [Fifo.closeRead_writers, writers]
  · rw [Fifo.closeRead_writeOpens, writeOpens]

theorem Fate.unlink (fate : Fate 6 server own stored served) :
    Fate 7 server none stored served := by
  obtain ⟨accounted, _, _, met, entered, left⟩ := fate
  exact ⟨accounted, nofun, fun _ high => by omega, fun _ => by omega, fun _ => entered (by omega),
    fun _ => left (by omega)⟩

/-! #### Moves of the server -/

/-- The server reads the request. -/
theorem Fate.take (fate : Fate client 0 own (stored + 1) served) :
    Fate client 1 own stored served := by
  obtain ⟨accounted, absent, present, met, entered, left⟩ := fate
  refine ⟨?_, absent, ?_, ?_, ?_, fun _ => le_refl 1⟩
  · split_ifs at accounted ⊢ <;> omega
  · intro low high
    obtain ⟨f, same, counts⟩ := present low high
    exact ⟨f, same, counts.readers, counts.readOpens, counts.writers, counts.writeOpens⟩
  · split_ifs at accounted <;> omega
  · intro low
    have := entered low
    omega

/-- The server opens the client's FIFO and waits for the client, or finds it there. -/
theorem Fate.openFifo (fate : Fate client 1 (some f) stored served) :
    Fate client (if 0 < f.readers then 3 else 2) (some f.openWrite) stored served := by
  obtain ⟨_, none, wrote, here⟩ := fate.serving (le_refl 1)
  obtain ⟨accounted, absent, present, met, entered, left⟩ := fate
  obtain ⟨_, ⟨⟩, readers, readOpens, writers, writeOpens⟩ := present (by omega) (by omega)
  have unwritten : f.writers = 0 := writers
  have unopened : f.writeOpens = served := writeOpens
  have early : client < 4 := by
    by_contra late
    have := entered (by omega)
    omega
  by_cases found : 0 < f.readers
  · rw [if_pos found]
    refine ⟨accounted, fun zero => by omega, fun _ _ => ⟨_, rfl, readers, readOpens, ?_, ?_⟩,
      fun _ => ?_, fun _ => .inr (by omega), fun _ => by omega⟩
    · show f.writers + 1 = 1
      rw [unwritten]
    · show f.writeOpens + 1 = served + 1
      rw [unopened]
    · split_ifs at readers <;> omega
  · rw [if_neg found]
    refine ⟨accounted, fun zero => by omega, fun _ _ => ⟨_, rfl, readers, readOpens, ?_, ?_⟩,
      fun _ => by omega, fun _ => .inr (by omega), fun _ => by omega⟩
    · show f.writers + 1 = 1
      rw [unwritten]
    · show f.writeOpens + 1 = served + 1
      rw [unopened]

/-- If it waits, the client has not opened it yet. -/
theorem Fate.unread (fate : Fate client 1 (some f) stored served) (waits : ¬ 0 < f.readers) :
    f.readOpens = 0 := by
  obtain ⟨_, none, wrote, here⟩ := fate.serving (le_refl 1)
  obtain ⟨_, ⟨⟩, readers, readOpens, _, _⟩ := fate.present (by omega) (by omega)
  split_ifs at readers readOpens <;> omega

/-- The server finds that the client has opened its FIFO. -/
theorem Fate.openedFifo (fate : Fate client 2 (some f) stored served) (opened : f.readOpens ≠ 0) :
    Fate client 3 (some f) stored served := by
  obtain ⟨_, none, wrote, here⟩ := fate.serving (by omega)
  obtain ⟨accounted, absent, present, met, entered, left⟩ := fate
  obtain ⟨_, ⟨⟩, counts⟩ := present (by omega) (by omega)
  have readOpens := counts.readOpens
  refine ⟨accounted, absent, fun _ _ => ⟨f, rfl, ?_⟩, ?_, fun _ => .inr (by omega), fun _ => ?_⟩
  · exact ⟨counts.readers, counts.readOpens, counts.writers, counts.writeOpens⟩
  · split_ifs at readOpens <;> omega
  · omega

/-- While the server writes the file, the client has its FIFO open. -/
theorem Fate.reader (fate : Fate client 3 (some f) stored served) : 0 < f.readers := by
  obtain ⟨_, none, wrote, here⟩ := fate.serving (by omega)
  have late := fate.met (.inl (le_refl 3))
  obtain ⟨_, ⟨⟩, counts⟩ := fate.present (by omega) (by omega)
  rw [counts.readers, if_pos ⟨late, by omega⟩]
  exact Nat.zero_lt_one

/-- The server has served the client. -/
theorem Fate.closeFifo (fate : Fate client 3 (some f) stored served) :
    Fate client 0 (some f.closeWrite) stored (served + 1) := by
  obtain ⟨_, none, wrote, here⟩ := fate.serving (by omega)
  obtain ⟨accounted, absent, present, met, entered, left⟩ := fate
  obtain ⟨_, ⟨⟩, readers, readOpens, writers, writeOpens⟩ := present (by omega) (by omega)
  refine ⟨?_, fun zero => by omega, fun _ _ => ⟨_, rfl, ?_⟩, fun _ => met (.inl (le_refl 3)),
    fun _ => .inl (by omega), fun _ => by omega⟩
  · split_ifs at accounted ⊢ <;> omega
  · constructor
    · rw [Fifo.closeWrite_readers, readers]
    · rw [Fifo.closeWrite_readOpens, readOpens]
    · rw [Fifo.closeWrite_writers, writers]
      rfl
    · rw [Fifo.closeWrite_writeOpens, writeOpens]
      rfl

end Moves

end Unpvol2.Snc.Servern
