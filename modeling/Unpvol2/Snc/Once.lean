/-
**Whom `server` serves.**

The first client to write is the one the server reads, and it gets its file. What the others have
written is lost when the server closes the server FIFO, and who has not written by then cannot write
any more.

* `Inv` — why: every client has its `Exchange`, that of the first one with the server, those of the
  others with nobody; while the server listens the server FIFO holds the requests written.
* `served_once` — **one client is answered, with its own file, and no other client gets anything.**
  When nobody can move, the server has exited and so has the client it has served, and the others
  have exited with an error or wait in an `open`.
-/

import Unpvol2.Lib.Threads
import Unpvol2.Snc.Answers
import Unpvol2.Snc.Oneshot

set_option linter.unusedSectionVars false

namespace Unpvol2.Snc.Oneshot

open C Interleaving
open Servern (Client ClientPc Stack View Fate)
open Serverfork (Exchange Service Asks Ended unread)

variable {ι : Type} [DecidableEq ι]

/-! ### The clients and the server FIFO -/

/-- The client has the server FIFO open. -/
def holds (x : Client) : Bool :=
  match x.pc with
  | .openingServer _ | .write | .exit | .closeServer => true
  | _ => false

/-- The client has opened the server FIFO. -/
def arrived : ClientPc → Bool
  | .mkfifo | .openServer | .aborted => false
  | _ => true

theorem arrived_of_holds {x : Client} (here : holds x = true) : arrived x.pc = true := by
  obtain ⟨pc, _⟩ := x
  cases pc <;> first | rfl | cases here

/-- Behind its `write` it is about to close it. -/
theorem closing_of_holds {x : Client} (here : holds x = true) (late : 2 ≤ x.pc.stage) :
    x.pc = .closeServer := by
  obtain ⟨pc, _⟩ := x
  cases pc <;> simp_all [holds, ClientPc.stage]

section Moves

variable {request : List Char} {v v' : View Char}

/-- **What a client does to the writers of the server FIFO.** -/
theorem writers_cases (moves : v.Moves request v') :
    (v'.server.writers = v.server.writers + 1 ∧ v'.server.writeOpens = v.server.writeOpens + 1 ∧
      holds v.client = false ∧ holds v'.client = true) ∨
    (v'.server.writers = v.server.writers - 1 ∧ v'.server.writeOpens = v.server.writeOpens ∧
      (v.client.pc = .closeServer ∨ v.client.pc = .exit) ∧ holds v.client = true ∧
      holds v'.client = false) ∨
    (v'.server.writers = v.server.writers ∧ v'.server.writeOpens = v.server.writeOpens ∧
      holds v'.client = holds v.client ∧
        (arrived v'.client.pc = true → arrived v.client.pc = true)) := by
  have holds_eq : ∀ {pc}, v.client.pc = pc → holds v.client = holds ⟨pc, []⟩ := by
    rintro pc rfl
    rfl
  cases moves with
  | mkfifo here | mkfifoExists here =>
    exact .inr (.inr ⟨rfl, rfl, (holds_eq here).symm, nofun⟩)
  | openServer here =>
    refine .inl ⟨rfl, rfl, holds_eq here, ?_⟩
    show holds ⟨if _ then _ else _, _⟩ = true
    split <;> rfl
  | openedServer here | write here | writeFails here =>
    exact .inr (.inr ⟨rfl, rfl, (holds_eq here).symm, fun _ => by rw [here]; rfl⟩)
  | exit here =>
    exact .inr (.inl ⟨Fifo.closeWrite_writers _, Fifo.closeWrite_writeOpens _, .inr here,
      holds_eq here, rfl⟩)
  | closeServer here =>
    exact .inr (.inl ⟨Fifo.closeWrite_writers _, Fifo.closeWrite_writeOpens _, .inl here,
      holds_eq here, rfl⟩)
  | @openClient here f found =>
    refine .inr (.inr ⟨rfl, rfl, ?_, fun _ => by rw [here]; rfl⟩)
    rw [holds_eq here]
    show holds ⟨if _ then _ else _, _⟩ = _
    split <;> rfl
  | read here => exact .inr (.inr ⟨rfl, rfl, rfl, id⟩)
  | ended here | closeClient here | unlink here | openClientFails here
  | openedClient here =>
    exact .inr (.inr ⟨rfl, rfl, (holds_eq here).symm, fun _ => by rw [here]; rfl⟩)

/-- A client does not change who reads it. -/
theorem readers_eq (moves : v.Moves request v') :
    v'.server.readers = v.server.readers ∧ v'.server.readOpens = v.server.readOpens := by
  cases moves with
  | exit | closeServer => exact ⟨Fifo.closeWrite_readers _, Fifo.closeWrite_readOpens _⟩
  | _ => exact ⟨rfl, rfl⟩

/-- A client comes to its `exit(-1)` and its end on the server FIFO by a write that has failed. -/
theorem aborted_of_moves (moves : v.Moves request v') (here : v'.client.pc = .aborted) :
    v.client.pc = .exit := by
  cases moves with
  | exit before => exact before
  | read before found =>
    have here : v.client.pc = .aborted := here
    rw [before] at here
    cases here
  | openServer | openClient =>
    have here : (if _ then _ else _ : ClientPc) = .aborted := here
    split at here <;> cases here
  | _ => cases here

end Moves

theorem ServerPc.taken_of_closed {pc : ServerPc} (closed : pc.closed = true) : pc.taken = true := by
  cases pc <;> first | rfl | cases closed

theorem ServerPc.listens_le (pc : ServerPc) : pc.listens ≤ 1 := by
  unfold ServerPc.listens
  split <;> omega

/-! ### The invariant -/

/-- Where the request of client `c` is; one that is lost counts as stored. -/
def State.service (s : State ι) (c : ι) : Service :=
  if s.server.pc.taken = true ∧ s.written.head? = some c then .child s.server.child
  else if c ∈ s.written then .stored
  else .unasked

structure Inv [Fintype ι] (files : List Char → Option (List Char)) (args : ι → Args)
    (s : State ι) : Prop where
  exchange : ∀ c content, files (args c).pathname = some content →
    Exchange (args c) content (s.client c) (s.own args c) (s.service c)
  unread : s.server.pc.taken = false →
    s.fifo.data = s.written.flatMap fun c => (args c).request.bytes
  asked : s.server.pc.taken = true → s.written ≠ []
  readers : s.fifo.readers = s.server.pc.listens
  readOpens : s.fifo.readOpens = s.server.pc.opens
  writers : (s.fifo.writers : ℤ) = count holds s.client
  asks : s.server.pc.closed = false → ∀ c, Asks s.server.pc.listens (s.client c).pc ∧
    (s.client c).pc ≠ .aborted
  came : ∀ c, arrived (s.client c).pc = true → 0 < s.fifo.writeOpens
  idle : s.server.pc = .openServer → s.written = []
  engaged : s.server.pc.taken = false → 0 < s.fifo.writeOpens →
    s.written ≠ [] ∨ 0 < s.fifo.writers
  waits : ∀ seen, s.server.pc = .openingServer seen → seen = 0
  reading : s.server.pc = .read → 0 < s.fifo.writeOpens
  linked : s.linked = decide (s.server.pc ≠ .exited)

section Inv

variable [Fintype ι] {files : List Char → Option (List Char)} {args : ι → Args} {s s' : State ι}
  {c d : ι}

theorem inv_start (files : List Char → Option (List Char)) (args : ι → Args) (stack : Stack) :
    Inv files args (start stack) where
  exchange := fun c content readable => by
    refine ⟨⟨rfl, fun _ => rfl, nofun, ?_, nofun, nofun⟩, rfl, nofun, nofun, nofun⟩
    rintro (met | met) <;> cases met
  unread := fun _ => rfl
  asked := nofun
  readers := rfl
  readOpens := rfl
  writers := (count_eq_zero_iff.mpr fun _ => rfl).symm
  asks := fun _ c => by
    refine ⟨⟨?_, nofun, nofun⟩, nofun⟩
    rintro (late | late) <;> cases late
  came := nofun
  idle := fun _ => rfl
  engaged := fun _ opened => absurd opened (Nat.lt_irrefl 0)
  waits := nofun
  reading := nofun
  linked := rfl

theorem own_put (v : View Char) : (s.put args c v).own args c = v.own :=
  Function.update_self _ _ _

theorem own_put_other (asking : Asking files args) (ne : d ≠ c) (v : View Char) :
    (s.put args c v).own args d = s.own args d :=
  Function.update_of_ne (asking.name_ne ne) _ _

theorem client_put (v : View Char) : (s.put args c v).client c = v.client :=
  Function.update_self _ _ _

theorem client_put_other (ne : d ≠ c) (v : View Char) :
    (s.put args c v).client d = s.client d :=
  Function.update_of_ne ne _ _

/-- A client that has written is behind its `write`. -/
theorem Inv.wrote (inv : Inv files args s) (asking : Asking files args) :
    c ∈ s.written ↔ 2 ≤ (s.client c).pc.stage := by
  obtain ⟨content, readable⟩ := Option.isSome_iff_exists.mp (asking.readable c)
  have exchange := inv.exchange c content readable
  have accounted := exchange.fate.accounted
  unfold State.service at accounted exchange
  split at accounted
  · rename_i first
    rw [if_pos first] at exchange
    exact ⟨fun _ => exchange.child_asked, fun _ => List.mem_of_mem_head? first.2⟩
  · split at accounted
    · refine ⟨fun _ => ?_, fun _ => ‹_›⟩
      by_contra early
      rw [if_neg early] at accounted
      exact absurd accounted (by decide)
    · refine ⟨fun mem => absurd mem ‹_›, fun late => ?_⟩
      rw [if_pos late] at accounted
      exact absurd accounted (by decide)

/-- Each client that has the server FIFO open counts among its writers. -/
theorem Inv.writers_pos (inv : Inv files args s) (here : holds (s.client c) = true) :
    0 < s.fifo.writers := by
  have writers := inv.writers
  have one := one_le_count (r := s.client) here
  omega

/-! ### The steps of the clients -/

/-- **A client's step**, other than the write of its request. -/
theorem Inv.put (inv : Inv files args s) (asking : Asking files args) {v : View Char}
    (exchange : ∀ content, files (args c).pathname = some content →
      Exchange (args c) content v.client v.own (s.service c))
    (asked : (s.client c).pc ≠ .write ∨ v.client.pc ≠ .closeServer)
    (data : s.server.pc.taken = false → v.server.data = s.fifo.data)
    (readers : v.server.readers = s.fifo.readers)
    (readOpens : v.server.readOpens = s.fifo.readOpens)
    (writers : (v.server.writers : ℤ) =
      s.fifo.writers - (if holds (s.client c) then 1 else 0) + if holds v.client then 1 else 0)
    (asks : s.server.pc.closed = false → Asks s.server.pc.listens v.client.pc ∧
      v.client.pc ≠ .aborted)
    (writeOpens : s.fifo.writeOpens ≤ v.server.writeOpens)
    (came : arrived v.client.pc = true → 0 < v.server.writeOpens)
    (engaged : s.server.pc.taken = false → 0 < v.server.writeOpens →
      s.written ≠ [] ∨ 0 < v.server.writers) : Inv files args (s.put args c v) := by
  have written : (s.put args c v).written = s.written :=
    if_neg fun writes => asked.elim (fun ne => ne writes.1) fun ne => ne writes.2
  have service : (s.put args c v).service = s.service := by
    funext d
    unfold State.service
    rw [written]
    rfl
  refine ⟨?_, ?_, ?_, readers.trans inv.readers, readOpens.trans inv.readOpens, ?_, ?_, ?_, ?_, ?_,
    inv.waits, ?_, inv.linked⟩
  · intro d content readable
    rw [service]
    by_cases same : d = c
    · subst same
      rw [client_put, own_put]
      exact exchange content readable
    · rw [client_put_other same, own_put_other asking same]
      exact inv.exchange d content readable
  · intro taken
    rw [written]
    exact (data taken).trans (inv.unread taken)
  · rw [written]
    exact inv.asked
  · show (v.server.writers : ℤ) = count holds (Function.update s.client c v.client)
    rw [count_update, writers, inv.writers]
  · intro closed d
    by_cases same : d = c
    · rw [same, client_put]
      exact asks closed
    · rw [client_put_other same]
      exact inv.asks closed d
  · intro d here
    by_cases same : d = c
    · rw [same, client_put] at here
      exact came here
    · rw [client_put_other same] at here
      exact Nat.lt_of_lt_of_le (inv.came d here) writeOpens
  · rw [written]
    exact inv.idle
  · rw [written]
    exact engaged
  · exact fun here => Nat.lt_of_lt_of_le (inv.reading here) writeOpens

/-- A client writes its request. -/
theorem Inv.write (inv : Inv files args s) (asking : Asking files args) {v : View Char}
    (here : (s.client c).pc = .write) (listens : s.server.pc.listens = 1)
    (server : v.server = s.fifo.write (args c).request.bytes)
    (own : v.own = s.own args c) (client : v.client = { s.client c with pc := .closeServer }) :
    Inv files args (s.put args c v) := by
  have pc : v.client.pc = .closeServer := by rw [client]
  have written : (s.put args c v).written = s.written ++ [c] := if_pos ⟨here, pc⟩
  have fresh : c ∉ s.written := fun mem => by
    have late := (inv.wrote asking).mp mem
    rw [here] at late
    exact absurd late (by decide)
  -- the first to write stays the first
  have first : s.server.pc.taken = true → (s.written ++ [c]).head? = s.written.head? := by
    intro taken
    obtain ⟨d, rest, same⟩ := List.exists_cons_of_ne_nil (inv.asked taken)
    rw [same]
    rfl
  have service : ∀ d, (s.put args c v).service d =
      if s.server.pc.taken = true ∧ (s.written ++ [c]).head? = some d then .child s.server.child
      else if d ∈ s.written ++ [c] then .stored else .unasked := by
    intro d
    unfold State.service
    rw [written]
    rfl
  refine ⟨?_, ?_, ?_, ?_, ?_, ?_, ?_, ?_, ?_, ?_, inv.waits, ?_, inv.linked⟩
  · intro d content readable
    have exchange := inv.exchange d content readable
    rw [service]
    unfold State.service at exchange
    by_cases same : d = c
    · subst same
      have unread : ¬ (s.server.pc.taken = true ∧ s.written.head? = some d) := fun both =>
        fresh (List.mem_of_mem_head? both.2)
      have unread' : ¬ (s.server.pc.taken = true ∧ (s.written ++ [d]).head? = some d) := fun both =>
        unread ⟨both.1, (first both.1).symm.trans both.2⟩
      rw [if_neg unread, if_neg fresh] at exchange
      rw [if_neg unread', if_pos List.mem_concat_self, client_put, own_put, own, client]
      exact exchange.write here
    · rw [client_put_other same, own_put_other asking same]
      have head : (s.server.pc.taken = true ∧ (s.written ++ [c]).head? = some d) ↔
          (s.server.pc.taken = true ∧ s.written.head? = some d) :=
        and_congr_right fun taken => by rw [first taken]
      have mem : d ∈ s.written ++ [c] ↔ d ∈ s.written := by
        rw [List.mem_append, List.mem_singleton, or_iff_left same]
      simp only [head, mem]
      exact exchange
  · intro taken
    rw [written, List.flatMap_append, List.flatMap_singleton, ← inv.unread taken]
    show v.server.data = _
    rw [server]
    rfl
  · rw [written]
    exact fun _ => List.append_ne_nil_of_right_ne_nil _ (List.cons_ne_nil c [])
  · show v.server.readers = _
    rw [server]
    exact inv.readers
  · show v.server.readOpens = _
    rw [server]
    exact inv.readOpens
  · show (v.server.writers : ℤ) = count holds (Function.update s.client c v.client)
    have before : holds (s.client c) = true := by
      unfold holds
      rw [here]
    have after : holds v.client = true := by
      unfold holds
      rw [pc]
    rw [count_update, before, after, server, ← inv.writers]
    show (s.fifo.writers : ℤ) = s.fifo.writers - 1 + 1
    omega
  · intro closed d
    by_cases same : d = c
    · rw [same, client_put, pc]
      exact ⟨.of_listens listens nofun nofun, nofun⟩
    · rw [client_put_other same]
      exact inv.asks closed d
  · intro d mem
    show 0 < v.server.writeOpens
    rw [server]
    by_cases same : d = c
    · exact inv.came c (by rw [here]; rfl)
    · rw [client_put_other same] at mem
      exact inv.came d mem
  · intro idle
    have idle : s.server.pc = .openServer := idle
    rw [idle] at listens
    cases listens
  · rw [written]
    exact fun _ _ => .inl (List.append_ne_nil_of_right_ne_nil _ (List.cons_ne_nil c []))
  · show _ → 0 < v.server.writeOpens
    rw [server]
    exact inv.reading

/-- A client whose write fails, or its `open`. -/
theorem Inv.fails (inv : Inv files args s) (asking : Asking files args) {old pc : ClientPc}
    (here : (s.client c).pc = old) (stage : old.stage = 1) (still : pc.stage = 1)
    (closed : s.server.pc.closed = true) (same : holds ⟨pc, []⟩ = holds ⟨old, []⟩)
    (further : arrived pc = true → arrived old = true) :
    Inv files args (s.put args c ((s.view args c).clientTo pc)) := by
  have taken := ServerPc.taken_of_closed closed
  have stage' : (s.client c).pc.stage = pc.stage := by rw [here, stage, still]
  have early : ¬ 5 ≤ pc.stage := by
    rw [still]
    decide
  have waiting : ∀ seen, pc ≠ .openingClient seen := by
    rintro seen rfl
    cases still
  refine inv.put asking (fun content readable => ?_) (.inr ?_) (fun open_ => ?_) rfl rfl ?_
    (fun open_ => ?_) (Nat.le_refl _) (fun mem => inv.came c ?_) fun open_ => ?_
  · have exchange := inv.exchange c content readable
    have fate := exchange.fate
    rw [stage'] at fate
    exact exchange.goes fate rfl (fun late => absurd late early)
      fun seen here => absurd here (waiting seen)
  · rintro rfl
    cases still
  · rw [taken] at open_
    cases open_
  · have before : holds (s.client c) = holds ⟨old, []⟩ := by
      unfold holds
      rw [here]
    show (s.fifo.writers : ℤ) = s.fifo.writers - _ + if holds ⟨pc, []⟩ = true then 1 else 0
    rw [before, same]
    omega
  · rw [closed] at open_
    cases open_
  · rw [here]
    exact further mem
  · rw [taken] at open_
    cases open_

/-- **A client's step.** -/
theorem Inv.client_step (inv : Inv files args s) (asking : Asking files args)
    (step : s.clientStep args c = some s') : Inv files args s' := by
  unfold State.clientStep at step
  split at step
  · rename_i refused
    cases step
    have exited := inv.linked
    rw [refused.2] at exited
    have exited : s.server.pc = .exited := not_not.mp (of_decide_eq_false exited.symm)
    exact inv.fails asking refused.1 rfl rfl (by rw [exited]; rfl) rfl id
  · obtain ⟨v, stepped, rfl⟩ := Option.map_eq_some_iff.mp step
    have moves := View.moves stepped
    have readers := inv.readers
    by_cases asked : (s.client c).pc = .write
    · unfold View.step at stepped
      rw [show (s.view args c).client.pc = _ from asked] at stepped
      by_cases listens : s.server.pc.listens = 1
      · have reader : 0 < (s.view args c).server.readers := by
          show 0 < s.fifo.readers
          omega
        simp only [if_pos reader, Option.some.injEq] at stepped
        subst stepped
        exact inv.write asking asked listens rfl rfl rfl
      · have closed : s.server.pc.closed = true := by
          by_contra open_
          have met := (inv.asks (Bool.eq_false_iff.mpr open_) c).1.met (.inl asked)
          exact listens met
        have none : s.server.pc.listens = 0 := by
          cases which : s.server.pc <;> rw [which] at closed <;> first | rfl | cases closed
        have unread : ¬ 0 < (s.view args c).server.readers := by
          show ¬ 0 < s.fifo.readers
          omega
        simp only [if_neg unread, Option.some.injEq] at stepped
        subst stepped
        exact inv.fails asking asked rfl rfl closed rfl fun _ => rfl
    · obtain ⟨sameReaders, sameOpens⟩ := readers_eq moves
      have change := writers_cases moves
      have exchange : ∀ content, files (args c).pathname = some content →
          Exchange (args c) content v.client v.own (s.service c) := fun content readable =>
        (inv.exchange c content readable).client moves asked
      have asks : s.server.pc.closed = false → (Asks s.server.pc.listens v.client.pc ∧
          v.client.pc ≠ .aborted) ∧ v.server.data = s.fifo.data := by
        intro open_
        obtain ⟨asks, _⟩ := inv.asks open_ c
        have opens : s.server.pc.opens = s.server.pc.listens := by
          cases which : s.server.pc <;> rw [which] at open_ <;> first | rfl | cases open_
        obtain ⟨next, data, _, _⟩ := asks.next moves asked
          (show 0 < s.fifo.readers ↔ _ by
            have few := s.server.pc.listens_le
            omega) (inv.readOpens.trans opens)
          s.server.pc.listens_le
        exact ⟨⟨next, fun end_ => asks.alive (aborted_of_moves moves end_)⟩, data⟩
      have untaken : s.server.pc.taken = false → s.server.pc.closed = false := fun untaken => by
        by_contra closed
        rw [ServerPc.taken_of_closed (Bool.of_not_eq_false closed)] at untaken
        cases untaken
      refine inv.put asking exchange (.inl asked) (fun open_ => (asks (untaken open_)).2)
        sameReaders sameOpens ?_ (fun open_ => (asks open_).1) ?_ ?_ ?_
      · have some := inv.writers_pos (c := c)
        rcases change with ⟨writers, _, before, after⟩ | ⟨writers, _, _, before, after⟩ |
          ⟨writers, _, same, _⟩
        · have before : holds (s.client c) = false := before
          rw [before, after, writers]
          show ((s.fifo.writers + 1 : ℕ) : ℤ) = _
          push_cast
          simp
        · have before : holds (s.client c) = true := before
          have some := some before
          have writers : v.server.writers = s.fifo.writers - 1 := writers
          rw [before, after, writers]
          simp only [if_true, Bool.false_eq_true, if_false]
          omega
        · have same : holds v.client = holds (s.client c) := same
          have writers : v.server.writers = s.fifo.writers := writers
          rw [same, writers]
          omega
      · rcases change with ⟨_, opens, _⟩ | ⟨_, opens, _⟩ | ⟨_, opens, _⟩
        · exact Nat.le_of_lt (Nat.lt_of_lt_of_eq (Nat.lt_succ_self _) opens.symm)
        · exact Nat.le_of_eq opens.symm
        · exact Nat.le_of_eq opens.symm
      · intro here
        have before : arrived (s.client c).pc = true → 0 < s.fifo.writeOpens := inv.came c
        rcases change with ⟨_, opens, _⟩ | ⟨_, opens, old, _⟩ | ⟨_, opens, _, further⟩
        · exact Nat.lt_of_lt_of_eq (Nat.succ_pos _) opens.symm
        · refine Nat.lt_of_lt_of_eq (before ?_) opens.symm
          rcases old with old | old <;>
            rw [show (s.client c).pc = _ from old] <;> rfl
        · exact Nat.lt_of_lt_of_eq (before (further here)) opens.symm
      · intro open_ opened
        rcases change with ⟨writers, _⟩ | ⟨_, _, old, _⟩ | ⟨writers, opens, _⟩
        · exact .inr (Nat.lt_of_lt_of_eq (Nat.succ_pos _) writers.symm)
        · refine .inl (List.ne_nil_of_mem (a := c) ((inv.wrote asking).mpr ?_))
          rcases old with old | old
          · rw [show (s.client c).pc = _ from old]
            decide
          · exact absurd old (inv.asks (untaken open_) c).1.alive
        · exact (inv.engaged open_ (Nat.lt_of_lt_of_eq opened opens)).imp_right fun some =>
            Nat.lt_of_lt_of_eq some writers.symm

/-! ### The steps of the server -/

/-- Before the read nobody is served. -/
theorem service_untaken (untaken : s.server.pc.taken = false) (c : ι) :
    s.service c = if c ∈ s.written then .stored else .unasked := by
  unfold State.service
  rw [if_neg fun both => by rw [untaken] at both; cases both.1]

/-- The server opens the server FIFO, or has opened it. -/
theorem Inv.listen (inv : Inv files args s) (untaken : s.server.pc.taken = false) {pc : ServerPc}
    {fifo : Fifo Char} (untaken' : pc.taken = false) (listens : pc.listens = 1)
    (data : fifo.data = s.fifo.data) (readers : fifo.readers = 1) (readOpens : fifo.readOpens = 1)
    (writers : fifo.writers = s.fifo.writers) (writeOpens : fifo.writeOpens = s.fifo.writeOpens)
    (waits : ∀ seen, pc = .openingServer seen → seen = 0)
    (reading : pc = .read → 0 < s.fifo.writeOpens) :
    Inv files args { s.serverTo pc with fifo := fifo } := by
  have opened : pc.opens = 1 ∧ pc ≠ .openServer ∧ pc ≠ .exited := by
    cases pc with
    | openingServer | read | scan | closeServer => exact ⟨rfl, nofun, nofun⟩
    | _ => cases listens
  have closed : s.server.pc.closed = false ∧ s.server.pc ≠ .exited := by
    cases which : s.server.pc with
    | openServer | openingServer | read => exact ⟨rfl, nofun⟩
    | _ =>
      rw [which] at untaken
      cases untaken
  refine ⟨fun c content readable => ?_, fun _ => data.trans (inv.unread untaken), fun taken => ?_,
    readers.trans listens.symm, readOpens.trans opened.1.symm, ?_, fun _ c => ?_, fun c here => ?_,
    fun here => absurd here opened.2.1, fun _ some => ?_, waits, fun here => ?_, ?_⟩
  · have exchange := inv.exchange c content readable
    rw [service_untaken untaken] at exchange
    rw [service_untaken (show pc.taken = false from untaken')]
    exact exchange
  · have taken : pc.taken = true := taken
    rw [untaken'] at taken
    cases taken
  · show (fifo.writers : ℤ) = _
    rw [writers]
    exact inv.writers
  · obtain ⟨asks, present⟩ := inv.asks closed.1 c
    exact ⟨⟨fun _ => listens, asks.waits, asks.alive⟩, present⟩
  · exact Nat.lt_of_lt_of_eq (inv.came c here) writeOpens.symm
  · exact (inv.engaged untaken (Nat.lt_of_lt_of_eq some writeOpens)).imp_right fun some =>
      Nat.lt_of_lt_of_eq some writers.symm
  · exact Nat.lt_of_lt_of_eq (reading here) writeOpens.symm
  · show s.linked = decide (pc ≠ .exited)
    rw [inv.linked, decide_eq_true closed.2, decide_eq_true opened.2.2]

/-- **The server reads the request of the first client to write.** -/
theorem Inv.read (inv : Inv files args s) (here : s.server.pc = .read) (found : s.fifo.data ≠ []) :
    Inv files args { s with
      server := { s.server with
        pc := .scan, buf := s.server.buf.overwrite (s.fifo.data.take 64) }
      fifo := s.fifo.drop 64 } := by
  have untaken : s.server.pc.taken = false := by rw [here]; rfl
  have unread := inv.unread untaken
  obtain ⟨c, rest, wrote⟩ : ∃ c rest, s.written = c :: rest :=
    List.exists_cons_of_ne_nil fun none => found (by rw [unread, none]; rfl)
  have bytes : s.fifo.data.take 64 = (args c).request.bytes := by
    rw [unread, wrote, List.flatMap_cons]
    exact List.take_left' (args c).request.length_eq
  have listens : s.server.pc.listens = 1 := by rw [here]; rfl
  have opens : s.server.pc.opens = 1 := by rw [here]; rfl
  refine ⟨fun d content readable => ?_, nofun, fun _ none => ?_, inv.readers.trans listens,
    inv.readOpens.trans opens, inv.writers, fun _ d => ?_, inv.came, nofun, nofun, nofun, nofun, ?_⟩
  · have exchange := inv.exchange d content readable
    rw [service_untaken untaken] at exchange
    unfold State.service
    by_cases same : d = c
    · subst same
      have mem : d ∈ s.written := by rw [wrote]; exact List.mem_cons_self
      rw [if_pos mem] at exchange
      have first : s.written.head? = some d := by rw [wrote]; rfl
      rw [if_pos ⟨rfl, first⟩]
      refine exchange.take.fork rfl ?_
      show s.server.buf.overwrite (s.fifo.data.take 64) = _
      rw [bytes]
      exact Buffer.overwrite_full _ _
    · rw [if_neg fun both => same ?_]
      · exact exchange
      · have first : s.written.head? = some d := both.2
        rw [wrote] at first
        exact (Option.some.inj first).symm
  · have none : s.written = [] := none
    rw [wrote] at none
    cases none
  · have asks := inv.asks (by rw [here]; rfl) d
    rw [listens] at asks
    exact asks
  · show s.linked = true
    rw [inv.linked, here]
    rfl

theorem ServerPc.opens_of_taken {pc : ServerPc} (taken : pc.taken = true) : pc.opens = 1 := by
  cases pc <;> first | rfl | cases taken

/-- The server goes on with the request it has read. -/
theorem Inv.serve (inv : Inv files args s) (taken : s.server.pc.taken = true)
    (first : s.written.head? = some c) {content : List Char}
    (readable : files (args c).pathname = some content) (client : s'.client = s.client)
    (written : s'.written = s.written) (taken' : s'.server.pc.taken = true)
    (readers : s'.fifo.readers = s'.server.pc.listens)
    (readOpens : s'.fifo.readOpens = s.fifo.readOpens)
    (writers : s'.fifo.writers = s.fifo.writers)
    (writeOpens : s'.fifo.writeOpens = s.fifo.writeOpens)
    (open_ : s'.server.pc.closed = false → s.server.pc.closed = false ∧
      s'.server.pc.listens = s.server.pc.listens)
    (linked : s'.linked = decide (s'.server.pc ≠ .exited))
    (others : ∀ d, d ≠ c → s'.own args d = s.own args d)
    (exchange : Exchange (args c) content (s.client c) (s'.own args c) (.child s'.server.child)) :
    Inv files args s' := by
  have untaken : s'.server.pc.taken ≠ false := by
    rw [taken']
    nofun
  refine ⟨fun d content' readable' => ?_, fun none => absurd none untaken, fun _ => ?_, readers, ?_,
    ?_, fun closed d => ?_, fun d here => ?_, fun here => ?_, fun none => absurd none untaken,
    fun seen here => ?_, fun here => ?_, linked⟩
  · rw [client]
    unfold State.service
    rw [written, taken']
    by_cases same : d = c
    · subst same
      cases readable.symm.trans readable'
      rw [if_pos ⟨rfl, first⟩]
      exact exchange
    · have before := inv.exchange d content' readable'
      have other : s.written.head? ≠ some d := fun same' =>
        same (Option.some.inj (same'.symm.trans first))
      unfold State.service at before
      rw [if_neg fun both => other both.2] at before
      rw [others d same, if_neg fun both => other both.2]
      exact before
  · rw [written]
    exact inv.asked taken
  · rw [readOpens, inv.readOpens, ServerPc.opens_of_taken taken, ServerPc.opens_of_taken taken']
  · rw [writers, client]
    exact inv.writers
  · obtain ⟨closed, same⟩ := open_ closed
    rw [client, same]
    exact inv.asks closed d
  · rw [client] at here
    rw [writeOpens]
    exact inv.came d here
  · rw [here] at taken'
    cases taken'
  · rw [here] at taken'
    cases taken'
  · rw [here] at taken'
    cases taken'

/-- A FIFO that is found under the name of client `c` is the client's. -/
theorem own_eq {name : List Char} (named : name = clientFifo (args c).pid) :
    s.fifos name = s.own args c := by
  rw [named]
  rfl

theorem own_setFifo {name : List Char} (named : name = clientFifo (args c).pid)
    (f : Option (Fifo Char)) : (s.setFifo name f).own args c = f := by
  rw [named]
  exact Function.update_self _ _ _

theorem own_setFifo_other (asking : Asking files args) {name : List Char}
    (named : name = clientFifo (args c).pid) (ne : d ≠ c) (f : Option (Fifo Char)) :
    (s.setFifo name f).own args d = s.own args d := by
  rw [named]
  exact Function.update_of_ne (asking.name_ne ne) _ _

/-- The exchange of the client that is served. -/
theorem Inv.serving (inv : Inv files args s) (asking : Asking files args)
    (taken : s.server.pc.taken = true) : ∃ c content, s.written.head? = some c ∧
      files (args c).pathname = some content ∧
      Exchange (args c) content (s.client c) (s.own args c) (.child s.server.child) := by
  obtain ⟨c, rest, wrote⟩ := List.exists_cons_of_ne_nil (inv.asked taken)
  have first : s.written.head? = some c := by rw [wrote]; rfl
  obtain ⟨content, readable⟩ := Option.isSome_iff_exists.mp (asking.readable c)
  have exchange := inv.exchange c content readable
  unfold State.service at exchange
  rw [if_pos ⟨taken, first⟩] at exchange
  exact ⟨c, content, first, readable, exchange⟩

/-- **A step of the server with the request it has read.** -/
theorem Inv.server_call (inv : Inv files args s) (asking : Asking files args)
    (taken : s.server.pc.taken = true) (call : ServerCall files s s') : Inv files args s' := by
  obtain ⟨c, content, first, readable, exchange⟩ := inv.serving asking taken
  have small := asking.pid c
  have alone : ∀ d, d ≠ c → s.own args d = s.own args d := fun _ _ => rfl
  have child : ∀ {pc}, s.server.pc = pc → s.server.child.pc = pc.child := by
    rintro pc rfl
    rfl
  have readers := inv.readers
  have linked := inv.linked
  cases call with
  | scan here =>
    rw [here] at readers linked
    exact inv.serve taken first readable rfl rfl rfl readers rfl rfl rfl
      (fun _ => by rw [here]; exact ⟨rfl, rfl⟩) linked alone
      (exchange.child_scan (asking.fits c) small (child here))
  | closeServer here =>
    rw [here] at readers linked
    have same : Server.child { s.server with pc := .openClient } = s.server.child := by
      unfold Server.child
      rw [here]
      rfl
    refine inv.serve taken first readable rfl rfl rfl ?_ (Fifo.closeRead_readOpens _)
      (Fifo.closeRead_writers _) (Fifo.closeRead_writeOpens _) nofun linked alone ?_
    · show s.fifo.closeRead.readers = 0
      rw [Fifo.closeRead_readers, readers]
      rfl
    · show Exchange _ _ _ _ (.child (Server.child { s.server with pc := .openClient }))
      rw [same]
      exact exchange
  | @openClient here f found =>
    have named : s.server.clientBuf.str = clientFifo (args c).pid :=
      exchange.child_name small (child here)
    rw [own_eq named] at found
    rw [found] at exchange
    rw [here] at readers linked
    have next := exchange.child_openClient small (child here)
    refine inv.serve taken first readable rfl rfl ?_ ?_ rfl rfl rfl ?_ ?_
      (fun d ne => own_setFifo_other asking named ne _) ?_
    · show ServerPc.taken (if _ then _ else _) = true
      split <;> rfl
    · show s.fifo.readers = ServerPc.listens (if _ then _ else _)
      split <;> exact readers
    · show ServerPc.closed (if _ then _ else _) = false → _
      split <;> nofun
    · show s.linked = decide ((if _ then _ else _ : ServerPc) ≠ _)
      split <;> exact linked
    · have pc : ServerPc.child (if 0 < f.readers then .openFile else .openingClient f.readOpens) =
          if 0 < f.readers then .openFile else .openingClient f.readOpens := by split <;> rfl
      rw [own_setFifo named]
      show Exchange _ _ _ _ (.child ⟨ServerPc.child (if _ then _ else _), s.server.clientBuf,
        s.server.cpid, s.server.pathname, s.server.clientBuf.str⟩)
      rw [pc]
      exact next
  | openClientFails here absent =>
    obtain ⟨f, own, _⟩ := exchange.child_found (by rw [child here]; decide)
    have named : s.server.clientBuf.str = clientFifo (args c).pid :=
      exchange.child_name small (child here)
    rw [own_eq named, own] at absent
    cases absent
  | @openedClient seen here f found opened =>
    have named : s.server.cfd = clientFifo (args c).pid :=
      exchange.child_named (child here) (le_refl 2)
    rw [own_eq named] at found
    rw [here] at readers linked
    rw [found] at exchange
    have next := exchange.child_openedClient (child here) opened
    rw [← found] at next
    exact inv.serve taken first readable rfl rfl rfl readers rfl rfl rfl nofun linked alone next
  | openFile here opened =>
    rw [here] at readers linked
    exact inv.serve taken first readable rfl rfl rfl readers rfl rfl rfl nofun linked alone
      (exchange.child_openFile readable (child here) opened)
  | openFileFails here absent =>
    have key := (exchange.serves _ rfl).key (by rw [child here]; nofun)
    rw [show s.server.pathname = (args c).pathname from (Prod.mk.inj key).2, readable] at absent
    cases absent
  | @copy rest here =>
    rw [here] at readers linked
    have next := exchange.child_copy (child here)
    refine inv.serve taken first readable rfl rfl ?_ ?_ rfl rfl rfl ?_ ?_ alone ?_
    · show ServerPc.taken (if _ then _ else _) = true
      split <;> rfl
    · show s.fifo.readers = ServerPc.listens (if _ then _ else _)
      split <;> exact readers
    · show ServerPc.closed (if _ then _ else _) = false → _
      split <;> nofun
    · show s.linked = decide ((if _ then _ else _ : ServerPc) ≠ _)
      split <;> exact linked
    · have pc : ServerPc.child (if rest.take 64 = [] then .closeClient
          else .copyWrite (rest.take 64).length (rest.drop 64)) =
          if rest.take 64 = [] then .closeClient
          else .copyWrite (rest.take 64).length (rest.drop 64) := by split <;> rfl
      show Exchange _ _ _ _ (.child ⟨ServerPc.child (if _ then _ else _),
        s.server.buf.overwrite (rest.take 64), s.server.cpid, s.server.pathname, s.server.cfd⟩)
      rw [pc]
      exact next
  | @copyWrite rnum rest here f found reader =>
    have named : s.server.cfd = clientFifo (args c).pid :=
      exchange.child_named (child here) (Nat.le_succ 2)
    rw [own_eq named] at found
    rw [found] at exchange
    rw [here] at readers linked
    refine inv.serve taken first readable rfl rfl rfl readers rfl rfl rfl nofun linked
      (fun d ne => own_setFifo_other asking named ne _) ?_
    rw [own_setFifo named]
    exact exchange.child_copyWrite (child here)
  | copyFails here unread =>
    obtain ⟨f, own, reader⟩ :=
      exchange.child_found (by rw [child here]; exact Nat.le_add_left 1 2)
    have none := unread f ((own_eq (exchange.child_named (child here) (Nat.le_succ 2))).trans own)
    have some := reader (by rw [child here]; rfl)
    omega
  | closeClient here =>
    have named : s.server.cfd = clientFifo (args c).pid :=
      exchange.child_named (child here) (Nat.le_succ 2)
    obtain ⟨f, own, _⟩ := exchange.child_found (by rw [child here]; decide)
    have name : s.fifos s.server.cfd = some f := (own_eq named).trans own
    rw [own] at exchange
    rw [here] at readers linked
    refine inv.serve taken first readable rfl rfl rfl readers rfl rfl rfl nofun linked
      (fun d ne => own_setFifo_other asking named ne _) ?_
    rw [own_setFifo named, name]
    exact exchange.child_closeClient (child here)
  | abort here => exact absurd (child here) (exchange.serves _ rfl).alive
  | unlink here =>
    rw [here] at readers
    have same : Server.child { s.server with pc := .exited } = s.server.child := by
      unfold Server.child
      rw [here]
      rfl
    refine inv.serve taken first readable rfl rfl rfl readers rfl rfl rfl nofun rfl alone ?_
    show Exchange _ _ _ _ (.child (Server.child { s.server with pc := .exited }))
    rw [same]
    exact exchange

/-- **A step of the server.** -/
theorem Inv.server_step (inv : Inv files args s) (asking : Asking files args)
    (step : s.serverStep files = some s') : Inv files args s' := by
  by_cases taken : s.server.pc.taken = true
  · exact inv.server_call asking taken (server_cases step taken)
  · have untaken := Bool.eq_false_iff.mpr taken
    have readers := inv.readers
    have readOpens := inv.readOpens
    unfold State.serverStep at step
    split at step <;> rename_i here
    case h_1 =>
      rw [here] at readers readOpens
      cases step
      have idle := inv.idle here
      have unopened : ¬ 0 < s.fifo.writers → s.fifo.writeOpens = 0 := fun none => by
        by_contra opened
        rcases inv.engaged untaken (Nat.pos_of_ne_zero opened) with wrote | some
        · exact wrote idle
        · exact none some
      have opened : 0 < s.fifo.writers → 0 < s.fifo.writeOpens := by
        intro some
        have writers := inv.writers
        obtain ⟨c, found⟩ : ∃ c, holds (s.client c) = true := exists_of_count_pos (by omega)
        exact inv.came c (arrived_of_holds found)
      refine inv.listen untaken ?_ ?_ rfl (congrArg (· + 1) readers) (congrArg (· + 1) readOpens)
        rfl rfl ?_ ?_
      · split <;> rfl
      · split <;> rfl
      · split
        · nofun
        · intro seen same
          cases same
          exact unopened ‹_›
      · split
        · exact fun _ => opened ‹_›
        · nofun
    case h_2 seen =>
      rw [here] at readers readOpens
      split at step
      · rename_i opened
        rw [inv.waits seen here] at opened
        cases step
        have next : Inv files args { s.serverTo .read with fifo := s.fifo } :=
          inv.listen untaken rfl rfl rfl readers readOpens rfl rfl nofun
            fun _ => Nat.pos_of_ne_zero opened
        exact next
      · cases step
    case h_3 =>
      dsimp only at step
      split at step
      · rename_i found
        cases step
        refine inv.read here fun none => ?_
        rw [none] at found
        exact found rfl
      · rename_i empty
        split at step
        · rename_i none
          -- somebody has written, or is going to
          exfalso
          rcases inv.engaged untaken (inv.reading here) with wrote | some
          · obtain ⟨c, rest, wrote⟩ := List.exists_cons_of_ne_nil wrote
            refine empty fun short => ?_
            rw [inv.unread untaken, wrote, List.flatMap_cons,
              List.take_left' (args c).request.length_eq] at short
            have long := (args c).request.length_eq
            rw [short] at long
            cases long
          · omega
        · cases step
    all_goals rw [here] at untaken; cases untaken

theorem inv_of_reachable {stack : Stack} (asking : Asking files args)
    (reachable : (machine files stack args).Reachable Anything s) : Inv files args s := by
  refine reachable.induct (inv_start files args stack) ?_
  intro s action s' _ inv _ step
  cases action with
  | client c => exact inv.client_step asking step
  | server => exact inv.server_step asking step

/-! ### Where nobody can move -/

/-- Where a client cannot move. -/
theorem client_stuck (stuck : s.clientStep args c = none) :
    (∃ seen, (s.client c).pc = .openingServer seen ∧ s.fifo.readOpens = seen) ∨
    (s.client c).pc = .aborted ∨ (s.client c).pc = .exited ∨
    (∃ seen, (s.client c).pc = .openingClient seen ∧
      ∀ f, s.own args c = some f → f.writeOpens = seen) ∨
    ((s.client c).pc = .read ∧ ∀ f, s.own args c = some f → 0 < f.writers) ∨
    ((s.client c).pc = .closeClient ∧ s.own args c = none) := by
  unfold State.clientStep at stuck
  split at stuck
  · cases stuck
  · rw [Option.map_eq_none_iff] at stuck
    have own : (s.view args c).own = s.own args c := rfl
    have pc : (s.view args c).client.pc = (s.client c).pc := rfl
    unfold View.step at stuck
    rw [pc, own] at stuck
    split at stuck <;> rename_i here
    case h_1 | h_2 | h_5 | h_7 | h_12 => first | cases stuck | (split at stuck <;> cases stuck)
    case h_3 seen =>
      split at stuck
      · cases stuck
      · exact .inl ⟨seen, here, not_not.mp ‹_›⟩
    case h_4 => split at stuck <;> cases stuck
    case h_6 => exact .inr (.inl here)
    case h_8 => split at stuck <;> cases stuck
    case h_9 seen =>
      refine .inr (.inr (.inr (.inl ⟨seen, here, fun f found => ?_⟩)))
      rw [found] at stuck
      by_contra opened
      simp only [if_pos opened] at stuck
      cases stuck
    case h_10 =>
      refine .inr (.inr (.inr (.inr (.inl ⟨here, fun f found => ?_⟩))))
      rw [found] at stuck
      dsimp only at stuck
      split at stuck
      · cases stuck
      · split at stuck
        · cases stuck
        · omega
    case h_11 =>
      refine .inr (.inr (.inr (.inr (.inr ⟨here, ?_⟩))))
      split at stuck
      · cases stuck
      · assumption
    case h_13 => exact .inr (.inr (.inl here))

/-- A client that waits for the server to open the server FIFO waits in vain after that. -/
theorem Inv.client_open (inv : Inv files args s) (listens : s.server.pc.listens = 1)
    (stuck : s.clientStep args c = none) : 2 ≤ (s.client c).pc.stage := by
  have open_ : s.server.pc.closed = false ∧ s.server.pc.opens = 1 := by
    cases which : s.server.pc with
    | openingServer | read | scan | closeServer => exact ⟨rfl, rfl⟩
    | _ =>
      rw [which] at listens
      cases listens
  obtain ⟨asks, present⟩ := inv.asks open_.1 c
  rcases client_stuck stuck with ⟨seen, here, same⟩ | here | here | ⟨_, here, _⟩ | ⟨here, _⟩ |
    ⟨here, _⟩
  · rw [asks.waits seen here, inv.readOpens, open_.2] at same
    cases same
  · exact absurd here present
  all_goals
    rw [here]
    simp [ClientPc.stage]

/-- **Where nobody can move the server has exited.** -/
theorem Inv.server_ended [Nonempty ι] (inv : Inv files args s) (asking : Asking files args)
    (stuck : ∀ action, s.step files args action = none) : s.server.pc = .exited := by
  have server : s.serverStep files = none := stuck .server
  have clients : ∀ c, s.clientStep args c = none := fun c => stuck (.client c)
  unfold State.serverStep at server
  split at server <;> rename_i here
  case h_1 | h_4 | h_5 | h_9 | h_11 | h_12 | h_13 => cases server
  case h_2 seen =>
    split at server
    · cases server
    · rename_i opened
      obtain ⟨c⟩ := ‹Nonempty ι›
      have late := inv.client_open (by rw [here]; rfl) (clients c)
      have came := inv.came c (by
        cases pc : (s.client c).pc <;> rw [pc] at late <;>
          first | rfl | simp [ClientPc.stage] at late)
      rw [not_not.mp opened, inv.waits seen here] at came
      exact absurd came (Nat.lt_irrefl 0)
  case h_3 =>
    dsimp only at server
    split at server
    · cases server
    · split at server
      · cases server
      · rename_i some
        have writers := inv.writers
        obtain ⟨c, found⟩ : ∃ c, holds (s.client c) = true := exists_of_count_pos (by omega)
        have late := inv.client_open (by rw [here]; rfl) (clients c)
        have closing := closing_of_holds found late
        rcases client_stuck (clients c) with
          ⟨_, pc, _⟩ | pc | pc | ⟨_, pc, _⟩ | ⟨pc, _⟩ | ⟨pc, _⟩ <;>
          rw [closing] at pc <;> cases pc
  case h_6 => split at server <;> cases server
  case h_7 seen =>
    obtain ⟨c, content, _, _, exchange⟩ := inv.serving asking (by rw [here]; rfl)
    have child : s.server.child.pc = .openingClient seen := by
      unfold Server.child
      rw [here]
      rfl
    have named : s.server.cfd = clientFifo (args c).pid := exchange.child_named child (le_refl 2)
    have fate := exchange.child_fate child rfl rfl
    obtain ⟨f, found, counts⟩ := fate.own_of_serving (Nat.le_succ 1)
    rw [own_eq named, found] at server
    dsimp only at server
    split at server
    · cases server
    · rename_i opened
      have unopened : f.readOpens = 0 := by
        rw [not_not.mp opened]
        exact (exchange.serves _ rfl).waits seen child
      have asked := exchange.child_asked
      have early : (s.client c).pc.stage = 2 := by
        have readOpens := counts.readOpens
        rw [unopened] at readOpens
        split at readOpens
        · cases readOpens
        · omega
      rcases client_stuck (clients c) with ⟨_, pc, _⟩ | pc | pc | ⟨_, pc, _⟩ | ⟨pc, _⟩ | ⟨pc, _⟩ <;>
        rw [pc] at early <;> cases early
  case h_8 => split at server <;> cases server
  case h_10 =>
    split at server
    · split at server <;> cases server
    · cases server
  case h_14 => exact here

/-- The client that is served gets to its end, and the others do not. -/
theorem Inv.clients_ended (inv : Inv files args s) (asking : Asking files args)
    (exited : s.server.pc = .exited) (stuck : ∀ c, s.clientStep args c = none) (c : ι) :
    (s.written.head? = some c → (s.client c).pc = .exited) ∧
    (s.written.head? ≠ some c → (s.client c).pc = .aborted ∨
      (∃ seen, (s.client c).pc = .openingServer seen) ∨
      ∃ seen, (s.client c).pc = .openingClient seen) := by
  have taken : s.server.pc.taken = true := by rw [exited]; rfl
  obtain ⟨content, readable⟩ := Option.isSome_iff_exists.mp (asking.readable c)
  have exchange := inv.exchange c content readable
  have cases_ := client_stuck (stuck c)
  unfold State.service at exchange
  constructor
  · intro first
    rw [if_pos ⟨taken, first⟩] at exchange
    have child : s.server.child.pc = .exit := by
      unfold Server.child
      rw [exited]
      rfl
    have fate := exchange.child_fate child rfl rfl
    have late := fate.met (.inr (le_refl 1))
    have there : (s.client c).pc.stage ≤ 6 → ∃ f, s.own args c = some f ∧ f.writers = 0 ∧
        f.writeOpens = 1 := fun open_ => by
      obtain ⟨f, own, counts⟩ := fate.present (by omega) open_
      exact ⟨f, own, counts.writers, counts.writeOpens⟩
    rcases cases_ with ⟨_, pc, _⟩ | pc | pc | ⟨seen, pc, waits⟩ | ⟨pc, waits⟩ | ⟨pc, absent⟩
    · rw [pc] at late
      exact absurd late (by simp [ClientPc.stage])
    · rw [pc] at late
      exact absurd late (by simp [ClientPc.stage])
    · exact pc
    · obtain ⟨f, own, _, opens⟩ := there (by rw [pc]; simp [ClientPc.stage])
      have same := waits f own
      rw [exchange.waits seen pc, opens] at same
      cases same
    · obtain ⟨f, own, writers, _⟩ := there (by rw [pc]; simp [ClientPc.stage])
      have some := waits f own
      omega
    · obtain ⟨f, own, _⟩ := there (by rw [pc]; simp [ClientPc.stage])
      rw [absent] at own
      cases own
  · intro other
    rw [if_neg fun both => other both.2] at exchange
    have unserved : ∀ v : Service, v = .stored ∨ v = .unasked → v.stage = 0 ∧ v.served = 0 := by
      rintro v (rfl | rfl) <;> exact ⟨rfl, rfl⟩
    obtain ⟨stage, served⟩ := unserved (if c ∈ s.written then .stored else .unasked)
      (by split <;> simp)
    have entered := exchange.fate.entered
    rw [stage, served] at entered
    have early : ¬ 4 ≤ (s.client c).pc.stage := fun late => by
      rcases entered late with h | h <;> exact absurd h (by decide)
    rcases cases_ with ⟨seen, pc, _⟩ | pc | pc | ⟨seen, pc, _⟩ | ⟨pc, _⟩ | ⟨pc, _⟩
    · exact .inr (.inl ⟨seen, pc⟩)
    · exact .inl pc
    · rw [pc] at early
      exact absurd (by simp [ClientPc.stage]) early
    · exact .inr (.inr ⟨seen, pc⟩)
    · rw [pc] at early
      exact absurd (by simp [ClientPc.stage]) early
    · rw [pc] at early
      exact absurd (by simp [ClientPc.stage]) early

end Inv

/-! ### What `server` does -/

section Runs

variable [Fintype ι] {files : List Char → Option (List Char)} {stack : Stack} {args : ι → Args}
  {s : State ι}

/-- A client that is not served gets nothing, and waits for it. -/
theorem Inv.unserved (inv : Inv files args s) (asking : Asking files args) {c : ι}
    (other : s.written.head? ≠ some c) : (s.client c).output = [] ∧ ¬ Ended (s.client c).pc := by
  obtain ⟨content, readable⟩ := Option.isSome_iff_exists.mp (asking.readable c)
  have exchange := inv.exchange c content readable
  unfold State.service at exchange
  rw [if_neg fun both => other both.2] at exchange
  have facts : ∀ v : Service, v = .stored ∨ v = .unasked →
      v.stage = 0 ∧ v.served = 0 ∧ v.pending content = content := by
    rintro v (rfl | rfl) <;> exact ⟨rfl, rfl, rfl⟩
  obtain ⟨stage, served, pending⟩ := facts (if c ∈ s.written then .stored else .unasked)
    (by split <;> simp)
  constructor
  · have delivers := exchange.delivers
    rw [pending] at delivers
    have none := List.append_cancel_right (delivers.trans (List.nil_append _).symm)
    exact (List.append_eq_nil_iff.mp none).1
  · intro ended
    have entered := exchange.fate.entered
    rw [stage, served] at entered
    rcases entered (Nat.le_of_succ_le ended.stage) with h | h <;> exact absurd h (by decide)

/-- **One client is answered**: the first that has written. What it gets is of its file, and all of
it when it has come to the end; no other client gets anything. When nobody can move the server has
exited, its FIFO has no name any more, and the client it has served has exited; the others have
exited with an error, or wait in `open`. -/
theorem served_once (asking : Asking files args)
    (reachable : (machine files stack args).Reachable Anything s) :
    (∀ c, (s.client c).output ≠ [] ∨ Ended (s.client c).pc → s.written.head? = some c) ∧
    (∀ c content, files (args c).pathname = some content →
      (s.client c).output <+: content ∧
        (Ended (s.client c).pc → (s.client c).output = content)) ∧
    (Nonempty ι → (∀ action, s.step files args action = none) →
      s.server.pc = .exited ∧ s.linked = false ∧
      ∃ c, s.written.head? = some c ∧ (s.client c).pc = .exited ∧
        ∀ d, d ≠ c → (s.client d).pc = .aborted ∨
          (∃ seen, (s.client d).pc = .openingServer seen) ∨
          ∃ seen, (s.client d).pc = .openingClient seen) := by
  have inv := inv_of_reachable asking reachable
  refine ⟨fun c got => ?_, fun c content readable => ?_, fun some stuck => ?_⟩
  · by_contra other
    obtain ⟨none, going⟩ := inv.unserved asking other
    exact got.elim (fun some => some none) going
  · have exchange := inv.exchange c content readable
    exact ⟨exchange.received, fun ended => exchange.output_eq ended.stage⟩
  · have exited := inv.server_ended asking stuck
    have linked := inv.linked
    rw [exited] at linked
    have ended := inv.clients_ended asking exited fun c => stuck (.client c)
    obtain ⟨c, _, first, _⟩ := inv.serving asking (by rw [exited]; rfl)
    refine ⟨exited, linked, c, first, (ended c).1 first, fun d ne => (ended d).2 fun first' => ?_⟩
    exact ne (Option.some.inj (first'.symm.trans first))

end Runs

/-- Both clients write before the server reads. -/
def bothWrite {κ : Type} (a b : κ) : List (Act κ) :=
  [.client a, .client a, .client b, .client b, .server, .client a, .client a, .client b, .client b,
    .server, .client a, .client b, .client a, .client b, .server, .server, .server, .server,
    .server, .client a, .server, .server, .server, .server, .client a, .client a, .client a,
    .client a]

theorem served_once_bothWrite :
    ∃ s, (machine Serverfork.twoFiles Serverfork.emptyStack Serverfork.twoAsk).run
        (start Serverfork.emptyStack) (bothWrite 0 1) = some s ∧
      (s.client 0).output = ['1'] ∧ s.server.pc = .exited ∧
      ((s.client 0).output ≠ [] ∨ Ended (s.client 0).pc → s.written.head? = some 0) := by
  obtain ⟨s, ran⟩ : ∃ s, (machine Serverfork.twoFiles Serverfork.emptyStack Serverfork.twoAsk).run
      (start Serverfork.emptyStack) (bothWrite 0 1) = some s := ⟨_, rfl⟩
  have reachable : (machine Serverfork.twoFiles Serverfork.emptyStack Serverfork.twoAsk).Reachable
      Anything s := Machine.reaches_of_run ran (Machine.admitted_anything _ _)
  have once := (served_once Serverfork.asking_twoAsk reachable).1 0
  refine ⟨s, ran, ?_, ?_, once⟩ <;> cases ran <;> decide

end Unpvol2.Snc.Oneshot
