/-
**What the clients of `serverfork` get.**

The server FIFO is a stream, the children run beside the server and each other, and all that ties a
child to a client is what it has in `buf`. Still:

* `Answered` — every `read` takes one whole request, in the order of the writes, and a child is
  forked for it; that child acts on that request; and what a client gets is its file.
* `Inv` — why: the unread part of the stream is the requests that have not been read, and every
  client has its `Exchange`.
* `answered` — **whatever the interleaving, each client is answered with its own file.**
-/

import Mathlib.Data.List.Nodup
import Unpvol2.Lib.Pool
import Unpvol2.Snc.Exchange

set_option linter.unusedSectionVars false

namespace Unpvol2.Snc.Serverfork

open C Interleaving
open Servern (Client ClientPc Stack View Fate)

variable {ι : Type} [DecidableEq ι]

/-! ### What the server is for -/

/-- The server has read a request and not forked a child for it. -/
def ServerPc.holds : ServerPc → ℕ
  | .fork => 1
  | _ => 0

/-- The client has come to the end of its FIFO. -/
def Ended : ClientPc → Prop
  | .closeClient | .unlink | .exited => True
  | _ => False

/-- **Each client is answered with its own file.** -/
structure Answered (files : List Char → Option (List Char)) (args : ι → Args) (s : State ι) :
    Prop where
  /-- a client writes one request -/
  once : s.written.Nodup
  /-- the reads are the first requests written, each read whole and once -/
  reads : s.reads = (s.written.take s.reads.length).map fun c => (args c).request.bytes
  /-- the other requests are still there -/
  unread : s.fifo.data = (s.written.drop s.reads.length).flatMap fun c => (args c).request.bytes
  /-- one child is forked for each read -/
  forked : s.children.length + s.server.pc.holds = s.reads.length
  /-- the child that was forked for a request acts on it -/
  acts : ∀ (k : ℕ) (x : Child) (c : ι), s.children[k]? = some x → s.written[k]? = some c →
    x.pc ≠ .scan → (x.cpid, x.pathname) = (args c).key
  /-- it writes to the FIFO of that client -/
  answers : ∀ (k : ℕ) (x : Child) (c : ι), s.children[k]? = some x → s.written[k]? = some c →
    2 ≤ x.pc.stage → x.cfd = clientFifo (args c).pid
  /-- what a client has got is of its file -/
  received : ∀ c content, files (args c).pathname = some content →
    (s.client c).output <+: content
  /-- at the end of file it has got all of it -/
  complete : ∀ c content, files (args c).pathname = some content → Ended (s.client c).pc →
    (s.client c).output = content

/-! ### The invariant -/

/-- Where the request is that was written after `k` others. -/
def State.service (s : State ι) (k : ℕ) : Service :=
  match s.children[k]? with
  | some x => .child x
  | none =>
    if k < s.reads.length then .taken
    else if k < s.written.length then .stored
    else .unasked

/-- How many requests were written before that of client `c`. -/
def State.place (s : State ι) (c : ι) : ℕ := s.written.idxOf c

/-- The server has the server FIFO open. -/
def ServerPc.listens : ServerPc → ℕ
  | .openServer => 0
  | _ => 1

theorem ServerPc.listens_le (pc : ServerPc) : pc.listens ≤ 1 := by
  unfold ServerPc.listens
  split <;> omega

/-- The child has the server FIFO open. -/
def Child.inherits (x : Child) : Bool := decide (x.pc ≠ .exited)

/-- What a client knows of the server: it has the server FIFO open when the client writes. -/
structure Asks (listens : ℕ) (pc : ClientPc) : Prop where
  met : pc = .write ∨ 2 ≤ pc.stage → listens = 1
  waits : ∀ seen, pc = .openingServer seen → seen = 0
  alive : pc ≠ .exit

theorem Asks.of_listens {listens : ℕ} (opened : listens = 1) {pc : ClientPc}
    (waits : ∀ seen, pc ≠ .openingServer seen) (alive : pc ≠ .exit) : Asks listens pc :=
  ⟨fun _ => opened, fun seen waiting => absurd waiting (waits seen), alive⟩

/-- **What a client's step keeps**, if it is not the write of its request. -/
theorem Asks.next {listens : ℕ} {request : List Char} {v v' : View Char}
    (asks : Asks listens v.client.pc) (moves : v.Moves request v')
    (asked : v.client.pc ≠ .write) (readers : 0 < v.server.readers ↔ listens = 1)
    (readOpens : v.server.readOpens = listens) (few : listens ≤ 1) :
    Asks listens v'.client.pc ∧ v'.server.data = v.server.data ∧
      v'.server.readers = v.server.readers ∧ v'.server.readOpens = v.server.readOpens := by
  have met : ∀ {pc}, v.client.pc = pc → 2 ≤ pc.stage → listens = 1 := by
    rintro pc rfl late
    exact asks.met (.inr late)
  have closed : listens = 1 → v.server.closeWrite.data = v.server.data := fun opened =>
    Fifo.closeWrite_data fun _ none => by
      have reader := readers.mpr opened
      omega
  have early : Asks listens .openServer := by
    refine ⟨?_, nofun, nofun⟩
    rintro (late | late)
    · cases late
    · exact absurd late (by decide)
  cases moves with
  | mkfifo here | mkfifoExists here => exact ⟨early, rfl, rfl, rfl⟩
  | openServer here =>
    refine ⟨?_, rfl, rfl, rfl⟩
    show Asks listens (if 0 < v.server.readers then .write else .openingServer v.server.readOpens)
    split
    case isTrue reader => exact .of_listens (readers.mp reader) nofun nofun
    case isFalse none =>
      have closed : listens ≠ 1 := fun opened => none (readers.mpr opened)
      refine ⟨?_, ?_, nofun⟩
      · rintro (late | late)
        · cases late
        · exact absurd (show 2 ≤ 1 from late) (by decide)
      · rintro seen ⟨⟩
        omega
  | openedServer here opened =>
    have unopened := asks.waits _ here
    exact ⟨.of_listens (by omega) nofun nofun, rfl, rfl, rfl⟩
  | write here | writeFails here => exact absurd here asked
  | exit here => exact absurd here asks.alive
  | closeServer here =>
    have opened := met here (by decide)
    exact ⟨.of_listens opened nofun nofun, closed opened, Fifo.closeWrite_readers _,
      Fifo.closeWrite_readOpens _⟩
  | openClient here =>
    refine ⟨?_, rfl, rfl, rfl⟩
    split <;> exact .of_listens (met here (by decide)) nofun nofun
  | openClientFails here => exact ⟨.of_listens (met here (by decide)) nofun nofun, rfl, rfl, rfl⟩
  | openedClient here =>
    have opened : 2 ≤ 3 := by decide
    exact ⟨.of_listens (met here opened) nofun nofun, rfl, rfl, rfl⟩
  | read here => exact ⟨asks, rfl, rfl, rfl⟩
  | ended here => exact ⟨.of_listens (met here (by decide)) nofun nofun, rfl, rfl, rfl⟩
  | closeClient here => exact ⟨.of_listens (met here (by decide)) nofun nofun, rfl, rfl, rfl⟩
  | unlink here => exact ⟨.of_listens (met here (by decide)) nofun nofun, rfl, rfl, rfl⟩

/-- The stream is what is left of the requests, and every client has its exchange. -/
structure Inv (files : List Char → Option (List Char)) (args : ι → Args) (s : State ι) : Prop where
  exchange : ∀ c content, files (args c).pathname = some content →
    Exchange (args c) content (s.client c) (s.own args c) (s.service (s.place c))
  once : s.written.Nodup
  reads : s.reads = (s.written.take s.reads.length).map fun c => (args c).request.bytes
  unread : s.fifo.data = (s.written.drop s.reads.length).flatMap fun c => (args c).request.bytes
  forked : s.children.length + s.server.pc.holds = s.reads.length
  held : s.server.pc = .fork → ∀ c, s.written[s.children.length]? = some c →
    s.server.buf = (args c).request
  readers : s.fifo.readers = s.server.pc.listens + s.children.countP Child.inherits
  readOpens : s.fifo.readOpens = s.server.pc.listens
  asks : ∀ c, Asks s.server.pc.listens (s.client c).pc

section Inv

variable {files : List Char → Option (List Char)} {args : ι → Args} {s s' : State ι} {c d : ι}
  {k : ℕ} {x : Child}

theorem inv_start (files : List Char → Option (List Char)) (args : ι → Args) (stack : Stack) :
    Inv files args (start stack) where
  exchange := fun c content readable => by
    refine ⟨⟨rfl, fun _ => rfl, nofun, ?_, nofun, nofun⟩, rfl, nofun, nofun, nofun⟩
    rintro (met | met) <;> cases met
  once := List.nodup_nil
  reads := rfl
  unread := rfl
  forked := rfl
  held := nofun
  readers := rfl
  readOpens := rfl
  asks := fun c => by
    refine ⟨?_, nofun, nofun⟩
    rintro (late | late) <;> cases late

/-! ### Places -/

theorem Inv.reads_le (inv : Inv files args s) : s.reads.length ≤ s.written.length := by
  have length := congrArg List.length inv.reads
  rw [List.length_map, List.length_take] at length
  omega

theorem Inv.children_le (inv : Inv files args s) : s.children.length ≤ s.reads.length := by
  have forked := inv.forked
  omega

theorem service_child (found : s.children[k]? = some x) : s.service k = .child x := by
  unfold State.service
  rw [found]

theorem service_taken (unforked : s.children.length ≤ k) (read : k < s.reads.length) :
    s.service k = .taken := by
  unfold State.service
  rw [List.getElem?_eq_none unforked]
  exact if_pos read

theorem service_stored (unforked : s.children.length ≤ k) (unread : s.reads.length ≤ k)
    (wrote : k < s.written.length) : s.service k = .stored := by
  unfold State.service
  rw [List.getElem?_eq_none unforked]
  exact (if_neg (by omega)).trans (if_pos wrote)

theorem service_unasked (unforked : s.children.length ≤ k) (unread : s.reads.length ≤ k)
    (unwritten : s.written.length ≤ k) : s.service k = .unasked := by
  unfold State.service
  rw [List.getElem?_eq_none unforked]
  exact (if_neg (by omega)).trans (if_neg (by omega))

/-- The client whose request was written after `k` others. -/
theorem Inv.place_eq (inv : Inv files args s) (wrote : s.written[k]? = some c) : s.place c = k := by
  obtain ⟨bound, here⟩ := List.getElem?_eq_some_iff.mp wrote
  unfold State.place
  rw [← here]
  exact inv.once.idxOf_getElem k bound

theorem place_inj (wrote : s.place c < s.written.length) (same : s.place d = s.place c) :
    d = c := by
  have member : c ∈ s.written := List.idxOf_lt_length_iff.mp wrote
  exact ((List.idxOf_inj member).mp same.symm).symm

theorem written_place (wrote : s.place c < s.written.length) :
    s.written[s.place c]? = some c := by
  rw [List.getElem?_eq_getElem wrote]
  exact congrArg some (List.getElem_idxOf wrote)

/-- A child is there for a client, and has its exchange. -/
theorem Inv.served (inv : Inv files args s) (asking : Asking files args)
    (found : s.children[k]? = some x) :
    ∃ c content, s.written[k]? = some c ∧ files (args c).pathname = some content ∧
      Exchange (args c) content (s.client c) (s.own args c) (.child x) := by
  have bound : k < s.children.length := (List.getElem?_eq_some_iff.mp found).1
  have le := inv.children_le
  have le' := inv.reads_le
  obtain ⟨c, wrote⟩ : ∃ c, s.written[k]? = some c := ⟨_, List.getElem?_eq_getElem (by omega)⟩
  obtain ⟨content, readable⟩ := Option.isSome_iff_exists.mp (asking.readable c)
  have exchange := inv.exchange c content readable
  rw [inv.place_eq wrote, service_child found] at exchange
  exact ⟨c, content, wrote, readable, exchange⟩

/-- The server FIFO has a reader exactly if the server has opened it. -/
theorem Inv.readers_iff (inv : Inv files args s) (asking : Asking files args) :
    0 < s.fifo.readers ↔ s.server.pc.listens = 1 := by
  rw [inv.readers]
  constructor
  · intro reader
    by_cases none : s.children.countP Child.inherits = 0
    · have few := s.server.pc.listens_le
      omega
    · obtain ⟨x, member, _⟩ := List.countP_pos_iff.mp (Nat.pos_of_ne_zero none)
      obtain ⟨k, found⟩ := List.getElem?_of_mem member
      obtain ⟨c, content, _, _, exchange⟩ := inv.served asking found
      exact (inv.asks c).met (.inr exchange.child_asked)
  · intro listens
    omega

/-! ### The steps of the clients -/

theorem own_put (v : View Char) : (s.put args c v).own args c = v.own :=
  Function.update_self _ _ _

theorem own_put_other (asking : Asking files args) (ne : d ≠ c) (v : View Char) :
    (s.put args c v).own args d = s.own args d :=
  Function.update_of_ne (asking.name_ne ne) _ _

theorem client_put (v : View Char) : (s.put args c v).client c = v.client :=
  Function.update_self _ _ _

theorem client_put_other (ne : d ≠ c) (v : View Char) :
    (s.put args c v).client d = s.client d :=
  Function.update_of_ne ne _ _

/-- A client's step, other than the write of its request. -/
theorem Inv.put (inv : Inv files args s) (asking : Asking files args) {v : View Char}
    (moves : (s.view args c).Moves (args c).request.bytes v) (asked : (s.client c).pc ≠ .write) :
    Inv files args (s.put args c v) := by
  obtain ⟨asks, data, readers, readOpens⟩ :=
    (inv.asks c).next moves asked (inv.readers_iff asking) inv.readOpens s.server.pc.listens_le
  have written : (s.put args c v).written = s.written := if_neg fun writes => asked writes.1
  have service : (s.put args c v).service = s.service := by
    funext k
    unfold State.service
    rw [written]
    rfl
  have place : (s.put args c v).place = s.place := by
    funext d
    unfold State.place
    rw [written]
  refine ⟨?_, ?_, ?_, ?_, inv.forked, ?_, ?_, ?_, ?_⟩
  · intro d content readable
    rw [service, place]
    by_cases same : d = c
    · subst same
      rw [client_put, own_put]
      exact (inv.exchange d content readable).client moves asked
    · rw [client_put_other same, own_put_other asking same]
      exact inv.exchange d content readable
  · rw [written]
    exact inv.once
  · rw [written]
    exact inv.reads
  · rw [written]
    exact data.trans inv.unread
  · rw [written]
    exact inv.held
  · exact readers.trans inv.readers
  · exact readOpens.trans inv.readOpens
  · intro d
    by_cases same : d = c
    · rw [same, client_put]
      exact asks
    · rw [client_put_other same]
      exact inv.asks d

/-- Client `c` has written its request. -/
theorem Inv.service_written (inv : Inv files args s) (written : s'.written = s.written ++ [c])
    (children : s'.children = s.children) (reads : s'.reads = s.reads) (fresh : c ∉ s.written) :
    s'.service (s'.place c) = .stored ∧ ∀ d, d ≠ c →
      s'.service (s'.place d) = s.service (s.place d) := by
  have le := inv.children_le
  have le' := inv.reads_le
  have length : s'.written.length = s.written.length + 1 := by
    rw [written, List.length_append]
    rfl
  constructor
  · have place : s'.place c = s.written.length := by
      unfold State.place
      rw [written, List.idxOf_append_of_notMem fresh, List.idxOf_cons_self]
      rfl
    rw [place]
    refine service_stored ?_ ?_ ?_
    · rw [children]
      omega
    · rw [reads]
      omega
    · omega
  · intro d ne
    by_cases member : d ∈ s.written
    · have place : s'.place d = s.place d := by
        unfold State.place
        rw [written, List.idxOf_append_of_mem member]
      have bound : s.place d < s.written.length := List.idxOf_lt_length_iff.mpr member
      unfold State.service
      rw [place, children, reads, length, if_pos bound, if_pos (Nat.lt_succ_of_lt bound)]
    · have place : s'.place d = s.written.length + 1 := by
        unfold State.place
        rw [written, List.idxOf_append_of_notMem member, List.idxOf_cons_ne _ ne.symm]
        rfl
      have before : s.place d = s.written.length := List.idxOf_eq_length member
      rw [place, before, service_unasked (by omega) (by omega) (le_refl _)]
      refine service_unasked ?_ ?_ (Nat.le_of_eq length)
      · rw [children]
        omega
      · rw [reads]
        omega

/-- A client that is about to write its request has not written it before. -/
theorem Inv.fresh (inv : Inv files args s) (asking : Asking files args)
    (here : (s.client c).pc = .write) : s.service (s.place c) = .unasked ∧ c ∉ s.written := by
  obtain ⟨content, readable⟩ := Option.isSome_iff_exists.mp (asking.readable c)
  have unasked := (inv.exchange c content readable).unasked here
  refine ⟨unasked, fun member => ?_⟩
  have bound : s.place c < s.written.length := List.idxOf_lt_length_iff.mpr member
  unfold State.service at unasked
  split at unasked
  · cases unasked
  · split at unasked
    · cases unasked
    · cases unasked

/-- A client writes its request. -/
theorem Inv.write (inv : Inv files args s) (asking : Asking files args) {v : View Char}
    (here : (s.client c).pc = .write) (server : v.server = s.fifo.write (args c).request.bytes)
    (own : v.own = s.own args c) (client : v.client = { s.client c with pc := .closeServer }) :
    Inv files args (s.put args c v) := by
  obtain ⟨unasked, fresh⟩ := inv.fresh asking here
  have le := inv.reads_le
  have le' := inv.children_le
  have pc : v.client.pc = .closeServer := by rw [client]
  have written : (s.put args c v).written = s.written ++ [c] := if_pos ⟨here, pc⟩
  obtain ⟨stored, others⟩ := inv.service_written written rfl rfl fresh
  refine ⟨?_, ?_, ?_, ?_, inv.forked, ?_, ?_, ?_, ?_⟩
  · intro d content readable
    by_cases same : d = c
    · subst same
      have exchange := inv.exchange d content readable
      rw [unasked] at exchange
      rw [stored, client_put, own_put, own, client]
      exact exchange.write here
    · rw [others d same, client_put_other same, own_put_other asking same]
      exact inv.exchange d content readable
  · rw [written]
    exact List.Nodup.append inv.once (List.nodup_singleton c) (List.disjoint_singleton.mpr fresh)
  · rw [written]
    show s.reads = ((s.written ++ [c]).take s.reads.length).map _
    rw [List.take_append_of_le_length le]
    exact inv.reads
  · rw [written]
    show v.server.data = ((s.written ++ [c]).drop s.reads.length).flatMap _
    rw [List.drop_append_of_le_length le, List.flatMap_append, server, ← inv.unread,
      List.flatMap_singleton]
    rfl
  · rw [written]
    intro fork d wrote
    have forked := inv.forked
    have holds : s.server.pc.holds = 1 := by rw [show s.server.pc = _ from fork]; rfl
    refine inv.held fork d ?_
    rw [← wrote]
    exact (List.getElem?_append_left (by omega)).symm
  · show v.server.readers = _
    rw [server]
    exact inv.readers
  · show v.server.readOpens = _
    rw [server]
    exact inv.readOpens
  · intro d
    by_cases same : d = c
    · rw [same, client_put, pc]
      exact .of_listens ((inv.asks c).met (.inl here)) nofun nofun
    · rw [client_put_other same]
      exact inv.asks d

/-- **A client's step.** -/
theorem Inv.client_step (inv : Inv files args s) (asking : Asking files args)
    (step : s.clientStep args c = some s') : Inv files args s' := by
  obtain ⟨v, stepped, rfl⟩ := Option.map_eq_some_iff.mp step
  have moves := View.moves stepped
  by_cases asked : (s.client c).pc = .write
  · have reader : 0 < s.fifo.readers :=
      (inv.readers_iff asking).mpr ((inv.asks c).met (.inl asked))
    have writes : v = { (s.view args c).clientTo .closeServer with
        server := s.fifo.write (args c).request.bytes } := by
      unfold View.step at stepped
      rw [show (s.view args c).client.pc = _ from asked] at stepped
      exact (Option.some.inj ((if_pos reader).symm.trans stepped)).symm
    rw [writes]
    exact inv.write asking asked rfl rfl rfl
  · exact inv.put asking moves asked

/-! ### The steps of the server -/

/-- The server goes on without a request. -/
theorem Inv.serverTo (inv : Inv files args s) {old : ServerPc} (here : s.server.pc = old)
    (pc : ServerPc) {fifo : Fifo Char} (data : fifo.data = s.fifo.data) (free : old.holds = 0)
    (holds : pc.holds = 0) (listens : pc.listens = 1)
    (readers : fifo.readers + old.listens = s.fifo.readers + 1)
    (readOpens : fifo.readOpens + old.listens = s.fifo.readOpens + 1) :
    Inv files args { s.serverTo pc with fifo := fifo } := by
  refine ⟨inv.exchange, inv.once, inv.reads, data.trans inv.unread, ?_, ?_, ?_, ?_, ?_⟩
  · have forked := inv.forked
    rw [here, free] at forked
    show s.children.length + pc.holds = _
    rw [holds]
    exact forked
  · intro fork
    rw [show pc = _ from fork] at holds
    cases holds
  · have before := inv.readers
    rw [here] at before
    show fifo.readers = pc.listens + s.children.countP _
    omega
  · have before := inv.readOpens
    rw [here] at before
    show fifo.readOpens = pc.listens
    omega
  · intro c
    obtain ⟨_, waits, alive⟩ := inv.asks c
    exact ⟨fun _ => listens, waits, alive⟩

/-- **A `read` that finds anything takes one whole request**: the first that has not been read. -/
theorem Inv.next (inv : Inv files args s) (found : s.fifo.data ≠ []) :
    ∃ c rest, s.written.drop s.reads.length = c :: rest ∧
      s.fifo.data.take 64 = (args c).request.bytes ∧
      s.fifo.data.drop 64 = rest.flatMap fun c => (args c).request.bytes := by
  have unread := inv.unread
  cases left : s.written.drop s.reads.length with
  | nil =>
    rw [left] at unread
    exact absurd unread found
  | cons c rest =>
    rw [left, List.flatMap_cons] at unread
    have length := (args c).request.length_eq
    refine ⟨c, rest, rfl, ?_, ?_⟩
    · rw [unread, List.take_left' length]
    · rw [unread, List.drop_left' length]

/-- The server's step for a request keeps the exchanges where it keeps them at their places. -/
theorem Inv.exchange_next (inv : Inv files args s) (client : s'.client = s.client)
    (fifos : s'.fifos = s.fifos) (written : s'.written = s.written)
    (service : ∀ d content,
      Exchange (args d) content (s.client d) (s.own args d) (s.service (s.place d)) →
      Exchange (args d) content (s.client d) (s.own args d) (s'.service (s.place d))) (d : ι)
    (content : List Char) (readable : files (args d).pathname = some content) :
    Exchange (args d) content (s'.client d) (s'.own args d) (s'.service (s'.place d)) := by
  have place : s'.place d = s.place d := by
    unfold State.place
    rw [written]
  have own : s'.own args d = s.own args d := by
    unfold State.own
    rw [fifos]
  rw [client, own, place]
  exact service d content (inv.exchange d content readable)

/-- The request of client `c` is read. -/
theorem Inv.exchange_read (inv : Inv files args s) (forked : s.children.length = s.reads.length)
    (wrote : s.written[s.reads.length]? = some c) (client : s'.client = s.client)
    (fifos : s'.fifos = s.fifos) (children : s'.children = s.children)
    (written : s'.written = s.written) (reads : s'.reads.length = s.reads.length + 1) (d : ι)
    (content : List Char) (readable : files (args d).pathname = some content) :
    Exchange (args d) content (s'.client d) (s'.own args d) (s'.service (s'.place d)) := by
  have bound : s.reads.length < s.written.length := (List.getElem?_eq_some_iff.mp wrote).1
  have place := inv.place_eq wrote
  refine inv.exchange_next client fifos written (fun d content exchange => ?_) d content readable
  by_cases same : d = c
  · rw [same, place] at exchange ⊢
    rw [service_stored (Nat.le_of_eq forked) (le_refl _) bound] at exchange
    rw [service_taken (by rw [children, forked]) (by omega)]
    exact exchange.take
  · have away : s.place d ≠ s.reads.length := by
      rw [← place]
      exact fun equal => same (place_inj (by omega) equal)
    have service : s'.service (s.place d) = s.service (s.place d) := by
      unfold State.service
      rw [children, written, reads]
      by_cases before : s.place d < s.reads.length
      · rw [if_pos before, if_pos (by omega)]
      · rw [if_neg before, if_neg (by omega)]
    rw [service]
    exact exchange

/-- The server reads a request. -/
theorem Inv.read (inv : Inv files args s) (here : s.server.pc = .read) (found : s.fifo.data ≠ []) :
    Inv files args { s with
      server := { s.server with
        pc := .fork, buf := s.server.buf.overwrite (s.fifo.data.take 64) }
      fifo := s.fifo.drop 64
      reads := s.reads ++ [s.fifo.data.take 64] } := by
  obtain ⟨c, rest, left, bytes, others⟩ := inv.next found
  have forked : s.children.length = s.reads.length := by
    have forked := inv.forked
    rw [here] at forked
    exact forked
  have wrote : s.written[s.reads.length]? = some c := by
    have first := congrArg (fun l => l[0]?) left
    rw [List.getElem?_drop] at first
    exact first
  have length : (s.reads ++ [s.fifo.data.take 64]).length = s.reads.length + 1 :=
    List.length_append
  have listens : s.server.pc.listens = 1 := by
    rw [here]
    rfl
  refine ⟨inv.exchange_read forked wrote rfl rfl rfl rfl length, inv.once, ?_, ?_, ?_, ?_, ?_, ?_,
    ?_⟩
  · show s.reads ++ [_] = (s.written.take (s.reads ++ [_]).length).map _
    rw [length, List.take_add_one (l := s.written), wrote, Option.toList_some, List.map_append,
      List.map_singleton, ← inv.reads, bytes]
  · show s.fifo.data.drop 64 = (s.written.drop (s.reads ++ [_]).length).flatMap _
    rw [length, ← List.drop_drop, left]
    exact others
  · exact (congrArg (· + 1) forked).trans length.symm
  · intro _ d next
    have same : some c = some d := by
      rw [← wrote, ← forked]
      exact next
    cases same
    rw [show State.server _ = _ from rfl, bytes]
    exact Buffer.overwrite_full _ _
  · have readers := inv.readers
    rw [listens] at readers
    exact readers
  · have readOpens := inv.readOpens
    rw [listens] at readOpens
    exact readOpens
  · intro d
    have asks := inv.asks d
    rw [listens] at asks
    exact asks

/-- A child is forked for the request that has been read. -/
theorem Inv.exchange_fork (inv : Inv files args s) {y : Child} (fresh : y.pc = .scan)
    (unforked : s.reads.length = s.children.length + 1)
    (buf : ∀ c, s.written[s.children.length]? = some c → y.buf = (args c).request)
    (client : s'.client = s.client) (fifos : s'.fifos = s.fifos)
    (children : s'.children = s.children ++ [y]) (written : s'.written = s.written)
    (reads : s'.reads = s.reads) (d : ι) (content : List Char)
    (readable : files (args d).pathname = some content) :
    Exchange (args d) content (s'.client d) (s'.own args d) (s'.service (s'.place d)) := by
  have le := inv.reads_le
  refine inv.exchange_next client fifos written (fun d content exchange => ?_) d content readable
  by_cases here : s.place d = s.children.length
  · have wrote := written_place (show s.place d < s.written.length by omega)
    rw [here] at exchange wrote ⊢
    rw [service_taken (le_refl _) (by omega)] at exchange
    have found : s'.children[s.children.length]? = some y := by
      rw [children]
      exact List.getElem?_concat_length
    rw [service_child found]
    exact exchange.fork fresh (buf d wrote)
  · have service : s'.service (s.place d) = s.service (s.place d) := by
      have same : s'.children[s.place d]? = s.children[s.place d]? := by
        rw [children]
        by_cases before : s.place d < s.children.length
        · exact List.getElem?_append_left before
        · have length : (s.children ++ [y]).length = s.children.length + 1 := List.length_append
          rw [List.getElem?_eq_none (by omega), List.getElem?_eq_none (by omega)]
      unfold State.service
      rw [same, written, reads]
    rw [service]
    exact exchange

/-- The server forks a child for it. -/
theorem Inv.fork (inv : Inv files args s) (here : s.server.pc = .fork) :
    Inv files args { s.serverTo .read with
      children := s.children ++ [⟨.scan, s.server.buf, s.server.cpid, s.server.pathname, []⟩]
      fifo := s.fifo.dupRead } := by
  have unforked : s.reads.length = s.children.length + 1 := by
    have forked := inv.forked
    rw [here] at forked
    exact forked.symm
  have listens : s.server.pc.listens = 1 := by
    rw [here]
    rfl
  refine ⟨inv.exchange_fork rfl unforked (inv.held here) rfl rfl rfl rfl rfl, inv.once, inv.reads,
    inv.unread, ?_, nofun, ?_, ?_, ?_⟩
  · exact List.length_append.trans unforked.symm
  · have readers := inv.readers
    rw [listens] at readers
    show s.fifo.readers + 1 = 1 + (s.children ++ [_]).countP _
    rw [List.countP_append, readers]
    rfl
  · have readOpens := inv.readOpens
    rw [listens] at readOpens
    exact readOpens
  · intro d
    have asks := inv.asks d
    rw [listens] at asks
    exact asks

/-- **A step of the server.** -/
theorem Inv.server_step (inv : Inv files args s) (step : s.serverStep = some s') :
    Inv files args s' := by
  unfold State.serverStep at step
  split at step
  case h_1 here =>
    cases step
    dsimp only
    split
    · exact inv.serverTo here .read rfl rfl rfl rfl rfl rfl
    · exact inv.serverTo here (.openingServer _) rfl rfl rfl rfl rfl rfl
  case h_2 here =>
    split at step
    · cases step
      exact inv.serverTo here .read rfl rfl rfl rfl rfl rfl
    · cases step
  case h_3 here =>
    dsimp only at step
    split at step
    case isTrue found =>
      cases step
      refine inv.read here ?_
      rintro none
      rw [none] at found
      exact found rfl
    case isFalse =>
      split at step
      · cases step
        exact inv
      · cases step
  case h_4 here =>
    cases step
    exact inv.fork here

/-! ### The steps of the children -/

/-- A FIFO that is found under the name of client `c` is the client's. -/
theorem own_eq {name : List Char} (named : name = clientFifo (args c).pid) :
    s.fifos name = s.own args c := by
  rw [named]
  rfl

theorem own_setFifo {name : List Char} (named : name = clientFifo (args c).pid)
    (f : Option (Fifo Char)) : (s.setFifo name f).own args c = f := by
  rw [named]
  exact Function.update_self _ _ _

theorem own_setFifo_other (asking : Asking files args) {name : List Char}
    (named : name = clientFifo (args c).pid) (ne : d ≠ c) (f : Option (Fifo Char)) :
    (s.setFifo name f).own args d = s.own args d := by
  rw [named]
  exact Function.update_of_ne (asking.name_ne ne) _ _

/-- The child of client `c` becomes `y`. -/
theorem Inv.child (inv : Inv files args s) (found : s.children[k]? = some x)
    (wrote : s.written[k]? = some c) {content : List Char}
    (readable : files (args c).pathname = some content) {y : Child}
    (children : s'.children = s.children.set k y) (client : s'.client = s.client)
    (server : s'.server = s.server) (written : s'.written = s.written) (reads : s'.reads = s.reads)
    (data : s'.fifo.data = s.fifo.data) (readOpens : s'.fifo.readOpens = s.fifo.readOpens)
    (readers : s'.fifo.readers + x.inherits.toNat = s.fifo.readers + y.inherits.toNat)
    (others : ∀ d, d ≠ c → s'.own args d = s.own args d)
    (exchange : Exchange (args c) content (s.client c) (s'.own args c) (.child y)) :
    Inv files args s' := by
  have bound : k < s.children.length := (List.getElem?_eq_some_iff.mp found).1
  have place := inv.place_eq wrote
  have length : s'.children.length = s.children.length := by
    rw [children, List.length_set]
  have same_place : s'.place = s.place := by
    funext d
    unfold State.place
    rw [written]
  refine ⟨?_, ?_, ?_, ?_, ?_, ?_, ?_, ?_, ?_⟩
  · intro d content' readable'
    rw [client, same_place]
    by_cases same : d = c
    · subst same
      cases readable.symm.trans readable'
      have moved : s'.children[k]? = some y := by
        rw [children]
        exact List.getElem?_set_self bound
      rw [place, service_child moved]
      exact exchange
    · have away : k ≠ s.place d := by
        rintro rfl
        obtain ⟨lt, _⟩ := List.getElem?_eq_some_iff.mp wrote
        exact same (place_inj (by omega) place.symm)
      have service : s'.service (s.place d) = s.service (s.place d) := by
        unfold State.service
        rw [children, List.getElem?_set_ne away, written, reads]
      rw [service, others d same]
      exact inv.exchange d content' readable'
  · rw [written]
    exact inv.once
  · rw [written, reads]
    exact inv.reads
  · rw [data, written, reads]
    exact inv.unread
  · rw [length, server, reads]
    exact inv.forked
  · rw [length, server, written]
    exact inv.held
  · have count := pool_countP found Child.inherits y
    have before := inv.readers
    rw [server, children]
    omega
  · rw [readOpens, server]
    exact inv.readOpens
  · rw [client, server]
    exact inv.asks

/-- The child goes on to `y`, and has the server FIFO open as before. -/
theorem Inv.child_goes (inv : Inv files args s) (found : s.children[k]? = some x)
    (wrote : s.written[k]? = some c) {content : List Char}
    (readable : files (args c).pathname = some content) {y : Child} (running : x.pc ≠ .exited)
    (children : s'.children = s.children.set k y) (client : s'.client = s.client)
    (server : s'.server = s.server) (written : s'.written = s.written) (reads : s'.reads = s.reads)
    (fifo : s'.fifo = s.fifo) (still : y.pc ≠ .exited)
    (others : ∀ d, d ≠ c → s'.own args d = s.own args d)
    (exchange : Exchange (args c) content (s.client c) (s'.own args c) (.child y)) :
    Inv files args s' := by
  refine inv.child found wrote readable children client server written reads (by rw [fifo])
    (by rw [fifo]) ?_ others exchange
  have before : x.inherits = true := decide_eq_true running
  have after : y.inherits = true := decide_eq_true still
  rw [fifo, before, after]

/-- **A child's step.** -/
theorem Inv.child_step (inv : Inv files args s) (asking : Asking files args)
    (found : s.children[k]? = some x) (call : ChildCall files s k x s') : Inv files args s' := by
  obtain ⟨c, content, wrote, readable, exchange⟩ := inv.served asking found
  have small := asking.pid c
  have alone : ∀ d, d ≠ c → s.own args d = s.own args d := fun _ _ => rfl
  have running : ∀ {pc}, x.pc = pc → pc ≠ .exited → x.pc ≠ .exited := by
    rintro pc rfl other
    exact other
  cases call with
  | scan here =>
    exact inv.child_goes found wrote readable (running here nofun) rfl rfl rfl rfl rfl rfl nofun
      alone (exchange.child_scan (asking.fits c) small here)
  | @openClient here f name =>
    have named := exchange.child_name small here
    rw [own_eq named] at name
    rw [name] at exchange
    refine inv.child_goes found wrote readable (running here nofun) rfl rfl rfl rfl rfl rfl ?_
      (fun d ne => own_setFifo_other asking named ne _) ?_
    · dsimp only
      split <;> nofun
    · rw [own_setFifo named]
      exact exchange.child_openClient small here
  | openClientFails here absent =>
    obtain ⟨f, own, _⟩ := exchange.child_found (by rw [here]; decide)
    rw [own_eq (exchange.child_name small here), own] at absent
    cases absent
  | @openedClient seen here f name opened =>
    rw [own_eq (exchange.child_named here (le_refl 2))] at name
    rw [name] at exchange
    have next := exchange.child_openedClient here opened
    rw [← name] at next
    exact inv.child_goes found wrote readable (running here nofun) rfl rfl rfl rfl rfl rfl nofun
      alone next
  | openFile here opened =>
    exact inv.child_goes found wrote readable (running here nofun) rfl rfl rfl rfl rfl rfl nofun
      alone (exchange.child_openFile readable here opened)
  | openFileFails here absent =>
    have key := (exchange.serves x rfl).key (by rw [here]; nofun)
    rw [(Prod.mk.inj key).2, show files (args c).pathname = _ from readable] at absent
    cases absent
  | copy here =>
    refine inv.child_goes found wrote readable (running here nofun) rfl rfl rfl rfl rfl rfl ?_
      alone (exchange.child_copy here)
    dsimp only
    split <;> nofun
  | @copyWrite rnum rest here f name reader =>
    have named := exchange.child_named here (Nat.le_succ 2)
    rw [own_eq named] at name
    rw [name] at exchange
    refine inv.child_goes found wrote readable (running here nofun) rfl rfl rfl rfl rfl rfl nofun
      (fun d ne => own_setFifo_other asking named ne _) ?_
    rw [own_setFifo named]
    exact exchange.child_copyWrite here
  | copyFails here unread =>
    obtain ⟨f, own, reader⟩ := exchange.child_found (by rw [here]; exact Nat.le_add_left 1 2)
    have none := unread f ((own_eq (exchange.child_named here (Nat.le_succ 2))).trans own)
    have some := reader (by rw [here]; rfl)
    omega
  | closeClient here =>
    have named := exchange.child_named here (Nat.le_succ 2)
    obtain ⟨f, own, _⟩ := exchange.child_found (by rw [here]; decide)
    have name : s.fifos x.cfd = some f := (own_eq named).trans own
    rw [own] at exchange
    refine inv.child_goes found wrote readable (running here nofun) rfl rfl rfl rfl rfl rfl nofun
      (fun d ne => own_setFifo_other asking named ne _) ?_
    rw [own_setFifo named, name]
    exact exchange.child_closeClient here
  | abort here => exact absurd here (exchange.serves x rfl).alive
  | exit here =>
    have reader : s.server.pc.listens = 1 := (inv.asks c).met (.inr exchange.child_asked)
    have before : x.inherits = true := decide_eq_true (running here nofun)
    have after : (x.goes .exited).inherits = false := rfl
    have count := pool_countP found Child.inherits (x.goes .exited)
    have readers := inv.readers
    rw [before, after, Bool.toNat_true, Bool.toNat_false] at count
    have two : 2 ≤ s.fifo.readers := by
      rw [readers, reader]
      omega
    refine inv.child found wrote readable rfl rfl rfl rfl rfl ?_ ?_ ?_ alone
      (exchange.child_exit here)
    · exact Fifo.closeRead_data fun last => by omega
    · exact Fifo.closeRead_readOpens _
    · rw [before, after]
      show s.fifo.closeRead.readers + 1 = s.fifo.readers + 0
      rw [Fifo.closeRead_readers]
      omega

end Inv

/-! ### The answers of a run -/

section Runs

variable {files : List Char → Option (List Char)} {stack : Stack} {args : ι → Args} {s : State ι}

theorem inv_of_reachable (asking : Asking files args)
    (reachable : (machine files stack args).Reachable Forks s) : Inv files args s := by
  refine reachable.induct (inv_start files args stack) ?_
  intro s action s' _ inv forks step
  cases action with
  | client c => exact inv.client_step asking step
  | server => exact inv.server_step step
  | forkFails => exact absurd forks id
  | child k =>
    obtain ⟨x, found, call⟩ := child_cases step
    exact inv.child_step asking found call

/-- A child serves the client whose request was read for it. -/
theorem Inv.serves (inv : Inv files args s) (asking : Asking files args) {k : ℕ} {x : Child} {c : ι}
    (found : s.children[k]? = some x) (wrote : s.written[k]? = some c) : x.Serves (args c) := by
  obtain ⟨d, content, wrote', _, exchange⟩ := inv.served asking found
  cases wrote.symm.trans wrote'
  exact exchange.serves x rfl

theorem Ended.stage {pc : ClientPc} (ended : Ended pc) : 5 ≤ pc.stage := by
  unfold Ended at ended
  split at ended
  · exact le_refl 5
  · exact Nat.le_succ 5
  · exact Nat.le_add_right 5 2
  · exact absurd ended id

/-- **Whatever the interleaving, each client is answered with its own file**, as long as every
`fork` succeeds. -/
theorem answered (asking : Asking files args)
    (reachable : (machine files stack args).Reachable Forks s) : Answered files args s := by
  have inv := inv_of_reachable asking reachable
  refine ⟨inv.once, inv.reads, inv.unread, inv.forked, ?_, ?_, ?_, ?_⟩
  · intro k x c found wrote scanned
    exact (inv.serves asking found wrote).key scanned
  · intro k x c found wrote opened
    exact (inv.serves asking found wrote).named opened
  · intro c content readable
    exact (inv.exchange c content readable).received
  · intro c content readable ended
    exact (inv.exchange c content readable).output_eq ended.stage

end Runs

/-! ### Two clients at once -/

/-- Two clients that ask for two files. -/
def twoAsk : Fin 2 → Args :=
  fun c => ⟨c + 1, if c = 0 then ['f'] else ['g'], Buffer.filled nul⟩

def twoFiles (pathname : List Char) : Option (List Char) :=
  if pathname = ['f'] then some ['1']
  else if pathname = ['g'] then some ['2', '3']
  else none

def emptyStack : Stack := ⟨Buffer.filled nul, 0, []⟩

theorem asking_twoAsk : Asking twoFiles twoAsk where
  distinct := by
    intro c d same
    have pids : c.val + 1 = d.val + 1 := same
    exact Fin.ext (by omega)
  pid := by decide
  fits := by
    have fits : ∀ (pid : ℕ) (letter : Char) (buf : Buffer 64), (decimal pid).length = 1 →
        isspace letter = false ∧ letter ≠ nul → Args.Fits ⟨pid, [letter], buf⟩ := by
      intro pid letter buf short solid
      refine ⟨nofun, fun c member => ?_, ?_⟩
      · rw [List.mem_singleton.mp member]
        exact solid
      · show (decimal pid).length + 1 + 1 ≤ 63
        omega
    intro c
    match c with
    | 0 => exact fits 1 'f' _ (by decide) (by decide)
    | 1 => exact fits 2 'g' _ (by decide) (by decide)
  readable := by decide

/-- Both requests are in the stream when the server reads, and the second child is done first. -/
def bothAsk : List (Act (Fin 2)) :=
  [.client 0, .client 0, .server, .client 0, .client 0, .client 0, .client 1, .client 1, .client 1,
    .client 1, .server, .server, .server, .server, .client 0, .client 1, .child 0, .child 1,
    .child 1, .child 0, .child 1, .child 1, .child 1, .child 1, .child 1, .child 1, .client 1,
    .client 1, .client 1, .child 0, .child 0, .child 0, .child 0, .child 0, .client 0, .client 0,
    .client 0]

theorem answered_twoAsk : Asking twoFiles twoAsk ∧
    (machine twoFiles emptyStack twoAsk).Reachable Forks
      ((machine twoFiles emptyStack twoAsk).after bothAsk) ∧
    Answered twoFiles twoAsk ((machine twoFiles emptyStack twoAsk).after bothAsk) := by
  have reachable : (machine twoFiles emptyStack twoAsk).Reachable Forks
      ((machine twoFiles emptyStack twoAsk).after bothAsk) :=
    Machine.reachable_after (by decide) (by decide)
  exact ⟨asking_twoAsk, reachable, answered asking_twoAsk reachable⟩

end Unpvol2.Snc.Serverfork
