/-
**A client of `serverfork` and its child.**

`Service` is where the request of a client is, and in the end the child that serves it. `Exchange`
is what holds between the client, its FIFO and that child: the client's `Fate`, what the child knows
of the client (`Child.Serves`), and where the bytes of the file are. Of the file the client has
printed some, its FIFO holds some, and the child has the rest (`delivers`).

The lemmas of `Exchange` are the moves of the two sides, one for each call.
-/

import Unpvol2.Snc.Requests
import Unpvol2.Snc.Serverfork

namespace Unpvol2.Snc.Serverfork

open C Interleaving
open Servern (Client ClientPc View Fate Counts)

/-! ### The child -/

/-- How far the child has got with its client. -/
def ChildPc.stage : ChildPc → ℕ
  | .scan | .openClient => 1
  | .openingClient _ => 2
  | .openFile | .copy _ | .copyWrite _ _ | .closeClient | .abort => 3
  | .exit | .exited => 0

/-- The child has closed the client's FIFO. -/
def ChildPc.served : ChildPc → ℕ
  | .exit | .exited => 1
  | _ => 0

/-- What the child has still to write of the file. -/
def Child.pending (x : Child) (content : List Char) : List Char :=
  match x.pc with
  | .scan | .openClient | .openingClient _ | .openFile => content
  | .copy rest => rest
  | .copyWrite rnum rest => x.buf.bytes.take rnum ++ rest
  | .closeClient | .abort | .exit | .exited => []

/-- **The child acts on the request of this client.** -/
structure Child.Serves (x : Child) (a : Args) : Prop where
  unscanned : x.pc = .scan → x.buf = a.request
  key : x.pc ≠ .scan → (x.cpid, x.pathname) = a.key
  named : 2 ≤ x.pc.stage → x.cfd = clientFifo a.pid
  waits : ∀ seen, x.pc = .openingClient seen → seen = 0
  alive : x.pc ≠ .abort

/-- The child goes on. -/
theorem Child.Serves.goes {x y : Child} {a : Args} (serves : x.Serves a) (scanned : x.pc ≠ .scan)
    (unscanned : y.pc ≠ .scan) (cpid : y.cpid = x.cpid) (pathname : y.pathname = x.pathname)
    (named : 2 ≤ y.pc.stage → y.cfd = clientFifo a.pid)
    (waits : ∀ seen, y.pc = .openingClient seen → seen = 0) (alive : y.pc ≠ .abort) :
    y.Serves a := by
  refine ⟨fun scan => absurd scan unscanned, fun _ => ?_, named, waits, alive⟩
  rw [cpid, pathname]
  exact serves.key scanned

/-! ### The request of a client -/

/-- Where the request of a client is. -/
inductive Service
  /-- it has not been written -/
  | unasked
  /-- in the server FIFO -/
  | stored
  /-- in `buf` of the server -/
  | taken
  /-- a child has been forked for it -/
  | child (x : Child)

namespace Service

def stage : Service → ℕ
  | unasked | stored => 0
  | taken => 1
  | child x => x.pc.stage

def inFifo : Service → ℕ
  | stored => 1
  | _ => 0

def served : Service → ℕ
  | child x => x.pc.served
  | _ => 0

def pending (content : List Char) : Service → List Char
  | child x => x.pending content
  | _ => content

/-- A request that is nowhere has not been written. -/
theorem eq_unasked {v : Service} (stored : v.inFifo = 0) (stage : v.stage = 0)
    (served : v.served = 0) : v = unasked := by
  cases v with
  | unasked => rfl
  | stored => cases stored
  | taken => cases stage
  | child x =>
    obtain ⟨pc, _, _, _, _⟩ := x
    cases pc <;> cases stage <;> cases served

/-- The child that has closed the client's FIFO has written all of the file. -/
theorem pending_of_served {v : Service} (served : 1 ≤ v.served) (content : List Char) :
    v.pending content = [] := by
  cases v with
  | child x =>
    obtain ⟨pc, _, _, _, _⟩ := x
    cases pc <;> first | rfl | cases served
  | _ => cases served

end Service

/-! ### The two sides -/

/-- What a client FIFO holds. -/
def unread (own : Option (Fifo Char)) : List Char := (own.map Fifo.data).getD []

/-- A client that is to get `content`, its FIFO, and where its request is. -/
structure Exchange (a : Args) (content : List Char) (x : Client) (own : Option (Fifo Char))
    (v : Service) : Prop where
  fate : Fate x.pc.stage v.stage own v.inFifo v.served
  delivers : x.output ++ unread own ++ v.pending content = content
  drained : 5 ≤ x.pc.stage → unread own = []
  waits : ∀ seen, x.pc = .openingClient seen → seen = 0
  serves : ∀ y, v = .child y → y.Serves a

section Moves

variable {a : Args} {content : List Char} {x : Client} {own : Option (Fifo Char)} {v : Service}
  {f : Fifo Char}

/-- **At the end of file the client has the file.** -/
theorem Exchange.output_eq (exchange : Exchange a content x own v) (late : 5 ≤ x.pc.stage) :
    x.output = content := by
  obtain ⟨⟨_, _, _, _, entered, left⟩, delivers, drained, _, _⟩ := exchange
  have closed := left late
  have served : 1 ≤ v.served := by
    rcases entered (by omega) with served | serving
    · exact served
    · omega
  rw [drained late, Service.pending_of_served served, List.append_nil, List.append_nil] at delivers
  exact delivers

/-- Before it has begun of the file. -/
theorem Exchange.received (exchange : Exchange a content x own v) : x.output <+: content := by
  refine ⟨unread own ++ v.pending content, ?_⟩
  rw [← List.append_assoc]
  exact exchange.delivers

/-! #### Moves of the client -/

/-- The client goes on, and leaves the bytes in its FIFO alone. -/
theorem Exchange.goes (exchange : Exchange a content x own v) {pc : ClientPc}
    {f' : Option (Fifo Char)} (fate : Fate pc.stage v.stage f' v.inFifo v.served)
    (data : unread f' = unread own) (drained : 5 ≤ pc.stage → unread f' = [])
    (waits : ∀ seen, pc = .openingClient seen → seen = 0) :
    Exchange a content { x with pc := pc } f' v := by
  refine ⟨fate, ?_, drained, waits, exchange.serves⟩
  rw [data]
  exact exchange.delivers

/-- **A client's step**, other than the write of its request. -/
theorem Exchange.client {request : List Char} {w w' : View Char}
    (exchange : Exchange a content w.client w.own v) (moves : w.Moves request w')
    (asked : w.client.pc ≠ .write) : Exchange a content w'.client w'.own v := by
  have at_stage : ∀ {pc n}, w.client.pc = pc → pc.stage = n →
      Fate n v.stage w.own v.inFifo v.served := by
    rintro pc n rfl rfl
    exact exchange.fate
  cases moves with
  | mkfifo here absent =>
    refine exchange.goes (at_stage here rfl).mkfifo ?_ nofun nofun
    rw [absent]
    rfl
  | mkfifoExists here exist =>
    have absent := (at_stage here rfl).absent rfl
    rw [exist] at absent
    cases absent
  | openServer here =>
    split <;> exact exchange.goes (at_stage here rfl) rfl nofun nofun
  | openedServer here opened => exact exchange.goes (at_stage here rfl) rfl nofun nofun
  | write here | writeFails here => exact absurd here asked
  | exit here => exact exchange.goes (at_stage here rfl) rfl nofun nofun
  | closeServer here => exact exchange.goes (at_stage here rfl) rfl nofun nofun
  | openClient here found =>
    have fate := at_stage here rfl
    rw [found] at fate
    have next := fate.openClient
    have data : ∀ f : Fifo Char, unread (some f.openRead) = unread (some f) := fun _ => rfl
    split
    case isTrue writer =>
      rw [if_pos writer] at next
      exact exchange.goes next (by rw [found, data]) nofun nofun
    case isFalse none =>
      rw [if_neg none] at next
      refine exchange.goes next (by rw [found, data]) nofun ?_
      intro seen waiting
      cases waiting
      exact fate.unwritten none
  | openClientFails here absent =>
    obtain ⟨f, found, _⟩ := (at_stage here rfl).present (by decide) (by decide)
    rw [absent] at found
    cases found
  | openedClient here found opened =>
    have fate := at_stage here rfl
    rw [exchange.waits _ here] at opened
    rw [found] at fate
    have next := fate.openedClient opened
    rw [← found] at next
    exact exchange.goes next rfl nofun nofun
  | @read here f found =>
    have fate := exchange.fate
    have delivers := exchange.delivers
    rw [found] at fate delivers
    refine ⟨fate.data, ?_, ?_, ?_, exchange.serves⟩
    · show w.client.output ++ f.data.take 64 ++ f.data.drop 64 ++ _ = content
      rw [List.append_assoc w.client.output, List.take_append_drop]
      exact delivers
    · intro late
      have early : ClientPc.stage w.client.pc = 4 := by rw [here]; rfl
      have late : 5 ≤ w.client.pc.stage := late
      omega
    · intro seen waiting
      exact exchange.waits seen waiting
  | ended here found atEnd =>
    have fate := at_stage here rfl
    rw [found] at fate
    have next := fate.ended atEnd.2
    rw [← found] at next
    have drained : unread w.own = [] := by
      rw [found]
      exact atEnd.1
    exact exchange.goes next rfl (fun _ => drained) nofun
  | @closeClient here f found =>
    have fate := at_stage here rfl
    have drained := exchange.drained (by rw [here]; decide)
    rw [found] at fate drained
    have data : f.closeRead.data = f.data := Fifo.closeRead_data fun _ _ => drained
    refine exchange.goes fate.closeClient ?_ ?_ nofun
    · rw [found]
      exact data
    · intro _
      exact data.trans drained
  | unlink here =>
    have drained := exchange.drained (by rw [here]; decide)
    exact exchange.goes (at_stage here rfl).unlink drained.symm (fun _ => rfl) nofun

/-- A client that is about to write its request has not written it. -/
theorem Exchange.unasked (exchange : Exchange a content x own v) (here : x.pc = .write) :
    v = .unasked := by
  have accounted := exchange.fate.accounted
  rw [here, if_neg (show ¬ 2 ≤ ClientPc.stage .write by decide)] at accounted
  by_cases serves : 1 ≤ v.stage
  · rw [if_pos serves] at accounted
    omega
  · exact Service.eq_unasked (by omega) (by omega) (by omega)

/-- **The client writes its request.** -/
theorem Exchange.write (exchange : Exchange a content x own .unasked) (here : x.pc = .write) :
    Exchange a content { x with pc := .closeServer } own .stored := by
  have fate := exchange.fate
  rw [here] at fate
  exact ⟨fate.write, exchange.delivers, nofun, nofun, nofun⟩

/-! #### Moves of the server -/

/-- The server reads the request. -/
theorem Exchange.take (exchange : Exchange a content x own .stored) :
    Exchange a content x own .taken :=
  ⟨exchange.fate.take, exchange.delivers, exchange.drained, exchange.waits, nofun⟩

/-- The server forks a child for it. -/
theorem Exchange.fork (exchange : Exchange a content x own .taken) {y : Child}
    (fresh : y.pc = .scan) (buf : y.buf = a.request) : Exchange a content x own (.child y) := by
  obtain ⟨fate, delivers, drained, waits, _⟩ := exchange
  obtain ⟨pc, b, cpid, pathname, cfd⟩ := y
  cases fresh
  refine ⟨fate, delivers, drained, waits, ?_⟩
  rintro _ ⟨⟩
  exact ⟨fun _ => buf, fun scanned => absurd rfl scanned, nofun, nofun, nofun⟩

/-! #### Moves of the child -/

/-- The child goes on from `y` to `z`. -/
theorem Exchange.child {y z : Child} {f' : Option (Fifo Char)}
    (exchange : Exchange a content x own (.child y))
    (fate : Fate x.pc.stage z.pc.stage f' 0 z.pc.served)
    (delivers : unread f' ++ z.pending content = unread own ++ y.pending content)
    (data : 1 ≤ y.pc.stage ∨ f' = own) (serves : z.Serves a) :
    Exchange a content x f' (.child z) := by
  obtain ⟨before, delivered, drained, waits, _⟩ := exchange
  refine ⟨fate, ?_, ?_, waits, ?_⟩
  · show x.output ++ unread f' ++ z.pending content = content
    rw [List.append_assoc, delivers, ← List.append_assoc]
    exact delivered
  · intro late
    rcases data with serving | same
    · have early := (before.serving serving).2.2.2
      omega
    · rw [same]
      exact drained late
  · rintro _ ⟨⟩
    exact serves

section Calls

variable {y : Child}

theorem Exchange.child_fate (exchange : Exchange a content x own (.child y)) {pc : ChildPc}
    (here : y.pc = pc) {m n : ℕ} (stage : pc.stage = m) (served : pc.served = n) :
    Fate x.pc.stage m own 0 n := by
  rw [← stage, ← served, ← here]
  exact exchange.fate

/-- The child has opened the FIFO of its client. -/
theorem Exchange.child_named (exchange : Exchange a content x own (.child y)) {pc : ChildPc}
    (here : y.pc = pc) (opened : 2 ≤ pc.stage) : y.cfd = clientFifo a.pid := by
  rw [← here] at opened
  exact (exchange.serves y rfl).named opened

/-- The child goes on, and leaves the client's FIFO alone. -/
theorem Exchange.child_goes (exchange : Exchange a content x own (.child y)) {pc : ChildPc}
    (here : y.pc = pc) (pc' : ChildPc) {buf : Buffer 64} (scanned : pc ≠ .scan)
    (unscanned : pc' ≠ .scan)
    (fate : Fate x.pc.stage pc'.stage own 0 pc'.served)
    (pending : Child.pending { y with pc := pc', buf := buf } content = y.pending content)
    (named : 2 ≤ pc'.stage → y.cfd = clientFifo a.pid)
    (waits : ∀ seen, pc' ≠ .openingClient seen) (alive : pc' ≠ .abort) :
    Exchange a content x own (.child { y with pc := pc', buf := buf }) := by
  refine exchange.child fate (by rw [pending]) (.inr rfl) ?_
  refine (exchange.serves y rfl).goes ?_ unscanned rfl rfl named ?_ alive
  · rw [here]
    exact scanned
  · intro seen waiting
    exact absurd waiting (waits seen)

/-- The child scans the request of its client. -/
theorem Exchange.child_scan (exchange : Exchange a content x own (.child y)) (fits : a.Fits)
    (small : a.pid < 2 ^ 31) (here : y.pc = .scan) :
    Exchange a content x own (.child
      { y with
        pc := .openClient
        cpid := (scanRequest y.buf y.cpid y.pathname).1
        pathname := (scanRequest y.buf y.cpid y.pathname).2 }) := by
  have scanned : scanRequest y.buf y.cpid y.pathname = a.key := by
    rw [(exchange.serves y rfl).unscanned here]
    exact scan_request fits small _ _
  refine exchange.child (exchange.child_fate here rfl rfl) ?_ (.inr rfl) ?_
  · unfold Child.pending
    rw [here]
  · exact ⟨nofun, fun _ => scanned, nofun, nofun, nofun⟩

/-- The FIFO the child opens is that of its client. -/
theorem Exchange.child_name (exchange : Exchange a content x own (.child y))
    (small : a.pid < 2 ^ 31) (here : y.pc = .openClient) :
    y.clientBuf.str = clientFifo a.pid := by
  have key := (exchange.serves y rfl).key (by rw [here]; nofun)
  unfold Child.clientBuf
  rw [(Prod.mk.inj key).1]
  exact clientFifoBuf_str (by omega) (by omega) _

/-- The child opens the FIFO of its client. -/
theorem Exchange.child_openClient (exchange : Exchange a content x (some f) (.child y))
    (small : a.pid < 2 ^ 31) (here : y.pc = .openClient) :
    Exchange a content x (some f.openWrite) (.child
      { y with
        pc := if 0 < f.readers then .openFile else .openingClient f.readOpens
        buf := y.clientBuf
        cfd := y.clientBuf.str }) := by
  have fate := exchange.child_fate here rfl rfl
  have next := fate.openFifo
  have name := exchange.child_name small here
  have pending : y.pending content = content := by
    unfold Child.pending
    rw [here]
  have scanned : y.pc ≠ .scan := by
    rw [here]
    nofun
  have serving : 1 ≤ y.pc.stage := by
    rw [here]
    exact le_refl 1
  split
  case isTrue reader =>
    rw [if_pos reader] at next
    refine exchange.child next (by rw [pending]; rfl) (.inl serving) ?_
    exact (exchange.serves y rfl).goes scanned nofun rfl rfl (fun _ => name) nofun nofun
  case isFalse waits =>
    rw [if_neg waits] at next
    refine exchange.child next (by rw [pending]; rfl) (.inl serving) ?_
    refine (exchange.serves y rfl).goes scanned nofun rfl rfl (fun _ => name) ?_ nofun
    intro seen waiting
    cases waiting
    exact fate.unread waits

/-- The child finds that the client has opened its FIFO. -/
theorem Exchange.child_openedClient (exchange : Exchange a content x (some f) (.child y)) {seen : ℕ}
    (here : y.pc = .openingClient seen) (opened : f.readOpens ≠ seen) :
    Exchange a content x (some f) (.child (y.goes .openFile)) := by
  rw [(exchange.serves y rfl).waits seen here] at opened
  have named := exchange.child_named here (le_refl 2)
  have fate := (exchange.child_fate here rfl rfl).openedFifo opened
  refine exchange.child_goes here .openFile nofun nofun fate ?_ (fun _ => named) nofun nofun
  unfold Child.pending
  rw [here]

/-- The child opens the file its client has named. -/
theorem Exchange.child_openFile (exchange : Exchange a content x own (.child y))
    {files : List Char → Option (List Char)} (readable : files a.pathname = some content)
    (here : y.pc = .openFile) {found : List Char} (opened : files y.pathname = some found) :
    Exchange a content x own (.child (y.goes (.copy found))) := by
  have named := exchange.child_named here (Nat.le_succ 2)
  have key := (exchange.serves y rfl).key (by rw [here]; nofun)
  have same : found = content := by
    rw [(Prod.mk.inj key).2] at opened
    exact Option.some.inj (opened.symm.trans readable)
  refine exchange.child_goes here (.copy found) nofun nofun (exchange.child_fate here rfl rfl)
    ?_ (fun _ => named) nofun nofun
  rw [same]
  unfold Child.pending
  rw [here]

/-- The child reads a chunk of the file. -/
theorem Exchange.child_copy (exchange : Exchange a content x own (.child y)) {rest : List Char}
    (here : y.pc = .copy rest) :
    Exchange a content x own (.child
      { y with
        pc := if rest.take 64 = [] then .closeClient
          else .copyWrite (rest.take 64).length (rest.drop 64)
        buf := y.buf.overwrite (rest.take 64) }) := by
  have named := exchange.child_named here (Nat.le_succ 2)
  have pending : y.pending content = rest := by
    unfold Child.pending
    rw [here]
  split
  case isTrue last =>
    refine exchange.child_goes here .closeClient nofun nofun (exchange.child_fate here rfl rfl) ?_
      (fun _ => named) nofun nofun
    have none : rest = [] := by simpa using last
    rw [pending, none]
    rfl
  case isFalse =>
    refine exchange.child_goes here (.copyWrite _ _) nofun nofun
      (exchange.child_fate here rfl rfl) ?_ (fun _ => named) nofun nofun
    have short : (rest.take 64).length ≤ 64 := List.length_take_le 64 rest
    rw [pending]
    show (y.buf.overwrite (rest.take 64)).bytes.take (rest.take 64).length ++ rest.drop 64 = rest
    rw [Buffer.overwrite_bytes _ short, List.take_left', List.take_append_drop]
    rfl

/-- The child writes it to the client. -/
theorem Exchange.child_copyWrite (exchange : Exchange a content x (some f) (.child y)) {rnum : ℕ}
    {rest : List Char} (here : y.pc = .copyWrite rnum rest) :
    Exchange a content x (some (f.write (y.buf.bytes.take rnum)))
      (.child (y.goes (.copy rest))) := by
  have named := exchange.child_named here (Nat.le_succ 2)
  refine exchange.child (exchange.child_fate here rfl rfl).data ?_ (.inl ?_) ?_
  · have pending : y.pending content = y.buf.bytes.take rnum ++ rest := by
      unfold Child.pending
      rw [here]
    rw [pending, ← List.append_assoc]
    rfl
  · rw [here]
    exact Nat.le_add_left 1 2
  · refine (exchange.serves y rfl).goes ?_ nofun rfl rfl (fun _ => named) nofun nofun
    rw [here]
    nofun

/-- The child has copied the file, and closes the client's FIFO. -/
theorem Exchange.child_closeClient (exchange : Exchange a content x (some f) (.child y))
    (here : y.pc = .closeClient) :
    Exchange a content x (some f.closeWrite) (.child (y.goes .exit)) := by
  have fate := exchange.child_fate here rfl rfl
  have reader := fate.reader
  have data : f.closeWrite.data = f.data := Fifo.closeWrite_data fun _ none => by omega
  refine exchange.child fate.closeFifo ?_ (.inl ?_) ?_
  · have pending : y.pending content = [] := by
      unfold Child.pending
      rw [here]
    rw [pending]
    show f.closeWrite.data ++ [] = f.data ++ []
    rw [data]
  · rw [here]
    decide
  · refine (exchange.serves y rfl).goes ?_ nofun rfl rfl nofun nofun nofun
    rw [here]
    nofun

theorem Exchange.child_exit (exchange : Exchange a content x own (.child y)) (here : y.pc = .exit) :
    Exchange a content x own (.child (y.goes .exited)) := by
  refine exchange.child_goes here .exited nofun nofun (exchange.child_fate here rfl rfl) ?_ nofun
    nofun nofun
  unfold Child.pending
  rw [here]

/-- A child is there only for a client that has written. -/
theorem Exchange.child_asked (exchange : Exchange a content x own (.child y)) : 2 ≤ x.pc.stage := by
  have accounted := exchange.fate.accounted
  by_contra early
  rw [if_neg early] at accounted
  by_cases serves : 1 ≤ (Service.child y).stage
  · rw [if_pos serves] at accounted
    omega
  · have none := Service.eq_unasked (v := .child y) (by omega) (by omega) (by omega)
    cases none

/-- The child finds the FIFO of its client, and the file, and a reader. -/
theorem Exchange.child_found (exchange : Exchange a content x own (.child y))
    (serves : 1 ≤ y.pc.stage) : ∃ f, own = some f ∧ (y.pc.stage = 3 → 0 < f.readers) := by
  obtain ⟨f, found, _⟩ := exchange.fate.own_of_serving serves
  refine ⟨f, found, fun late => ?_⟩
  have fate := exchange.fate
  rw [found] at fate
  have stage : (Service.child y).stage = 3 := late
  rw [stage] at fate
  exact fate.reader

end Calls

end Moves

end Unpvol2.Snc.Serverfork
