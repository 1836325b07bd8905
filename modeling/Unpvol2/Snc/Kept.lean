/-
**Which requests `servern` keeps.**

`servern` closes the server FIFO after every request it has read. A client that has written and
closed in the meantime leaves its request in a FIFO that nobody has open, and it is discarded:
`discarded_request`. A client whose write has failed and that has not exited yet makes the next
`open` of the server succeed and its `read` return 0, and the server serves what it finds in `buf`.

* `keepsRequests` — no close of the last descriptor of the server FIFO finds a request in it.
* `readsRequests` — no `read` of the server FIFO returns 0.
* `Inv` — in the runs with both, every client has its `Fate`.
* `kept_iff` — **of the runs in which every `read` finds a request, exactly those keep every request
  in which no close discards one.**
-/

import Unpvol2.Snc.Requests
import Unpvol2.Snc.Step

set_option linter.unusedSectionVars false

namespace Unpvol2.Snc.Servern

open C Interleaving

variable {ι : Type} [DecidableEq ι]

/-! ### What the server is for -/

/-- The client's write has returned success. -/
def ClientPc.wrote : ClientPc → Bool
  | .closeServer | .openClient | .openingClient _ | .read | .closeClient | .unlink | .exited => true
  | _ => false

/-- The server has read a request and not finished it. -/
def ServerPc.serving : ServerPc → Bool
  | .closeServer | .openClient | .openingClient _ | .openFile | .copy _ | .copyWrite _ _
  | .closeClient => true
  | _ => false

/-- **Every request written is in the server FIFO, or is being served, or has been served exactly
once.** -/
def Kept (args : ι → Args) (s : State ι) : Prop :=
  ∀ c, (s.pc c).wrote = true →
    (args c).request ∈ s.fifo.data ∨
    s.server.pc.serving = true ∧ (s.server.cpid, s.server.pathname) = (args c).key ∨
    s.served.count (args c).key = 1

/-! ### The conditions -/

/-- A `read` of the server FIFO does not return 0. -/
def readsRequests (s : State ι) : Act ι → Prop
  | .client _ => True
  | .server => s.server.pc = .read → ¬ s.fifo.AtEnd

/-- A close of the server FIFO leaves the requests in it to somebody. -/
def keepsRequests (s : State ι) : Act ι → Prop
  | .client c => s.pc c = .closeServer ∨ s.pc c = .exit → s.fifo.KeepsWrite
  | .server => s.server.pc = .closeServer → s.fifo.KeepsRead

instance (s : State ι) (action : Act ι) : Decidable (readsRequests s action) :=
  match action with
  | .client _ => isTrue trivial
  | .server => inferInstanceAs (Decidable (s.server.pc = .read → ¬ s.fifo.AtEnd))

instance (s : State ι) (action : Act ι) : Decidable (keepsRequests s action) :=
  match action with
  | .client c =>
    inferInstanceAs (Decidable (s.pc c = .closeServer ∨ s.pc c = .exit → s.fifo.KeepsWrite))
  | .server => inferInstanceAs (Decidable (s.server.pc = .closeServer → s.fifo.KeepsRead))

/-- The server finds the FIFO of the client it serves under its name. -/
theorem clientBuf_str {files : List Char → Option (List Char)} {args : ι → Args}
    (asking : Asking files args) {server : Server} {c : ι} (own : server.cpid = (args c).pid) :
    server.clientBuf.str = clientFifo (args c).pid := by
  unfold Server.clientBuf
  rw [own]
  exact asking.clientFifoBuf_str c _

theorem ClientPc.wrote_iff {pc : ClientPc} : pc.wrote = true ↔ 2 ≤ pc.stage := by
  cases pc <;> simp [ClientPc.wrote, ClientPc.stage]

theorem ServerPc.serving_iff {pc : ServerPc} : pc.serving = true ↔ 1 ≤ pc.stage := by
  cases pc <;> simp [ServerPc.serving, ServerPc.stage]

/-! ### The invariant -/

/-- Every client has its fate, and the server serves one of them. -/
structure Inv (args : ι → Args) (s : State ι) : Prop where
  fate : ∀ c, Fate (s.pc c).stage (s.server.stage (args c).pid) (s.own args c)
    (s.fifo.data.count (args c).request) (s.served.count (args c).key)
  waits : ∀ c seen, s.pc c = .openingClient seen → seen = 0
  serverWaits : ∀ seen, s.server.pc = .openingClient seen → seen = 0
  requests : ∀ request ∈ s.fifo.data, ∃ c, request = (args c).request
  asked : 1 ≤ s.server.pc.stage → ∃ c, (s.server.cpid, s.server.pathname) = (args c).key
  named : 2 ≤ s.server.pc.stage → s.server.cfd = clientFifo s.server.cpid
  alive : s.server.pc ≠ .exit ∧ s.server.pc ≠ .exited

theorem inv_start (args : ι → Args) (stack : Stack) : Inv args (start stack) where
  fate := fun c => by
    have idle : (start stack : State ι).server.stage (args c).pid = 0 := Server.stage_idle rfl _
    rw [idle]
    refine ⟨rfl, fun _ => rfl, nofun, ?_, nofun, nofun⟩
    rintro (met | met) <;> cases met
  waits := nofun
  serverWaits := nofun
  requests := nofun
  asked := nofun
  named := nofun
  alive := ⟨nofun, nofun⟩

section Moves

variable {files : List Char → Option (List Char)} {args : ι → Args} {s s' : State ι} {c d : ι}

theorem pc_clientTo (pc : ClientPc) : (s.clientTo c pc).pc c = pc := by
  show (Function.update s.client c _ c).pc = pc
  rw [Function.update_self]

theorem pc_clientTo_other (pc : ClientPc) (ne : d ≠ c) : (s.clientTo c pc).pc d = s.pc d := by
  show (Function.update s.client c _ d).pc = _
  rw [Function.update_of_ne ne]
  rfl

theorem pc_print (bytes : List Char) : (s.print c bytes).pc d = s.pc d := by
  show (Function.update s.client c _ d).pc = _
  by_cases same : d = c
  · rw [same, Function.update_self]
    rfl
  · rw [Function.update_of_ne same]
    rfl

theorem own_setFifo (f : Option (Fifo Char)) :
    (s.setFifo (clientFifo (args c).pid) f).own args c = f :=
  Function.update_self _ _ _

theorem own_setFifo_other (asking : Asking files args) (ne : d ≠ c) (f : Option (Fifo Char)) :
    (s.setFifo (clientFifo (args c).pid) f).own args d = s.own args d :=
  Function.update_of_ne (asking.name_ne ne) _ _

/-- Client `c` moves. -/
theorem Inv.client (inv : Inv args s) (server : s'.server = s.server)
    (served : s'.served = s.served) (pc : ∀ d, d ≠ c → s'.pc d = s.pc d)
    (own : ∀ d, d ≠ c → s'.own args d = s.own args d)
    (counts : ∀ d, d ≠ c →
      s'.fifo.data.count (args d).request = s.fifo.data.count (args d).request)
    (requests : ∀ request ∈ s'.fifo.data, ∃ c, request = (args c).request)
    (waits : ∀ seen, s'.pc c = .openingClient seen → seen = 0)
    (fate : Fate (s'.pc c).stage (s.server.stage (args c).pid) (s'.own args c)
      (s'.fifo.data.count (args c).request) (s.served.count (args c).key)) : Inv args s' := by
  refine ⟨?_, ?_, ?_, requests, ?_, ?_, ?_⟩
  · intro d
    rw [server, served]
    by_cases same : d = c
    · rw [same]
      exact fate
    · rw [pc d same, own d same, counts d same]
      exact inv.fate d
  · intro d seen here
    by_cases same : d = c
    · rw [same] at here
      exact waits seen here
    · rw [pc d same] at here
      exact inv.waits d seen here
  · rw [server]
    exact inv.serverWaits
  · rw [server]
    exact inv.asked
  · rw [server]
    exact inv.named
  · rw [server]
    exact inv.alive

/-- Client `c` goes on without a change of its fate. -/
theorem Inv.clientTo (inv : Inv args s) {pc : ClientPc} {fifo : Fifo (Buffer 64)}
    (data : fifo.data = s.fifo.data) (stage : pc.stage = (s.pc c).stage)
    (waits : ∀ seen, pc ≠ .openingClient seen) :
    Inv args { s.clientTo c pc with fifo := fifo } := by
  refine inv.client rfl rfl (fun d ne => pc_clientTo_other pc ne) (fun _ _ => rfl) ?_ ?_ ?_ ?_
    (c := c)
  · intro d _
    rw [data]
  · rw [data]
    exact inv.requests
  · intro seen here
    exact absurd ((pc_clientTo pc).symm.trans here) (waits seen)
  · have here : State.pc { s.clientTo c pc with fifo := fifo } c = pc := pc_clientTo pc
    rw [here, stage, data]
    exact inv.fate c

/-- Client `c` goes on, and does something to its own FIFO. -/
theorem Inv.clientOwn (inv : Inv args s) (asking : Asking files args) {pc : ClientPc}
    {f : Option (Fifo Char)} (waits : ∀ seen, pc = .openingClient seen → seen = 0)
    (fate : Fate pc.stage (s.server.stage (args c).pid) f (s.fifo.data.count (args c).request)
      (s.served.count (args c).key)) : Inv args ((s.clientTo c pc).setOwn args c f) := by
  have here : ((s.clientTo c pc).setOwn args c f).pc c = pc := pc_clientTo pc
  refine inv.client rfl rfl (fun d ne => pc_clientTo_other pc ne)
    (fun d ne => own_setFifo_other asking ne f) (fun _ _ => rfl) inv.requests ?_ ?_ (c := c)
  · rw [here]
    exact waits
  · rw [here, show (State.setOwn _ args c _).own args c = _ from own_setFifo _]
    exact fate

theorem setOwn_own (s : State ι) (args : ι → Args) (c : ι) :
    s.setOwn args c (s.own args c) = s := by
  unfold State.setOwn State.setFifo State.own
  rw [Function.update_eq_self]

/-- Client `c` goes on. -/
theorem Inv.clientMoves (inv : Inv args s) (asking : Asking files args) {pc : ClientPc}
    (waits : ∀ seen, pc = .openingClient seen → seen = 0)
    (fate : Fate pc.stage (s.server.stage (args c).pid) (s.own args c)
      (s.fifo.data.count (args c).request) (s.served.count (args c).key)) :
    Inv args (s.clientTo c pc) := by
  have moved := inv.clientOwn asking waits fate
  have same : (s.clientTo c pc).setOwn args c (s.own args c) = s.clientTo c pc :=
    setOwn_own (s.clientTo c pc) args c
  rw [same] at moved
  exact moved

/-- The fate of client `c`, where it stands. -/
theorem Inv.fate_at (inv : Inv args s) {pc : ClientPc} (here : s.pc c = pc) :
    Fate pc.stage (s.server.stage (args c).pid) (s.own args c)
      (s.fifo.data.count (args c).request) (s.served.count (args c).key) := by
  have fate := inv.fate c
  rw [here] at fate
  exact fate

/-- **A client's step keeps every fate.** -/
theorem Inv.client_step (inv : Inv args s) (asking : Asking files args)
    (keeps : keepsRequests s (.client c)) (step : ClientStep args s c s') : Inv args s' := by
  cases step with
  | mkfifo here absent => exact inv.clientOwn asking nofun (inv.fate_at here).mkfifo
  | mkfifoExists here exist =>
    have absent := (inv.fate_at here).absent rfl
    rw [exist] at absent
    cases absent
  | openServer here =>
    refine inv.clientTo rfl ?_ ?_
    · rw [here]
      split <;> rfl
    · split <;> nofun
  | openedServer here opened =>
    exact inv.clientTo rfl (by rw [here]; rfl) nofun
  | write here reader =>
    have data : (s.fifo.write [(args c).request]).data = s.fifo.data ++ [(args c).request] := rfl
    refine inv.client rfl rfl (fun d ne => pc_clientTo_other _ ne) (fun _ _ => rfl) ?_ ?_ ?_ ?_
      (c := c)
    · intro d ne
      show (s.fifo.data ++ [(args c).request]).count _ = _
      rw [List.count_append, List.count_singleton, if_neg]
      · rfl
      · intro same
        exact asking.request_ne ne (beq_iff_eq.mp same).symm
    · intro request member
      rcases List.mem_append.mp member with old | new
      · exact inv.requests request old
      · exact ⟨c, List.mem_singleton.mp new⟩
    · intro seen waiting
      exact absurd ((pc_clientTo _).symm.trans waiting) nofun
    · have pc : State.pc { s.clientTo c .closeServer with
          fifo := s.fifo.write [(args c).request] } c = .closeServer := pc_clientTo _
      rw [pc]
      show Fate 2 _ _ ((s.fifo.data ++ [(args c).request]).count _) _
      rw [List.count_append, List.count_singleton_self]
      exact (inv.fate_at here).write
  | writeFails here => exact inv.clientTo rfl (by rw [here]; rfl) nofun
  | exit here =>
    exact inv.clientTo (Fifo.closeWrite_data (keeps (.inr here))) (by rw [here]; rfl) nofun
  | closeServer here =>
    exact inv.clientTo (Fifo.closeWrite_data (keeps (.inl here))) (by rw [here]; rfl) nofun
  | @openClient here f found =>
    have fate := inv.fate_at here
    rw [found] at fate
    have next := fate.openClient
    obtain ⟨_, ⟨⟩, counts⟩ := fate.present (by decide) (by decide)
    refine inv.clientOwn asking ?_ ?_
    · intro seen waiting
      split at waiting
      · cases waiting
      · cases waiting
        exact fate.unwritten ‹_›
    · have stage : ClientPc.stage (if 0 < f.writers then .read else .openingClient f.writeOpens) =
          if 0 < f.writers then 4 else 3 := by split <;> rfl
      rw [stage]
      exact next
  | openClientFails here absent =>
    have fate := inv.fate_at here
    obtain ⟨f, found, _⟩ := fate.present (by decide) (by decide)
    rw [absent] at found
    cases found
  | openedClient here found opened =>
    have fate := inv.fate_at here
    rw [inv.waits c _ here] at opened
    rw [found] at fate
    refine inv.clientMoves asking nofun ?_
    rw [found]
    exact fate.openedClient opened
  | @read here f found =>
    have fate := inv.fate_at here
    rw [found] at fate
    refine inv.client rfl rfl (fun d _ => pc_print _) (fun d ne => own_setFifo_other asking ne _)
      (fun _ _ => rfl) inv.requests ?_ ?_ (c := c)
    · intro seen waiting
      exact inv.waits c seen ((pc_print _).symm.trans waiting)
    · have pc : ((s.print c (f.data.take 64)).setOwn args c (some (f.drop 64))).pc c = .read :=
        (pc_print _).trans here
      rw [pc, show (State.setOwn _ args c _).own args c = _ from own_setFifo _]
      exact fate.data
  | ended here found atEnd =>
    have fate := inv.fate_at here
    refine inv.clientMoves asking nofun ?_
    rw [found] at fate ⊢
    exact fate.ended atEnd.2
  | closeClient here found =>
    have fate := inv.fate_at here
    rw [found] at fate
    exact inv.clientOwn asking nofun fate.closeClient
  | unlink here => exact inv.clientOwn asking nofun (inv.fate_at here).unlink

/-- The server goes on without a change of any fate. -/
theorem Inv.serverTo (inv : Inv args s) (client : s'.client = s.client) (fifos : s'.fifos = s.fifos)
    (data : s'.fifo.data = s.fifo.data) (served : s'.served = s.served)
    (cpid : s'.server.cpid = s.server.cpid) (pathname : s'.server.pathname = s.server.pathname)
    (cfd : s'.server.cfd = s.server.cfd) (stage : s'.server.pc.stage = s.server.pc.stage)
    (waits : ∀ seen, s'.server.pc ≠ .openingClient seen)
    (alive : s'.server.pc ≠ .exit ∧ s'.server.pc ≠ .exited) : Inv args s' := by
  have pc : ∀ c, s'.pc c = s.pc c := by
    intro c
    unfold State.pc
    rw [client]
  refine ⟨?_, ?_, fun seen here => absurd here (waits seen), ?_, ?_, ?_, alive⟩
  · intro c
    have same : s'.server.stage (args c).pid = s.server.stage (args c).pid := by
      unfold Server.stage
      rw [cpid, stage]
    have own : s'.own args c = s.own args c := by
      unfold State.own
      rw [fifos]
    rw [pc, same, own, data, served]
    exact inv.fate c
  · intro c seen
    rw [pc]
    exact inv.waits c seen
  · rw [data]
    exact inv.requests
  · rw [stage, cpid, pathname]
    exact inv.asked
  · rw [stage, cfd, cpid]
    exact inv.named

/-- The server goes on with the client it serves. -/
theorem Inv.serve (inv : Inv args s) (asking : Asking files args)
    (key : (s.server.cpid, s.server.pathname) = (args c).key) (client : s'.client = s.client)
    (own : ∀ d, d ≠ c → s'.own args d = s.own args d) (data : s'.fifo.data = s.fifo.data)
    (served : ∀ d, d ≠ c → s'.served.count (args d).key = s.served.count (args d).key)
    (cpid : s'.server.cpid = s.server.cpid) (pathname : s'.server.pathname = s.server.pathname)
    (waits : ∀ seen, s'.server.pc = .openingClient seen → seen = 0)
    (named : s'.server.cfd = clientFifo s.server.cpid)
    (alive : s'.server.pc ≠ .exit ∧ s'.server.pc ≠ .exited)
    (fate : Fate (s.pc c).stage s'.server.pc.stage (s'.own args c)
      (s.fifo.data.count (args c).request) (s'.served.count (args c).key)) : Inv args s' := by
  have pc : ∀ c, s'.pc c = s.pc c := by
    intro c
    unfold State.pc
    rw [client]
  have pid : s.server.cpid = (args c).pid := (Prod.mk.inj key).1
  refine ⟨?_, ?_, waits, ?_, ?_, ?_, alive⟩
  · intro d
    rw [pc, data]
    by_cases same : d = c
    · rw [same, Server.stage_own (cpid.trans pid)]
      exact fate
    · have away : s.server.cpid ≠ (args d).pid := by
        rw [pid]
        exact (asking.pid_ne same).symm
      have other := inv.fate d
      rw [Server.stage_other away] at other
      rw [own d same, served d same, Server.stage_other (by rw [cpid]; exact away)]
      exact other
  · intro d seen
    rw [pc]
    exact inv.waits d seen
  · rw [data]
    exact inv.requests
  · intro _
    rw [cpid, pathname]
    exact ⟨c, key⟩
  · intro _
    rw [cpid]
    exact named

/-- The client the server serves, and its fate. -/
theorem Inv.serving (inv : Inv args s) {pc : ServerPc} {n : ℕ} (here : s.server.pc = pc)
    (stage : pc.stage = n + 1) : ∃ c, (s.server.cpid, s.server.pathname) = (args c).key ∧
      Fate (s.pc c).stage (n + 1) (s.own args c) (s.fifo.data.count (args c).request)
        (s.served.count (args c).key) := by
  obtain ⟨c, key⟩ := inv.asked (by rw [here, stage]; omega)
  have fate := inv.fate c
  rw [Server.stage_own (Prod.mk.inj key).1, here, stage] at fate
  exact ⟨c, key, fate⟩

/-- `cfd` is the FIFO of the client the server serves. -/
theorem Inv.cfd (inv : Inv args s) {pc : ServerPc} {n : ℕ} (here : s.server.pc = pc)
    (stage : pc.stage = n + 2) (key : (s.server.cpid, s.server.pathname) = (args c).key) :
    s.server.cfd = clientFifo (args c).pid := by
  rw [inv.named (by rw [here, stage]; omega), (Prod.mk.inj key).1]

/-- What the server knows once it has scanned a request. -/
theorem scan_eq {buf : Buffer 64} {key : ℤ × List Char}
    (scanned : scanRequest buf s.server.cpid s.server.pathname = key) :
    s.scan buf = { s with server := ⟨.closeServer, buf, key.1, key.2, s.server.cfd⟩ } := by
  unfold State.scan
  rw [scanned]

/-- The server reads the request of client `c`. -/
theorem Inv.read (inv : Inv args s) (asking : Asking files args) {rest : List (Buffer 64)}
    (here : s.server.pc = .read) (data : s.fifo.data = (args c).request :: rest) :
    Inv args { s.scan (args c).request with fifo := s.fifo.drop 1 } := by
  rw [scan_eq (asking.scan c s.server.cpid s.server.pathname)]
  have dropped : (s.fifo.drop 1).data = rest := congrArg (List.drop 1) data
  have idle : s.server.pc.stage = 0 := by
    rw [here]
    rfl
  refine ⟨?_, inv.waits, nofun, ?_, fun _ => ⟨c, rfl⟩, fun held => ?_, ⟨nofun, nofun⟩⟩
  · intro d
    have fate := inv.fate d
    rw [Server.stage_idle idle, data] at fate
    show Fate (s.pc d).stage (Server.stage ⟨.closeServer, _, (args c).pid, _, _⟩ _) (s.own args d)
      ((s.fifo.drop 1).data.count _) (s.served.count _)
    rw [dropped]
    by_cases same : d = c
    · rw [same, List.count_cons_self] at fate
      rw [same, Server.stage_own rfl]
      exact fate.take
    · rw [List.count_cons_of_ne (asking.request_ne same).symm] at fate
      rw [Server.stage_other (asking.pid_ne same).symm]
      exact fate
  · intro request member
    refine inv.requests request ?_
    rw [data]
    refine List.mem_cons_of_mem _ ?_
    rw [← dropped]
    exact member
  · have late : 2 ≤ 1 := held
    omega

/-- **A server's step keeps every fate.** -/
theorem Inv.server_step (inv : Inv args s) (asking : Asking files args)
    (reads : readsRequests s .server) (keeps : keepsRequests s .server)
    (step : ServerStep files s s') : Inv args s' := by
  cases step with
  | openServer here =>
    have stage : s.server.pc.stage = 0 := by rw [here]; rfl
    split <;> exact inv.serverTo rfl rfl rfl rfl rfl rfl rfl stage.symm nofun ⟨nofun, nofun⟩
  | openedServer here opened =>
    exact inv.serverTo rfl rfl rfl rfl rfl rfl rfl (by rw [here]; rfl) nofun ⟨nofun, nofun⟩
  | @read here request rest data =>
    obtain ⟨c, rfl⟩ := inv.requests request (by rw [data]; exact List.mem_cons_self)
    exact inv.read asking here data
  | ended here atEnd => exact absurd atEnd (reads here)
  | closeServer here =>
    exact inv.serverTo rfl rfl (Fifo.closeRead_data (keeps here)) rfl rfl rfl rfl
      (by rw [here]; rfl) nofun ⟨nofun, nofun⟩
  | @openClient here f found =>
    obtain ⟨c, key, fate⟩ := inv.serving here rfl
    have pid := (Prod.mk.inj key).1
    rw [clientBuf_str asking pid] at found ⊢
    rw [show s.own args c = some f from found] at fate
    have next := fate.openFifo
    split
    case isTrue reader =>
      rw [if_pos reader] at next
      refine inv.serve asking key rfl (fun d ne => own_setFifo_other asking ne _) rfl
        (fun _ _ => rfl) rfl rfl nofun (by rw [pid]; rfl) ⟨nofun, nofun⟩ ?_
      rw [own_setFifo]
      exact next
    case isFalse waits =>
      rw [if_neg waits] at next
      refine inv.serve asking key rfl (fun d ne => own_setFifo_other asking ne _) rfl
        (fun _ _ => rfl) rfl rfl ?_ (by rw [pid]; rfl) ⟨nofun, nofun⟩ ?_
      · intro seen waiting
        cases waiting
        exact fate.unread waits
      · rw [own_setFifo]
        exact next
  | openClientFails here absent =>
    obtain ⟨c, key, fate⟩ := inv.serving here rfl
    obtain ⟨f, found, _⟩ := fate.own_of_serving (le_refl 1)
    rw [clientBuf_str asking (Prod.mk.inj key).1] at absent
    rw [show s.own args c = none from absent] at found
    cases found
  | @openedClient seen here f found opened =>
    obtain ⟨c, key, fate⟩ := inv.serving here rfl
    rw [inv.cfd here rfl key] at found
    rw [inv.serverWaits _ here] at opened
    have named := inv.cfd here rfl key
    rw [← (Prod.mk.inj key).1] at named
    refine inv.serve asking key rfl (fun _ _ => rfl) rfl (fun _ _ => rfl) rfl rfl nofun named
      ⟨nofun, nofun⟩ ?_
    have own : s.own args c = some f := found
    rw [own] at fate
    rw [show State.own (s.serverTo .openFile) args c = some f from own]
    exact fate.openedFifo opened
  | openFile here readable =>
    exact inv.serverTo rfl rfl rfl rfl rfl rfl rfl (by rw [here]; rfl) nofun ⟨nofun, nofun⟩
  | openFileFails here absent =>
    obtain ⟨c, key, _⟩ := inv.serving here rfl
    have found := asking.readable c
    rw [← (Prod.mk.inj key).2, absent] at found
    cases found
  | copy here =>
    have stage : s.server.pc.stage = 3 := by rw [here]; rfl
    split <;> exact inv.serverTo rfl rfl rfl rfl rfl rfl rfl stage.symm nofun ⟨nofun, nofun⟩
  | @copyWrite rnum rest here f found reader =>
    obtain ⟨c, key, fate⟩ := inv.serving here rfl
    have name := inv.cfd here rfl key
    rw [name] at found ⊢
    rw [show s.own args c = some f from found] at fate
    refine inv.serve asking key rfl (fun d ne => own_setFifo_other asking ne _) rfl
      (fun _ _ => rfl) rfl rfl nofun (by rw [(Prod.mk.inj key).1]; exact name) ⟨nofun, nofun⟩ ?_
    rw [own_setFifo]
    exact fate.data
  | copyFails here unread =>
    obtain ⟨c, key, fate⟩ := inv.serving here rfl
    obtain ⟨f, own, _⟩ := fate.own_of_serving (by decide)
    rw [inv.cfd here rfl key] at unread
    rw [own] at fate
    exact absurd (unread f own) (Nat.pos_iff_ne_zero.mp fate.reader)
  | closeClient here =>
    obtain ⟨c, key, fate⟩ := inv.serving here rfl
    obtain ⟨f, own, _⟩ := fate.own_of_serving (by decide)
    have name := inv.cfd here rfl key
    have served : ∀ d, (s.served ++ [(s.server.cpid, s.server.pathname)]).count (args d).key =
        s.served.count (args d).key + if d = c then 1 else 0 := by
      intro d
      rw [List.count_append, key]
      by_cases same : d = c
      · rw [same, List.count_singleton_self, if_pos rfl]
      · rw [List.count_singleton, if_neg same, if_neg]
        exact fun equal => asking.key_ne same (beq_iff_eq.mp equal).symm
    rw [own] at fate
    rw [name, show s.fifos (clientFifo (args c).pid) = some f from own]
    refine inv.serve asking key rfl (fun d ne => own_setFifo_other asking ne _) rfl ?_ rfl rfl nofun
      (by rw [(Prod.mk.inj key).1]; exact name) ⟨nofun, nofun⟩ ?_
    · intro d ne
      exact (served d).trans (by rw [if_neg ne]; rfl)
    · rw [own_setFifo]
      show Fate _ 0 _ _ ((s.served ++ [_]).count _)
      rw [served, if_pos rfl]
      exact fate.closeFifo
  | exit here => exact absurd here inv.alive.1

end Moves

/-! ### The requests of a run -/

section Runs

variable {files : List Char → Option (List Char)} {stack : Stack} {args : ι → Args} {s s' : State ι}

theorem inv_of_reachable (asking : Asking files args)
    (reachable : (machine files stack args).Reachable
      (fun s action => readsRequests s action ∧ keepsRequests s action) s) : Inv args s := by
  refine reachable.induct (inv_start args stack) ?_
  rintro s action s' _ inv ⟨reads, keeps⟩ step
  cases action with
  | client c => exact inv.client_step asking keeps (client_cases step)
  | server => exact inv.server_step asking reads keeps (server_cases step)

/-- A client that has its fate has its request kept. -/
theorem Inv.kept (inv : Inv args s) (asking : Asking files args) : Kept args s := by
  intro c wrote
  have accounted := (inv.fate c).accounted
  rw [if_pos (ClientPc.wrote_iff.mp wrote)] at accounted
  by_cases stored : (args c).request ∈ s.fifo.data
  · exact .inl stored
  · right
    rw [List.count_eq_zero_of_not_mem stored] at accounted
    by_cases serves : 1 ≤ s.server.stage (args c).pid
    · left
      unfold Server.stage at serves
      split at serves
      case isTrue own =>
        obtain ⟨d, key⟩ := inv.asked serves
        have same : d = c := by
          by_contra ne
          exact asking.pid_ne ne ((Prod.mk.inj key).1.symm.trans own)
        rw [same] at key
        exact ⟨ServerPc.serving_iff.mpr serves, key⟩
      case isFalse => omega
    · right
      rw [if_neg serves] at accounted
      omega

/-- If every request is kept after a step that serves none, the step has not discarded any. -/
theorem Inv.not_discarded (inv : Inv args s) (kept : Kept args s') (unread : s.fifo.data ≠ [])
    (discarded : s'.fifo.data = []) (pc : ∀ c, (s.pc c).wrote = true → (s'.pc c).wrote = true)
    (served : s'.served = s.served)
    (server : ∀ pid, s'.server.stage pid = s.server.stage pid) : False := by
  obtain ⟨request, rest, data⟩ := List.exists_cons_of_ne_nil unread
  have member : request ∈ s.fifo.data := by
    rw [data]
    exact List.mem_cons_self
  obtain ⟨c, rfl⟩ := inv.requests request member
  have accounted := (inv.fate c).accounted
  have stored := List.count_pos_iff.mpr member
  have wrote : (s.pc c).wrote = true := by
    refine ClientPc.wrote_iff.mpr ?_
    by_contra early
    rw [if_neg early] at accounted
    omega
  rw [if_pos (ClientPc.wrote_iff.mp wrote)] at accounted
  rcases kept c (pc c wrote) with inFifo | ⟨serving, key⟩ | once
  · rw [discarded] at inFifo
    cases inFifo
  · have serves : 1 ≤ s'.server.stage (args c).pid := by
      rw [Server.stage_own (Prod.mk.inj key).1]
      exact ServerPc.serving_iff.mp serving
    rw [server] at serves
    rw [if_pos serves] at accounted
    omega
  · rw [served] at once
    omega

/-- A client goes on from a request it has written, or from none. -/
theorem wrote_clientTo {c : ι} {pc : ClientPc}
    (keeps : (s.pc c).wrote = true → pc.wrote = true) (d : ι) (wrote : (s.pc d).wrote = true) :
    ((s.clientTo c pc).pc d).wrote = true := by
  by_cases same : d = c
  · rw [same] at wrote ⊢
    rw [pc_clientTo]
    exact keeps wrote
  · rw [pc_clientTo_other pc same]
    exact wrote

/-- **A step after which every request is kept discards none.** -/
theorem Inv.keeps (inv : Inv args s) {action : Act ι}
    (kept : ∀ s' ∈ s.step files args action, Kept args s') : keepsRequests s action := by
  cases action with
  | client c =>
    rintro (here | here)
    · by_contra discards
      obtain ⟨unread, discarded⟩ := Fifo.closeWrite_discards discards
      have step : s.step files args (.client c) =
          some { s.clientTo c .openClient with fifo := s.fifo.closeWrite } := by
        show s.clientStep args c = _
        unfold State.clientStep
        rw [here]
      refine inv.not_discarded (kept _ step) unread discarded ?_ rfl fun _ => rfl
      exact wrote_clientTo fun _ => rfl
    · by_contra discards
      obtain ⟨unread, discarded⟩ := Fifo.closeWrite_discards discards
      have step : s.step files args (.client c) =
          some { s.clientTo c .aborted with fifo := s.fifo.closeWrite } := by
        show s.clientStep args c = _
        unfold State.clientStep
        rw [here]
      refine inv.not_discarded (kept _ step) unread discarded ?_ rfl fun _ => rfl
      refine wrote_clientTo fun wrote => ?_
      rw [here] at wrote
      cases wrote
  | server =>
    intro here
    by_contra discards
    obtain ⟨unread, discarded⟩ := Fifo.closeRead_discards discards
    have step : s.step files args .server =
        some { s.serverTo .openClient with fifo := s.fifo.closeRead } := by
      show s.serverStep files = _
      unfold State.serverStep
      rw [here]
    refine inv.not_discarded (kept _ step) unread discarded (fun _ wrote => wrote) rfl ?_
    intro pid
    unfold Server.stage
    rw [here]
    rfl

/-- **`servern` keeps every request exactly as long as no close discards one**: in the runs in which
every `read` of the server finds a request. -/
theorem kept_iff (asking : Asking files args) {actions : List (Act ι)}
    (reads : (machine files stack args).Admitted readsRequests (start stack) actions) :
    (machine files stack args).Along (Kept args) (start stack) actions ↔
      (machine files stack args).Admitted keepsRequests (start stack) actions := by
  refine Machine.along_iff_admitted (M := machine files stack args) ?_ ?_ reads
  · intro s reachable
    exact (inv_of_reachable asking reachable).kept asking
  · intro s action reachable _ kept
    exact (inv_of_reachable asking reachable).keeps kept

end Runs

/-! ### Two clients -/

/-- Two clients that ask for one file. -/
def twoClients : Fin 2 → Args := fun c => ⟨c + 1, ['f'], ⟨List.replicate 64 nul, rfl⟩⟩

/-- The one file there is, an empty one. -/
def oneFile (pathname : List Char) : Option (List Char) :=
  if pathname = ['f'] then some [] else none

def noStack : Stack := ⟨⟨List.replicate 64 nul, rfl⟩, 0, []⟩

theorem asking_twoClients : Asking oneFile twoClients where
  distinct := by
    intro c d same
    have pids : c.val + 1 = d.val + 1 := same
    exact Fin.ext (by omega)
  pid := by decide
  fits := fun c => by
    refine ⟨nofun, fun letter member => ?_, by revert c; decide⟩
    rw [List.mem_singleton.mp member]
    decide
  readable := by decide

/-- The first client and the server, up to the server's close of its FIFO. -/
theorem kept_iff_oneServed :
    (machine oneFile noStack twoClients).Along (Kept twoClients) (start noStack)
      [.client 0, .client 0, .server, .client 0, .client 0, .server, .client 0, .server] ↔
    (machine oneFile noStack twoClients).Admitted keepsRequests (start noStack)
      [.client 0, .client 0, .server, .client 0, .client 0, .server, .client 0, .server] :=
  kept_iff asking_twoClients (by decide)

/-- Both clients have written and closed when the server closes the FIFO after the request of
`c`. -/
def bothWritten (c d : ι) : List (Act ι) :=
  [.client c, .client c, .client d, .client d, .server, .client c, .client c, .client d, .client d,
    .client c, .client d, .server, .server]

/-- **The server loses a request**: its close is the last, and the second request is unread. -/
theorem discarded_request : Asking oneFile twoClients ∧ ¬ ∀ s,
    (machine oneFile noStack twoClients).Reachable Anything s → Kept twoClients s := by
  refine ⟨asking_twoClients, fun kept => ?_⟩
  have reachable : (machine oneFile noStack twoClients).Reachable Anything
      ((machine oneFile noStack twoClients).after (bothWritten 0 1)) :=
    Machine.reachable_after (by decide) (by decide)
  rcases kept _ reachable 1 (by decide) with stored | ⟨_, served⟩ | served
  · exact absurd stored (by decide)
  · exact absurd served (by decide)
  · exact absurd served (by decide)

end Unpvol2.Snc.Servern
