/-
**The steps of `servern` and its clients**, case by case, with what each finds.
-/

import Unpvol2.Snc.Servern

namespace Unpvol2.Snc.Servern

open C Interleaving

variable {ι : Type} [DecidableEq ι]

/-- The steps of client `c`. -/
inductive ClientStep (args : ι → Args) (s : State ι) (c : ι) : State ι → Prop
  | mkfifo (here : s.pc c = .mkfifo) (absent : s.own args c = none) :
      ClientStep args s c ((s.clientTo c .openServer).setOwn args c (some Fifo.fresh))
  | mkfifoExists (here : s.pc c = .mkfifo) {f : Fifo Char}
      (exist : s.own args c = some f) :
      ClientStep args s c (s.clientTo c .openServer)
  | openServer (here : s.pc c = .openServer) :
      ClientStep args s c
        { s.clientTo c (if 0 < s.fifo.readers then .write else .openingServer s.fifo.readOpens) with
          fifo := s.fifo.openWrite }
  | openedServer {seen : ℕ} (here : s.pc c = .openingServer seen)
      (opened : s.fifo.readOpens ≠ seen) : ClientStep args s c (s.clientTo c .write)
  | write (here : s.pc c = .write) (reader : 0 < s.fifo.readers) :
      ClientStep args s c
        { s.clientTo c .closeServer with fifo := s.fifo.write [(args c).request] }
  | writeFails (here : s.pc c = .write) : ClientStep args s c (s.clientTo c .exit)
  | exit (here : s.pc c = .exit) :
      ClientStep args s c { s.clientTo c .aborted with fifo := s.fifo.closeWrite }
  | closeServer (here : s.pc c = .closeServer) :
      ClientStep args s c { s.clientTo c .openClient with fifo := s.fifo.closeWrite }
  | openClient (here : s.pc c = .openClient) {f : Fifo Char}
      (found : s.own args c = some f) :
      ClientStep args s c
        ((s.clientTo c (if 0 < f.writers then .read else .openingClient f.writeOpens)).setOwn args c
          (some f.openRead))
  | openClientFails (here : s.pc c = .openClient)
      (absent : s.own args c = none) :
      ClientStep args s c (s.clientTo c .unlink)
  | openedClient {seen : ℕ} (here : s.pc c = .openingClient seen) {f : Fifo Char}
      (found : s.own args c = some f) (opened : f.writeOpens ≠ seen) :
      ClientStep args s c (s.clientTo c .read)
  | read (here : s.pc c = .read) {f : Fifo Char}
      (found : s.own args c = some f) :
      ClientStep args s c ((s.print c (f.data.take 64)).setOwn args c (some (f.drop 64)))
  | ended (here : s.pc c = .read) {f : Fifo Char}
      (found : s.own args c = some f) (atEnd : f.AtEnd) :
      ClientStep args s c (s.clientTo c .closeClient)
  | closeClient (here : s.pc c = .closeClient) {f : Fifo Char}
      (found : s.own args c = some f) :
      ClientStep args s c ((s.clientTo c .unlink).setOwn args c (some f.closeRead))
  | unlink (here : s.pc c = .unlink) :
      ClientStep args s c ((s.clientTo c .exited).setOwn args c none)

/-- The steps of the server. -/
inductive ServerStep (files : List Char → Option (List Char)) (s : State ι) : State ι → Prop
  | openServer (here : s.server.pc = .openServer) :
      ServerStep files s
        { s.serverTo (if 0 < s.fifo.writers then .read else .openingServer s.fifo.writeOpens) with
          fifo := s.fifo.openRead }
  | openedServer {seen : ℕ} (here : s.server.pc = .openingServer seen)
      (opened : s.fifo.writeOpens ≠ seen) : ServerStep files s (s.serverTo .read)
  | read (here : s.server.pc = .read) {request : Buffer 64} {rest : List (Buffer 64)}
      (data : s.fifo.data = request :: rest) :
      ServerStep files s { s.scan request with fifo := s.fifo.drop 1 }
  | ended (here : s.server.pc = .read) (atEnd : s.fifo.AtEnd) :
      ServerStep files s (s.scan s.server.buf)
  | closeServer (here : s.server.pc = .closeServer) :
      ServerStep files s { s.serverTo .openClient with fifo := s.fifo.closeRead }
  | openClient (here : s.server.pc = .openClient) {f : Fifo Char}
      (found : s.fifos s.server.clientBuf.str = some f) :
      ServerStep files s
        ({ s with server :=
            { s.server with
              pc := if 0 < f.readers then .openFile else .openingClient f.readOpens
              buf := s.server.clientBuf
              cfd := s.server.clientBuf.str } }.setFifo s.server.clientBuf.str (some f.openWrite))
  | openClientFails (here : s.server.pc = .openClient)
      (absent : s.fifos s.server.clientBuf.str = none) :
      ServerStep files s
        { s with server := { s.server with pc := .exited, buf := s.server.clientBuf } }
  | openedClient {seen : ℕ} (here : s.server.pc = .openingClient seen) {f : Fifo Char}
      (found : s.fifos s.server.cfd = some f) (opened : f.readOpens ≠ seen) :
      ServerStep files s (s.serverTo .openFile)
  | openFile (here : s.server.pc = .openFile) {content : List Char}
      (readable : files s.server.pathname = some content) :
      ServerStep files s (s.serverTo (.copy content))
  | openFileFails (here : s.server.pc = .openFile) (absent : files s.server.pathname = none) :
      ServerStep files s (s.serverTo .exit)
  | copy {rest : List Char} (here : s.server.pc = .copy rest) :
      ServerStep files s
        { s with server :=
            { s.server with
              pc := if rest.take 64 = [] then .closeClient
                else .copyWrite (rest.take 64).length (rest.drop 64)
              buf := s.server.buf.overwrite (rest.take 64) } }
  | copyWrite {rnum : ℕ} {rest : List Char} (here : s.server.pc = .copyWrite rnum rest)
      {f : Fifo Char} (found : s.fifos s.server.cfd = some f) (reader : 0 < f.readers) :
      ServerStep files s
        ((s.serverTo (.copy rest)).setFifo s.server.cfd
          (some (f.write (s.server.buf.bytes.take rnum))))
  | copyFails {rnum : ℕ} {rest : List Char} (here : s.server.pc = .copyWrite rnum rest)
      (unread : ∀ f, s.fifos s.server.cfd = some f → f.readers = 0) :
      ServerStep files s (s.serverTo .exit)
  | closeClient (here : s.server.pc = .closeClient) :
      ServerStep files s
        ({ s.serverTo .openServer with
          served := s.served ++ [(s.server.cpid, s.server.pathname)] }.setFifo
            s.server.cfd ((s.fifos s.server.cfd).map Fifo.closeWrite))
  | exit (here : s.server.pc = .exit) :
      ServerStep files s
        ((s.serverTo .exited).setFifo s.server.cfd ((s.fifos s.server.cfd).map Fifo.closeWrite))

variable {files : List Char → Option (List Char)} {args : ι → Args} {s s' : State ι} {c : ι}

/-- **The inversion of the client's step.** -/
theorem client_cases (step : s.clientStep args c = some s') : ClientStep args s c s' := by
  unfold State.clientStep at step
  split at step
  case h_1 here =>
    split at step
    · cases step
      exact .mkfifo here ‹_›
    · cases step
      exact .mkfifoExists here ‹_›
  case h_2 here =>
    cases step
    exact .openServer here
  case h_3 here =>
    split at step
    · cases step
      exact .openedServer here ‹_›
    · cases step
  case h_4 here =>
    split at step
    · cases step
      exact .write here ‹_›
    · cases step
      exact .writeFails here
  case h_5 here =>
    cases step
    exact .exit here
  case h_6 => cases step
  case h_7 here =>
    cases step
    exact .closeServer here
  case h_8 here =>
    split at step
    · cases step
      exact .openClient here ‹_›
    · cases step
      exact .openClientFails here ‹_›
  case h_9 here =>
    split at step
    · split at step
      · cases step
        exact .openedClient here ‹_› ‹_›
      · cases step
    · cases step
  case h_10 here =>
    split at step
    case h_1 f found =>
      split at step
      case isTrue =>
        cases step
        exact .read here found
      case isFalse empty =>
        split at step
        case isTrue none =>
          cases step
          exact .ended here found ⟨not_not.mp empty, none⟩
        case isFalse => cases step
    case h_2 => cases step
  case h_11 here =>
    split at step
    · cases step
      exact .closeClient here ‹_›
    · cases step
  case h_12 here =>
    cases step
    exact .unlink here
  case h_13 => cases step

omit [DecidableEq ι] in
/-- **The inversion of the server's step.** -/
theorem server_cases (step : s.serverStep files = some s') : ServerStep files s s' := by
  unfold State.serverStep at step
  split at step
  case h_1 here =>
    cases step
    exact .openServer here
  case h_2 here =>
    split at step
    · cases step
      exact .openedServer here ‹_›
    · cases step
  case h_3 here =>
    split at step
    case h_1 data =>
      cases step
      exact .read here data
    case h_2 data =>
      split at step
      case isTrue none =>
        cases step
        exact .ended here ⟨data, none⟩
      case isFalse => cases step
  case h_4 here =>
    cases step
    exact .closeServer here
  case h_5 here =>
    dsimp only at step
    split at step
    · cases step
      exact .openClient here ‹_›
    · cases step
      exact .openClientFails here ‹_›
  case h_6 here =>
    split at step
    · split at step
      · cases step
        exact .openedClient here ‹_› ‹_›
      · cases step
    · cases step
  case h_7 here =>
    split at step
    · cases step
      exact .openFile here ‹_›
    · cases step
      exact .openFileFails here ‹_›
  case h_8 here =>
    cases step
    exact .copy here
  case h_9 here =>
    split at step
    case h_1 f found =>
      split at step
      case isTrue reader =>
        cases step
        exact .copyWrite here found reader
      case isFalse unread =>
        cases step
        refine .copyFails here fun f' found' => ?_
        rw [found] at found'
        cases found'
        omega
    case h_2 absent =>
      cases step
      refine .copyFails here fun f' found' => ?_
      rw [absent] at found'
      cases found'
  case h_10 here =>
    cases step
    exact .closeClient here
  case h_11 here =>
    cases step
    exact .exit here
  case h_12 => cases step

end Unpvol2.Snc.Servern
