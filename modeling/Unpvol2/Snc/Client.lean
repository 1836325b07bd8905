/-
**The program of `client`, for any server FIFO.**

A client touches the server FIFO, its own FIFO, and its own variables: its `View`. What the server
FIFO holds is left open, so that one program runs beside `servern`, whose FIFO holds requests
(`clientStep_eq`), and beside `serverfork`, whose FIFO holds bytes.
-/

import Unpvol2.Snc.Servern

namespace Unpvol2.Snc.Servern

open C Interleaving

/-- What a client has in front of it. -/
structure View (β : Type) where
  server : Fifo β
  own : Option (Fifo Char)
  client : Client

namespace View

variable {β : Type}

/-- The client goes on to `pc`. -/
def clientTo (v : View β) (pc : ClientPc) : View β :=
  { v with client := { v.client with pc := pc } }

/-- The client writes to its standard output. -/
def print (v : View β) (bytes : List Char) : View β :=
  { v with client := { v.client with output := v.client.output ++ bytes } }

/-- The next call of a client that asks with `request`. -/
def step (request : List β) (v : View β) : Option (View β) :=
  match v.client.pc with
  | .mkfifo =>
    match v.own with
    | none => some { v.clientTo .openServer with own := some Fifo.fresh }
    | some _ => some (v.clientTo .openServer)
  | .openServer =>
    let pc := if 0 < v.server.readers then .write else .openingServer v.server.readOpens
    some { v.clientTo pc with server := v.server.openWrite }
  | .openingServer seen => if v.server.readOpens ≠ seen then some (v.clientTo .write) else none
  | .write =>
    if 0 < v.server.readers then
      some { v.clientTo .closeServer with server := v.server.write request }
    else some (v.clientTo .exit)
  | .exit => some { v.clientTo .aborted with server := v.server.closeWrite }
  | .aborted => none
  | .closeServer => some { v.clientTo .openClient with server := v.server.closeWrite }
  | .openClient =>
    match v.own with
    | some f =>
      let pc := if 0 < f.writers then .read else .openingClient f.writeOpens
      some { v.clientTo pc with own := some f.openRead }
    -- `open` fails, and so do the calls on the descriptor
    | none => some (v.clientTo .unlink)
  | .openingClient seen =>
    match v.own with
    | some f => if f.writeOpens ≠ seen then some (v.clientTo .read) else none
    | none => none
  | .read =>
    match v.own with
    | some f =>
      if f.data ≠ [] then some { v.print (f.data.take 64) with own := some (f.drop 64) }
      else if f.writers = 0 then some (v.clientTo .closeClient)
      else none
    | none => none
  | .closeClient =>
    match v.own with
    | some f => some { v.clientTo .unlink with own := some f.closeRead }
    | none => none
  | .unlink => some { v.clientTo .exited with own := none }
  | .exited => none

/-- The steps of a client. -/
inductive Moves (request : List β) (v : View β) : View β → Prop
  | mkfifo (here : v.client.pc = .mkfifo) (absent : v.own = none) :
      Moves request v { v.clientTo .openServer with own := some Fifo.fresh }
  | mkfifoExists (here : v.client.pc = .mkfifo) {f : Fifo Char} (exist : v.own = some f) :
      Moves request v (v.clientTo .openServer)
  | openServer (here : v.client.pc = .openServer) :
      Moves request v
        { v.clientTo
            (if 0 < v.server.readers then .write else .openingServer v.server.readOpens) with
          server := v.server.openWrite }
  | openedServer {seen : ℕ} (here : v.client.pc = .openingServer seen)
      (opened : v.server.readOpens ≠ seen) : Moves request v (v.clientTo .write)
  | write (here : v.client.pc = .write) (reader : 0 < v.server.readers) :
      Moves request v { v.clientTo .closeServer with server := v.server.write request }
  | writeFails (here : v.client.pc = .write) (unread : v.server.readers = 0) :
      Moves request v (v.clientTo .exit)
  | exit (here : v.client.pc = .exit) :
      Moves request v { v.clientTo .aborted with server := v.server.closeWrite }
  | closeServer (here : v.client.pc = .closeServer) :
      Moves request v { v.clientTo .openClient with server := v.server.closeWrite }
  | openClient (here : v.client.pc = .openClient) {f : Fifo Char} (found : v.own = some f) :
      Moves request v
        { v.clientTo (if 0 < f.writers then .read else .openingClient f.writeOpens) with
          own := some f.openRead }
  | openClientFails (here : v.client.pc = .openClient) (absent : v.own = none) :
      Moves request v (v.clientTo .unlink)
  | openedClient {seen : ℕ} (here : v.client.pc = .openingClient seen) {f : Fifo Char}
      (found : v.own = some f) (opened : f.writeOpens ≠ seen) : Moves request v (v.clientTo .read)
  | read (here : v.client.pc = .read) {f : Fifo Char} (found : v.own = some f) :
      Moves request v { v.print (f.data.take 64) with own := some (f.drop 64) }
  | ended (here : v.client.pc = .read) {f : Fifo Char} (found : v.own = some f)
      (atEnd : f.AtEnd) : Moves request v (v.clientTo .closeClient)
  | closeClient (here : v.client.pc = .closeClient) {f : Fifo Char} (found : v.own = some f) :
      Moves request v { v.clientTo .unlink with own := some f.closeRead }
  | unlink (here : v.client.pc = .unlink) :
      Moves request v { v.clientTo .exited with own := none }

/-- **The inversion of the client's step.** -/
theorem moves {request : List β} {v v' : View β} (step : v.step request = some v') :
    Moves request v v' := by
  unfold View.step at step
  split at step
  case h_1 here =>
    split at step
    · cases step
      exact .mkfifo here ‹_›
    · cases step
      exact .mkfifoExists here ‹_›
  case h_2 here =>
    cases step
    exact .openServer here
  case h_3 here =>
    split at step
    · cases step
      exact .openedServer here ‹_›
    · cases step
  case h_4 here =>
    split at step
    · cases step
      exact .write here ‹_›
    · cases step
      exact .writeFails here (by omega)
  case h_5 here =>
    cases step
    exact .exit here
  case h_6 => cases step
  case h_7 here =>
    cases step
    exact .closeServer here
  case h_8 here =>
    split at step
    · cases step
      exact .openClient here ‹_›
    · cases step
      exact .openClientFails here ‹_›
  case h_9 here =>
    split at step
    · split at step
      · cases step
        exact .openedClient here ‹_› ‹_›
      · cases step
    · cases step
  case h_10 here =>
    split at step
    · rename_i f found
      split at step
      · cases step
        exact .read here found
      · split at step
        · cases step
          exact .ended here found ⟨not_not.mp ‹_›, ‹_›⟩
        · cases step
    · cases step
  case h_11 here =>
    split at step
    · cases step
      exact .closeClient here ‹_›
    · cases step
  case h_12 here =>
    cases step
    exact .unlink here
  case h_13 => cases step

end View

/-! ### The clients of `servern` -/

section Servern

variable {ι : Type} [DecidableEq ι]

/-- What client `c` has in front of it. -/
def State.view (s : State ι) (args : ι → Args) (c : ι) : View (Buffer 64) :=
  ⟨s.fifo, s.own args c, s.client c⟩

/-- Client `c` has changed it. -/
def State.put (s : State ι) (args : ι → Args) (c : ι) (v : View (Buffer 64)) : State ι :=
  { s.setOwn args c v.own with fifo := v.server, client := Function.update s.client c v.client }

/-- A client that leaves its own FIFO alone. -/
theorem put_own (s : State ι) (args : ι → Args) (c : ι) (server : Fifo (Buffer 64))
    (client : Client) : s.put args c ⟨server, s.own args c, client⟩ =
      { s with fifo := server, client := Function.update s.client c client } := by
  unfold State.put State.setOwn State.setFifo State.own
  rw [Function.update_eq_self]

/-- **The clients of `servern` run this program**, and write their request as one item. -/
theorem clientStep_eq (args : ι → Args) (s : State ι) (c : ι) :
    s.clientStep args c = ((s.view args c).step [(args c).request]).map (s.put args c) := by
  have kept := put_own s args c
  unfold State.clientStep View.step
  have pc : (s.view args c).client.pc = s.pc c := rfl
  have view : (s.view args c).own = s.own args c := rfl
  rw [pc, view]
  cases here : s.pc c with
  | mkfifo =>
    cases own : s.own args c with
    | none => rfl
    | some f => exact congrArg some (kept _ _).symm
  | openServer => exact congrArg some (kept _ _).symm
  | openingServer seen =>
    by_cases opened : s.fifo.readOpens ≠ seen
    · simp [View.clientTo, State.view, opened, kept, State.clientTo]
    · simp [State.view, opened]
  | write =>
    by_cases reader : 0 < s.fifo.readers
    · simp [View.clientTo, State.view, reader, kept, State.clientTo]
    · simp [View.clientTo, State.view, reader, kept, State.clientTo]
  | exit => exact congrArg some (kept _ _).symm
  | aborted => rfl
  | closeServer => exact congrArg some (kept _ _).symm
  | openClient =>
    cases own : s.own args c with
    | some f => rfl
    | none => exact congrArg some (kept _ _).symm
  | openingClient seen =>
    cases own : s.own args c with
    | some f =>
      by_cases opened : f.writeOpens ≠ seen
      · simp [View.clientTo, State.view, opened, kept, State.clientTo]
      · simp [opened]
    | none => rfl
  | read =>
    cases own : s.own args c with
    | some f =>
      by_cases unread : f.data ≠ []
      · simp [View.print, State.view, unread, State.print]
        rfl
      · by_cases last : f.writers = 0
        · simp [View.clientTo, State.view, unread, last, kept, State.clientTo]
        · simp [unread, last]
    | none => rfl
  | closeClient =>
    cases own : s.own args c with
    | some f => rfl
    | none => rfl
  | unlink => rfl
  | exited => rfl

end Servern

end Unpvol2.Snc.Servern
