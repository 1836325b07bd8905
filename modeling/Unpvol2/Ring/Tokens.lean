/-
**The tokens and the indices of the ring.**

`Step` lists the steps. Two laws hold in every run, in whatever order the processes move:

* `Tokens.empty` — the `NMESG` tokens of `nempty` are in its count, with clients, in the count of
  `nstored`, or with the server;
* `Tokens.granted` — every slot granted has been printed, or its token is still to be posted by the
  client, in the count of `nstored`, or with the server.

So at most `NMESG` slots are granted and not printed, the server finds a granted slot
(`Tokens.printable`), and a client that is granted a slot finds one that is not (`Tokens.room`).
`Indices` says that `nput` and `index` run through the slots in the order of the grants.
-/

import Unpvol2.Lib.Threads
import Unpvol2.Ring.Model

set_option linter.unusedSectionVars false

namespace Unpvol2.Ring

open C Interleaving

variable {ι : Type} [DecidableEq ι]

/-! ### The list of the steps -/

/-- The steps, case by case. -/
inductive Step (s : State ι) : Act ι → State ι → Prop
  | compose (c : ι) (here : s.pc c = .loop) (more : ((s.client c).i : ℤ) < (s.client c).nloop) :
      Step s (.client c) (s.compose c)
  | exit (c : ι) (here : s.pc c = .loop) : Step s (.client c) (s.clientTo c .exited)
  | take (c : ι) (here : s.pc c = .trywait) (positive : 0 < s.nempty) :
      Step s (.client c) { s.clientTo c .waitMutex with nempty := s.nempty - 1 }
  | overflow (c : ι) (here : s.pc c = .trywait) : Step s (.client c) (s.clientTo c .overflowWait)
  | overflowWait (c : ι) (here : s.pc c = .overflowWait) (positive : 0 < s.noverflowmutex) :
      Step s (.client c)
        { s.clientTo c .overflowLoad with noverflowmutex := s.noverflowmutex - 1 }
  | overflowLoad (c : ι) (here : s.pc c = .overflowLoad) :
      Step s (.client c) (s.clientTo c (.overflowStore s.noverflow))
  | overflowStore (c : ι) (value : ℤ) (here : s.pc c = .overflowStore value) :
      Step s (.client c) { s.clientTo c .overflowPost with noverflow := int64 (value + 1) }
  | overflowPost (c : ι) (here : s.pc c = .overflowPost) :
      Step s (.client c) { s.round c with noverflowmutex := s.noverflowmutex + 1 }
  | lock (c : ι) (here : s.pc c = .waitMutex) (positive : 0 < s.mutex) :
      Step s (.client c) { s.clientTo c .grab with mutex := s.mutex - 1 }
  | grab (c : ι) (here : s.pc c = .grab) : Step s (.client c) (s.grab c)
  | unlock (c : ι) (here : s.pc c = .postMutex) :
      Step s (.client c) { s.clientTo c (.copy 0) with mutex := s.mutex + 1 }
  | copy (c : ι) (j : ℕ) (here : s.pc c = .copy j) : Step s (.client c) (s.copy c j)
  | post (c : ι) (here : s.pc c = .postStored) :
      Step s (.client c) { s.round c with nstored := s.nstored + 1 }
  | serverTake (here : s.server.pc = .waitStored) (positive : 0 < s.nstored) :
      Step s .server { s.serverTo .waitMutex with nstored := s.nstored - 1 }
  | serverLock (here : s.server.pc = .waitMutex) (positive : 0 < s.mutex) :
      Step s .server { s.serverTo .print with mutex := s.mutex - 1 }
  | print (here : s.server.pc = .print) : Step s .server s.print
  | serverUnlock (here : s.server.pc = .postMutex) :
      Step s .server { s.serverTo .postEmpty with mutex := s.mutex + 1 }
  | postEmpty (here : s.server.pc = .postEmpty) :
      Step s .server { s.serverTo .overflowWait with nempty := s.nempty + 1 }
  | serverOverflowWait (here : s.server.pc = .overflowWait) (positive : 0 < s.noverflowmutex) :
      Step s .server { s.serverTo .overflowRead with noverflowmutex := s.noverflowmutex - 1 }
  | serverOverflowRead (here : s.server.pc = .overflowRead) :
      Step s .server
        { s with server := { s.server with pc := .overflowPost, temp := int32 s.noverflow } }
  | serverOverflowPost (here : s.server.pc = .overflowPost) :
      Step s .server { s.serverTo .overflowTest with noverflowmutex := s.noverflowmutex + 1 }
  | serverOverflowTest (here : s.server.pc = .overflowTest) : Step s .server s.overflowTest

theorem client_cases {s s' : State ι} {c : ι} (step : s.clientStep c = some s') :
    Step s (.client c) s' := by
  unfold State.clientStep at step
  split at step
  case h_1 here =>
    split at step
    · cases step
      exact .compose c here ‹_›
    · cases step
      exact .exit c here
  case h_2 here =>
    split at step
    · cases step
      exact .take c here ‹_›
    · cases step
      exact .overflow c here
  case h_3 here =>
    split at step
    · cases step
      exact .overflowWait c here ‹_›
    · cases step
  case h_4 here =>
    cases step
    exact .overflowLoad c here
  case h_5 value here =>
    cases step
    exact .overflowStore c value here
  case h_6 here =>
    cases step
    exact .overflowPost c here
  case h_7 here =>
    split at step
    · cases step
      exact .lock c here ‹_›
    · cases step
  case h_8 here =>
    cases step
    exact .grab c here
  case h_9 here =>
    cases step
    exact .unlock c here
  case h_10 j here =>
    cases step
    exact .copy c j here
  case h_11 here =>
    cases step
    exact .post c here
  case h_12 => cases step

theorem server_cases {s s' : State ι} (step : s.serverStep = some s') : Step s .server s' := by
  unfold State.serverStep at step
  split at step
  case h_1 here =>
    split at step
    · cases step
      exact .serverTake here ‹_›
    · cases step
  case h_2 here =>
    split at step
    · cases step
      exact .serverLock here ‹_›
    · cases step
  case h_3 here =>
    cases step
    exact .print here
  case h_4 here =>
    cases step
    exact .serverUnlock here
  case h_5 here =>
    cases step
    exact .postEmpty here
  case h_6 here =>
    split at step
    · cases step
      exact .serverOverflowWait here ‹_›
    · cases step
  case h_7 here =>
    cases step
    exact .serverOverflowRead here
  case h_8 here =>
    cases step
    exact .serverOverflowPost here
  case h_9 here =>
    cases step
    exact .serverOverflowTest here

/-- **The inversion of the step function.** -/
theorem step_cases {s s' : State ι} {action : Act ι} (step : s.step action = some s') :
    Step s action s' := by
  cases action with
  | client c => exact client_cases step
  | server => exact server_cases step

/-! ### The indices -/

/-- The indices follow the grants and the prints. -/
structure Indices (s : State ι) : Prop where
  msgoff : s.msgoff = fun index => index * mesgsize
  nput : s.nput = s.granted.length % nmesg
  index : s.server.index = s.output.length % nmesg

theorem nextIndex_mod (n : ℕ) : nextIndex (n % nmesg) = (n + 1) % nmesg := by
  unfold nextIndex nmesg
  split <;> omega

theorem Indices.step {s s' : State ι} {action : Act ι} (indices : Indices s)
    (step : Step s action s') : Indices s' := by
  obtain ⟨msgoff, nput, index⟩ := indices
  cases step with
  | grab c here =>
    refine ⟨msgoff, ?_, index⟩
    show nextIndex s.nput = (s.granted ++ [_]).length % nmesg
    rw [nput, nextIndex_mod, List.length_append]
    rfl
  | print here =>
    refine ⟨msgoff, nput, ?_⟩
    show nextIndex s.server.index = (s.output ++ [_]).length % nmesg
    rw [index, nextIndex_mod, List.length_append]
    rfl
  | serverOverflowTest here =>
    unfold State.overflowTest
    split <;> exact ⟨msgoff, nput, index⟩
  | _ => exact ⟨msgoff, nput, index⟩

theorem indices_of_reachable {ok : State ι → Act ι → Prop} {args : ι → Args} {s : State ι}
    (reachable : (machine args).Reachable ok s) : Indices s := by
  refine reachable.induct ⟨rfl, rfl, rfl⟩ ?_
  intro s action s' _ indices _ step
  exact indices.step (step_cases step)

/-! ### Who has which token -/

/-- The client has a token of `nempty`. -/
def ClientPc.empty : ClientPc → ℤ
  | .waitMutex | .grab | .postMutex | .copy _ | .postStored => 1
  | _ => 0

/-- The client has been granted a slot and has not posted it. -/
def ClientPc.inFlight : ClientPc → Bool
  | .postMutex | .copy _ | .postStored => true
  | _ => false

def ClientPc.granted (pc : ClientPc) : ℤ := if pc.inFlight then 1 else 0

/-- The server has a token that it has not turned into one of `nempty`. -/
def ServerPc.empty : ServerPc → ℤ
  | .waitMutex | .print | .postMutex | .postEmpty => 1
  | _ => 0

/-- The server has a token of `nstored`. -/
def ServerPc.stored : ServerPc → ℤ
  | .waitMutex | .print => 1
  | _ => 0

theorem ClientPc.granted_nonneg (pc : ClientPc) : 0 ≤ pc.granted := by
  unfold ClientPc.granted
  split <;> decide

theorem ClientPc.granted_le_empty (pc : ClientPc) : pc.granted ≤ pc.empty := by
  cases pc <;> simp [ClientPc.granted, ClientPc.inFlight, ClientPc.empty]

theorem ServerPc.stored_le_empty (pc : ServerPc) : pc.stored ≤ pc.empty := by
  cases pc <;> decide

theorem ServerPc.stored_nonneg (pc : ServerPc) : 0 ≤ pc.stored := by
  cases pc <;> decide

variable [Fintype ι]

/-- The sum of a weight over all clients. -/
def State.clients (s : State ι) (w : ClientPc → ℤ) : ℤ := total (fun x => w x.pc) s.client

/-- The conservation laws. -/
structure Tokens (s : State ι) : Prop where
  empty : s.nempty + s.clients ClientPc.empty + s.nstored + s.server.pc.empty = nmesg
  granted : s.granted.length =
    s.output.length + s.clients ClientPc.granted + s.nstored + s.server.pc.stored

theorem tokens_start (args : ι → Args) : Tokens (start args) := by
  have none : ∀ w : ClientPc → ℤ, w .loop = 0 → (start args).clients w = 0 :=
    fun w zero => total_eq_zero fun _ => zero
  refine ⟨?_, ?_⟩
  · rw [none _ rfl]
    rfl
  · rw [none _ rfl]
    rfl

section Moves

variable {s s' : State ι}

/-- A client's step that conserves its own tokens. -/
theorem Tokens.client (tokens : Tokens s) (c : ι) (x : Client)
    (client : s'.client = Function.update s.client c x) (server : s'.server = s.server)
    (output : s'.output = s.output)
    (empty : s'.nempty + x.pc.empty + s'.nstored = s.nempty + (s.pc c).empty + s.nstored)
    (granted : s'.granted.length - x.pc.granted - s'.nstored =
      s.granted.length - (s.pc c).granted - (s.nstored : ℤ)) : Tokens s' := by
  have sum : ∀ w : ClientPc → ℤ, s'.clients w = s.clients w - w (s.pc c) + w x.pc := by
    intro w
    unfold State.clients
    rw [client, total_update]
    rfl
  obtain ⟨empty', granted'⟩ := tokens
  refine ⟨?_, ?_⟩
  · rw [sum, server]
    omega
  · rw [sum, server, output]
    omega

/-- A step of the server that conserves its own tokens. -/
theorem Tokens.server (tokens : Tokens s) (client : s'.client = s.client)
    (granted : s'.granted = s.granted)
    (empty : s'.nempty + s'.nstored + s'.server.pc.empty =
      s.nempty + s.nstored + s.server.pc.empty)
    (stored : s'.output.length + s'.nstored + s'.server.pc.stored =
      s.output.length + s.nstored + s.server.pc.stored) : Tokens s' := by
  have same : ∀ w, s'.clients w = s.clients w := by
    intro w
    unfold State.clients
    rw [client]
  obtain ⟨empty', granted'⟩ := tokens
  refine ⟨?_, ?_⟩
  · rw [same]
    omega
  · rw [same, granted]
    omega

attribute [local simp] State.clientTo State.serverTo State.round State.compose State.grab
  State.copy State.print ClientPc.empty ClientPc.granted ClientPc.inFlight ServerPc.empty
  ServerPc.stored

/-- **Every step conserves the tokens.** -/
theorem Tokens.step {action : Act ι} (tokens : Tokens s) (step : Step s action s') :
    Tokens s' := by
  cases step with
  | compose c here | exit c here | take c here | overflow c here | overflowWait c here
  | overflowLoad c here | overflowStore c _ here | overflowPost c here | lock c here | grab c here
  | unlock c here | post c here =>
    refine tokens.client c _ rfl rfl rfl ?_ ?_ <;> simp [here] <;> omega
  | copy c j here =>
    refine tokens.client c _ rfl rfl rfl ?_ ?_ <;> simp only [here] <;> split <;> rfl
  | serverTake here | serverLock here | print here | serverUnlock here | postEmpty here
  | serverOverflowWait here | serverOverflowRead here | serverOverflowPost here =>
    refine tokens.server rfl rfl ?_ ?_ <;> simp [here] <;> omega
  | serverOverflowTest here =>
    unfold State.overflowTest
    split <;> refine tokens.server rfl rfl ?_ ?_ <;> simp [here]

end Moves

theorem tokens_of_reachable {ok : State ι → Act ι → Prop} {args : ι → Args} {s : State ι}
    (reachable : (machine args).Reachable ok s) : Tokens s := by
  refine reachable.induct (tokens_start args) ?_
  intro s action s' _ tokens _ step
  exact tokens.step (step_cases step)

/-! ### What the laws say -/

section Laws

variable {s : State ι}

theorem clients_nonneg {w : ClientPc → ℤ} (nonneg : ∀ pc, 0 ≤ w pc) : 0 ≤ s.clients w :=
  total_nonneg (w := fun x : Client => w x.pc) (fun x => nonneg x.pc) _

/-- A client whose token has no slot weighs in the difference of the two sums. -/
theorem granted_le_empty : s.clients ClientPc.granted ≤ s.clients ClientPc.empty :=
  Finset.sum_le_sum fun c _ => (s.client c).pc.granted_le_empty

theorem granted_lt_empty {c : ι} (here : s.pc c = .grab) :
    s.clients ClientPc.granted + 1 ≤ s.clients ClientPc.empty := by
  have own : (s.client c).pc = .grab := here
  have less : ∑ x, ((s.client x).pc.empty - (s.client x).pc.granted) ≥ 1 := by
    have le := le_total (w := fun x : Client => x.pc.empty - x.pc.granted) (r := s.client)
      (fun x => sub_nonneg.mpr (ClientPc.granted_le_empty _)) c
    rw [own] at le
    exact le
  rw [Finset.sum_sub_distrib] at less
  show (∑ x, (s.client x).pc.granted) + 1 ≤ ∑ x, (s.client x).pc.empty
  omega

/-- **At most `NMESG` slots are granted and not printed.** -/
theorem Tokens.bounded (tokens : Tokens s) : s.granted.length ≤ s.output.length + nmesg := by
  have empty := tokens.empty
  have granted := tokens.granted
  have clients := granted_le_empty (s := s)
  have server := s.server.pc.stored_le_empty
  omega

theorem Tokens.printed_le (tokens : Tokens s) : s.output.length ≤ s.granted.length := by
  have granted := tokens.granted
  have clients := clients_nonneg (s := s) ClientPc.granted_nonneg
  have server := s.server.pc.stored_nonneg
  omega

/-- **A client that is granted a slot finds a free one.** -/
theorem Tokens.room (tokens : Tokens s) {c : ι} (here : s.pc c = .grab) :
    s.granted.length < s.output.length + nmesg := by
  have empty := tokens.empty
  have granted := tokens.granted
  have clients := granted_lt_empty here
  have server := s.server.pc.stored_le_empty
  omega

/-- **The server prints a slot that has been granted.** -/
theorem Tokens.printable (tokens : Tokens s) (here : s.server.pc = .print) :
    s.output.length < s.granted.length := by
  have granted := tokens.granted
  have clients := clients_nonneg (s := s) ClientPc.granted_nonneg
  rw [here] at granted
  simp only [ServerPc.stored] at granted
  omega

/-- With the clients gone and the server waiting in vain, every slot granted is printed. -/
theorem Tokens.drained (tokens : Tokens s) (gone : ∀ c, s.pc c = .exited)
    (waits : s.server.pc = .waitStored) (none : s.nstored = 0) :
    s.nempty = nmesg ∧ s.output.length = s.granted.length := by
  have zero : ∀ w : ClientPc → ℤ, w .exited = 0 → s.clients w = 0 := by
    intro w weightless
    refine total_eq_zero fun c => ?_
    have here : (s.client c).pc = .exited := gone c
    rw [here]
    exact weightless
  obtain ⟨empty, granted⟩ := tokens
  rw [zero _ rfl, none, waits] at empty granted
  simp only [ServerPc.empty, ServerPc.stored] at empty granted
  omega

end Laws

end Unpvol2.Ring
