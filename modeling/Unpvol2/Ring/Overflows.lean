/-
**The rounds of the clients.**

A client ends each of its rounds in one of two ways: it posts the slot it was granted, or it finds
no token of `nempty` and adds one to `noverflow`, under `noverflowmutex`.

* `Rounds` — a client makes as many rounds as its command line says.
* `Overflows` — `noverflowmutex` is held by at most one process, so what a client has loaded is
  still the value of `noverflow` when it stores it back plus one (`Overflows.alone`), and
  `noverflow` is the number of rounds without a slot.
* `accounted_once` — **every round is accounted for once**: with the clients gone and the server
  waiting, the slots printed and the overflows are all rounds there were.
-/

import Unpvol2.Ring.Tokens

set_option linter.unusedSectionVars false

namespace Unpvol2.Ring

open C Interleaving

variable {ι : Type} [DecidableEq ι]

/-! ### The rounds of one client -/

/-- The client is in a round. -/
def ClientPc.inRound : ClientPc → ℤ
  | .loop | .exited => 0
  | _ => 1

/-- The number of rounds a client makes: a loop to a negative `nloop` makes none. -/
def Args.rounds (x : Args) : ℤ := max x.nloop 0

/-- How far client `c` has come with its rounds. -/
structure Rounds (args : ι → Args) (c : ι) (x : Client) : Prop where
  nloop : x.nloop = (args c).nloop
  most : x.i + x.pc.inRound ≤ (args c).rounds
  all : x.pc = .exited → x.nloop ≤ x.i

theorem Rounds.exited {args : ι → Args} {c : ι} {x : Client} (rounds : Rounds args c x)
    (here : x.pc = .exited) : x.i = (args c).rounds := by
  obtain ⟨nloop, most, all⟩ := rounds
  have all := all here
  rw [here] at most
  rw [nloop] at all
  have bound : (x.i : ℤ) + 0 ≤ max (args c).nloop 0 := most
  show (x.i : ℤ) = max (args c).nloop 0
  omega

/-- A client leaves its loop at the end only. -/
theorem exit_all {s s' : State ι} {c : ι} (step : s.clientStep c = some s')
    (here : s.pc c = .loop) (gone : s'.pc c = .exited) : (s.client c).nloop ≤ (s.client c).i := by
  unfold State.clientStep at step
  rw [here] at step
  by_contra more
  have more : ((s.client c).i : ℤ) < (s.client c).nloop := by omega
  rw [if_pos more] at step
  cases step
  unfold State.pc State.compose at gone
  dsimp only at gone
  rw [Function.update_self] at gone
  cases gone

section Moves

variable {args : ι → Args} {s s' : State ι} {c : ι}

/-- One client moves. -/
theorem rounds_moved (rounds : ∀ d, Rounds args d (s.client d)) (c : ι) (x : Client)
    (client : s'.client = Function.update s.client c x) (own : Rounds args c x) (d : ι) :
    Rounds args d (s'.client d) := by
  rw [client]
  by_cases same : d = c
  · rw [same, Function.update_self]
    exact own
  · rw [Function.update_of_ne same]
    exact rounds d

/-- A client moves on inside its round. -/
theorem rounds_goes (rounds : ∀ d, Rounds args d (s.client d)) (c : ι) (x : Client)
    (client : s'.client = Function.update s.client c x) (nloop : x.nloop = (s.client c).nloop)
    (i : x.i = (s.client c).i) (before : (s.pc c).inRound = 1) (after : x.pc.inRound = 1) (d : ι) :
    Rounds args d (s'.client d) := by
  refine rounds_moved rounds c x client ⟨nloop.trans (rounds c).nloop, ?_, fun here => ?_⟩ d
  · have most := (rounds c).most
    unfold State.pc at before
    rw [before] at most
    rw [i, after]
    exact most
  · rw [here] at after
    cases after

/-- A round ends. -/
theorem rounds_ends (rounds : ∀ d, Rounds args d (s.client d)) (c : ι)
    (client : s'.client =
      Function.update s.client c { s.client c with pc := .loop, i := (s.client c).i + 1 })
    (inside : (s.pc c).inRound = 1) (d : ι) : Rounds args d (s'.client d) := by
  refine rounds_moved rounds c _ client ⟨(rounds c).nloop, ?_, nofun⟩ d
  have most := (rounds c).most
  unfold State.pc at inside
  rw [inside] at most
  show (((s.client c).i + 1 : ℕ) : ℤ) + 0 ≤ (args c).rounds
  omega

/-- **Every step keeps how far the clients have come.** -/
theorem rounds_step {action : Act ι} (rounds : ∀ d, Rounds args d (s.client d))
    (step : s.step action = some s') (d : ι) : Rounds args d (s'.client d) := by
  cases step_cases step with
  | compose c here more =>
    have nloop := (rounds c).nloop
    refine rounds_moved rounds c _ rfl ?_ d
    refine ⟨nloop, ?_, nofun⟩
    show ((s.client c).i : ℤ) + 1 ≤ max (args c).nloop 0
    omega
  | exit c here =>
    have all := exit_all step here (by
      unfold State.pc State.clientTo
      dsimp only
      rw [Function.update_self])
    refine rounds_moved rounds c _ rfl ?_ d
    refine ⟨(rounds c).nloop, ?_, fun _ => all⟩
    have most := (rounds c).most
    rw [show (s.client c).pc = .loop from here] at most
    exact most
  | take c here | overflow c here | overflowWait c here | overflowLoad c here
  | overflowStore c _ here | lock c here | grab c here | unlock c here =>
    refine rounds_goes rounds c _ rfl ?_ ?_ (by rw [here]; rfl) ?_ d <;> rfl
  | copy c j here =>
    refine rounds_goes rounds c _ rfl ?_ ?_ (by rw [here]; rfl) ?_ d
    · rfl
    · rfl
    · dsimp only
      split <;> rfl
  | overflowPost c here | post c here => exact rounds_ends rounds c rfl (by rw [here]; rfl) d
  | serverOverflowTest here =>
    unfold State.overflowTest
    split <;> exact rounds d
  | _ => exact rounds d

end Moves

theorem rounds_of_reachable {ok : State ι → Act ι → Prop} {args : ι → Args} {s : State ι}
    (reachable : (machine args).Reachable ok s) (c : ι) : Rounds args c (s.client c) := by
  refine reachable.induct (I := fun s => ∀ c, Rounds args c (s.client c)) (fun c => ?_) ?_ c
  · refine ⟨rfl, ?_, nofun⟩
    show ((0 : ℕ) : ℤ) + 0 ≤ max (args c).nloop 0
    omega
  · intro s action s' _ rounds _ step
    exact rounds_step rounds step

/-! ### `noverflow` -/

/-- The client holds `noverflowmutex`. -/
def ClientPc.counting : ClientPc → ℤ
  | .overflowLoad | .overflowStore _ | .overflowPost => 1
  | _ => 0

/-- The server holds `noverflowmutex`. -/
def ServerPc.counting : ServerPc → ℤ
  | .overflowRead | .overflowPost => 1
  | _ => 0

/-- The client has counted an overflow in its round. -/
def ClientPc.overflowed : ClientPc → ℤ
  | .overflowPost => 1
  | _ => 0

/-- The rounds of the client that have been granted a slot or counted as an overflow. -/
def Client.settled (x : Client) : ℤ := x.i + x.pc.granted + x.pc.overflowed

variable [Fintype ι]

/-- The rounds that have been counted as an overflow. -/
def State.overflowed (s : State ι) : ℤ := total Client.settled s.client - s.granted.length

/-- `noverflow` is the number of overflows, and nobody else has loaded it while a client adds
one. -/
structure Overflows (s : State ι) : Prop where
  mutex : s.noverflowmutex + s.clients ClientPc.counting + s.server.pc.counting = 1
  loaded : ∀ c value, s.pc c = .overflowStore value → value = s.noverflow
  count : s.noverflow = int64 s.overflowed
  nonneg : 0 ≤ s.overflowed

theorem overflowed_start (args : ι → Args) : (start args).overflowed = 0 := by
  have zero : total Client.settled (start args).client = 0 := total_eq_zero fun _ => rfl
  unfold State.overflowed
  rw [zero]
  rfl

theorem overflows_start (args : ι → Args) : Overflows (start args) where
  mutex := by
    have none : (start args).clients ClientPc.counting = 0 := total_eq_zero fun _ => rfl
    rw [none]
    rfl
  loaded := nofun
  count := by
    rw [overflowed_start]
    rfl
  nonneg := (overflowed_start args).ge

theorem ClientPc.counting_nonneg (pc : ClientPc) : 0 ≤ pc.counting := by
  unfold ClientPc.counting
  split <;> decide

theorem ServerPc.counting_nonneg (pc : ServerPc) : 0 ≤ pc.counting := by
  cases pc <;> decide

section OverflowMoves

variable {s s' : State ι}

/-- **Only one client is at `noverflow`.** -/
theorem Overflows.alone (overflows : Overflows s) {c d : ι} (here : (s.pc c).counting = 1)
    (there : (s.pc d).counting = 1) : c = d := by
  by_contra ne
  have both := add_le_total (w := fun x : Client => x.pc.counting) (r := s.client)
    (fun _ => ClientPc.counting_nonneg _) ne
  have mutex := overflows.mutex
  have server := s.server.pc.counting_nonneg
  unfold State.pc at here there
  unfold State.clients at mutex
  omega

/-- A client's step that conserves its token of `noverflowmutex` and stores no `noverflow`. -/
theorem Overflows.client (overflows : Overflows s) (c : ι) (x : Client)
    (client : s'.client = Function.update s.client c x) (server : s'.server = s.server)
    (noverflow : s'.noverflow = s.noverflow)
    (mutex : s'.noverflowmutex + x.pc.counting = s.noverflowmutex + (s.pc c).counting)
    (loaded : ∀ value, x.pc = .overflowStore value → value = s.noverflow)
    (settled : x.settled - s'.granted.length = (s.client c).settled - s.granted.length) :
    Overflows s' := by
  have same : s'.overflowed = s.overflowed := by
    unfold State.overflowed
    rw [client, total_update]
    omega
  refine ⟨?_, fun d value here => ?_, ?_, ?_⟩
  · have sum : s'.clients ClientPc.counting =
        s.clients ClientPc.counting - (s.pc c).counting + x.pc.counting := by
      unfold State.clients
      rw [client, total_update]
      rfl
    have before := overflows.mutex
    rw [sum, server]
    omega
  · unfold State.pc at here
    rw [client] at here
    rw [noverflow]
    rcases update_or (P := fun x : Client => x.pc = .overflowStore value) here with old | new
    · exact overflows.loaded d value old
    · exact loaded value new
  · rw [noverflow, same]
    exact overflows.count
  · rw [same]
    exact overflows.nonneg

/-- A step of the server that conserves its token of `noverflowmutex`. -/
theorem Overflows.server (overflows : Overflows s) (client : s'.client = s.client)
    (granted : s'.granted = s.granted) (noverflow : s'.noverflow = s.noverflow)
    (mutex : s'.noverflowmutex + s'.server.pc.counting =
      s.noverflowmutex + s.server.pc.counting) : Overflows s' := by
  have same : s'.overflowed = s.overflowed := by
    unfold State.overflowed
    rw [client, granted]
  refine ⟨?_, fun d value here => ?_, ?_, ?_⟩
  · have before := overflows.mutex
    unfold State.clients at before ⊢
    rw [client]
    omega
  · unfold State.pc at here
    rw [client] at here
    rw [noverflow]
    exact overflows.loaded d value here
  · rw [noverflow, same]
    exact overflows.count
  · rw [same]
    exact overflows.nonneg

/-- **`noverflow++` is stored**: what was loaded is still there. -/
theorem Overflows.store (overflows : Overflows s) {c : ι} {value : ℤ}
    (here : s.pc c = .overflowStore value) :
    Overflows { s.clientTo c .overflowPost with noverflow := int64 (value + 1) } := by
  have own : (s.client c).pc = .overflowStore value := here
  have more : State.overflowed
      { s.clientTo c .overflowPost with noverflow := int64 (value + 1) } = s.overflowed + 1 := by
    have before : (s.client c).settled = (s.client c).i + 0 + 0 := by
      unfold Client.settled
      rw [own]
      rfl
    have after : Client.settled { s.client c with pc := .overflowPost } =
        (s.client c).i + 0 + 1 := rfl
    show total Client.settled (Function.update s.client c _) - (s.granted.length : ℤ) = _
    rw [total_update, before, after]
    unfold State.overflowed
    omega
  refine ⟨?_, fun d value' there => ?_, ?_, ?_⟩
  · have sum : (s.clientTo c .overflowPost).clients ClientPc.counting =
        s.clients ClientPc.counting := by
      unfold State.clients State.clientTo
      rw [total_update, own]
      exact Int.sub_add_cancel _ _
    have before := overflows.mutex
    rw [← sum] at before
    exact before
  · have there : (Function.update s.client c { s.client c with pc := .overflowPost } d).pc =
        .overflowStore value' := there
    by_cases same : d = c
    · rw [same, Function.update_self] at there
      cases there
    · rw [Function.update_of_ne same] at there
      have alone := overflows.alone (c := c) (d := d) (by rw [here]; rfl)
        (by unfold State.pc; rw [there]; rfl)
      exact absurd alone.symm same
  · rw [more]
    show int64 (value + 1) = int64 (s.overflowed + 1)
    rw [overflows.loaded c value here, overflows.count]
    exact Int.bmod_add_bmod
  · have nonneg := overflows.nonneg
    rw [more]
    omega

attribute [local simp] State.clientTo State.serverTo State.round State.compose State.grab
  State.copy State.print ClientPc.counting ServerPc.counting ClientPc.granted ClientPc.inFlight
  ClientPc.overflowed Client.settled State.pc

/-- **Every step keeps `noverflow` the number of overflows.** -/
theorem Overflows.step {action : Act ι} (overflows : Overflows s) (step : Step s action s') :
    Overflows s' := by
  cases step with
  | compose c here | exit c here | take c here | overflow c here | overflowWait c here
  | overflowLoad c here | overflowPost c here | lock c here | grab c here
  | unlock c here | post c here =>
    unfold State.pc at here
    refine overflows.client c _ rfl rfl rfl ?_ ?_ ?_ <;> simp [here] <;> omega
  | overflowStore c value here => exact overflows.store here
  | copy c j here =>
    unfold State.pc at here
    by_cases more : j < (s.client c).mesg.length
    · refine overflows.client c _ rfl rfl rfl ?_ ?_ ?_ <;> simp [here, more]
    · refine overflows.client c _ rfl rfl rfl ?_ ?_ ?_ <;> simp [here, more]
  | serverTake here | serverLock here | print here | serverUnlock here | postEmpty here
  | serverOverflowWait here | serverOverflowRead here | serverOverflowPost here =>
    refine overflows.server rfl rfl rfl ?_
    simp [here] <;> omega
  | serverOverflowTest here =>
    unfold State.overflowTest
    split
    · refine overflows.server rfl rfl rfl ?_
      simp [here]
    · refine overflows.server rfl rfl rfl ?_
      simp [here]

end OverflowMoves

theorem overflows_of_reachable {ok : State ι → Act ι → Prop} {args : ι → Args} {s : State ι}
    (reachable : (machine args).Reachable ok s) : Overflows s := by
  refine reachable.induct (overflows_start args) ?_
  intro s action s' _ overflows _ step
  exact overflows.step (step_cases step)

/-! ### The result -/

section Result

variable {args : ι → Args} {s : State ι}

/-- With the clients gone the overflows are the rounds that have printed no slot. -/
theorem overflowed_of_gone (rounds : ∀ c, Rounds args c (s.client c))
    (gone : ∀ c, s.pc c = .exited) :
    s.overflowed = ∑ c, (args c).rounds - s.granted.length := by
  have settled : total Client.settled s.client = ∑ c, (args c).rounds := by
    refine Finset.sum_congr rfl fun c _ => ?_
    have here : (s.client c).pc = .exited := gone c
    unfold Client.settled
    rw [here, (rounds c).exited here]
    exact (Int.add_zero _).trans (Int.add_zero _)
  unfold State.overflowed
  rw [settled]

/-- **Every round is accounted for once.** The tokens of `nempty` are all somewhere, the two indices
are the numbers of slots granted and printed, and when the clients are gone and the server waits,
the slots printed and the overflows are the rounds of all clients; `noverflow` is a `long`, and
says so as long as these fit into one. -/
theorem accounted_once (reachable : (machine args).Reachable Anything s) :
    s.nempty + s.clients ClientPc.empty + s.nstored + s.server.pc.empty = nmesg ∧
      s.nput = s.granted.length % nmesg ∧ s.server.index = s.output.length % nmesg ∧
      ((∀ c, s.pc c = .exited) → s.server.pc = .waitStored → s.nstored = 0 →
        s.nempty = nmesg ∧
        s.noverflow = int64 (∑ c, (args c).rounds - s.output.length) ∧
        (∑ c, (args c).rounds < 2 ^ 63 →
          s.output.length + s.noverflow = ∑ c, (args c).rounds)) := by
  have tokens := tokens_of_reachable reachable
  have indices := indices_of_reachable reachable
  refine ⟨tokens.empty, indices.nput, indices.index, fun gone waits none => ?_⟩
  obtain ⟨full, printed⟩ := tokens.drained gone waits none
  have overflowed := overflowed_of_gone (rounds_of_reachable reachable) gone
  obtain ⟨_, _, count, nonneg⟩ := overflows_of_reachable reachable
  rw [overflowed, ← printed] at count nonneg
  refine ⟨full, count, fun fits => ?_⟩
  rw [count, int64_of_range (by omega) (by omega)]
  omega

end Result

/-- A client with one message more than there are slots. -/
def oneClient : Fin 1 → Args := fun _ => ⟨1, nmesg + 1⟩

/-- It fills the slots, overflows in its last round and exits; then the server prints the slots. -/
def lateServer (c : ι) : List (Act ι) :=
  List.replicate 381 (Act.client c) ++ List.replicate 144 Act.server

theorem accounted_once_lateServer :
    let s := (machine oneClient).after (lateServer 0)
    s.output.length = nmesg ∧ s.noverflow = 1 ∧ s.output.length + s.noverflow = nmesg + 1 := by
  have reachable :
      (machine oneClient).Reachable Anything ((machine oneClient).after (lateServer 0)) :=
    Machine.reachable_after (by decide +kernel) (Machine.admitted_anything _ _)
  obtain ⟨_, _, _, ended⟩ := accounted_once reachable
  exact ⟨by decide +kernel, by decide +kernel,
    (ended (by decide +kernel) (by decide +kernel) (by decide +kernel)).2.2 (by decide)⟩

end Unpvol2.Ring
