/-
**The slots the clients own.**

A client owns its slot from the moment it has read `msgoff[nput]` until it posts `nstored`. The
token of `nempty` that lets another client be granted the slot again may have been earned by the
message of a third one, so a client that stalls in its `strcpy` can be lapped: `lapped_client`.

* `prompt` — nobody is granted a slot while a client is still before its post that was granted its
  own `NMESG` grants ago.
* `Near` — as long as that is so, the clients that own a slot are within the last `NMESG` grants.
* `apart_iff` — **in exactly the runs whose grants are all `prompt`, no two clients own one slot.**
-/

import Unpvol2.Ring.Delivery

set_option linter.unusedSectionVars false

namespace Unpvol2.Ring

open C Interleaving

variable {ι : Type} [DecidableEq ι]

/-- **No two clients write one slot.** -/
structure Apart (s : State ι) : Prop where
  /-- Two clients own two slots. -/
  slots : ∀ c d, (s.pc c).inFlight = true → (s.pc d).inFlight = true →
    (s.client c).offset = (s.client d).offset → c = d
  /-- The bytes two clients write are in two slots. -/
  writes : ∀ c d j k, s.pc c = .copy j → s.pc d = .copy k →
    ((s.client c).offset + j) / mesgsize = ((s.client d).offset + k) / mesgsize → c = d

/-- The clients that own a slot were granted it within the last `NMESG - 1` grants. -/
def State.Recent (s : State ι) : Prop :=
  ∀ d, (s.pc d).inFlight = true → s.granted.length < (s.client d).grant + nmesg

/-- A slot is granted only while the clients that own one were granted it recently. -/
def prompt (s : State ι) : Act ι → Prop
  | .client c => s.pc c = .grab → s.Recent
  | .server => True

/-! ### The window of the grants -/

/-- The clients that own a slot are within the last `NMESG` grants. -/
def Near (s : State ι) : Prop :=
  ∀ d, (s.pc d).inFlight = true → s.granted.length ≤ (s.client d).grant + nmesg

section Moves

variable {s s' : State ι} {args : ι → Args}

/-- A client moves, and is granted nothing. -/
theorem Near.client (near : Near s) (c : ι) (x : Client)
    (client : s'.client = Function.update s.client c x) (granted : s'.granted = s.granted)
    (own : x.pc.inFlight = true → (s.pc c).inFlight = true ∧ x.grant = (s.client c).grant) :
    Near s' := by
  intro d inFlight
  unfold State.pc at inFlight
  rw [granted]
  rw [client] at inFlight ⊢
  by_cases same : d = c
  · rw [same, Function.update_self] at inFlight ⊢
    obtain ⟨before, grant⟩ := own inFlight
    rw [grant]
    exact near c before
  · rw [Function.update_of_ne same] at inFlight ⊢
    exact near d inFlight

/-- A client is granted a slot. -/
theorem Near.grab (recent : s.Recent) {c : ι} : Near (s.grab c) := by
  intro d inFlight
  have length : (s.grab c).granted.length = s.granted.length + 1 := List.length_append
  rw [length]
  have inFlight : (Function.update s.client c _ d).pc.inFlight = true := inFlight
  show s.granted.length + 1 ≤ (Function.update s.client c _ d).grant + nmesg
  by_cases same : d = c
  · rw [same, Function.update_self]
    exact Nat.add_le_add_left (by decide) _
  · rw [Function.update_of_ne same] at inFlight ⊢
    exact recent d inFlight

/-- **Every prompt step keeps the clients that own a slot near.** -/
theorem Near.step {action : Act ι} (near : Near s) (admitted : prompt s action)
    (step : Step s action s') : Near s' := by
  cases step with
  | grab c here => exact Near.grab (admitted here)
  | compose c here | exit c here | take c here | overflow c here | overflowWait c here
  | overflowLoad c here | overflowStore c _ here | overflowPost c here | lock c here
  | post c here => exact near.client c _ rfl rfl nofun
  | unlock c here | copy c _ here =>
    refine near.client c _ rfl rfl fun _ => ⟨?_, rfl⟩
    rw [here]
    rfl
  | serverOverflowTest here =>
    unfold State.overflowTest
    split <;> exact near
  | _ => exact near

end Moves

theorem near_of_reachable {args : ι → Args} {s : State ι}
    (reachable : (machine args).Reachable prompt s) : Near s := by
  refine reachable.induct (I := Near) nofun ?_
  intro s action s' _ near admitted step
  exact near.step admitted (step_cases step)

/-! ### The result -/

section Result

variable {args : ι → Args} {s : State ι}

/-- The clients that are near own different slots. -/
theorem Near.apart (near : Near s) (grants : Grants args s) : Apart s := by
  have slots : ∀ c d, (s.pc c).inFlight = true → (s.pc d).inFlight = true →
      (s.client c).grant % nmesg = (s.client d).grant % nmesg → c = d := by
    intro c d here there same
    refine grants.holder_unique here there ?_
    have low := near c here
    have low' := near d there
    have high := grants.grant_lt here
    have high' := grants.grant_lt there
    by_contra ne
    refine slot_ne (p := s.granted.length - nmesg) ne ?_ ?_ ?_ ?_ same <;> omega
  refine ⟨fun c d here there same => ?_, fun c d j k here there same => ?_⟩
  · rw [(grants.fits c).offset here, (grants.fits d).offset there] at same
    exact slots c d here there (Nat.eq_of_mul_eq_mul_right (by decide) same)
  · have own : (s.pc c).inFlight = true := by
      rw [here]
      rfl
    have own' : (s.pc d).inFlight = true := by
      rw [there]
      rfl
    have inside : j < mesgsize :=
      Nat.lt_of_le_of_lt ((grants.fits c).copied j here) (grants.flight_length own)
    have inside' : k < mesgsize :=
      Nat.lt_of_le_of_lt ((grants.fits d).copied k there) (grants.flight_length own')
    rw [(grants.fits c).offset own, (grants.fits d).offset own'] at same
    refine slots c d own own' ?_
    unfold mesgsize at *
    omega

/-- **A grant that is not prompt gives a slot to a second client.** -/
theorem prompt_of_apart (near : Near s) (grants : Grants args s) (indices : Indices s) {c : ι}
    (here : s.pc c = .grab) (apart : Apart (s.grab c)) : s.Recent := by
  intro d inFlight
  by_contra late
  have lapped : s.granted.length = (s.client d).grant + nmesg := by
    have most := near d inFlight
    omega
  have other : d ≠ c := by
    rintro rfl
    rw [here] at inFlight
    cases inFlight
  have own : (s.grab c).client c = ⟨(s.client c).pid, (s.client c).nloop, .postMutex,
      (s.client c).i, (s.client c).mesg, s.msgoff s.nput, s.granted.length⟩ :=
    Function.update_self ..
  have kept : (s.grab c).client d = s.client d := Function.update_of_ne other _ _
  refine other (apart.slots d c ?_ ?_ ?_)
  · unfold State.pc
    rw [kept]
    exact inFlight
  · unfold State.pc
    rw [own]
    rfl
  · rw [kept, own, (grants.fits d).offset inFlight, indices.msgoff, indices.nput, lapped,
      Nat.add_mod_right]

/-- **No two clients own one slot in exactly the runs in which every grant is prompt.** -/
theorem apart_iff (args : ι → Args) (actions : List (Act ι)) :
    (machine args).Along Apart (start args) actions ↔
      (machine args).Admitted prompt (start args) actions := by
  have admitted : ∀ s, (machine args).Reachable
      (fun s action => Anything s action ∧ prompt s action) s →
      (machine args).Reachable prompt s :=
    fun s => Machine.Reachable.mono fun _ _ => And.right
  refine Machine.along_iff_admitted (M := machine args) (fun s reachable => ?_) ?_
    (Machine.admitted_anything _ actions)
  · exact (near_of_reachable (admitted s reachable)).apart (grants_of_reachable reachable)
  intro s action reachable _ apart
  cases action with
  | server => trivial
  | client c =>
    intro here
    have step : (machine args).step s (.client c) = some (s.grab c) := by
      show s.clientStep c = _
      unfold State.clientStep
      rw [here]
    exact prompt_of_apart (near_of_reachable (admitted s reachable))
      (grants_of_reachable reachable) (indices_of_reachable reachable) here (apart _ step)

end Result

/-! ### A client that is lapped -/

/-- Seventeen clients with one message each. -/
def manyClients : Fin 17 → Args := fun c => ⟨c + 1, 1⟩

/-- The clients from 2 to 15 are granted a slot. -/
def others : List (Act (Fin 17)) :=
  (List.finRange 14).flatMap fun c => List.replicate 5 (Act.client (c.castLE (by decide) + 2))

/-- The first client is granted slot 0 and stops. The second one sends its message, the server takes
its token for slot 0, the others are granted the other slots, and the last one slot 0. -/
def lappedClient : List (Act (Fin 17)) :=
  List.replicate 5 (Act.client 0) ++ List.replicate 23 (Act.client 1) ++
    List.replicate 5 Act.server ++ others ++ List.replicate 5 (Act.client 16)

/-- **Two clients own slot 0**, and both are to copy a message into it. -/
theorem lapped_client : ¬ ∀ (args : Fin 17 → Args) (s : State (Fin 17)),
    (machine args).Reachable Anything s → Apart s := by
  intro apart
  have reachable : (machine manyClients).Reachable Anything
      ((machine manyClients).after lappedClient) :=
    Machine.reachable_after (by decide +kernel) (Machine.admitted_anything _ _)
  have slots := (apart _ _ reachable).slots 0 16 (by decide +kernel) (by decide +kernel)
    (by decide +kernel)
  exact absurd slots (by decide)

end Unpvol2.Ring
