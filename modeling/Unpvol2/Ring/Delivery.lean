/-
**Delivery through the ring.**

A client copies its message into its slot and posts `nstored` after it has given `mutex` back, and
the token of `nstored` names no slot. So the server can take the token of one client and print the
slot of another that is still copying: `tangled_clients`.

* `Untangled` — no client that was granted the slot the server is about to print is still before
  its `sem_post(&ptr->nstored)`.
* `Intact` — what the memory holds as long as every print is `untangled`: the slots granted and not
  printed are at most `NMESG` in a row, so two clients never copy into one slot, and each slot holds
  as much of its message as its client has copied.
* `delivered_iff` — **all states of a run are `Delivered` exactly when every print of the run is
  untangled.**
-/

import Unpvol2.Ring.Grants

set_option linter.unusedSectionVars false

namespace Unpvol2.Ring

open C Interleaving

variable {ι : Type} [DecidableEq ι]

/-! ### What the ring is for -/

/-- Slot number `k` has been granted, and the client it was granted to has posted `nstored`. -/
def State.Posted (s : State ι) (k : ℕ) : Prop :=
  k < s.granted.length ∧ ∀ c, (s.pc c).inFlight = true → (s.client c).grant ≠ k

/-- **Every message is delivered once and as it was sent.** -/
structure Delivered (args : ι → Args) (s : State ι) : Prop where
  /-- The `k`-th print is the whole message that the `k`-th slot was granted for, and its client has
  posted `nstored`. -/
  intact : ∀ k printed, s.output[k]? = some printed → s.Posted k ∧
    ∃ g, s.granted[k]? = some g ∧ printed = (k % nmesg, mesgText (args g.client).pid g.i)
  /-- No message is granted two slots. -/
  once : (s.granted.map fun g => (g.client, g.i)).Nodup
  /-- When the clients are done and the server waits, all of them have been printed. -/
  drained : (∀ c, s.pc c = .exited) → s.server.pc = .waitStored → s.nstored = 0 →
    s.output.length = s.granted.length

/-! ### The condition -/

/-- The slot `index` is the slot of no client that has not posted it. -/
def State.Untangled (s : State ι) : Prop :=
  ∀ c, (s.pc c).inFlight = true → (s.client c).offset ≠ s.msgoff s.server.index

/-- Whenever the server prints, the slot is that of no client that has not posted it. -/
def printsUntangled (s : State ι) : Act ι → Prop
  | .client _ => True
  | .server => s.server.pc = .print → s.Untangled

instance [Fintype ι] (s : State ι) (action : Act ι) : Decidable (printsUntangled s action) :=
  match action with
  | .client _ => isTrue trivial
  | .server =>
    inferInstanceAs (Decidable (s.server.pc = .print →
      ∀ c, (s.pc c).inFlight = true → (s.client c).offset ≠ s.msgoff s.server.index))

/-! ### What the memory holds -/

/-- Each slot granted and not printed holds as much of its message as its client has copied. -/
structure Intact (s : State ι) : Prop where
  ahead : ∀ c, (s.pc c).inFlight = true → s.output.length ≤ (s.client c).grant
  held : ∀ k g n, s.granted[k]? = some g → s.output.length ≤ k → n ≤ g.mesg.length + 1 →
    (∀ c, (s.pc c).inFlight = true → (s.client c).grant = k → n ≤ (s.client c).copied) →
    Holds s.msgdata (k % nmesg * mesgsize) g.mesg n
  printed : ∀ k printed, s.output[k]? = some printed →
    ∃ g, s.granted[k]? = some g ∧ printed = (k % nmesg, g.mesg)

theorem intact_start (args : ι → Args) : Intact (start args) where
  ahead := nofun
  held := nofun
  printed := nofun

/-- Two slots granted and not printed are two places. -/
theorem slot_ne {k m p : ℕ} (ne : k ≠ m) (lowK : p ≤ k) (lowM : p ≤ m) (highK : k < p + nmesg)
    (highM : m < p + nmesg) : k % nmesg ≠ m % nmesg := by
  unfold nmesg at *
  omega

/-! ### One byte of `strcpy` -/

section Copy

variable {s : State ι} {c d : ι} {j : ℕ}

theorem copy_client_self : (s.copy c j).client c =
    { s.client c with pc := if j < (s.client c).mesg.length then .copy (j + 1) else .postStored } :=
  Function.update_self ..

theorem copy_client_ne (ne : d ≠ c) : (s.copy c j).client d = s.client d :=
  Function.update_of_ne ne _ _

theorem copy_grant (d : ι) : ((s.copy c j).client d).grant = (s.client d).grant := by
  by_cases same : d = c
  · rw [same, copy_client_self]
  · rw [copy_client_ne same]

/-- The client holds its slot on. -/
theorem copy_inFlight (here : s.pc c = .copy j) (d : ι) :
    ((s.copy c j).pc d).inFlight = (s.pc d).inFlight := by
  by_cases same : d = c
  · rw [same, here]
    unfold State.pc
    rw [copy_client_self]
    show ClientPc.inFlight (if j < (s.client c).mesg.length then _ else _) = true
    split <;> rfl
  · unfold State.pc
    rw [copy_client_ne same]

/-- It has copied one byte more. -/
theorem copy_copied (most : j ≤ (s.client c).mesg.length) :
    ((s.copy c j).client c).copied = j + 1 := by
  rw [copy_client_self]
  unfold Client.copied
  by_cases more : j < (s.client c).mesg.length
  · rw [if_pos more]
  · rw [if_neg more]
    show (s.client c).mesg.length + 1 = j + 1
    omega

end Copy

/-! ### The moves -/

section Moves

variable {s s' : State ι} {args : ι → Args} {c : ι}

/-- A client moves, and neither grants nor copies: it may hold its slot on, post what it has copied,
or hold none. -/
theorem Intact.client (intact : Intact s) (grants : Grants args s) (x : Client)
    (client : s'.client = Function.update s.client c x) (granted : s'.granted = s.granted)
    (output : s'.output = s.output) (msgdata : s'.msgdata = s.msgdata)
    (holds : x.pc.inFlight = true →
      (s.pc c).inFlight = true ∧ x.grant = (s.client c).grant ∧ x.copied ≤ (s.client c).copied)
    (posts : (s.pc c).inFlight = true → x.pc.inFlight = false →
      (s.client c).copied = (s.client c).mesg.length + 1) : Intact s' := by
  have pc : ∀ other, s'.pc other = (Function.update s.client c x other).pc := by
    intro other
    unfold State.pc
    rw [client]
  refine ⟨?_, ?_, ?_⟩
  · intro other inFlight
    rw [pc] at inFlight
    rw [output, client]
    by_cases own : other = c
    · subst own
      rw [Function.update_self] at inFlight ⊢
      obtain ⟨before, same, _⟩ := holds inFlight
      rw [same]
      exact intact.ahead other before
    · rw [Function.update_of_ne own] at inFlight ⊢
      exact intact.ahead other inFlight
  · intro k g n found low small holders
    rw [granted] at found
    rw [output] at low
    rw [msgdata]
    refine intact.held k g n found low small ?_
    intro other inFlight same
    have holder := holders other
    rw [pc, client] at holder
    by_cases own : other = c
    · subst own
      rw [Function.update_self] at holder
      by_cases after : x.pc.inFlight = true
      · obtain ⟨_, grant, copied⟩ := holds after
        exact le_trans (holder after (grant.trans same)) copied
      · rw [posts inFlight (Bool.eq_false_of_not_eq_true after)]
        have own := (grants.fits other).grant inFlight
        rw [same, found] at own
        cases own
        exact small
    · rw [Function.update_of_ne own] at holder
      exact holder inFlight same
  · rw [output, granted]
    exact intact.printed

/-- The server moves, and does not print. -/
theorem Intact.server (intact : Intact s) (client : s'.client = s.client)
    (granted : s'.granted = s.granted) (output : s'.output = s.output)
    (msgdata : s'.msgdata = s.msgdata) : Intact s' := by
  obtain ⟨ahead, held, printed⟩ := intact
  have pc : ∀ d, s'.pc d = s.pc d := by
    intro d
    unfold State.pc
    rw [client]
  refine ⟨?_, ?_, ?_⟩
  · simp only [pc, client, output]
    exact ahead
  · simp only [pc, client, granted, output, msgdata]
    exact held
  · rw [granted, output]
    exact printed

/-- A client is granted a slot: nothing of its message is copied yet. -/
theorem Intact.grab (intact : Intact s) (here : s.pc c = .grab)
    (le : s.output.length ≤ s.granted.length) : Intact (s.grab c) := by
  have other : ∀ d, d ≠ c → (s.grab c).client d = s.client d :=
    fun d ne => Function.update_of_ne ne _ _
  have own : (s.grab c).client c = _ := Function.update_self c _ _
  refine ⟨?_, ?_, ?_⟩
  · intro d inFlight
    show s.output.length ≤ _
    by_cases same : d = c
    · rw [same, own]
      exact le
    · unfold State.pc at inFlight
      rw [other d same] at inFlight ⊢
      exact intact.ahead d inFlight
  · intro k g n found low small holders
    show Holds s.msgdata _ _ _
    have holder := holders c
    unfold State.pc at holder
    rw [own] at holder
    by_cases new : k = s.granted.length
    · have none : n ≤ 0 := holder rfl new.symm
      rw [Nat.le_zero.mp none]
      exact Holds.zero
    · have old : s.granted[k]? = some g := by
        have bound := (List.getElem?_eq_some_iff.mp found).1
        have less : k < s.granted.length := by
          have length : (s.grab c).granted.length = s.granted.length + 1 := List.length_append
          omega
        rw [← found]
        exact (List.getElem?_append_left less).symm
      refine intact.held k g n old low small ?_
      intro d inFlight same
      have others := holders d
      unfold State.pc at others
      by_cases equal : d = c
      · rw [equal, here] at inFlight
        cases inFlight
      · rw [other d equal] at others
        exact others inFlight same
  · intro k printed found
    obtain ⟨g, old, text⟩ := intact.printed k printed found
    refine ⟨g, ?_, text⟩
    show (s.granted ++ [_])[k]? = some g
    rw [List.getElem?_append_left (List.getElem?_eq_some_iff.mp old).1]
    exact old

variable [Fintype ι]

/-- The byte a client writes lies outside the other slots that are not printed yet. -/
theorem Intact.apart (intact : Intact s) (tokens : Tokens s) (grants : Grants args s)
    (inFlight : (s.pc c).inFlight = true) {j k n : ℕ} {g : Grant ι}
    (found : s.granted[k]? = some g) (low : s.output.length ≤ k) (other : k ≠ (s.client c).grant)
    (most : j ≤ (s.client c).mesg.length) (small : n ≤ g.mesg.length + 1) :
    (s.client c).offset + j < k % nmesg * mesgsize ∨
      k % nmesg * mesgsize + n ≤ (s.client c).offset + j := by
  have apart : k % nmesg ≠ (s.client c).grant % nmesg := by
    have boundK := (List.getElem?_eq_some_iff.mp found).1
    have boundC := grants.grant_lt inFlight
    have few := tokens.bounded
    exact slot_ne other low (intact.ahead c inFlight) (by omega) (by omega)
  have shortK := grants.mesg_length (List.mem_of_getElem? found)
  have shortC := grants.flight_length inFlight
  rw [(grants.fits c).offset inFlight]
  unfold mesgsize at shortK shortC ⊢
  omega

/-- A client copies one byte, into its own slot only. -/
theorem Intact.copy (intact : Intact s) (tokens : Tokens s) (grants : Grants args s) {j : ℕ}
    (here : s.pc c = .copy j) : Intact (s.copy c j) := by
  have inFlight : (s.pc c).inFlight = true := by
    rw [here]
    rfl
  have fits := grants.fits c
  have most : j ≤ (s.client c).mesg.length := fits.copied j here
  refine ⟨?_, ?_, intact.printed⟩
  · intro d flying
    rw [copy_inFlight here] at flying
    rw [copy_grant]
    exact intact.ahead d flying
  · intro k g n found low small holders
    have found : s.granted[k]? = some g := found
    have low : s.output.length ≤ k := low
    show Holds (Function.update s.msgdata ((s.client c).offset + j) (byte (s.client c).mesg j))
      _ _ _
    by_cases mine : k = (s.client c).grant
    · have message : g.mesg = (s.client c).mesg := by
        have grant := fits.grant inFlight
        rw [← mine, found] at grant
        rw [Option.some.inj grant]
      have before : Holds s.msgdata (k % nmesg * mesgsize) g.mesg j := by
        refine intact.held k g j found low ?_ ?_
        · rw [message]
          exact Nat.le_succ_of_le most
        · intro d flying same
          rw [grants.holder_unique flying inFlight (same.trans mine)]
          unfold Client.copied
          rw [show (s.client c).pc = .copy j from here]
      have next : n ≤ j + 1 := by
        rw [← copy_copied most]
        exact holders c ((copy_inFlight here c).trans inFlight) ((copy_grant c).trans mine.symm)
      rw [fits.offset inFlight, ← mine, ← message]
      exact before.write.mono next
    · have before : Holds s.msgdata (k % nmesg * mesgsize) g.mesg n := by
        refine intact.held k g n found low small ?_
        intro d flying same
        have ne : d ≠ c := fun equal => mine (equal ▸ same.symm)
        have holder := holders d
        rw [copy_inFlight here, copy_client_ne ne] at holder
        exact holder flying same
      exact before.write_away (intact.apart tokens grants inFlight found low mine most small)

/-- **An untangled print is the whole message of its slot.** -/
theorem Intact.print (intact : Intact s) (tokens : Tokens s) (indices : Indices s)
    (grants : Grants args s) (here : s.server.pc = .print) (untangled : s.Untangled) :
    Intact s.print := by
  have bound := tokens.printable here
  obtain ⟨g, found⟩ : ∃ g, s.granted[s.output.length]? = some g :=
    ⟨_, List.getElem?_eq_getElem bound⟩
  have offset : s.msgoff s.server.index = s.output.length % nmesg * mesgsize := by
    rw [indices.msgoff, indices.index]
  have posted : ∀ c, (s.pc c).inFlight = true → (s.client c).grant ≠ s.output.length := by
    intro c inFlight same
    refine untangled c inFlight ?_
    rw [offset, (grants.fits c).offset inFlight, same]
  have text : C.read s.msgdata (s.msgoff s.server.index)
      (nmesg * mesgsize - s.msgoff s.server.index) = g.mesg := by
    have member := List.mem_of_getElem? found
    have whole := intact.held _ g _ found (le_refl _) (le_refl _)
      fun c inFlight same => absurd same (posted c inFlight)
    rw [offset]
    refine read_eq whole ?_ ?_
    · rw [grants.texts g member]
      exact nul_not_mem_mesgText _ _
    · have short := grants.mesg_length member
      unfold nmesg mesgsize at *
      omega
  have length : s.print.output.length = s.output.length + 1 := List.length_append
  refine ⟨?_, ?_, ?_⟩
  · intro c inFlight
    have ahead := intact.ahead c inFlight
    have ne := posted c inFlight
    show s.print.output.length ≤ (s.client c).grant
    omega
  · intro k g n found low small holders
    exact intact.held k g n found (by omega) small holders
  · intro k printed found'
    by_cases last : k = s.output.length
    · subst last
      have value : s.print.output[s.output.length]? = some _ := List.getElem?_concat_length
      rw [value, text, indices.index] at found'
      exact ⟨g, found, (Option.some.inj found').symm⟩
    · refine intact.printed k printed ?_
      have less : k < s.output.length := by
        have bound := (List.getElem?_eq_some_iff.mp found').1
        omega
      rw [← found']
      exact (List.getElem?_append_left less).symm

/-- **A run of untangled prints keeps the memory intact.** -/
theorem Intact.step {action : Act ι} (intact : Intact s) (tokens : Tokens s) (indices : Indices s)
    (grants : Grants args s) (ok : printsUntangled s action) (step : Step s action s') :
    Intact s' := by
  cases step with
  | compose c here | exit c here | take c here | overflow c here | overflowWait c here
  | overflowLoad c here | overflowStore c _ here | overflowPost c here | lock c here =>
    have pc : (s.pc c).inFlight = false := by
      rw [here]
      rfl
    refine intact.client grants _ rfl rfl rfl rfl nofun ?_
    rw [pc]
    nofun
  | grab c here => exact intact.grab here tokens.printed_le
  | unlock c here =>
    refine intact.client grants _ rfl rfl rfl rfl (fun _ => ⟨?_, rfl, Nat.zero_le _⟩) nofun
    rw [here]
    rfl
  | copy c j here => exact intact.copy tokens grants here
  | post c here =>
    refine intact.client grants _ rfl rfl rfl rfl nofun fun _ _ => ?_
    unfold Client.copied
    rw [show (s.client c).pc = .postStored from here]
  | print here => exact intact.print tokens indices grants here (ok here)
  | serverOverflowTest here =>
    unfold State.overflowTest
    split <;> exact intact.server rfl rfl rfl rfl
  | _ => exact intact.server rfl rfl rfl rfl

end Moves

/-! ### Delivery -/

section Delivery

variable [Fintype ι] {s : State ι} {args : ι → Args}

theorem intact_of_reachable (reachable : (machine args).Reachable printsUntangled s) :
    Intact s := by
  refine reachable.induct (intact_start args) ?_
  intro s action s' before intact ok step
  exact intact.step (tokens_of_reachable before) (indices_of_reachable before)
    (grants_of_reachable before) ok (step_cases step)

/-- As long as every print is untangled, everything printed is delivered. -/
theorem delivered_of_untangled (reachable : (machine args).Reachable printsUntangled s) :
    Delivered args s := by
  have intact := intact_of_reachable reachable
  have grants := grants_of_reachable reachable
  refine ⟨?_, grants.once, fun exited waits none =>
    ((tokens_of_reachable reachable).drained exited waits none).2⟩
  intro k printed found
  obtain ⟨g, granted, text⟩ := intact.printed k printed found
  refine ⟨⟨(List.getElem?_eq_some_iff.mp granted).1, ?_⟩, g, granted, ?_⟩
  · intro c inFlight same
    have ahead := intact.ahead c inFlight
    have below := (List.getElem?_eq_some_iff.mp found).1
    omega
  · rw [text, grants.texts g (List.mem_of_getElem? granted)]

/-- A print of a slot whose client has posted it is untangled. -/
theorem untangled_of_posted (reachable : (machine args).Reachable printsUntangled s)
    (posted : s.Posted s.output.length) : s.Untangled := by
  intro c inFlight same
  have intact := intact_of_reachable reachable
  have grants := grants_of_reachable reachable
  have indices := indices_of_reachable reachable
  rw [indices.msgoff, indices.index, (grants.fits c).offset inFlight] at same
  have mods := Nat.eq_of_mul_eq_mul_right (by decide) same
  have low := intact.ahead c inFlight
  have high := grants.grant_lt inFlight
  have few := (tokens_of_reachable reachable).bounded
  refine posted.2 c inFlight ?_
  by_contra ne
  exact slot_ne ne low (le_refl _) (by omega) (by unfold nmesg; omega) mods

/-- **Every message is printed once and as it was sent in exactly the runs in which every slot
printed is that of no client still before its `sem_post(&ptr->nstored)`.** -/
theorem delivered_iff (args : ι → Args) (actions : List (Act ι)) :
    (machine args).Along (Delivered args) (start args) actions ↔
      (machine args).Admitted printsUntangled (start args) actions := by
  have admitted : ∀ s, (machine args).Reachable
      (fun s action => Anything s action ∧ printsUntangled s action) s →
      (machine args).Reachable printsUntangled s :=
    fun s => Machine.Reachable.mono fun _ _ => And.right
  refine Machine.along_iff_admitted (M := machine args)
    (fun s reachable => delivered_of_untangled (admitted s reachable)) ?_
    (Machine.admitted_anything _ actions)
  intro s action reachable _ delivered
  cases action with
  | client c => trivial
  | server =>
    intro here
    have step : (machine args).step s .server = some s.print := by
      show s.serverStep = _
      unfold State.serverStep
      rw [here]
    have last : s.print.output[s.output.length]? = some _ := List.getElem?_concat_length
    have posted := ((delivered s.print step).intact _ _ last).1
    exact untangled_of_posted (admitted s reachable) posted

end Delivery

/-! ### Two clients tangled -/

/-- Two clients with one message each. -/
def twoClients : Fin 2 → Args := fun c => ⟨c + 1, 1⟩

/-- Client `c` is granted slot 0 and stops, client `d` is granted slot 1, copies and posts, and the
server prints. -/
def tangledClients (c d : ι) : List (Act ι) :=
  List.replicate 5 (.client c) ++ List.replicate 23 (.client d) ++ List.replicate 3 .server

/-- **The server prints an empty slot**: it takes the token of the second client for the slot of
the first, which has copied nothing. -/
theorem tangled_clients : ¬ ∀ (args : Fin 2 → Args) (s : State (Fin 2)),
    (machine args).Reachable Anything s → Delivered args s := by
  intro delivered
  have reachable : (machine twoClients).Reachable Anything
      ((machine twoClients).after (tangledClients 0 1)) :=
    Machine.reachable_after (by decide) (by decide)
  have output : ((machine twoClients).after (tangledClients 0 1)).output[0]? = some (0, []) := by
    decide
  obtain ⟨_, g, _, text⟩ := (delivered _ _ reachable).intact 0 _ output
  exact mesgText_ne_nil _ _ (Prod.mk.inj text).2.symm

end Unpvol2.Ring
