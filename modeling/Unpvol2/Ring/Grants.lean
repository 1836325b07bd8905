/-
**Which message each slot is granted for.**

`Fits` relates a client to the list of grants: between its grant and its post the client holds the
message and the slot of that grant, and it has been granted a slot for its earlier rounds and at
most for the present one. `Grants` says so of all clients; it holds in every run, in whatever order
the processes move. So no message is granted two slots (`Grants.once`), two clients never hold one
grant (`Grants.holder_unique`), and a slot is the one its grant's number says (`Grants.slot`).
-/

import Mathlib.Data.List.Nodup
import Unpvol2.Ring.Tokens

set_option linter.unusedSectionVars false

namespace Unpvol2.Ring

open C Interleaving

variable {ι : Type} [DecidableEq ι]

/-! ### The text of a message -/

theorem mesgText_length (pid i : ℕ) : (mesgText pid i).length < mesgsize := by
  unfold mesgText
  rw [List.length_take]
  unfold mesgsize
  omega

theorem mesgText_ne_nil (pid i : ℕ) : mesgText pid i ≠ [] := by
  simp [mesgText, mesgsize]

theorem nul_not_mem_mesgText (pid i : ℕ) : nul ∉ mesgText pid i := by
  intro member
  have inside := List.mem_of_mem_take member
  simp only [List.mem_append] at inside
  rcases inside with ((inside | inside) | inside) | inside
  · exact absurd inside (by decide)
  · exact nul_not_mem_decimal pid inside
  · exact absurd inside (by decide)
  · exact nul_not_mem_decimal i inside

/-! ### A client and its grants -/

/-- The client has written its message and has no slot for it yet. -/
def ClientPc.composed : ClientPc → Bool
  | .trywait | .waitMutex | .grab => true
  | _ => false

theorem ClientPc.not_composed {pc : ClientPc} (inFlight : pc.inFlight = true) :
    pc.composed = false := by
  cases pc <;> first | rfl | cases inFlight

/-- The bytes of its message the client has copied. -/
def Client.copied (x : Client) : ℕ :=
  match x.pc with
  | .copy j => j
  | .postStored => x.mesg.length + 1
  | _ => 0

/-- What the slots granted so far say of client `c`. -/
structure Fits (args : ι → Args) (granted : List (Grant ι)) (c : ι) (x : Client) : Prop where
  pid : x.pid = (args c).pid
  mesg : x.pc.composed = true → x.mesg = mesgText x.pid x.i
  grant : x.pc.inFlight = true → granted[x.grant]? = some ⟨c, x.i, x.mesg⟩
  offset : x.pc.inFlight = true → x.offset = x.grant % nmesg * mesgsize
  copied : ∀ j, x.pc = .copy j → j ≤ x.mesg.length
  rounds : ∀ g ∈ granted, g.client = c → g.i < x.i ∨ g.i = x.i ∧ x.pc.inFlight = true

/-- What the slots granted so far say of all clients. -/
structure Grants (args : ι → Args) (s : State ι) : Prop where
  fits : ∀ c, Fits args s.granted c (s.client c)
  texts : ∀ g ∈ s.granted, g.mesg = mesgText (args g.client).pid g.i
  once : (s.granted.map fun g => (g.client, g.i)).Nodup

theorem grants_start (args : ι → Args) : Grants args (start args) where
  fits := fun _ => ⟨rfl, nofun, nofun, nofun, nofun, nofun⟩
  texts := nofun
  once := List.nodup_nil

section Moves

variable {s s' : State ι} {args : ι → Args} {granted : List (Grant ι)} {c : ι} {x : Client}

/-- The client moves outside the slots: it holds none before and after the step. -/
theorem Fits.outside (fits : Fits args granted c x) {pc : ClientPc}
    (before : x.pc.inFlight = false) (after : pc.inFlight = false)
    (composed : pc.composed = true → x.pc.composed = true) :
    Fits args granted c { x with pc := pc } where
  pid := fits.pid
  mesg := fun here => fits.mesg (composed here)
  grant := fun here => absurd here (by rw [after]; decide)
  offset := fun here => absurd here (by rw [after]; decide)
  copied := by
    rintro j rfl
    cases after
  rounds := by
    intro g member own
    rcases fits.rounds g member own with less | ⟨_, here⟩
    · exact .inl less
    · exact absurd here (by rw [before]; decide)

/-- The client moves on with its slot. -/
theorem Fits.inside (fits : Fits args granted c x) {pc : ClientPc}
    (before : x.pc.inFlight = true) (after : pc.inFlight = true)
    (copied : ∀ j, pc = .copy j → j ≤ x.mesg.length) :
    Fits args granted c { x with pc := pc } where
  pid := fits.pid
  mesg := fun here => absurd here (by rw [ClientPc.not_composed after]; decide)
  grant := fun _ => fits.grant before
  offset := fun _ => fits.offset before
  copied := copied
  rounds := by
    intro g member own
    rcases fits.rounds g member own with less | ⟨same, _⟩
    · exact .inl less
    · exact .inr ⟨same, after⟩

theorem Fits.compose (fits : Fits args granted c x) (here : x.pc = .loop) :
    Fits args granted c { x with pc := .trywait, mesg := mesgText x.pid x.i } where
  pid := fits.pid
  mesg := fun _ => rfl
  grant := nofun
  offset := nofun
  copied := nofun
  rounds := by
    intro g member own
    rcases fits.rounds g member own with less | ⟨_, inFlight⟩
    · exact .inl less
    · exact absurd inFlight (by rw [here]; decide)

theorem Fits.round (fits : Fits args granted c x) :
    Fits args granted c { x with pc := .loop, i := x.i + 1 } where
  pid := fits.pid
  mesg := nofun
  grant := nofun
  offset := nofun
  copied := nofun
  rounds := by
    intro g member own
    left
    show g.i < x.i + 1
    rcases fits.rounds g member own with less | ⟨same, _⟩ <;> omega

/-- The grant of a slot, seen by the client that is granted it. -/
theorem Fits.grab (fits : Fits args granted c x) (here : x.pc = .grab) :
    Fits args (granted ++ [⟨c, x.i, x.mesg⟩]) c
      ⟨x.pid, x.nloop, .postMutex, x.i, x.mesg, granted.length % nmesg * mesgsize,
        granted.length⟩ where
  pid := fits.pid
  mesg := nofun
  grant := fun _ => List.getElem?_concat_length
  offset := fun _ => rfl
  copied := nofun
  rounds := by
    intro g member own
    rcases List.mem_append.mp member with old | new
    · rcases fits.rounds g old own with less | ⟨_, inFlight⟩
      · exact .inl less
      · exact absurd inFlight (by rw [here]; decide)
    · rw [List.mem_singleton.mp new]
      exact .inr ⟨rfl, rfl⟩

/-- The grant of a slot, seen by another client. -/
theorem Fits.other (fits : Fits args granted c x) {g : Grant ι} (other : g.client ≠ c) :
    Fits args (granted ++ [g]) c x where
  pid := fits.pid
  mesg := fits.mesg
  grant := by
    intro here
    have grant := fits.grant here
    rw [List.getElem?_append_left (List.getElem?_eq_some_iff.mp grant).1]
    exact grant
  offset := fits.offset
  copied := fits.copied
  rounds := by
    intro g' member own
    rcases List.mem_append.mp member with old | new
    · exact fits.rounds g' old own
    · rw [List.mem_singleton.mp new] at own
      exact absurd own other

/-- A client's step that grants no slot. -/
theorem Grants.client (grants : Grants args s) (same : s'.granted = s.granted)
    (client : s'.client = Function.update s.client c x) (fits : Fits args s.granted c x) :
    Grants args s' := by
  refine ⟨?_, ?_, ?_⟩
  · intro c'
    rw [same, client]
    by_cases own : c' = c
    · subst own
      rw [Function.update_self]
      exact fits
    · rw [Function.update_of_ne own]
      exact grants.fits c'
  · rw [same]
    exact grants.texts
  · rw [same]
    exact grants.once

/-- A step of the server. -/
theorem Grants.server (grants : Grants args s) (same : s'.granted = s.granted)
    (client : s'.client = s.client) : Grants args s' := by
  obtain ⟨fits, texts, once⟩ := grants
  refine ⟨?_, ?_, ?_⟩
  · rw [same, client]
    exact fits
  · rw [same]
    exact texts
  · rw [same]
    exact once

/-- The grant of a slot. -/
theorem Grants.grab (grants : Grants args s) (indices : Indices s) (here : s.pc c = .grab) :
    Grants args (s.grab c) := by
  have own := grants.fits c
  have offset : s.msgoff s.nput = s.granted.length % nmesg * mesgsize := by
    rw [indices.msgoff, indices.nput]
  refine ⟨?_, ?_, ?_⟩
  · intro c'
    show Fits args (s.granted ++ [_]) c' (Function.update s.client c _ c')
    by_cases same : c' = c
    · subst same
      rw [Function.update_self, offset]
      exact own.grab here
    · rw [Function.update_of_ne same]
      exact (grants.fits c').other fun equal => same equal.symm
  · intro g member
    rcases List.mem_append.mp member with old | new
    · exact grants.texts g old
    · rw [List.mem_singleton.mp new]
      have composed : (s.client c).pc.composed = true := by
        show (s.pc c).composed = true
        rw [here]
        rfl
      rw [own.mesg composed, own.pid]
  · show ((s.granted ++ [_]).map _).Nodup
    rw [List.map_append]
    refine grants.once.append (List.nodup_singleton _) ?_
    intro pair old new
    obtain ⟨g, member, rfl⟩ := List.mem_map.mp old
    have equal := List.mem_singleton.mp new
    obtain ⟨client, round⟩ := Prod.mk.inj equal
    rcases own.rounds g member client with less | ⟨_, inFlight⟩
    · exact absurd round (Nat.ne_of_lt less)
    · have none : (s.pc c).inFlight = true := inFlight
      rw [here] at none
      cases none

/-- **Every step keeps the grants in order.** -/
theorem Grants.step {action : Act ι} (grants : Grants args s) (indices : Indices s)
    (step : Step s action s') : Grants args s' := by
  have fits := grants.fits
  cases step with
  | compose c here => exact grants.client rfl rfl ((fits c).compose here)
  | exit c here | take c here | overflow c here | overflowWait c here | overflowLoad c here
  | overflowStore c _ here | lock c here =>
    have pc : (s.client c).pc = _ := here
    refine grants.client rfl rfl ((fits c).outside ?_ rfl ?_)
    · rw [pc]
      rfl
    · intro composed
      rw [pc]
      first | rfl | cases composed
  | overflowPost c here | post c here => exact grants.client rfl rfl (fits c).round
  | grab c here => exact grants.grab indices here
  | unlock c here =>
    have pc : (s.client c).pc = _ := here
    refine grants.client rfl rfl ((fits c).inside ?_ rfl ?_)
    · rw [pc]
      rfl
    · intro j copying
      cases copying
      exact Nat.zero_le _
  | copy c j here =>
    have pc : (s.client c).pc = _ := here
    refine grants.client rfl rfl ((fits c).inside ?_ ?_ ?_)
    · rw [pc]
      rfl
    · split <;> rfl
    · intro next copying
      split at copying
      · cases copying
        omega
      · cases copying
  | serverOverflowTest here =>
    unfold State.overflowTest
    split <;> exact grants.server rfl rfl
  | _ => exact grants.server rfl rfl

end Moves

theorem grants_of_reachable {ok : State ι → Act ι → Prop} {args : ι → Args} {s : State ι}
    (reachable : (machine args).Reachable ok s) : Grants args s := by
  refine reachable.induct (grants_start args) ?_
  intro s action s' before grants _ step
  exact grants.step (indices_of_reachable before) (step_cases step)

/-! ### What the grants say -/

section Consequences

variable {s : State ι} {args : ι → Args} {c c' : ι}

/-- No two clients hold one grant. -/
theorem Grants.holder_unique (grants : Grants args s) (inFlight : (s.pc c).inFlight = true)
    (inFlight' : (s.pc c').inFlight = true) (same : (s.client c).grant = (s.client c').grant) :
    c = c' := by
  have grant := (grants.fits c).grant inFlight
  have grant' := (grants.fits c').grant inFlight'
  rw [same, grant'] at grant
  cases grant
  rfl

theorem Grants.grant_lt (grants : Grants args s) (inFlight : (s.pc c).inFlight = true) :
    (s.client c).grant < s.granted.length :=
  (List.getElem?_eq_some_iff.mp ((grants.fits c).grant inFlight)).1

/-- The message a slot is granted for fits into the slot. -/
theorem Grants.mesg_length (grants : Grants args s) {g : Grant ι} (member : g ∈ s.granted) :
    g.mesg.length < mesgsize := by
  rw [grants.texts g member]
  exact mesgText_length _ _

/-- So does the message of a client that holds a slot. -/
theorem Grants.flight_length (grants : Grants args s) (inFlight : (s.pc c).inFlight = true) :
    (s.client c).mesg.length < mesgsize :=
  grants.mesg_length (List.mem_of_getElem? ((grants.fits c).grant inFlight))

end Consequences

end Unpvol2.Ring
