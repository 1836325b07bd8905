/-
**Where the tokens of `prodcons4` are.**

Every token of a semaphore is in its count or with a thread, and the tokens of `nempty` and
`nstored` turn into each other in the critical sections. `Tokens` says so:

* one token of `mutex`, in its count or with a thread in its critical section;
* `NBUFF` tokens of `nempty`: in its count, with a thread, or an item in the buffer;
* the tokens of `nstored` are the items in the buffer and one more for each producer that has
  seen the end.

`Step` lists the steps; `tokens_of_reachable` is the conservation law for every run.
-/

import Unpvol2.Lib.Threads
import Unpvol2.Prodcons4.Model

set_option linter.unusedSectionVars false

namespace Unpvol2.Prodcons4

open Interleaving

variable {π κ : Type} [DecidableEq π] [DecidableEq κ]

/-! ### The list of the steps -/

/-- The steps, case by case. -/
inductive Step (nitems : ℤ) (s : State π κ) : Act π κ → State π κ → Prop
  | waitEmpty (p : π) (here : (s.producer p).pc = .waitEmpty) (positive : 0 < s.nempty) :
      Step nitems s (.produce p) { s.produceTo p .waitMutex with nempty := s.nempty - 1 }
  | produceLock (p : π) (here : (s.producer p).pc = .waitMutex) (positive : 0 < s.mutex) :
      Step nitems s (.produce p) { s.produceTo p .critical with mutex := s.mutex - 1 }
  | produceEnd (p : π) (here : (s.producer p).pc = .critical) (all : nitems ≤ s.nput) :
      Step nitems s (.produce p) (s.produceTo p .doneStored)
  | store (p : π) (here : (s.producer p).pc = .critical) (more : (s.nput : ℤ) < nitems) :
      Step nitems s (.produce p) (s.store.produceTo p .postMutex)
  | produceEndStored (p : π) (here : (s.producer p).pc = .doneStored) :
      Step nitems s (.produce p) { s.produceTo p .doneEmpty with nstored := s.nstored + 1 }
  | produceEndEmpty (p : π) (here : (s.producer p).pc = .doneEmpty) :
      Step nitems s (.produce p) { s.produceTo p .doneMutex with nempty := s.nempty + 1 }
  | produceEndMutex (p : π) (here : (s.producer p).pc = .doneMutex) :
      Step nitems s (.produce p) { s.produceTo p .returned with mutex := s.mutex + 1 }
  | produceUnlock (p : π) (here : (s.producer p).pc = .postMutex) :
      Step nitems s (.produce p) { s.produceTo p .postStored with mutex := s.mutex + 1 }
  | postStored (p : π) (here : (s.producer p).pc = .postStored) :
      Step nitems s (.produce p) { s.produceTo p .count with nstored := s.nstored + 1 }
  | produceCount (p : π) (here : (s.producer p).pc = .count) :
      Step nitems s (.produce p)
        { s with producer := Function.update s.producer p ⟨.waitEmpty, (s.producer p).count + 1⟩ }
  | waitStored (c : κ) (here : (s.consumer c).pc = .waitStored) (positive : 0 < s.nstored) :
      Step nitems s (.consume c) { s.consumeTo c .waitMutex with nstored := s.nstored - 1 }
  | consumeLock (c : κ) (here : (s.consumer c).pc = .waitMutex) (positive : 0 < s.mutex) :
      Step nitems s (.consume c) { s.consumeTo c .critical with mutex := s.mutex - 1 }
  | consumeEnd (c : κ) (here : (s.consumer c).pc = .critical) (all : nitems ≤ s.nget) :
      Step nitems s (.consume c) (s.consumeTo c .doneStored)
  | fetch (c : κ) (here : (s.consumer c).pc = .critical) (more : (s.nget : ℤ) < nitems) :
      Step nitems s (.consume c) (s.fetch.consumeTo c .postMutex)
  | consumeEndStored (c : κ) (here : (s.consumer c).pc = .doneStored) :
      Step nitems s (.consume c) { s.consumeTo c .doneMutex with nstored := s.nstored + 1 }
  | consumeEndMutex (c : κ) (here : (s.consumer c).pc = .doneMutex) :
      Step nitems s (.consume c) { s.consumeTo c .returned with mutex := s.mutex + 1 }
  | consumeUnlock (c : κ) (here : (s.consumer c).pc = .postMutex) :
      Step nitems s (.consume c) { s.consumeTo c .postEmpty with mutex := s.mutex + 1 }
  | postEmpty (c : κ) (here : (s.consumer c).pc = .postEmpty) :
      Step nitems s (.consume c) { s.consumeTo c .count with nempty := s.nempty + 1 }
  | consumeCount (c : κ) (here : (s.consumer c).pc = .count) :
      Step nitems s (.consume c)
        { s with consumer := Function.update s.consumer c ⟨.waitStored, (s.consumer c).count + 1⟩ }

theorem produce_cases {nitems : ℤ} {s s' : State π κ} {p : π}
    (step : s.produce nitems p = some s') : Step nitems s (.produce p) s' := by
  unfold State.produce at step
  split at step
  · rename_i here
    simp only [Option.ite_none_right_eq_some, Option.some.injEq] at step
    obtain ⟨positive, rfl⟩ := step
    exact .waitEmpty p here positive
  · rename_i here
    simp only [Option.ite_none_right_eq_some, Option.some.injEq] at step
    obtain ⟨positive, rfl⟩ := step
    exact .produceLock p here positive
  · rename_i here
    split at step
    · rename_i all
      cases step
      exact .produceEnd p here all
    · rename_i more
      cases step
      exact .store p here (not_le.mp more)
  · cases step
    exact .produceEndStored p ‹_›
  · cases step
    exact .produceEndEmpty p ‹_›
  · cases step
    exact .produceEndMutex p ‹_›
  · cases step
    exact .produceUnlock p ‹_›
  · cases step
    exact .postStored p ‹_›
  · cases step
    exact .produceCount p ‹_›
  · cases step

theorem consume_cases {nitems : ℤ} {s s' : State π κ} {c : κ}
    (step : s.consume nitems c = some s') : Step nitems s (.consume c) s' := by
  unfold State.consume at step
  split at step
  · rename_i here
    simp only [Option.ite_none_right_eq_some, Option.some.injEq] at step
    obtain ⟨positive, rfl⟩ := step
    exact .waitStored c here positive
  · rename_i here
    simp only [Option.ite_none_right_eq_some, Option.some.injEq] at step
    obtain ⟨positive, rfl⟩ := step
    exact .consumeLock c here positive
  · rename_i here
    split at step
    · rename_i all
      cases step
      exact .consumeEnd c here all
    · rename_i more
      cases step
      exact .fetch c here (not_le.mp more)
  · cases step
    exact .consumeEndStored c ‹_›
  · cases step
    exact .consumeEndMutex c ‹_›
  · cases step
    exact .consumeUnlock c ‹_›
  · cases step
    exact .postEmpty c ‹_›
  · cases step
    exact .consumeCount c ‹_›
  · cases step

/-- **The inversion of the step function.** -/
theorem step_cases {nitems : ℤ} {s s' : State π κ} {action : Act π κ}
    (step : s.step nitems action = some s') : Step nitems s action s' := by
  cases action with
  | produce p => exact produce_cases step
  | consume c => exact consume_cases step

/-! ### Which tokens a thread has -/

namespace ProducePc

/-- The token of `mutex`. -/
def inside : ProducePc → ℤ
  | .critical | .doneStored | .doneEmpty | .doneMutex | .postMutex => 1
  | _ => 0

/-- A token of `nempty`. -/
def empty : ProducePc → ℤ
  | .waitMutex | .critical | .doneStored | .doneEmpty => 1
  | _ => 0

/-- An item stored whose token of `nstored` has not been posted. -/
def unposted : ProducePc → ℤ
  | .postMutex | .postStored => 1
  | _ => 0

/-- The extra token of `nstored` has been posted. -/
def posted : ProducePc → ℤ
  | .doneEmpty | .doneMutex | .returned => 1
  | _ => 0

/-- An item stored and not yet counted. -/
def uncounted : ProducePc → ℤ
  | .postMutex | .postStored | .count => 1
  | _ => 0

end ProducePc

namespace ConsumePc

/-- The token of `mutex`. -/
def inside : ConsumePc → ℤ
  | .critical | .doneStored | .doneMutex | .postMutex => 1
  | _ => 0

/-- A token of `nstored`. -/
def stored : ConsumePc → ℤ
  | .waitMutex | .critical | .doneStored => 1
  | _ => 0

/-- An item fetched whose token of `nempty` has not been posted. -/
def unposted : ConsumePc → ℤ
  | .postMutex | .postEmpty => 1
  | _ => 0

/-- An item fetched and not yet counted. -/
def uncounted : ConsumePc → ℤ
  | .postMutex | .postEmpty | .count => 1
  | _ => 0

end ConsumePc

variable [Fintype π] [Fintype κ]

namespace State

/-- The sum of a weight over all producers. -/
def producers (s : State π κ) (w : ProducePc → ℤ) : ℤ := total (fun x => w x.pc) s.producer

/-- The sum of a weight over all consumers. -/
def consumers (s : State π κ) (w : ConsumePc → ℤ) : ℤ := total (fun x => w x.pc) s.consumer

/-- The sum of `prodcount[]`. -/
def prodcount (s : State π κ) : ℤ := total (fun x => (x.count : ℤ)) s.producer

/-- The sum of `conscount[]`. -/
def conscount (s : State π κ) : ℤ := total (fun x => (x.count : ℤ)) s.consumer

end State

/-! ### The conservation laws -/

/-- Where the tokens are, and which items have been counted. -/
structure Tokens (s : State π κ) : Prop where
  mutex : s.mutex + s.producers ProducePc.inside + s.consumers ConsumePc.inside = 1
  empty : s.nempty + s.producers ProducePc.empty + s.consumers ConsumePc.unposted + s.nput =
    nbuff + s.nget
  stored : s.nstored + s.producers ProducePc.unposted + s.consumers ConsumePc.stored + s.nget =
    s.nput + s.producers ProducePc.posted
  put : s.prodcount + s.producers ProducePc.uncounted = s.nput
  get : s.conscount + s.consumers ConsumePc.uncounted = s.nget

theorem tokens_start : Tokens (start : State π κ) := by
  have producers : ∀ w : ProducePc → ℤ, w .waitEmpty = 0 → (start : State π κ).producers w = 0 :=
    fun w zero => total_eq_zero fun _ => zero
  have consumers : ∀ w : ConsumePc → ℤ, w .waitStored = 0 → (start : State π κ).consumers w = 0 :=
    fun w zero => total_eq_zero fun _ => zero
  have prodcount : (start : State π κ).prodcount = 0 := total_eq_zero fun _ => rfl
  have conscount : (start : State π κ).conscount = 0 := total_eq_zero fun _ => rfl
  refine ⟨?_, ?_, ?_, ?_, ?_⟩
  · rw [producers _ rfl, consumers _ rfl]
    rfl
  · rw [producers _ rfl, consumers _ rfl]
    rfl
  · rw [producers _ rfl, producers _ rfl, consumers _ rfl]
    rfl
  · rw [producers _ rfl, prodcount]
    rfl
  · rw [consumers _ rfl, conscount]
    rfl

section Moves

variable {s s' : State π κ}

/-- One producer moves. -/
theorem producers_moved {p : π} {x : Thread ProducePc}
    (producer : s'.producer = Function.update s.producer p x) (w : ProducePc → ℤ) :
    s'.producers w = s.producers w - w (s.producer p).pc + w x.pc := by
  unfold State.producers
  rw [producer, total_update]

/-- One consumer moves. -/
theorem consumers_moved {c : κ} {x : Thread ConsumePc}
    (consumer : s'.consumer = Function.update s.consumer c x) (w : ConsumePc → ℤ) :
    s'.consumers w = s.consumers w - w (s.consumer c).pc + w x.pc := by
  unfold State.consumers
  rw [consumer, total_update]

/-- **A producer's step that conserves its own tokens conserves all.** -/
theorem Tokens.produce (tokens : Tokens s) (p : π) (x : Thread ProducePc)
    (producer : s'.producer = Function.update s.producer p x) (consumer : s'.consumer = s.consumer)
    (nget : s'.nget = s.nget)
    (mutex : s'.mutex + x.pc.inside = s.mutex + (s.producer p).pc.inside)
    (empty : s'.nempty + x.pc.empty + s'.nput = s.nempty + (s.producer p).pc.empty + s.nput)
    (stored : s'.nstored + x.pc.unposted - x.pc.posted - s'.nput =
      s.nstored + (s.producer p).pc.unposted - (s.producer p).pc.posted - s.nput)
    (put : x.count + x.pc.uncounted - s'.nput =
      (s.producer p).count + (s.producer p).pc.uncounted - s.nput) : Tokens s' := by
  have sum := producers_moved producer
  have count : s'.prodcount = s.prodcount - (s.producer p).count + x.count := by
    unfold State.prodcount
    rw [producer, total_update]
  have same : ∀ w, s'.consumers w = s.consumers w := by
    intro w
    unfold State.consumers
    rw [consumer]
  have conscount : s'.conscount = s.conscount := by
    unfold State.conscount
    rw [consumer]
  obtain ⟨mutex', empty', stored', put', get'⟩ := tokens
  refine ⟨?_, ?_, ?_, ?_, ?_⟩
  · rw [sum, same]
    omega
  · rw [sum, same, nget]
    omega
  · rw [sum, sum, same, nget]
    omega
  · rw [sum, count]
    omega
  · rw [same, conscount, nget]
    exact get'

/-- **A consumer's step that conserves its own tokens conserves all.** -/
theorem Tokens.consume (tokens : Tokens s) (c : κ) (x : Thread ConsumePc)
    (consumer : s'.consumer = Function.update s.consumer c x) (producer : s'.producer = s.producer)
    (nput : s'.nput = s.nput)
    (mutex : s'.mutex + x.pc.inside = s.mutex + (s.consumer c).pc.inside)
    (empty : s'.nempty + x.pc.unposted - s'.nget =
      s.nempty + (s.consumer c).pc.unposted - s.nget)
    (stored : s'.nstored + x.pc.stored + s'.nget = s.nstored + (s.consumer c).pc.stored + s.nget)
    (get : x.count + x.pc.uncounted - s'.nget =
      (s.consumer c).count + (s.consumer c).pc.uncounted - s.nget) : Tokens s' := by
  have sum := consumers_moved consumer
  have count : s'.conscount = s.conscount - (s.consumer c).count + x.count := by
    unfold State.conscount
    rw [consumer, total_update]
  have same : ∀ w, s'.producers w = s.producers w := by
    intro w
    unfold State.producers
    rw [producer]
  have prodcount : s'.prodcount = s.prodcount := by
    unfold State.prodcount
    rw [producer]
  obtain ⟨mutex', empty', stored', put', get'⟩ := tokens
  refine ⟨?_, ?_, ?_, ?_, ?_⟩
  · rw [sum, same]
    omega
  · rw [sum, same, nput]
    omega
  · rw [sum, same, same, nput]
    omega
  · rw [same, prodcount, nput]
    exact put'
  · rw [sum, count]
    omega

attribute [local simp] State.produceTo State.consumeTo State.store State.fetch
  ProducePc.inside ProducePc.empty ProducePc.unposted ProducePc.posted ProducePc.uncounted
  ConsumePc.inside ConsumePc.stored ConsumePc.unposted ConsumePc.uncounted

/-- **Every step conserves the tokens.** -/
theorem Tokens.step {nitems : ℤ} {action : Act π κ} (tokens : Tokens s)
    (step : Step nitems s action s') : Tokens s' := by
  cases step with
  | waitEmpty p here | produceLock p here | produceEnd p here | store p here
  | produceEndStored p here | produceEndEmpty p here | produceEndMutex p here
  | produceUnlock p here | postStored p here | produceCount p here =>
    refine tokens.produce p _ rfl rfl rfl ?_ ?_ ?_ ?_ <;> simp [here] <;> omega
  | waitStored c here | consumeLock c here | consumeEnd c here | fetch c here
  | consumeEndStored c here | consumeEndMutex c here | consumeUnlock c here
  | postEmpty c here | consumeCount c here =>
    refine tokens.consume c _ rfl rfl rfl ?_ ?_ ?_ ?_ <;> simp [here] <;> omega

end Moves

theorem tokens_of_reachable {nitems : ℤ} {s : State π κ}
    (reachable : (machine nitems).Reachable Anything s) : Tokens s := by
  refine reachable.induct tokens_start ?_
  intro s action s' _ tokens _ step
  exact tokens.step (step_cases step)

end Unpvol2.Prodcons4
