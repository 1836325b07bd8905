/-
**Where the tokens of `prodcons3` are.**

The consumer keeps its own position, so the number of items it has taken (`State.got`) is its `i`
and, between a fetch and `i++`, one more. `Tokens` relates it to the semaphores:

* one token of `mutex`, in its count or with a thread in its critical section;
* `NBUFF` tokens of `nempty`: in its count, with a thread, or an item in the buffer;
* the tokens of `nstored` are the items in the buffer.

A producer that has seen the end has posted no token of `nstored`, and has given its token of
`nempty` back. `tokens_of_reachable` is the conservation law for every run.
-/

import Unpvol2.Lib.Threads
import Unpvol2.Prodcons3.Model

set_option linter.unusedSectionVars false

namespace Unpvol2.Prodcons3

open Interleaving

variable {π : Type} [DecidableEq π]

/-! ### The list of the steps -/

/-- The steps, case by case. -/
inductive Step (nitems : ℤ) (s : State π) : Act π → State π → Prop
  | waitEmpty (p : π) (here : (s.producer p).pc = .waitEmpty) (positive : 0 < s.nempty) :
      Step nitems s (.produce p) { s.produceTo p .waitMutex with nempty := s.nempty - 1 }
  | produceLock (p : π) (here : (s.producer p).pc = .waitMutex) (positive : 0 < s.mutex) :
      Step nitems s (.produce p) { s.produceTo p .critical with mutex := s.mutex - 1 }
  | produceEnd (p : π) (here : (s.producer p).pc = .critical) (all : nitems ≤ s.nput) :
      Step nitems s (.produce p) (s.produceTo p .doneEmpty)
  | store (p : π) (here : (s.producer p).pc = .critical) (more : (s.nput : ℤ) < nitems) :
      Step nitems s (.produce p) (s.store.produceTo p .postMutex)
  | produceEndEmpty (p : π) (here : (s.producer p).pc = .doneEmpty) :
      Step nitems s (.produce p) { s.produceTo p .doneMutex with nempty := s.nempty + 1 }
  | produceEndMutex (p : π) (here : (s.producer p).pc = .doneMutex) :
      Step nitems s (.produce p) { s.produceTo p .returned with mutex := s.mutex + 1 }
  | produceUnlock (p : π) (here : (s.producer p).pc = .postMutex) :
      Step nitems s (.produce p) { s.produceTo p .postStored with mutex := s.mutex + 1 }
  | postStored (p : π) (here : (s.producer p).pc = .postStored) :
      Step nitems s (.produce p) { s.produceTo p .count with nstored := s.nstored + 1 }
  | produceCount (p : π) (here : (s.producer p).pc = .count) :
      Step nitems s (.produce p)
        { s with producer := Function.update s.producer p ⟨.waitEmpty, (s.producer p).count + 1⟩ }
  | more (here : s.consumer.pc = .test) (more : (s.consumer.i : ℤ) < nitems) :
      Step nitems s .consume (s.consumeTo .waitStored)
  | consumeEnd (here : s.consumer.pc = .test) (all : nitems ≤ s.consumer.i) :
      Step nitems s .consume (s.consumeTo .returned)
  | waitStored (here : s.consumer.pc = .waitStored) (positive : 0 < s.nstored) :
      Step nitems s .consume { s.consumeTo .waitMutex with nstored := s.nstored - 1 }
  | consumeLock (here : s.consumer.pc = .waitMutex) (positive : 0 < s.mutex) :
      Step nitems s .consume { s.consumeTo .critical with mutex := s.mutex - 1 }
  | fetch (here : s.consumer.pc = .critical) :
      Step nitems s .consume (s.fetch.consumeTo .postMutex)
  | consumeUnlock (here : s.consumer.pc = .postMutex) :
      Step nitems s .consume { s.consumeTo .postEmpty with mutex := s.mutex + 1 }
  | postEmpty (here : s.consumer.pc = .postEmpty) :
      Step nitems s .consume { s.consumeTo .next with nempty := s.nempty + 1 }
  | next (here : s.consumer.pc = .next) :
      Step nitems s .consume { s with consumer := ⟨.test, s.consumer.i + 1⟩ }

theorem produce_cases {nitems : ℤ} {s s' : State π} {p : π}
    (step : s.produce nitems p = some s') : Step nitems s (.produce p) s' := by
  unfold State.produce at step
  split at step
  · rename_i here
    simp only [Option.ite_none_right_eq_some, Option.some.injEq] at step
    obtain ⟨positive, rfl⟩ := step
    exact .waitEmpty p here positive
  · rename_i here
    simp only [Option.ite_none_right_eq_some, Option.some.injEq] at step
    obtain ⟨positive, rfl⟩ := step
    exact .produceLock p here positive
  · rename_i here
    split at step
    · rename_i all
      cases step
      exact .produceEnd p here all
    · rename_i more
      cases step
      exact .store p here (not_le.mp more)
  · cases step
    exact .produceEndEmpty p ‹_›
  · cases step
    exact .produceEndMutex p ‹_›
  · cases step
    exact .produceUnlock p ‹_›
  · cases step
    exact .postStored p ‹_›
  · cases step
    exact .produceCount p ‹_›
  · cases step

theorem consume_cases {nitems : ℤ} {s s' : State π}
    (step : s.consume nitems = some s') : Step nitems s .consume s' := by
  unfold State.consume at step
  split at step
  · rename_i here
    cases step
    by_cases more : (s.consumer.i : ℤ) < nitems
    · rw [if_pos more]
      exact .more here more
    · rw [if_neg more]
      exact .consumeEnd here (not_lt.mp more)
  · rename_i here
    simp only [Option.ite_none_right_eq_some, Option.some.injEq] at step
    obtain ⟨positive, rfl⟩ := step
    exact .waitStored here positive
  · rename_i here
    simp only [Option.ite_none_right_eq_some, Option.some.injEq] at step
    obtain ⟨positive, rfl⟩ := step
    exact .consumeLock here positive
  · cases step
    exact .fetch ‹_›
  · cases step
    exact .consumeUnlock ‹_›
  · cases step
    exact .postEmpty ‹_›
  · cases step
    exact .next ‹_›
  · cases step

/-- **The inversion of the step function.** -/
theorem step_cases {nitems : ℤ} {s s' : State π} {action : Act π}
    (step : s.step nitems action = some s') : Step nitems s action s' := by
  cases action with
  | produce p => exact produce_cases step
  | consume => exact consume_cases step

/-! ### Which tokens a thread has -/

namespace ProducePc

/-- The token of `mutex`. -/
def inside : ProducePc → ℤ
  | .critical | .doneEmpty | .doneMutex | .postMutex => 1
  | _ => 0

/-- A token of `nempty`. -/
def empty : ProducePc → ℤ
  | .waitMutex | .critical | .doneEmpty => 1
  | _ => 0

/-- An item stored whose token of `nstored` has not been posted. -/
def unposted : ProducePc → ℤ
  | .postMutex | .postStored => 1
  | _ => 0

/-- An item stored and not yet counted. -/
def uncounted : ProducePc → ℤ
  | .postMutex | .postStored | .count => 1
  | _ => 0

theorem empty_nonneg (pc : ProducePc) : 0 ≤ pc.empty := by cases pc <;> decide

theorem unposted_nonneg (pc : ProducePc) : 0 ≤ pc.unposted := by cases pc <;> decide

end ProducePc

namespace ConsumePc

/-- The token of `mutex`. -/
def inside : ConsumePc → ℤ
  | .critical | .postMutex => 1
  | _ => 0

/-- A token of `nstored`. -/
def stored : ConsumePc → ℤ
  | .waitMutex | .critical => 1
  | _ => 0

/-- An item fetched whose token of `nempty` has not been posted. -/
def unposted : ConsumePc → ℤ
  | .postMutex | .postEmpty => 1
  | _ => 0

/-- The item `i` has been fetched. -/
def fetched : ConsumePc → ℕ
  | .postMutex | .postEmpty | .next => 1
  | _ => 0

end ConsumePc

variable [Fintype π]

namespace State

/-- The sum of a weight over all producers. -/
def producers (s : State π) (w : ProducePc → ℤ) : ℤ := total (fun x => w x.pc) s.producer

/-- The sum of `count[]`. -/
def count (s : State π) : ℤ := total (fun x => (x.count : ℤ)) s.producer

/-- The number of items fetched. -/
def got (s : State π) : ℕ := s.consumer.i + s.consumer.pc.fetched

end State

/-! ### The conservation laws -/

/-- Where the tokens are, and which items have been counted. -/
structure Tokens (s : State π) : Prop where
  mutex : s.mutex + s.producers ProducePc.inside + s.consumer.pc.inside = 1
  empty : s.nempty + s.producers ProducePc.empty + s.consumer.pc.unposted + s.nput = nbuff + s.got
  stored : s.nstored + s.producers ProducePc.unposted + s.consumer.pc.stored + s.got = s.nput
  put : s.count + s.producers ProducePc.uncounted = s.nput

theorem tokens_start : Tokens (start : State π) := by
  have producers : ∀ w : ProducePc → ℤ, w .waitEmpty = 0 → (start : State π).producers w = 0 :=
    fun w zero => total_eq_zero fun _ => zero
  have count : (start : State π).count = 0 := total_eq_zero fun _ => rfl
  refine ⟨?_, ?_, ?_, ?_⟩
  · rw [producers _ rfl]
    rfl
  · rw [producers _ rfl]
    rfl
  · rw [producers _ rfl]
    rfl
  · rw [producers _ rfl, count]
    rfl

section Moves

variable {s s' : State π}

/-- One producer moves. -/
theorem producers_moved {p : π} {x : Producer}
    (producer : s'.producer = Function.update s.producer p x) (w : ProducePc → ℤ) :
    s'.producers w = s.producers w - w (s.producer p).pc + w x.pc := by
  unfold State.producers
  rw [producer, total_update]

/-- **A producer's step that conserves its own tokens conserves all.** -/
theorem Tokens.produce (tokens : Tokens s) (p : π) (x : Producer)
    (producer : s'.producer = Function.update s.producer p x) (consumer : s'.consumer = s.consumer)
    (mutex : s'.mutex + x.pc.inside = s.mutex + (s.producer p).pc.inside)
    (empty : s'.nempty + x.pc.empty + s'.nput = s.nempty + (s.producer p).pc.empty + s.nput)
    (stored : s'.nstored + x.pc.unposted - s'.nput =
      s.nstored + (s.producer p).pc.unposted - s.nput)
    (put : x.count + x.pc.uncounted - s'.nput =
      (s.producer p).count + (s.producer p).pc.uncounted - s.nput) : Tokens s' := by
  have sum := producers_moved producer
  have count : s'.count = s.count - (s.producer p).count + x.count := by
    unfold State.count
    rw [producer, total_update]
  have got : s'.got = s.got := by
    unfold State.got
    rw [consumer]
  obtain ⟨mutex', empty', stored', put'⟩ := tokens
  refine ⟨?_, ?_, ?_, ?_⟩
  · rw [sum, consumer]
    omega
  · rw [sum, consumer, got]
    omega
  · rw [sum, consumer, got]
    omega
  · rw [sum, count]
    omega

/-- **A consumer's step that conserves its own tokens conserves all.** -/
theorem Tokens.consume (tokens : Tokens s) (producer : s'.producer = s.producer)
    (nput : s'.nput = s.nput)
    (mutex : s'.mutex + s'.consumer.pc.inside = s.mutex + s.consumer.pc.inside)
    (empty : s'.nempty + s'.consumer.pc.unposted - s'.got =
      s.nempty + s.consumer.pc.unposted - s.got)
    (stored : s'.nstored + s'.consumer.pc.stored + s'.got =
      s.nstored + s.consumer.pc.stored + s.got) : Tokens s' := by
  have same : ∀ w, s'.producers w = s.producers w := by
    intro w
    unfold State.producers
    rw [producer]
  have count : s'.count = s.count := by
    unfold State.count
    rw [producer]
  obtain ⟨mutex', empty', stored', put'⟩ := tokens
  refine ⟨?_, ?_, ?_, ?_⟩
  · rw [same]
    omega
  · rw [same, nput]
    omega
  · rw [same, nput]
    omega
  · rw [same, count, nput]
    exact put'

attribute [local simp] State.produceTo State.consumeTo State.store State.fetch State.got
  ProducePc.inside ProducePc.empty ProducePc.unposted ProducePc.uncounted
  ConsumePc.inside ConsumePc.stored ConsumePc.unposted ConsumePc.fetched

/-- **Every step conserves the tokens.** -/
theorem Tokens.step {nitems : ℤ} {action : Act π} (tokens : Tokens s)
    (step : Step nitems s action s') : Tokens s' := by
  cases step with
  | waitEmpty p here | produceLock p here | produceEnd p here | store p here
  | produceEndEmpty p here | produceEndMutex p here | produceUnlock p here
  | postStored p here | produceCount p here =>
    refine tokens.produce p _ rfl rfl ?_ ?_ ?_ ?_ <;> simp [here] <;> omega
  | more here | consumeEnd here | waitStored here | consumeLock here | fetch here
  | consumeUnlock here | postEmpty here | next here =>
    refine tokens.consume rfl rfl ?_ ?_ ?_ <;> simp [here] <;> omega

end Moves

theorem tokens_of_reachable {nitems : ℤ} {s : State π}
    (reachable : (machine nitems).Reachable Anything s) : Tokens s := by
  refine reachable.induct tokens_start ?_
  intro s action s' _ tokens _ step
  exact tokens.step (step_cases step)

end Unpvol2.Prodcons3
