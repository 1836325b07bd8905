/-
**The steps of `prodcons6`, and who holds its mutexes.**

`Step` lists the steps case by case. `Owned` says that each mutex is held by exactly the thread that
stands between its lock and its unlock: `put.mutex` by a producer, `nready.mutex` by a producer or
by the consumer, which does not hold it while it sleeps or has been woken up and not locked it
again.
-/

import Unpvol2.Lib.Mutex
import Unpvol2.Lib.Threads
import Unpvol2.Prodcons6.Model

set_option linter.unusedSectionVars false

namespace Unpvol2.Prodcons6

open Interleaving

variable {π : Type} [DecidableEq π]

/-! ### The list of the steps -/

/-- The steps, case by case. -/
inductive Step (nitems : ℤ) (s : State π) : Act π → State π → Prop
  | lockPut (p : π) (here : (s.producer p).pc = .lockPut) (free : s.putMutex = none) :
      Step nitems s (.produce p) { s.produceTo p .testPut with putMutex := some p }
  | full (p : π) (here : (s.producer p).pc = .testPut) (all : nitems ≤ s.nput) :
      Step nitems s (.produce p) (s.produceTo p .unlockEnd)
  | notFull (p : π) (here : (s.producer p).pc = .testPut) (more : (s.nput : ℤ) < nitems) :
      Step nitems s (.produce p) (s.produceTo p .store)
  | unlockEnd (p : π) (here : (s.producer p).pc = .unlockEnd) :
      Step nitems s (.produce p) { s.produceTo p .returned with putMutex := none }
  | store (p : π) (here : (s.producer p).pc = .store) (bound : s.nput < maxnitems) :
      Step nitems s (.produce p) (s.store.produceTo p .incNput)
  | incNput (p : π) (here : (s.producer p).pc = .incNput) :
      Step nitems s (.produce p) { s.produceTo p .incNval with nput := s.nput + 1 }
  | incNval (p : π) (here : (s.producer p).pc = .incNval) :
      Step nitems s (.produce p) { s.produceTo p .unlockPut with nval := s.nval + 1 }
  | unlockPut (p : π) (here : (s.producer p).pc = .unlockPut) :
      Step nitems s (.produce p) { s.produceTo p .lockReady with putMutex := none }
  | lockReady (p : π) (here : (s.producer p).pc = .lockReady) (free : s.readyMutex = none) :
      Step nitems s (.produce p) { s.produceTo p .testReady with readyMutex := some (.producer p) }
  | nothingReady (p : π) (here : (s.producer p).pc = .testReady) (zero : s.nready = 0) :
      Step nitems s (.produce p) (s.produceTo p .signal)
  | someReady (p : π) (here : (s.producer p).pc = .testReady) (some : s.nready ≠ 0) :
      Step nitems s (.produce p) (s.produceTo p .incReady)
  | signal (p : π) (here : (s.producer p).pc = .signal) (asleep : s.consumer.pc = .asleep) :
      Step nitems s (.produce p) ((s.consumeTo .woken).produceTo p .incReady)
  | signalNobody (p : π) (here : (s.producer p).pc = .signal) (awake : s.consumer.pc ≠ .asleep) :
      Step nitems s (.produce p) (s.produceTo p .incReady)
  | incReady (p : π) (here : (s.producer p).pc = .incReady) :
      Step nitems s (.produce p) { s.produceTo p .unlockReady with nready := s.nready + 1 }
  | unlockReady (p : π) (here : (s.producer p).pc = .unlockReady) :
      Step nitems s (.produce p) { s.produceTo p .count with readyMutex := none }
  | count (p : π) (here : (s.producer p).pc = .count) :
      Step nitems s (.produce p)
        { s with producer := Function.update s.producer p ⟨.lockPut, (s.producer p).count + 1⟩ }
  | more (here : s.consumer.pc = .test) (more : (s.consumer.i : ℤ) < nitems) :
      Step nitems s .consume (s.consumeTo .lock)
  | done (here : s.consumer.pc = .test) (all : nitems ≤ s.consumer.i) :
      Step nitems s .consume (s.consumeTo .returned)
  | lock (here : s.consumer.pc = .lock) (free : s.readyMutex = none) :
      Step nitems s .consume { s.consumeTo .testReady with readyMutex := some .consumer }
  | empty (here : s.consumer.pc = .testReady) (zero : s.nready = 0) :
      Step nitems s .consume (s.consumeTo .wait)
  | notEmpty (here : s.consumer.pc = .testReady) (some : s.nready ≠ 0) :
      Step nitems s .consume (s.consumeTo .decReady)
  | wait (here : s.consumer.pc = .wait) :
      Step nitems s .consume { s.consumeTo .asleep with readyMutex := none }
  | relock (here : s.consumer.pc = .woken) (free : s.readyMutex = none) :
      Step nitems s .consume { s.consumeTo .testReady with readyMutex := some .consumer }
  | decReady (here : s.consumer.pc = .decReady) :
      Step nitems s .consume { s.consumeTo .unlock with nready := s.nready - 1 }
  | unlock (here : s.consumer.pc = .unlock) :
      Step nitems s .consume { s.consumeTo .read with readyMutex := none }
  | read (here : s.consumer.pc = .read) (bound : s.consumer.i < maxnitems) :
      Step nitems s .consume (s.read.consumeTo .next)
  | next (here : s.consumer.pc = .next) :
      Step nitems s .consume { s with consumer := ⟨.test, s.consumer.i + 1⟩ }
  | spurious (here : s.consumer.pc = .asleep) : Step nitems s .spurious (s.consumeTo .woken)

theorem produce_cases {nitems : ℤ} {s s' : State π} {p : π}
    (step : s.produce nitems p = some s') : Step nitems s (.produce p) s' := by
  unfold State.produce at step
  split at step <;> rename_i here
  · simp only [Option.ite_none_right_eq_some, Option.some.injEq] at step
    obtain ⟨free, rfl⟩ := step
    exact .lockPut p here free
  · cases step
    by_cases all : (s.nput : ℤ) ≥ nitems
    · rw [if_pos all]
      exact .full p here all
    · rw [if_neg all]
      exact .notFull p here (not_le.mp all)
  · cases step
    exact .unlockEnd p here
  · simp only [Option.ite_none_right_eq_some, Option.some.injEq] at step
    obtain ⟨bound, rfl⟩ := step
    exact .store p here bound
  · cases step
    exact .incNput p here
  · cases step
    exact .incNval p here
  · cases step
    exact .unlockPut p here
  · simp only [Option.ite_none_right_eq_some, Option.some.injEq] at step
    obtain ⟨free, rfl⟩ := step
    exact .lockReady p here free
  · cases step
    by_cases zero : s.nready = 0
    · rw [if_pos zero]
      exact .nothingReady p here zero
    · rw [if_neg zero]
      exact .someReady p here zero
  · cases step
    unfold State.signal
    by_cases asleep : s.consumer.pc = .asleep
    · rw [if_pos asleep]
      exact .signal p here asleep
    · rw [if_neg asleep]
      exact .signalNobody p here asleep
  · cases step
    exact .incReady p here
  · cases step
    exact .unlockReady p here
  · cases step
    exact .count p here
  · cases step

theorem consume_cases {nitems : ℤ} {s s' : State π}
    (step : s.consume nitems = some s') : Step nitems s .consume s' := by
  unfold State.consume at step
  split at step <;> rename_i here
  · cases step
    by_cases more : (s.consumer.i : ℤ) < nitems
    · rw [if_pos more]
      exact .more here more
    · rw [if_neg more]
      exact .done here (not_lt.mp more)
  · simp only [Option.ite_none_right_eq_some, Option.some.injEq] at step
    obtain ⟨free, rfl⟩ := step
    exact .lock here free
  · cases step
    by_cases zero : s.nready = 0
    · rw [if_pos zero]
      exact .empty here zero
    · rw [if_neg zero]
      exact .notEmpty here zero
  · cases step
    exact .wait here
  · cases step
  · simp only [Option.ite_none_right_eq_some, Option.some.injEq] at step
    obtain ⟨free, rfl⟩ := step
    exact .relock here free
  · cases step
    exact .decReady here
  · cases step
    exact .unlock here
  · simp only [Option.ite_none_right_eq_some, Option.some.injEq] at step
    obtain ⟨bound, rfl⟩ := step
    exact .read here bound
  · cases step
    exact .next here
  · cases step

/-- **The inversion of the step function.** -/
theorem step_cases {nitems : ℤ} {s s' : State π} {action : Act π}
    (step : s.step nitems action = some s') : Step nitems s action s' := by
  cases action with
  | produce p => exact produce_cases step
  | consume => exact consume_cases step
  | spurious =>
    simp only [State.step, Option.ite_none_right_eq_some, Option.some.injEq] at step
    obtain ⟨here, rfl⟩ := step
    exact .spurious here

/-! ### Who holds the mutexes -/

/-- The producer is between the lock and the unlock of `put.mutex`. -/
def ProducePc.inPut : ProducePc → Bool
  | .testPut | .unlockEnd | .store | .incNput | .incNval | .unlockPut => true
  | _ => false

/-- The producer is between the lock and the unlock of `nready.mutex`. -/
def ProducePc.inReady : ProducePc → Bool
  | .testReady | .signal | .incReady | .unlockReady => true
  | _ => false

/-- The consumer holds `nready.mutex`. -/
def ConsumePc.inReady : ConsumePc → Bool
  | .testReady | .wait | .decReady | .unlock => true
  | _ => false

namespace State

def inPut (s : State π) (p : π) : Bool := (s.producer p).pc.inPut

def inReady (s : State π) : Thread π → Bool
  | .producer p => (s.producer p).pc.inReady
  | .consumer => s.consumer.pc.inReady

end State

/-- Each mutex is held by exactly the thread that is inside. -/
structure Owned (s : State π) : Prop where
  put : Owns s.putMutex s.inPut
  ready : Owns s.readyMutex s.inReady

theorem owned_start : Owned (start : State π) where
  put := Owns.init fun _ => rfl
  ready := Owns.init fun t => by cases t <;> rfl

section Moves

variable {s s' : State π}

/-- The other producers stand where they stood. -/
theorem inPut_of_update {p : π} {x : Producer}
    (producer : s'.producer = Function.update s.producer p x) :
    s'.inPut p = x.pc.inPut ∧ ∀ q, q ≠ p → s'.inPut q = s.inPut q := by
  unfold State.inPut
  rw [producer]
  exact ⟨by rw [Function.update_self], fun q ne => by rw [Function.update_of_ne ne]⟩

theorem inReady_of_update {p : π} {x : Producer}
    (producer : s'.producer = Function.update s.producer p x)
    (consumer : s'.consumer.pc.inReady = s.consumer.pc.inReady) :
    s'.inReady (.producer p) = x.pc.inReady ∧
      ∀ t, t ≠ .producer p → s'.inReady t = s.inReady t := by
  refine ⟨?_, fun t ne => ?_⟩
  · show (s'.producer p).pc.inReady = x.pc.inReady
    rw [producer, Function.update_self]
  · cases t with
    | producer q =>
      show (s'.producer q).pc.inReady = (s.producer q).pc.inReady
      rw [producer, Function.update_of_ne fun same => ne (by rw [same])]
    | consumer => exact consumer

section Producer

variable {p : π} {x : Producer} (owned : Owned s)
  (producer : s'.producer = Function.update s.producer p x)

include owned producer

/-- A producer's step leaves `put.mutex` to the thread that holds it. -/
theorem Owned.keepPut (same : x.pc.inPut = (s.producer p).pc.inPut) : Owns s.putMutex s'.inPut := by
  obtain ⟨own, others⟩ := inPut_of_update producer
  refine owned.put.keep fun q => ?_
  by_cases mover : q = p
  · rw [mover, own, same]
    rfl
  · exact others q mover

theorem Owned.lockPut (free : s.putMutex = none) (enters : x.pc.inPut = true) :
    Owns (some p) s'.inPut := by
  obtain ⟨own, others⟩ := inPut_of_update producer
  have put := owned.put
  rw [free] at put
  exact put.lock (own.trans enters) others

theorem Owned.unlockPut (here : (s.producer p).pc.inPut = true) (leaves : x.pc.inPut = false) :
    Owns none s'.inPut := by
  obtain ⟨own, others⟩ := inPut_of_update producer
  exact owned.put.unlock here (own.trans leaves) others

variable (consumer : s'.consumer.pc.inReady = s.consumer.pc.inReady)

include consumer

/-- A producer's step leaves `nready.mutex` to the thread that holds it. -/
theorem Owned.keepReady (same : x.pc.inReady = (s.producer p).pc.inReady) :
    Owns s.readyMutex s'.inReady := by
  obtain ⟨own, others⟩ := inReady_of_update producer consumer
  refine owned.ready.keep fun t => ?_
  by_cases mover : t = .producer p
  · rw [mover, own, same]
    rfl
  · exact others t mover

theorem Owned.lockReady (free : s.readyMutex = none) (enters : x.pc.inReady = true) :
    Owns (some (.producer p)) s'.inReady := by
  obtain ⟨own, others⟩ := inReady_of_update producer consumer
  have ready := owned.ready
  rw [free] at ready
  exact ready.lock (own.trans enters) others

theorem Owned.unlockReady (here : (s.producer p).pc.inReady = true)
    (leaves : x.pc.inReady = false) : Owns none s'.inReady := by
  obtain ⟨own, others⟩ := inReady_of_update producer consumer
  exact owned.ready.unlock (t := .producer p) here (own.trans leaves) others

end Producer

/-- The consumer moves and stays where it is with respect to `nready.mutex`. -/
theorem Owned.keepConsumer (owned : Owned s) (producer : s'.producer = s.producer)
    (putMutex : s'.putMutex = s.putMutex) (readyMutex : s'.readyMutex = s.readyMutex)
    (same : s'.consumer.pc.inReady = s.consumer.pc.inReady) : Owned s' where
  put := by
    rw [putMutex]
    exact owned.put.keep fun q => by unfold State.inPut; rw [producer]
  ready := by
    rw [readyMutex]
    refine owned.ready.keep fun t => ?_
    cases t with
    | producer q =>
      show (s'.producer q).pc.inReady = (s.producer q).pc.inReady
      rw [producer]
    | consumer => exact same

/-- The consumer locks or unlocks `nready.mutex`. -/
theorem inReady_of_consumer (producer : s'.producer = s.producer) (t : Thread π)
    (ne : t ≠ .consumer) : s'.inReady t = s.inReady t := by
  cases t with
  | producer q =>
    show (s'.producer q).pc.inReady = (s.producer q).pc.inReady
    rw [producer]
  | consumer => exact absurd rfl ne

/-- **Every step keeps the owners.** -/
theorem Owned.step {nitems : ℤ} {action : Act π} (owned : Owned s)
    (step : Step nitems s action s') : Owned s' := by
  cases step with
  | lockPut p here free =>
    exact ⟨owned.lockPut rfl free rfl, owned.keepReady rfl rfl (by rw [here]; rfl)⟩
  | unlockEnd p here | unlockPut p here =>
    exact ⟨owned.unlockPut rfl (by rw [here]; rfl) rfl, owned.keepReady rfl rfl (by rw [here]; rfl)⟩
  | lockReady p here free =>
    exact ⟨owned.keepPut rfl (by rw [here]; rfl), owned.lockReady rfl rfl free rfl⟩
  | unlockReady p here =>
    exact ⟨owned.keepPut rfl (by rw [here]; rfl),
      owned.unlockReady rfl rfl (by rw [here]; rfl) rfl⟩
  | signal p here asleep =>
    exact ⟨owned.keepPut rfl (by rw [here]; rfl),
      owned.keepReady rfl (by rw [asleep]; rfl) (by rw [here]; rfl)⟩
  | full p here | notFull p here | store p here | incNput p here | incNval p here
  | nothingReady p here | someReady p here | signalNobody p here | incReady p here
  | count p here =>
    exact ⟨owned.keepPut rfl (by rw [here]; rfl), owned.keepReady rfl rfl (by rw [here]; rfl)⟩
  | lock here free | relock here free =>
    have ready := owned.ready
    rw [free] at ready
    exact ⟨owned.put, ready.lock rfl (inReady_of_consumer rfl)⟩
  | wait here | unlock here =>
    have inside : s.inReady .consumer = true := by
      show s.consumer.pc.inReady = true
      rw [here]
      rfl
    exact ⟨owned.put, owned.ready.unlock inside rfl (inReady_of_consumer rfl)⟩
  | more here | done here | empty here | notEmpty here | decReady here | read here | next here
  | spurious here =>
    exact owned.keepConsumer rfl rfl rfl (by rw [here]; rfl)

end Moves

theorem owned_of_reachable {nitems : ℤ} {s : State π}
    (reachable : (machine nitems).Reachable Anything s) : Owned s := by
  refine reachable.induct owned_start ?_
  intro s action s' _ owned _ step
  exact owned.step (step_cases step)

end Unpvol2.Prodcons6
