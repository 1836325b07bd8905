/-
**The steps of `prodcons2` and `prodcons3`, and who holds the mutex.**

`Step` lists the steps case by case. `Owned` says that the mutex is held by exactly the thread that
stands between its lock and its unlock.
-/

import Unpvol2.Lib.Mutex
import Unpvol2.Prodcons2.Model

namespace Unpvol2.Prodcons2

open Interleaving

/-! ### The list of the steps -/

/-- The steps, case by case. -/
inductive Step (program : Program) (nitems nthreads : ℤ) (s : State) : Act → State → Prop
  | moreThreads (here : s.main.pc = .testCreate) (more : s.main.i < nthreads) :
      Step program nitems nthreads s .main (s.mainTo .zero)
  | allCreated (here : s.main.pc = .testCreate) (all : nthreads ≤ s.main.i) :
      Step program nitems nthreads s .main { s with main := ⟨program.created, 0⟩ }
  | zero (here : s.main.pc = .zero) :
      Step program nitems nthreads s .main
        { s.mainTo .create with count := Function.update s.count s.main.i 0 }
  | create (here : s.main.pc = .create) :
      Step program nitems nthreads s .main
        { s.produceTo s.main.i .lock with main := ⟨.testCreate, s.main.i + 1⟩ }
  | createConsumer (here : s.main.pc = .createConsumer) :
      Step program nitems nthreads s .main ((s.consumeTo .test).mainTo program.started)
  | moreJoins (here : s.main.pc = .testJoin) (more : s.main.i < nthreads) :
      Step program nitems nthreads s .main (s.mainTo .join)
  | allJoined (here : s.main.pc = .testJoin) (all : nthreads ≤ s.main.i) :
      Step program nitems nthreads s .main (s.mainTo program.joined)
  | join (here : s.main.pc = .join) (ended : s.producer s.main.i = .returned) :
      Step program nitems nthreads s .main (s.mainTo .print)
  | print (here : s.main.pc = .print) :
      Step program nitems nthreads s .main
        { s with
          main := ⟨.testJoin, s.main.i + 1⟩
          stdout := s.stdout ++ [.count s.main.i (s.count s.main.i)] }
  | joinConsumer (here : s.main.pc = .joinConsumer) (ended : s.consumer.pc = .returned) :
      Step program nitems nthreads s .main (s.mainTo .exited)
  | lock (k : ℕ) (here : s.producer k = .lock) (free : s.mutex = none) :
      Step program nitems nthreads s (.produce k)
        { s.produceTo k .test with mutex := some (.producer k) }
  | full (k : ℕ) (here : s.producer k = .test) (all : nitems ≤ s.nput) :
      Step program nitems nthreads s (.produce k) (s.produceTo k .unlockEnd)
  | notFull (k : ℕ) (here : s.producer k = .test) (more : s.nput < nitems) :
      Step program nitems nthreads s (.produce k) (s.produceTo k .store)
  | unlockEnd (k : ℕ) (here : s.producer k = .unlockEnd) :
      Step program nitems nthreads s (.produce k) { s.produceTo k .returned with mutex := none }
  | store (k : ℕ) (here : s.producer k = .store) (bound : s.nput < maxnitems) :
      Step program nitems nthreads s (.produce k)
        { s.produceTo k .incNput with buff := Function.update s.buff s.nput s.nval }
  | incNput (k : ℕ) (here : s.producer k = .incNput) :
      Step program nitems nthreads s (.produce k)
        { s.produceTo k .incNval with nput := s.nput + 1 }
  | incNval (k : ℕ) (here : s.producer k = .incNval) :
      Step program nitems nthreads s (.produce k)
        { s.produceTo k .unlock with nval := s.nval + 1 }
  | unlock (k : ℕ) (here : s.producer k = .unlock) :
      Step program nitems nthreads s (.produce k) { s.produceTo k .count with mutex := none }
  | count (k : ℕ) (here : s.producer k = .count) :
      Step program nitems nthreads s (.produce k)
        { s.produceTo k .lock with count := Function.update s.count k (s.count k + 1) }
  | moreItems (here : s.consumer.pc = .test) (more : s.consumer.i < nitems) :
      Step program nitems nthreads s .consume (s.consumeTo program.wanted)
  | allRead (here : s.consumer.pc = .test) (all : nitems ≤ s.consumer.i) :
      Step program nitems nthreads s .consume (s.consumeTo .returned)
  | lockReady (here : s.consumer.pc = .lock) (free : s.mutex = none) :
      Step program nitems nthreads s .consume
        { s.consumeTo .testReady with mutex := some .consumer }
  | ready (here : s.consumer.pc = .testReady) (ready : s.consumer.i < s.nput) :
      Step program nitems nthreads s .consume (s.consumeTo .unlockReady)
  | notReady (here : s.consumer.pc = .testReady) (none : s.nput ≤ s.consumer.i) :
      Step program nitems nthreads s .consume
        { s.consumeTo .unlockAgain with waits := s.waits + 1 }
  | unlockReady (here : s.consumer.pc = .unlockReady) :
      Step program nitems nthreads s .consume { s.consumeTo .read with mutex := none }
  | unlockAgain (here : s.consumer.pc = .unlockAgain) :
      Step program nitems nthreads s .consume { s.consumeTo .lock with mutex := none }
  | wrong (here : s.consumer.pc = .read) (wrong : s.buff s.consumer.i ≠ s.consumer.i) :
      Step program nitems nthreads s .consume
        { s.consumeTo .next with
          stdout := s.stdout ++ [.buff s.consumer.i (s.buff s.consumer.i)] }
  | right (here : s.consumer.pc = .read) (right : s.buff s.consumer.i = s.consumer.i) :
      Step program nitems nthreads s .consume (s.consumeTo .next)
  | next (here : s.consumer.pc = .next) :
      Step program nitems nthreads s .consume { s with consumer := ⟨.test, s.consumer.i + 1⟩ }

section Cases

variable {program : Program} {nitems nthreads : ℤ} {s s' : State}

theorem mainStep_cases (step : s.mainStep program nthreads = some s') :
    Step program nitems nthreads s .main s' := by
  unfold State.mainStep at step
  dsimp only at step
  split at step <;> rename_i here
  · cases step
    by_cases more : (s.main.i : ℤ) < nthreads
    · rw [if_pos more]
      exact .moreThreads here more
    · rw [if_neg more]
      exact .allCreated here (Int.not_lt.mp more)
  · cases step
    exact .zero here
  · cases step
    exact .create here
  · cases step
    exact .createConsumer here
  · cases step
    by_cases more : (s.main.i : ℤ) < nthreads
    · rw [if_pos more]
      exact .moreJoins here more
    · rw [if_neg more]
      exact .allJoined here (Int.not_lt.mp more)
  · simp only [Option.ite_none_right_eq_some, Option.some.injEq] at step
    obtain ⟨ended, rfl⟩ := step
    exact .join here ended
  · cases step
    exact .print here
  · simp only [Option.ite_none_right_eq_some, Option.some.injEq] at step
    obtain ⟨ended, rfl⟩ := step
    exact .joinConsumer here ended
  · cases step

theorem produce_cases {k : ℕ} (step : s.produce nitems k = some s') :
    Step program nitems nthreads s (.produce k) s' := by
  unfold State.produce at step
  split at step <;> rename_i here
  · cases step
  · simp only [Option.ite_none_right_eq_some, Option.some.injEq] at step
    obtain ⟨free, rfl⟩ := step
    exact .lock k here free
  · cases step
    by_cases all : (s.nput : ℤ) ≥ nitems
    · rw [if_pos all]
      exact .full k here all
    · rw [if_neg all]
      exact .notFull k here (Int.not_le.mp all)
  · cases step
    exact .unlockEnd k here
  · simp only [Option.ite_none_right_eq_some, Option.some.injEq] at step
    obtain ⟨bound, rfl⟩ := step
    exact .store k here bound
  · cases step
    exact .incNput k here
  · cases step
    exact .incNval k here
  · cases step
    exact .unlock k here
  · cases step
    exact .count k here
  · cases step

theorem consume_cases (step : s.consume program nitems = some s') :
    Step program nitems nthreads s .consume s' := by
  unfold State.consume at step
  dsimp only at step
  split at step <;> rename_i here
  · cases step
  · cases step
    by_cases more : (s.consumer.i : ℤ) < nitems
    · rw [if_pos more]
      exact .moreItems here more
    · rw [if_neg more]
      exact .allRead here (Int.not_lt.mp more)
  · simp only [Option.ite_none_right_eq_some, Option.some.injEq] at step
    obtain ⟨free, rfl⟩ := step
    exact .lockReady here free
  · cases step
    by_cases ready : s.consumer.i < s.nput
    · rw [if_pos ready]
      exact .ready here ready
    · rw [if_neg ready]
      exact .notReady here (Nat.not_lt.mp ready)
  · cases step
    exact .unlockReady here
  · cases step
    exact .unlockAgain here
  · simp only [Option.ite_none_right_eq_some, Option.some.injEq] at step
    obtain ⟨_, rfl⟩ := step
    by_cases right : s.buff s.consumer.i = s.consumer.i
    · rw [if_neg fun wrong => wrong right]
      exact .right here right
    · rw [if_pos right]
      exact .wrong here right
  · cases step
    exact .next here
  · cases step

/-- **The inversion of the step function.** -/
theorem step_cases {action : Act} (step : s.step program nitems nthreads action = some s') :
    Step program nitems nthreads s action s' := by
  cases action with
  | main => exact mainStep_cases step
  | produce k => exact produce_cases step
  | consume => exact consume_cases step

end Cases

/-! ### Who holds the mutex -/

/-- The producer is between its lock and its unlock. -/
def ProducePc.inside : ProducePc → Bool
  | .test | .unlockEnd | .store | .incNput | .incNval | .unlock => true
  | .unborn | .lock | .count | .returned => false

/-- The consumer is between its lock and its unlock. -/
def ConsumePc.inside : ConsumePc → Bool
  | .testReady | .unlockReady | .unlockAgain => true
  | .unborn | .test | .lock | .read | .next | .returned => false

def State.inside (s : State) : Thread → Bool
  | .producer k => (s.producer k).inside
  | .consumer => s.consumer.pc.inside

/-- The mutex is held by exactly the thread that is inside. -/
def Owned (s : State) : Prop := Owns s.mutex s.inside

theorem owned_start (count : ℕ → ℤ) : Owned (start count) :=
  Owns.init fun t => by cases t <;> rfl

section Moves

variable {s s' : State} {k : ℕ} {pc : ProducePc} {program : Program} {nitems nthreads : ℤ}

/-- The others stand where they stood. -/
theorem inside_of_update (producer : s'.producer = Function.update s.producer k pc)
    (consumer : s'.consumer = s.consumer) :
    s'.inside (.producer k) = pc.inside ∧ ∀ t, t ≠ .producer k → s'.inside t = s.inside t := by
  refine ⟨?_, fun t ne => ?_⟩
  · show (s'.producer k).inside = pc.inside
    rw [producer, Function.update_self]
  · cases t with
    | producer j =>
      show (s'.producer j).inside = (s.producer j).inside
      rw [producer, Function.update_of_ne fun same => ne (by rw [same])]
    | consumer =>
      show s'.consumer.pc.inside = s.consumer.pc.inside
      rw [consumer]

theorem Owned.keepProducer (owned : Owned s)
    (producer : s'.producer = Function.update s.producer k pc) (consumer : s'.consumer = s.consumer)
    (mutex : s'.mutex = s.mutex) (same : pc.inside = (s.producer k).inside) : Owned s' := by
  obtain ⟨own, others⟩ := inside_of_update producer consumer
  unfold Owned
  rw [mutex]
  refine owned.keep fun t => ?_
  by_cases mover : t = .producer k
  · rw [mover, own, same]
    rfl
  · exact others t mover

theorem Owned.lock (owned : Owned s) (free : s.mutex = none)
    (producer : s'.producer = Function.update s.producer k pc) (consumer : s'.consumer = s.consumer)
    (mutex : s'.mutex = some (.producer k)) (enters : pc.inside = true) : Owned s' := by
  obtain ⟨own, others⟩ := inside_of_update producer consumer
  have free : Owns none s.inside := free ▸ owned
  unfold Owned
  rw [mutex]
  exact free.lock (own.trans enters) others

theorem Owned.unlock (owned : Owned s) (here : (s.producer k).inside = true)
    (producer : s'.producer = Function.update s.producer k pc) (consumer : s'.consumer = s.consumer)
    (mutex : s'.mutex = none) (leaves : pc.inside = false) : Owned s' := by
  obtain ⟨own, others⟩ := inside_of_update producer consumer
  unfold Owned
  rw [mutex]
  exact Owns.unlock owned (t := .producer k) here (own.trans leaves) others

/-- `main` or the consumer moves and does not enter or leave. -/
theorem Owned.keepConsumer (owned : Owned s) (producer : s'.producer = s.producer)
    (mutex : s'.mutex = s.mutex) (same : s'.consumer.pc.inside = s.consumer.pc.inside) :
    Owned s' := by
  unfold Owned
  rw [mutex]
  refine owned.keep fun t => ?_
  cases t with
  | producer j =>
    show (s'.producer j).inside = (s.producer j).inside
    rw [producer]
  | consumer => exact same

theorem inside_of_consumer (producer : s'.producer = s.producer) (t : Thread)
    (ne : t ≠ .consumer) : s'.inside t = s.inside t := by
  cases t with
  | producer j =>
    show (s'.producer j).inside = (s.producer j).inside
    rw [producer]
  | consumer => exact absurd rfl ne

/-- **Every step keeps the owner.** The threads that `main` creates are outside. -/
theorem Owned.step {action : Act} (owned : Owned s)
    (unborn : action = .main → s.main.pc = .create → s.producer s.main.i = .unborn)
    (asleep : action = .main → s.main.pc = .createConsumer → s.consumer.pc = .unborn)
    (step : Step program nitems nthreads s action s') : Owned s' := by
  cases step with
  | moreThreads | allCreated | zero | moreJoins | allJoined | join | print | joinConsumer =>
    exact owned.keepConsumer rfl rfl rfl
  | create here =>
    exact owned.keepProducer rfl rfl rfl (by rw [unborn rfl here]; rfl)
  | createConsumer here =>
    exact owned.keepConsumer rfl rfl (by rw [asleep rfl here]; rfl)
  | lock k here free => exact owned.lock free rfl rfl rfl rfl
  | unlockEnd k here | unlock k here =>
    exact owned.unlock (by rw [here]; rfl) rfl rfl rfl rfl
  | full k here | notFull k here | store k here | incNput k here | incNval k here
  | count k here =>
    exact owned.keepProducer rfl rfl rfl (by rw [here]; rfl)
  | lockReady here free =>
    have free : Owns none s.inside := free ▸ owned
    exact free.lock rfl (inside_of_consumer rfl)
  | unlockReady here | unlockAgain here =>
    have inside : s.inside .consumer = true := by
      show s.consumer.pc.inside = true
      rw [here]
      rfl
    exact Owns.unlock owned inside rfl (inside_of_consumer rfl)
  | moreItems here =>
    refine owned.keepConsumer rfl rfl ?_
    rw [here]
    cases program <;> rfl
  | allRead here | ready here | notReady here | wrong here | right here | next here =>
    exact owned.keepConsumer rfl rfl (by rw [here]; rfl)

end Moves

end Unpvol2.Prodcons2
