/-
**The steps of one process of `prodcons1`.**

`Step` lists them case by case: `main`, the producer, the consumer, and the death of the process, by
a signal from outside or by a call on a semaphore that it does not have.
-/

import Unpvol2.Prodcons1.Model

namespace Unpvol2.Prodcons1

open Interleaving

/-- The statement after `sem_open`. -/
def Name.opens : Name → MainPc
  | .mutex => .openSem .nempty
  | .nempty => .openSem .nstored
  | .nstored => .createProduce

/-- The statement after `sem_unlink`. -/
def Name.unlinks : Name → MainPc
  | .mutex => .unlink .nempty
  | .nempty => .unlink .nstored
  | .nstored => .exited

namespace Process

/-- The value of a semaphore changes. -/
def setSem (x : Process) (name : Name) (value : ℕ) : Process :=
  { x with sem := Function.update x.sem name value }

/-- What may kill a process: a signal, or a thread that calls a semaphore the process lacks. -/
def Doomed (x : Process) : Move → Prop
  | .main _ => False
  | .produce => x.producer.pc ≠ .notYet ∧ ∃ name, x.opened name = false
  | .consume => x.consumer.pc ≠ .notYet ∧ ∃ name, x.opened name = false
  | .kill => True

/-- The steps, case by case. -/
inductive Step (nitems : ℤ) (x : Process) : Move → Process → Prop
  | openSem (name : Name) (here : x.main = .openSem name) :
      Step nitems x (.main false)
        { x with
          opened := Function.update x.opened name true
          sem := Function.update x.sem name name.initial
          main := name.opens }
  | failed (name : Name) (here : x.main = .openSem name) :
      Step nitems x (.main true) { x with main := name.opens }
  | createProduce (taken : Bool) (here : x.main = .createProduce) :
      Step nitems x (.main taken) { x.produceTo .test with main := .createConsume }
  | createConsume (taken : Bool) (here : x.main = .createConsume) :
      Step nitems x (.main taken) { x.consumeTo .test with main := .joinProduce }
  | joinProduce (taken : Bool) (here : x.main = .joinProduce)
      (returned : x.producer.pc = .returned) :
      Step nitems x (.main taken) { x with main := .joinConsume }
  | joinConsume (taken : Bool) (here : x.main = .joinConsume)
      (returned : x.consumer.pc = .returned) :
      Step nitems x (.main taken) { x with main := .unlink .mutex }
  | unlink (taken : Bool) (name : Name) (here : x.main = .unlink name) :
      Step nitems x (.main taken) { x with main := name.unlinks }
  | produceMore (here : x.producer.pc = .test) (more : (x.producer.i : ℤ) < nitems) :
      Step nitems x .produce (x.produceTo .waitEmpty)
  | produceEnd (here : x.producer.pc = .test) (all : nitems ≤ x.producer.i) :
      Step nitems x .produce (x.produceTo .returned)
  | waitEmpty (here : x.producer.pc = .waitEmpty) (opened : x.opened .nempty = true)
      (positive : 0 < x.sem .nempty) :
      Step nitems x .produce ((x.produceTo .waitMutex).setSem .nempty (x.sem .nempty - 1))
  | produceLock (here : x.producer.pc = .waitMutex) (opened : x.opened .mutex = true)
      (positive : 0 < x.sem .mutex) :
      Step nitems x .produce ((x.produceTo .store).setSem .mutex (x.sem .mutex - 1))
  | store (here : x.producer.pc = .store) :
      Step nitems x .produce
        { x.produceTo .print with
          buff := Function.update x.buff (slot x.producer.i) x.producer.i }
  | put (here : x.producer.pc = .print) :
      Step nitems x .produce
        { x.produceTo .postMutex with
          stdout := x.stdout ++ [.put (x.buff (slot x.producer.i))] }
  | produceUnlock (here : x.producer.pc = .postMutex) (opened : x.opened .mutex = true) :
      Step nitems x .produce ((x.produceTo .postStored).setSem .mutex (x.sem .mutex + 1))
  | postStored (here : x.producer.pc = .postStored) (opened : x.opened .nstored = true) :
      Step nitems x .produce
        (setSem { x with producer := ⟨.test, x.producer.i + 1⟩ } .nstored (x.sem .nstored + 1))
  | consumeMore (here : x.consumer.pc = .test) (more : (x.consumer.i : ℤ) < nitems) :
      Step nitems x .consume (x.consumeTo .waitStored)
  | consumeEnd (here : x.consumer.pc = .test) (all : nitems ≤ x.consumer.i) :
      Step nitems x .consume (x.consumeTo .returned)
  | waitStored (here : x.consumer.pc = .waitStored) (opened : x.opened .nstored = true)
      (positive : 0 < x.sem .nstored) :
      Step nitems x .consume ((x.consumeTo .waitMutex).setSem .nstored (x.sem .nstored - 1))
  | consumeLock (here : x.consumer.pc = .waitMutex) (opened : x.opened .mutex = true)
      (positive : 0 < x.sem .mutex) :
      Step nitems x .consume ((x.consumeTo .compare).setSem .mutex (x.sem .mutex - 1))
  | compare (here : x.consumer.pc = .compare) :
      Step nitems x .consume
        (x.consumeTo (.print (decide (x.buff (slot x.consumer.i) ≠ x.consumer.i))))
  | differs (here : x.consumer.pc = .print true) :
      Step nitems x .consume
        { x.consumeTo .postMutex with
          stdout := x.stdout ++ [.differs x.consumer.i (x.buff (slot x.consumer.i))] }
  | get (here : x.consumer.pc = .print false) :
      Step nitems x .consume
        { x.consumeTo .postMutex with
          stdout := x.stdout ++ [.get (x.buff (slot x.consumer.i))] }
  | consumeUnlock (here : x.consumer.pc = .postMutex) (opened : x.opened .mutex = true) :
      Step nitems x .consume ((x.consumeTo .postEmpty).setSem .mutex (x.sem .mutex + 1))
  | postEmpty (here : x.consumer.pc = .postEmpty) (opened : x.opened .nempty = true) :
      Step nitems x .consume
        (setSem { x with consumer := ⟨.test, x.consumer.i + 1⟩ } .nempty (x.sem .nempty + 1))
  | die (move : Move) (doomed : x.Doomed move) : Step nitems x move { x with killed := true }

variable {nitems : ℤ} {x x' next : Process} {name : Name} {move : Move}

/-- `sem_wait` goes on, or kills. -/
theorem wait_cases (waited : x.wait name next = some x') :
    (x.opened name = true ∧ 0 < x.sem name ∧
      x' = { next with sem := Function.update x.sem name (x.sem name - 1) }) ∨
      ((∃ name, x.opened name = false) ∧ x' = { x with killed := true }) := by
  unfold wait at waited
  split at waited
  · simp only [Option.ite_none_right_eq_some, Option.some.injEq] at waited
    exact .inl ⟨‹_›, waited.1, waited.2.symm⟩
  · cases waited
    exact .inr ⟨⟨name, Bool.eq_false_iff.mpr ‹_›⟩, rfl⟩

/-- `sem_post` goes on, or kills. -/
theorem post_cases (x : Process) (name : Name) (next : Process) :
    (x.opened name = true ∧
      x.post name next = { next with sem := Function.update x.sem name (x.sem name + 1) }) ∨
      ((∃ name, x.opened name = false) ∧ x.post name next = { x with killed := true }) := by
  unfold post
  split
  · exact .inl ⟨‹_›, rfl⟩
  · exact .inr ⟨⟨name, Bool.eq_false_iff.mpr ‹_›⟩, rfl⟩

/-- The producer calls a semaphore the process lacks. -/
theorem Step.produce_dies {pc : ProducePc} (here : x.producer.pc = pc) (begun : pc ≠ .notYet)
    (lacks : ∃ name, x.opened name = false) : Step nitems x .produce { x with killed := true } :=
  .die .produce ⟨here ▸ begun, lacks⟩

theorem Step.consume_dies {pc : ConsumePc} (here : x.consumer.pc = pc) (begun : pc ≠ .notYet)
    (lacks : ∃ name, x.opened name = false) : Step nitems x .consume { x with killed := true } :=
  .die .consume ⟨here ▸ begun, lacks⟩

theorem openSem_cases {taken : Bool} (here : x.main = .openSem name) :
    Step nitems x (.main taken) (x.openSem name taken name.opens) := by
  unfold openSem
  cases taken with
  | true => exact .failed name here
  | false => exact .openSem name here

theorem main_cases {taken : Bool} (step : x.mainStep taken = some x') :
    Step nitems x (.main taken) x' := by
  unfold mainStep at step
  split at step <;> rename_i here
  · cases step
    exact openSem_cases here
  · cases step
    exact openSem_cases here
  · cases step
    exact openSem_cases here
  · cases step
    exact .createProduce taken here
  · cases step
    exact .createConsume taken here
  · simp only [Option.ite_none_right_eq_some, Option.some.injEq] at step
    obtain ⟨returned, rfl⟩ := step
    exact .joinProduce taken here returned
  · simp only [Option.ite_none_right_eq_some, Option.some.injEq] at step
    obtain ⟨returned, rfl⟩ := step
    exact .joinConsume taken here returned
  · cases step
    exact .unlink taken _ here
  · cases step
    exact .unlink taken _ here
  · cases step
    exact .unlink taken _ here
  · cases step

theorem produce_cases (step : x.produce nitems = some x') : Step nitems x .produce x' := by
  unfold produce at step
  dsimp only at step
  split at step <;> rename_i here
  · cases step
    split
    · exact .produceMore here ‹_›
    · exact .produceEnd here (Int.not_lt.mp ‹_›)
  · rcases wait_cases step with ⟨opened, positive, rfl⟩ | ⟨lacks, rfl⟩
    · exact .waitEmpty here opened positive
    · exact .produce_dies here nofun lacks
  · rcases wait_cases step with ⟨opened, positive, rfl⟩ | ⟨lacks, rfl⟩
    · exact .produceLock here opened positive
    · exact .produce_dies here nofun lacks
  · cases step
    exact .store here
  · cases step
    exact .put here
  · cases step
    rcases post_cases x .mutex (x.produceTo .postStored) with ⟨opened, same⟩ | ⟨lacks, same⟩
    · rw [same]
      exact .produceUnlock here opened
    · rw [same]
      exact .produce_dies here nofun lacks
  · cases step
    rcases post_cases x .nstored { x with producer := ⟨.test, x.producer.i + 1⟩ } with
      ⟨opened, same⟩ | ⟨lacks, same⟩
    · rw [same]
      exact .postStored here opened
    · rw [same]
      exact .produce_dies here nofun lacks
  · cases step
  · cases step

theorem consume_cases (step : x.consume nitems = some x') : Step nitems x .consume x' := by
  unfold consume at step
  dsimp only at step
  split at step <;> rename_i here
  · cases step
    split
    · exact .consumeMore here ‹_›
    · exact .consumeEnd here (Int.not_lt.mp ‹_›)
  · rcases wait_cases step with ⟨opened, positive, rfl⟩ | ⟨lacks, rfl⟩
    · exact .waitStored here opened positive
    · exact .consume_dies here nofun lacks
  · rcases wait_cases step with ⟨opened, positive, rfl⟩ | ⟨lacks, rfl⟩
    · exact .consumeLock here opened positive
    · exact .consume_dies here nofun lacks
  · cases step
    exact .compare here
  · rename_i differs
    cases step
    cases differs with
    | true => exact .differs here
    | false => exact .get here
  · cases step
    rcases post_cases x .mutex (x.consumeTo .postEmpty) with ⟨opened, same⟩ | ⟨lacks, same⟩
    · rw [same]
      exact .consumeUnlock here opened
    · rw [same]
      exact .consume_dies here nofun lacks
  · cases step
    rcases post_cases x .nempty { x with consumer := ⟨.test, x.consumer.i + 1⟩ } with
      ⟨opened, same⟩ | ⟨lacks, same⟩
    · rw [same]
      exact .postEmpty here opened
    · rw [same]
      exact .consume_dies here nofun lacks
  · cases step
  · cases step

/-- **The inversion of the step function.** -/
theorem step_cases (step : x.step nitems move = some x') :
    x.ended = false ∧ Step nitems x move x' := by
  unfold Process.step at step
  split at step
  · cases step
  · refine ⟨Bool.eq_false_iff.mpr ‹_›, ?_⟩
    cases move with
    | main taken => exact main_cases step
    | produce => exact produce_cases step
    | consume => exact consume_cases step
    | kill =>
      cases step
      exact .die .kill trivial

end Process

end Unpvol2.Prodcons1
