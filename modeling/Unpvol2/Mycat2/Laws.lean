/-
**Who may touch which slot of `mycat2`.**

`Laws` says where the tokens of the semaphores are: a token of `nempty` stands for a slot that the
producer may fill, one of `nstored` for a slot that the consumer may write out, and the producer's
last token of each stands for the slot of count 0. The two positions `put` and `got` stay less than
`NBUFF` apart, so the slot being filled is never the slot being written out (`Laws.apart`), although
no section under `mutex` protects it.
-/

import Unpvol2.Lib.RingBuffer
import Unpvol2.Mycat2.Model

namespace Unpvol2.Mycat2

open Interleaving

variable {β : Type}

/-! ### The list of the steps -/

/-- The steps, case by case. -/
inductive Step (file : List β) (s : State β) : Act → State β → Prop
  | waitEmpty (here : s.producer.pc = .waitEmpty) (positive : 0 < s.nempty) :
      Step file s .produce { s.produceTo .waitMutex with nempty := s.nempty - 1 }
  | produceLock (here : s.producer.pc = .waitMutex) (positive : 0 < s.mutex) :
      Step file s .produce { s.produceTo .postMutex with mutex := s.mutex - 1 }
  | produceUnlock (here : s.producer.pc = .postMutex) :
      Step file s .produce { s.produceTo .read with mutex := s.mutex + 1 }
  | read (result : ℤ) (here : s.producer.pc = .read) (low : -1 ≤ result)
      (high : result ≤ buffsize) (within : s.offset + result ≤ file.length) :
      Step file s (.read result) { s with
        producer := { s.producer with pc := .reading, result := result, done := 0 } }
  | fill (byte : β) (here : s.producer.pc = .reading) (more : s.producer.done < s.producer.result)
      (found : file[s.offset]? = some byte) : Step file s .produce (s.fill byte)
  | filled (here : s.producer.pc = .reading) (all : s.producer.result ≤ s.producer.done) :
      Step file s .produce (s.produceTo .assign)
  | assign (here : s.producer.pc = .assign) : Step file s .produce (s.assign.produceTo .test)
  | last (here : s.producer.pc = .test) (zero : s.filled.n = 0) :
      Step file s .produce (s.produceTo .endStored)
  | notLast (here : s.producer.pc = .test) (some : s.filled.n ≠ 0) :
      Step file s .produce (s.produceTo .advance)
  | endStored (here : s.producer.pc = .endStored) :
      Step file s .produce { s.produceTo .returned with nstored := s.nstored + 1 }
  | advance (here : s.producer.pc = .advance) :
      Step file s .produce { s with
        producer := { s.producer with pc := .postStored, i := next s.producer.i }
        put := s.put + 1 }
  | postStored (here : s.producer.pc = .postStored) :
      Step file s .produce { s.produceTo .waitEmpty with nstored := s.nstored + 1 }
  | waitStored (here : s.consumer.pc = .waitStored) (positive : 0 < s.nstored) :
      Step file s .consume { s.consumeTo .waitMutex with nstored := s.nstored - 1 }
  | consumeLock (here : s.consumer.pc = .waitMutex) (positive : 0 < s.mutex) :
      Step file s .consume { s.consumeTo .postMutex with mutex := s.mutex - 1 }
  | consumeUnlock (here : s.consumer.pc = .postMutex) :
      Step file s .consume { s.consumeTo .test with mutex := s.mutex + 1 }
  | consumeEnd (here : s.consumer.pc = .test) (zero : s.emptied.n = 0) :
      Step file s .consume (s.consumeTo .returned)
  | more (here : s.consumer.pc = .test) (some : s.emptied.n ≠ 0) :
      Step file s .consume (s.consumeTo .write)
  | write (result : ℤ) (here : s.consumer.pc = .write) (low : -1 ≤ result)
      (high : result ≤ sizeT s.emptied.n) :
      Step file s (.write result) { s with
        consumer := { s.consumer with pc := .writing, result := result, done := 0 } }
  | drain (here : s.consumer.pc = .writing) (more : s.consumer.done < s.consumer.result) :
      Step file s .consume s.drain
  | drained (here : s.consumer.pc = .writing) (all : s.consumer.result ≤ s.consumer.done) :
      Step file s .consume (s.consumeTo .advance)
  | consumeAdvance (here : s.consumer.pc = .advance) :
      Step file s .consume { s with
        consumer := { s.consumer with pc := .postEmpty, i := next s.consumer.i }
        got := s.got + 1 }
  | postEmpty (here : s.consumer.pc = .postEmpty) :
      Step file s .consume { s.consumeTo .waitStored with nempty := s.nempty + 1 }

theorem produce_cases {file : List β} {s s' : State β} (step : s.produce file = some s') :
    Step file s .produce s' := by
  unfold State.produce at step
  split at step <;> rename_i here
  · simp only [Option.ite_none_right_eq_some, Option.some.injEq] at step
    obtain ⟨positive, rfl⟩ := step
    exact .waitEmpty here positive
  · simp only [Option.ite_none_right_eq_some, Option.some.injEq] at step
    obtain ⟨positive, rfl⟩ := step
    exact .produceLock here positive
  · cases step
    exact .produceUnlock here
  · cases step
  · split at step
    · rename_i more
      obtain ⟨byte, found, rfl⟩ := Option.map_eq_some_iff.mp step
      exact .fill byte here more found
    · rename_i all
      cases step
      exact .filled here (Int.not_lt.mp all)
  · cases step
    exact .assign here
  · cases step
    by_cases zero : s.filled.n = 0
    · rw [if_pos zero]
      exact .last here zero
    · rw [if_neg zero]
      exact .notLast here zero
  · cases step
    exact .endStored here
  · cases step
    exact .advance here
  · cases step
    exact .postStored here
  · cases step

theorem consume_cases {file : List β} {s s' : State β} (step : s.consume = some s') :
    Step file s .consume s' := by
  unfold State.consume at step
  split at step <;> rename_i here
  · simp only [Option.ite_none_right_eq_some, Option.some.injEq] at step
    obtain ⟨positive, rfl⟩ := step
    exact .waitStored here positive
  · simp only [Option.ite_none_right_eq_some, Option.some.injEq] at step
    obtain ⟨positive, rfl⟩ := step
    exact .consumeLock here positive
  · cases step
    exact .consumeUnlock here
  · cases step
    by_cases zero : s.emptied.n = 0
    · rw [if_pos zero]
      exact .consumeEnd here zero
    · rw [if_neg zero]
      exact .more here zero
  · cases step
  · split at step
    · rename_i more
      cases step
      exact .drain here more
    · rename_i all
      cases step
      exact .drained here (Int.not_lt.mp all)
  · cases step
    exact .consumeAdvance here
  · cases step
    exact .postEmpty here
  · cases step

/-- **The inversion of the step function.** -/
theorem step_cases {file : List β} {s s' : State β} {action : Act}
    (step : s.step file action = some s') : Step file s action s' := by
  cases action with
  | produce => exact produce_cases step
  | read result =>
    simp only [State.step, State.read, Option.ite_none_right_eq_some, Option.some.injEq] at step
    obtain ⟨⟨here, low, high, within⟩, rfl⟩ := step
    exact .read result here low high within
  | consume => exact consume_cases step
  | write result =>
    simp only [State.step, State.write, Option.ite_none_right_eq_some, Option.some.injEq] at step
    obtain ⟨⟨here, low, high⟩, rfl⟩ := step
    exact .write result here low high

/-! ### Which tokens a thread has -/

namespace ProducePc

/-- The token of `mutex`. -/
def inside : ProducePc → ℕ
  | .postMutex => 1
  | _ => 0

/-- The token of `nempty` for the slot `put`. -/
def holds : ProducePc → ℕ
  | .waitEmpty | .postStored => 0
  | _ => 1

/-- A slot filled whose token of `nstored` has not been posted. -/
def unposted : ProducePc → ℕ
  | .postStored => 1
  | _ => 0

/-- The token of `nstored` for the slot of count 0 has been posted. -/
def ended : ProducePc → ℕ
  | .returned => 1
  | _ => 0

/-- The producer may write to its slot. -/
def filling : ProducePc → Bool
  | .read | .reading | .assign => true
  | _ => false

end ProducePc

namespace ConsumePc

/-- The token of `mutex`. -/
def inside : ConsumePc → ℕ
  | .postMutex => 1
  | _ => 0

/-- The token of `nstored` for the slot `got`. -/
def holds : ConsumePc → ℕ
  | .waitStored | .postEmpty => 0
  | _ => 1

/-- A slot written out whose token of `nempty` has not been posted. -/
def unposted : ConsumePc → ℕ
  | .postEmpty => 1
  | _ => 0

/-- The consumer reads its slot. -/
def draining : ConsumePc → Bool
  | .test | .write | .writing => true
  | _ => false

end ConsumePc

/-- Where the tokens are. -/
structure Laws (s : State β) : Prop where
  mutex : s.mutex + s.producer.pc.inside + s.consumer.pc.inside = 1
  empty : s.nempty + s.producer.pc.holds + s.consumer.pc.unposted + s.put = nbuff + s.got
  stored : s.nstored + s.producer.pc.unposted + s.consumer.pc.holds + s.got =
    s.put + s.producer.pc.ended

theorem laws_start (memory : Fin nbuff → Slot β) : Laws (start memory) := ⟨rfl, rfl, rfl⟩

section Moves

variable {s s' : State β} {file : List β}

/-- A producer's step that conserves its own tokens conserves all. -/
theorem Laws.produce (laws : Laws s) (consumer : s'.consumer = s.consumer) (got : s'.got = s.got)
    (mutex : s'.mutex + s'.producer.pc.inside = s.mutex + s.producer.pc.inside)
    (empty : s'.nempty + s'.producer.pc.holds + s'.put =
      s.nempty + s.producer.pc.holds + s.put)
    (stored : s'.nstored + s'.producer.pc.unposted + s.put + s.producer.pc.ended =
      s.nstored + s.producer.pc.unposted + s'.put + s'.producer.pc.ended) : Laws s' := by
  obtain ⟨mutex', empty', stored'⟩ := laws
  refine ⟨?_, ?_, ?_⟩
  · rw [consumer]
    omega
  · rw [consumer, got]
    omega
  · rw [consumer, got]
    omega

/-- A consumer's step that conserves its own tokens conserves all. -/
theorem Laws.consume (laws : Laws s) (producer : s'.producer = s.producer) (put : s'.put = s.put)
    (mutex : s'.mutex + s'.consumer.pc.inside = s.mutex + s.consumer.pc.inside)
    (empty : s'.nempty + s'.consumer.pc.unposted + s.got =
      s.nempty + s.consumer.pc.unposted + s'.got)
    (stored : s'.nstored + s'.consumer.pc.holds + s'.got =
      s.nstored + s.consumer.pc.holds + s.got) : Laws s' := by
  obtain ⟨mutex', empty', stored'⟩ := laws
  refine ⟨?_, ?_, ?_⟩
  · rw [producer]
    omega
  · rw [producer, put]
    omega
  · rw [producer, put]
    omega

attribute [local simp] State.produceTo State.consumeTo State.fill State.assign State.drain
  ProducePc.inside ProducePc.holds ProducePc.unposted ProducePc.ended
  ConsumePc.inside ConsumePc.holds ConsumePc.unposted

/-- **Every step conserves the tokens.** -/
theorem Laws.step {action : Act} (laws : Laws s) (step : Step file s action s') : Laws s' := by
  cases step with
  | waitEmpty here | produceLock here | produceUnlock here | read _ here | fill _ here
  | filled here | assign here | last here | notLast here | endStored here | advance here
  | postStored here =>
    refine laws.produce rfl rfl ?_ ?_ ?_ <;> simp [here] <;> omega
  | waitStored here | consumeLock here | consumeUnlock here | consumeEnd here | more here
  | write _ here | drain here | drained here | consumeAdvance here | postEmpty here =>
    refine laws.consume rfl rfl ?_ ?_ ?_ <;> simp [here] <;> omega

/-- The slot the consumer has a token for is filled, while the producer runs. -/
theorem Laws.some (laws : Laws s) (holds : s.consumer.pc.holds = 1)
    (running : s.producer.pc.ended = 0) : s.got < s.put := by
  have law := laws.stored
  omega

/-- The slot the producer has a token for is free. -/
theorem Laws.room (laws : Laws s) (holds : s.producer.pc.holds = 1) : s.put < s.got + nbuff := by
  have law := laws.empty
  omega

end Moves

theorem laws_of_reachable {file : List β} {memory : Fin nbuff → Slot β}
    {ok : State β → Act → Prop} {s : State β} (reachable : (machine file memory).Reachable ok s) :
    Laws s := by
  refine reachable.induct (laws_start memory) ?_
  intro s action s' _ laws _ step
  exact laws.step (step_cases step)

/-! ### The positions in the ring -/

theorem next_mod (n : ℕ) : next (n % nbuff) = (n + 1) % nbuff := by
  have bound : n % nbuff < nbuff := Nat.mod_lt n (by decide)
  unfold next
  unfold nbuff at bound ⊢
  split <;> omega

theorem slot_mod (n : ℕ) : slot (n % nbuff) = Fin.ofNat nbuff n :=
  Fin.ext (Nat.mod_mod n nbuff)

/-- The indices of the two threads. -/
structure Indexed (s : State β) : Prop where
  producer : s.producer.i = s.put % nbuff
  consumer : s.consumer.i = s.got % nbuff

theorem Indexed.step {file : List β} {s s' : State β} {action : Act} (indexed : Indexed s)
    (step : Step file s action s') : Indexed s' := by
  obtain ⟨producer, consumer⟩ := indexed
  cases step with
  | advance here => exact ⟨(congrArg next producer).trans (next_mod s.put), consumer⟩
  | consumeAdvance here => exact ⟨producer, (congrArg next consumer).trans (next_mod s.got)⟩
  | _ => exact ⟨producer, consumer⟩

theorem indexed_of_reachable {file : List β} {memory : Fin nbuff → Slot β}
    {ok : State β → Act → Prop} {s : State β} (reachable : (machine file memory).Reachable ok s) :
    Indexed s := by
  refine reachable.induct ⟨rfl, rfl⟩ ?_
  intro s action s' _ indexed _ step
  exact indexed.step (step_cases step)

/-- **The slot being filled is not the slot being written out.** -/
theorem Laws.apart {s : State β} (laws : Laws s) (indexed : Indexed s)
    (filling : s.producer.pc.filling = true) (draining : s.consumer.pc.draining = true) :
    slot s.producer.i ≠ slot s.consumer.i := by
  have token : s.producer.pc.holds = 1 ∧ s.producer.pc.ended = 0 := by
    revert filling
    cases s.producer.pc <;> decide
  have token' : s.consumer.pc.holds = 1 := by
    revert draining
    cases s.consumer.pc <;> decide
  have some := laws.some token' token.2
  have room := laws.room token.1
  rw [indexed.producer, indexed.consumer, slot_mod, slot_mod]
  exact (place_ne some room).symm

end Unpvol2.Mycat2
