/-
**`prodcons3` fetches the items in order and ends.**

* `Ordered` — the items that have been stored and not fetched lie in their places. A store has a
  free place (`Tokens.room`) and a fetch has its item (`Tokens.item`).
* Every run is finite: the items still to come, and the statements a thread has left before it waits
  again or returns, drop with every step (`left_lt`).
* Where no thread can step, nobody holds `mutex`. If the consumer waits, no item is in the buffer,
  so no producer waits for a place: all have seen the end, but the consumer has an item to come. So
  it has returned, everything is fetched, and all `NBUFF` tokens of `nempty` are back, which lets
  every producer that waited for one return too.
-/

import Mathlib.Data.List.Range
import Unpvol2.Lib.RingBuffer
import Unpvol2.Prodcons3.Tokens

set_option linter.unusedSectionVars false

namespace Unpvol2.Prodcons3

open Interleaving

variable {π : Type} [DecidableEq π] [Fintype π] {s s' : State π} {nitems : ℤ}

theorem producers_nonneg {w : ProducePc → ℤ} (nonneg : ∀ pc, 0 ≤ w pc) : 0 ≤ s.producers w :=
  total_nonneg (w := fun x : Producer => w x.pc) (fun x => nonneg x.pc) _

theorem le_producers {w : ProducePc → ℤ} (nonneg : ∀ pc, 0 ≤ w pc) (p : π) :
    w (s.producer p).pc ≤ s.producers w :=
  le_total (w := fun x : Producer => w x.pc) (fun _ => nonneg _) p

/-! ### A place for every store, an item for every fetch -/

/-- **A producer in its section finds a free place.** -/
theorem Tokens.room (tokens : Tokens s) {p : π} (here : (s.producer p).pc = .critical) :
    s.nput < s.got + nbuff := by
  have own : 1 ≤ s.producers ProducePc.empty := by
    have le := le_producers (s := s) ProducePc.empty_nonneg p
    rw [here] at le
    exact le
  have consumer : 0 ≤ s.consumer.pc.unposted := by
    cases s.consumer.pc <;> decide
  have law := tokens.empty
  omega

/-- **The consumer in its section finds its item.** -/
theorem Tokens.item (tokens : Tokens s) (here : s.consumer.pc = .critical) :
    s.consumer.i < s.nput := by
  have others := producers_nonneg (s := s) ProducePc.unposted_nonneg
  have law := tokens.stored
  unfold State.got at law
  rw [here] at law
  simp only [ConsumePc.stored, ConsumePc.fetched] at law
  omega

/-! ### The items in the buffer -/

/-- The producer has seen the end. -/
def ProducePc.ended : ProducePc → Bool
  | .doneEmpty | .doneMutex | .returned => true
  | _ => false

/-- The consumer is in the body of its loop. -/
def ConsumePc.looping : ConsumePc → Bool
  | .test | .returned => false
  | _ => true

/-- The buffer between two critical sections, and where the threads are. -/
structure Ordered (nitems : ℤ) (s : State π) : Prop where
  nputval : s.nputval = s.nput
  most : s.nput ≤ nitems.toNat
  produced : ∀ p, (s.producer p).pc.ended = true → nitems ≤ s.nput
  looping : s.consumer.pc.looping = true → (s.consumer.i : ℤ) < nitems
  returned : s.consumer.pc = .returned → nitems ≤ s.consumer.i
  stores : Stores (fun k value => value = k) s.buff s.got s.nput
  fetched : s.fetched = List.range s.got
  errors : s.errors = []

theorem ordered_start : Ordered nitems (start : State π) where
  nputval := rfl
  most := Nat.zero_le _
  produced := fun _ ended => by cases ended
  looping := fun inside => by cases inside
  returned := fun here => by cases here
  stores := Stores.empty _ _ _
  fetched := rfl
  errors := rfl

/-- A producer's step outside the body of the critical section. -/
theorem Ordered.produce (ordered : Ordered nitems s) (p : π) (x : Producer)
    (producer : s'.producer = Function.update s.producer p x) (consumer : s'.consumer = s.consumer)
    (nput : s'.nput = s.nput) (nputval : s'.nputval = s.nputval) (buff : s'.buff = s.buff)
    (fetched : s'.fetched = s.fetched) (errors : s'.errors = s.errors)
    (ended : x.pc.ended = true → (s.producer p).pc.ended = true ∨ nitems ≤ s.nput) :
    Ordered nitems s' where
  nputval := by rw [nput, nputval, ordered.nputval]
  most := by rw [nput]; exact ordered.most
  produced := fun q now => by
    rw [producer] at now
    rw [nput]
    rcases update_or (P := fun x : Producer => x.pc.ended = true) now with before | own
    · exact ordered.produced q before
    · exact (ended own).elim (ordered.produced p) id
  looping := by rw [consumer]; exact ordered.looping
  returned := by rw [consumer]; exact ordered.returned
  stores := by unfold State.got; rw [consumer, nput, buff]; exact ordered.stores
  fetched := by unfold State.got; rw [consumer, fetched]; exact ordered.fetched
  errors := by rw [errors]; exact ordered.errors

/-- A consumer's step other than the fetch. -/
theorem Ordered.consume (ordered : Ordered nitems s) (producer : s'.producer = s.producer)
    (nput : s'.nput = s.nput) (nputval : s'.nputval = s.nputval) (buff : s'.buff = s.buff)
    (fetched : s'.fetched = s.fetched) (errors : s'.errors = s.errors) (got : s'.got = s.got)
    (looping : s'.consumer.pc.looping = true → (s'.consumer.i : ℤ) < nitems)
    (returned : s'.consumer.pc = .returned → nitems ≤ s'.consumer.i) : Ordered nitems s' where
  nputval := by rw [nput, nputval, ordered.nputval]
  most := by rw [nput]; exact ordered.most
  produced := by rw [producer, nput]; exact ordered.produced
  looping := looping
  returned := returned
  stores := by rw [got, nput, buff]; exact ordered.stores
  fetched := by rw [got, fetched]; exact ordered.fetched
  errors := by rw [errors]; exact ordered.errors

/-- **The store.** -/
theorem Ordered.store (ordered : Ordered nitems s) (tokens : Tokens s) {p : π}
    (here : (s.producer p).pc = .critical) (more : (s.nput : ℤ) < nitems) :
    Ordered nitems (s.store.produceTo p .postMutex) where
  nputval := by
    show s.nputval + 1 = s.nput + 1
    rw [ordered.nputval]
  most := by
    show s.nput + 1 ≤ nitems.toNat
    omega
  produced := fun q ended => by
    rcases update_or (P := fun x : Producer => x.pc.ended = true) ended with before | now
    · have all := ordered.produced q before
      omega
    · cases now
  looping := ordered.looping
  returned := ordered.returned
  stores := by
    exact ordered.stores.put (tokens.room here) ordered.nputval
  fetched := ordered.fetched
  errors := ordered.errors

/-- What the consumer finds. -/
theorem Ordered.value (ordered : Ordered nitems s) (tokens : Tokens s)
    (here : s.consumer.pc = .critical) : s.buff (slot s.consumer.i) = s.consumer.i := by
  have got : s.got = s.consumer.i := by
    unfold State.got
    rw [here]
    rfl
  have item := tokens.item here
  have found := ordered.stores.get (by omega)
  rw [got] at found
  exact found

/-- **The fetch.** -/
theorem Ordered.fetch (ordered : Ordered nitems s) (tokens : Tokens s)
    (here : s.consumer.pc = .critical) : Ordered nitems (s.fetch.consumeTo .postMutex) := by
  have got : s.got = s.consumer.i := by
    unfold State.got
    rw [here]
    rfl
  have value := ordered.value tokens here
  exact {
    nputval := ordered.nputval
    most := ordered.most
    produced := ordered.produced
    looping := fun _ => ordered.looping (by rw [here]; rfl)
    returned := fun now => by cases now
    stores := by
      show Stores _ s.buff (s.consumer.i + 1) s.nput
      rw [← got]
      exact ordered.stores.drop
    fetched := by
      show s.fetched ++ [s.buff (slot s.consumer.i)] = List.range (s.consumer.i + 1)
      rw [ordered.fetched, value, got, List.range_succ]
    errors := by
      show (if s.buff (slot s.consumer.i) ≠ s.consumer.i then _ else s.errors) = []
      rw [if_neg (by rw [value]; exact fun differs => differs rfl)]
      exact ordered.errors }

/-- **Every step keeps the order.** -/
theorem Ordered.step {action : Act π} (ordered : Ordered nitems s) (tokens : Tokens s)
    (step : Step nitems s action s') : Ordered nitems s' := by
  cases step with
  | store p here more => exact ordered.store tokens here more
  | produceEnd p here all =>
    exact ordered.produce p _ rfl rfl rfl rfl rfl rfl rfl fun _ => Or.inr all
  | waitEmpty p here | produceLock p here | produceUnlock p here | postStored p here
  | produceCount p here =>
    exact ordered.produce p _ rfl rfl rfl rfl rfl rfl rfl fun now => by cases now
  | produceEndEmpty p here | produceEndMutex p here =>
    exact ordered.produce p _ rfl rfl rfl rfl rfl rfl rfl fun _ => Or.inl (by rw [here]; rfl)
  | fetch here => exact ordered.fetch tokens here
  | more here more =>
    refine ordered.consume rfl rfl rfl rfl rfl rfl ?_ (fun _ => more) fun now => by cases now
    simp [State.got, State.consumeTo, here, ConsumePc.fetched]
  | consumeEnd here all =>
    refine ordered.consume rfl rfl rfl rfl rfl rfl ?_ (fun now => by cases now) fun _ => all
    simp [State.got, State.consumeTo, here, ConsumePc.fetched]
  | next here =>
    refine ordered.consume rfl rfl rfl rfl rfl rfl ?_ (fun now => by cases now) fun now => by
      cases now
    simp [State.got, here, ConsumePc.fetched]
  | waitStored here | consumeLock here | consumeUnlock here | postEmpty here =>
    refine ordered.consume rfl rfl rfl rfl rfl rfl ?_
      (fun _ => ordered.looping (by rw [here]; rfl)) fun now => by cases now
    simp [State.got, State.consumeTo, here, ConsumePc.fetched]

theorem ordered_of_reachable (reachable : (machine nitems).Reachable Anything s) :
    Ordered nitems s := by
  refine reachable.induct ordered_start ?_
  intro s action s' before ordered _ step
  exact ordered.step (tokens_of_reachable before) (step_cases step)

/-! ### Every run is finite -/

/-- The statements before the producer waits for a place again, or has returned. -/
def ProducePc.left : ProducePc → ℤ
  | .postMutex => 8
  | .postStored => 7
  | .count => 6
  | .waitEmpty => 5
  | .waitMutex => 4
  | .critical => 3
  | .doneEmpty => 2
  | .doneMutex => 1
  | .returned => 0

theorem ProducePc.left_nonneg (pc : ProducePc) : 0 ≤ pc.left := by cases pc <;> decide

/-- The statements to the end of the loop's body. -/
def ConsumePc.left : ConsumePc → ℕ
  | .test => 7
  | .waitStored => 6
  | .waitMutex => 5
  | .critical => 4
  | .postMutex => 3
  | .postEmpty => 2
  | .next => 1
  | .returned => 0

/-- What is left to do: items weigh more than the statements they bring. -/
def State.left (nitems : ℤ) (s : State π) : ℕ :=
  6 * (nitems.toNat - s.nput) + 7 * (nitems.toNat - s.consumer.i) +
    (s.producers ProducePc.left).toNat + s.consumer.pc.left

/-- A producer's step with less left. -/
theorem left_lt_of_produce (p : π) (x : Producer)
    (producer : s'.producer = Function.update s.producer p x) (consumer : s'.consumer = s.consumer)
    (less : 6 * (nitems.toNat - s'.nput : ℕ) + x.pc.left <
      6 * (nitems.toNat - s.nput : ℕ) + (s.producer p).pc.left) :
    s'.left nitems < s.left nitems := by
  have sum := producers_moved producer ProducePc.left
  have before := producers_nonneg (s := s) ProducePc.left_nonneg
  have after := producers_nonneg (s := s') ProducePc.left_nonneg
  unfold State.left
  rw [consumer]
  omega

/-- A consumer's step with less left. -/
theorem left_lt_of_consume (producer : s'.producer = s.producer) (nput : s'.nput = s.nput)
    (less : 7 * (nitems.toNat - s'.consumer.i) + s'.consumer.pc.left <
      7 * (nitems.toNat - s.consumer.i) + s.consumer.pc.left) :
    s'.left nitems < s.left nitems := by
  unfold State.left State.producers
  rw [producer, nput]
  omega

/-- **Every step leaves less to do.** -/
theorem left_lt {action : Act π} (ordered : Ordered nitems s) (step : Step nitems s action s') :
    s'.left nitems < s.left nitems := by
  cases step with
  | store p here more =>
    refine left_lt_of_produce p _ rfl rfl ?_
    simp only [State.produceTo, State.store, here, ProducePc.left]
    omega
  | waitEmpty p here | produceLock p here | produceEnd p here | produceEndEmpty p here
  | produceEndMutex p here | produceUnlock p here | postStored p here | produceCount p here =>
    refine left_lt_of_produce p _ rfl rfl ?_
    simp only [State.produceTo, here, ProducePc.left]
    omega
  | next here =>
    have more := ordered.looping (by rw [here]; rfl)
    refine left_lt_of_consume rfl rfl ?_
    simp only [here, ConsumePc.left]
    omega
  | more here | consumeEnd here | waitStored here | consumeLock here | fetch here
  | consumeUnlock here | postEmpty here =>
    refine left_lt_of_consume rfl rfl ?_
    simp only [State.consumeTo, State.fetch, here, ConsumePc.left]
    omega

/-! ### Where nobody can step -/

/-- No thread can take a step. -/
def Stuck (nitems : ℤ) (s : State π) : Prop := ∀ action, s.step nitems action = none

/-- A `sem_wait` that does not return has found the count at zero. -/
theorem eq_zero_of_blocked {n : ℕ} {s' : State π}
    (blocked : (if 0 < n then some s' else none) = none) : n = 0 := by
  by_contra positive
  rw [if_pos (Nat.pos_of_ne_zero positive)] at blocked
  cases blocked

/-- A stuck producer waits for one of its semaphores, or has returned. -/
theorem Stuck.producer (stuck : Stuck nitems s) (p : π) :
    ((s.producer p).pc = .waitEmpty ∧ s.nempty = 0) ∨
      ((s.producer p).pc = .waitMutex ∧ s.mutex = 0) ∨ (s.producer p).pc = .returned := by
  have blocked : s.produce nitems p = none := stuck (.produce p)
  unfold State.produce at blocked
  split at blocked
  · exact Or.inl ⟨‹_›, eq_zero_of_blocked blocked⟩
  · exact Or.inr (Or.inl ⟨‹_›, eq_zero_of_blocked blocked⟩)
  · split at blocked <;> cases blocked
  all_goals first | exact Or.inr (Or.inr ‹_›) | cases blocked

/-- A stuck consumer waits for one of its semaphores, or has returned. -/
theorem Stuck.consumer (stuck : Stuck nitems s) :
    (s.consumer.pc = .waitStored ∧ s.nstored = 0) ∨
      (s.consumer.pc = .waitMutex ∧ s.mutex = 0) ∨ s.consumer.pc = .returned := by
  have blocked : s.consume nitems = none := stuck .consume
  unfold State.consume at blocked
  split at blocked
  · cases blocked
  · exact Or.inl ⟨‹_›, eq_zero_of_blocked blocked⟩
  · exact Or.inr (Or.inl ⟨‹_›, eq_zero_of_blocked blocked⟩)
  all_goals first | exact Or.inr (Or.inr ‹_›) | cases blocked

/-- **Nobody holds `mutex`.** -/
theorem Stuck.mutex (stuck : Stuck nitems s) (tokens : Tokens s) : s.mutex = 1 := by
  have producers : s.producers ProducePc.inside = 0 := total_eq_zero fun p => by
    rcases stuck.producer p with ⟨here, _⟩ | ⟨here, _⟩ | here <;> rw [here] <;> rfl
  have consumer : s.consumer.pc.inside = 0 := by
    rcases stuck.consumer with ⟨here, _⟩ | ⟨here, _⟩ | here <;> rw [here] <;> rfl
  have law := tokens.mutex
  omega

/-- So a stuck producer waits for a place, or has returned. -/
theorem Stuck.waits_or_returned (stuck : Stuck nitems s) (tokens : Tokens s) (p : π) :
    ((s.producer p).pc = .waitEmpty ∧ s.nempty = 0) ∨ (s.producer p).pc = .returned := by
  have free := stuck.mutex tokens
  rcases stuck.producer p with waits | ⟨_, taken⟩ | returned
  · exact Or.inl waits
  · omega
  · exact Or.inr returned

/-- The tokens of a stuck process are all in the counts. -/
theorem Stuck.laws (stuck : Stuck nitems s) (tokens : Tokens s) :
    s.got = s.consumer.i ∧ s.nempty + s.nput = nbuff + s.got ∧ s.nstored + s.got = s.nput ∧
      s.count = s.nput := by
  have producers : ∀ w : ProducePc → ℤ, w .waitEmpty = 0 → w .returned = 0 → s.producers w = 0 := by
    intro w waits returned
    refine total_eq_zero fun p => ?_
    rcases stuck.waits_or_returned tokens p with ⟨here, _⟩ | here <;> rw [here] <;> assumption
  have free := stuck.mutex tokens
  have at_rest : s.consumer.pc = .waitStored ∨ s.consumer.pc = .returned := by
    rcases stuck.consumer with ⟨here, _⟩ | ⟨_, taken⟩ | here
    · exact Or.inl here
    · omega
    · exact Or.inr here
  have empty := tokens.empty
  have stored := tokens.stored
  have put := tokens.put
  rw [producers _ rfl rfl] at empty stored put
  have consumer : s.consumer.pc.unposted = 0 ∧ s.consumer.pc.stored = 0 ∧
      s.consumer.pc.fetched = 0 := by
    rcases at_rest with here | here <;> rw [here] <;> decide
  obtain ⟨unposted, token, fetched⟩ := consumer
  refine ⟨?_, by omega, by omega, by omega⟩
  unfold State.got
  omega

/-- **A stuck consumer has returned**, and so has fetched everything. -/
theorem Stuck.consumer_returned [Nonempty π] (stuck : Stuck nitems s) (tokens : Tokens s)
    (ordered : Ordered nitems s) : s.consumer.pc = .returned := by
  have free := stuck.mutex tokens
  obtain ⟨got, empty, stored, _⟩ := stuck.laws tokens
  rcases stuck.consumer with ⟨here, none⟩ | ⟨_, taken⟩ | returned
  · -- nothing is in the buffer, so no producer waits for a place
    obtain ⟨p⟩ := ‹Nonempty π›
    have more := ordered.looping (by rw [here]; rfl)
    rcases stuck.waits_or_returned tokens p with ⟨_, full⟩ | ended
    · unfold nbuff at empty
      omega
    · have all := ordered.produced p (by rw [ended]; rfl)
      omega
  · omega
  · exact returned

/-- **A stuck process has come to its end.** -/
theorem Stuck.ended [Nonempty π] (stuck : Stuck nitems s) (tokens : Tokens s)
    (ordered : Ordered nitems s) :
    (∀ p, (s.producer p).pc = .returned) ∧ s.consumer.pc = .returned ∧
      (s.nput : ℤ) = max nitems 0 ∧ s.count = max nitems 0 ∧ s.nempty = nbuff ∧ s.nstored = 0 := by
  have returned := stuck.consumer_returned tokens ordered
  obtain ⟨got, empty, stored, put⟩ := stuck.laws tokens
  have fetched := ordered.returned returned
  have most := ordered.most
  have back : s.nempty = nbuff := by omega
  refine ⟨fun p => ?_, returned, by omega, by omega, back, by omega⟩
  rcases stuck.waits_or_returned tokens p with ⟨_, none⟩ | ended
  · unfold nbuff at back
    omega
  · exact ended

/-- **`prodcons3` is correct and ends.** Each fetch finds its item, so nothing is reported; every
run is finite, and where no thread can step all have returned, everything has been stored and
counted, and the semaphores are at rest. -/
theorem correct_and_ends [Nonempty π] (nitems : ℤ) :
    (∀ s : State π, (machine nitems).Reachable Anything s →
      s.errors = [] ∧ s.fetched = List.range s.got ∧
        (s.consumer.pc = .critical → s.buff (slot s.consumer.i) = s.consumer.i) ∧
        (Stuck nitems s →
          (∀ p, (s.producer p).pc = .returned) ∧ s.consumer.pc = .returned ∧
            (s.nput : ℤ) = max nitems 0 ∧ s.count = max nitems 0 ∧ s.nempty = nbuff ∧
            s.nstored = 0)) ∧
      ∃ bound, ∀ actions (s : State π),
        (machine nitems).run start actions = some s → actions.length ≤ bound := by
  constructor
  · intro s reachable
    have tokens := tokens_of_reachable reachable
    have ordered := ordered_of_reachable reachable
    exact ⟨ordered.errors, ordered.fetched, ordered.value tokens,
      fun stuck => stuck.ended tokens ordered⟩
  · refine ⟨State.left nitems (start : State π), fun actions s ran => ?_⟩
    exact Machine.run_length_le (I := fun s => Tokens s ∧ Ordered nitems s) (State.left nitems)
      (fun s action s' holds step => ⟨holds.1.step (step_cases step),
        holds.2.step holds.1 (step_cases step)⟩)
      (fun s action s' holds step => left_lt holds.2 (step_cases step))
      ⟨tokens_start, ordered_start⟩ ran

/-- One item goes through the buffer, and both threads return. -/
def oneItem (p : π) : List (Act π) :=
  List.replicate 11 (.produce p) ++ List.replicate 8 .consume

theorem stuck_oneItem : Stuck 1 ((machine 1).after (oneItem (0 : Fin 1))) := by
  have produce : ∀ p, (((machine 1).after (oneItem (0 : Fin 1))).step 1 (.produce p)).isNone =
      true := by decide
  have consume : (((machine 1).after (oneItem (0 : Fin 1))).step 1 .consume).isNone = true := by
    decide
  rintro (p | _)
  · exact Option.isNone_iff_eq_none.mp (produce p)
  · exact Option.isNone_iff_eq_none.mp consume

theorem correct_and_ends_oneItem :
    ((machine 1).after (oneItem (0 : Fin 1))).fetched = List.range 1 ∧
      ((machine 1).after (oneItem (0 : Fin 1))).nempty = nbuff :=
  have run := (correct_and_ends 1).1 ((machine 1).after (oneItem (0 : Fin 1)))
    (Machine.reachable_after (by decide) (by decide))
  ⟨run.2.1, (run.2.2.2 stuck_oneItem).2.2.2.2.1⟩

end Unpvol2.Prodcons3
