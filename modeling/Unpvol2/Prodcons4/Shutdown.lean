/-
**`prodcons4` shuts down.**

* Every run is finite: the items still to be stored and fetched, and the statements a thread has
  left before it waits again or returns, drop with every step (`measure_lt`).
* Where no thread can step, nobody holds `mutex`, so every thread waits at its first semaphore or
  has returned. Producers that all wait would leave `NBUFF` items in the buffer, hence tokens of
  `nstored` on which consumers return, hence everything fetched; so a producer has returned, its
  extra token has gone through all consumers, and the tokens of `nempty` are all back.
-/

import Unpvol2.Prodcons4.Fifo

set_option linter.unusedSectionVars false

namespace Unpvol2.Prodcons4

open Interleaving

variable {π κ : Type} [DecidableEq π] [DecidableEq κ] [Fintype π] [Fintype κ]
  {s s' : State π κ} {nitems : ℤ}

/-! ### Every run is finite -/

/-- The statements before the producer waits for an item's place again, or has returned. -/
def ProducePc.left : ProducePc → ℤ
  | .postMutex => 9
  | .postStored => 8
  | .count => 7
  | .waitEmpty => 6
  | .waitMutex => 5
  | .critical => 4
  | .doneStored => 3
  | .doneEmpty => 2
  | .doneMutex => 1
  | .returned => 0

/-- The statements before the consumer waits for an item again, or has returned. -/
def ConsumePc.left : ConsumePc → ℤ
  | .postMutex => 9
  | .postEmpty => 8
  | .count => 7
  | .waitStored => 6
  | .waitMutex => 5
  | .critical => 4
  | .doneStored => 3
  | .doneMutex => 2
  | .returned => 0

theorem ProducePc.left_nonneg (pc : ProducePc) : 0 ≤ pc.left := by cases pc <;> decide

theorem ConsumePc.left_nonneg (pc : ConsumePc) : 0 ≤ pc.left := by cases pc <;> decide

/-- What is left to do: items weigh more than the statements they bring. -/
def State.left (nitems : ℤ) (s : State π κ) : ℕ :=
  6 * (nitems.toNat - s.nput) + 6 * (nitems.toNat - s.nget) +
    (s.producers ProducePc.left).toNat + (s.consumers ConsumePc.left).toNat

/-- A producer's step with less left. -/
theorem left_lt_of_produce (p : π) (x : Thread ProducePc)
    (producer : s'.producer = Function.update s.producer p x) (consumer : s'.consumer = s.consumer)
    (nget : s'.nget = s.nget)
    (less : 6 * (nitems.toNat - s'.nput : ℕ) + x.pc.left <
      6 * (nitems.toNat - s.nput : ℕ) + (s.producer p).pc.left) :
    s'.left nitems < s.left nitems := by
  have sum := producers_moved producer ProducePc.left
  have same : s'.consumers ConsumePc.left = s.consumers ConsumePc.left := by
    unfold State.consumers
    rw [consumer]
  have before := producers_nonneg (s := s) ProducePc.left_nonneg
  have after := producers_nonneg (s := s') ProducePc.left_nonneg
  unfold State.left
  rw [same, nget]
  omega

/-- A consumer's step with less left. -/
theorem left_lt_of_consume (c : κ) (x : Thread ConsumePc)
    (consumer : s'.consumer = Function.update s.consumer c x) (producer : s'.producer = s.producer)
    (nput : s'.nput = s.nput)
    (less : 6 * (nitems.toNat - s'.nget : ℕ) + x.pc.left <
      6 * (nitems.toNat - s.nget : ℕ) + (s.consumer c).pc.left) :
    s'.left nitems < s.left nitems := by
  have sum := consumers_moved consumer ConsumePc.left
  have same : s'.producers ProducePc.left = s.producers ProducePc.left := by
    unfold State.producers
    rw [producer]
  have before := consumers_nonneg (s := s) ConsumePc.left_nonneg
  have after := consumers_nonneg (s := s') ConsumePc.left_nonneg
  unfold State.left
  rw [same, nput]
  omega

/-- **Every step leaves less to do.** -/
theorem left_lt {action : Act π κ} (step : Step nitems s action s') :
    s'.left nitems < s.left nitems := by
  cases step with
  | store p here more =>
    refine left_lt_of_produce p _ rfl rfl rfl ?_
    simp only [State.produceTo, State.store, here, ProducePc.left]
    omega
  | fetch c here more =>
    refine left_lt_of_consume c _ rfl rfl rfl ?_
    simp only [State.consumeTo, State.fetch, here, ConsumePc.left]
    omega
  | waitEmpty p here | produceLock p here | produceEnd p here | produceEndStored p here
  | produceEndEmpty p here | produceEndMutex p here | produceUnlock p here | postStored p here
  | produceCount p here =>
    refine left_lt_of_produce p _ rfl rfl rfl ?_
    simp only [State.produceTo, here, ProducePc.left]
    omega
  | waitStored c here | consumeLock c here | consumeEnd c here | consumeEndStored c here
  | consumeEndMutex c here | consumeUnlock c here | postEmpty c here | consumeCount c here =>
    refine left_lt_of_consume c _ rfl rfl rfl ?_
    simp only [State.consumeTo, here, ConsumePc.left]
    omega

/-! ### Where nobody can step -/

/-- No thread can take a step. -/
def Stuck (nitems : ℤ) (s : State π κ) : Prop := ∀ action, s.step nitems action = none

/-- A `sem_wait` that does not return has found the count at zero. -/
theorem eq_zero_of_blocked {n : ℕ} {s' : State π κ}
    (blocked : (if 0 < n then some s' else none) = none) : n = 0 := by
  by_contra positive
  rw [if_pos (Nat.pos_of_ne_zero positive)] at blocked
  cases blocked

/-- A stuck producer waits for one of its semaphores, or has returned. -/
theorem Stuck.producer (stuck : Stuck nitems s) (p : π) :
    ((s.producer p).pc = .waitEmpty ∧ s.nempty = 0) ∨
      ((s.producer p).pc = .waitMutex ∧ s.mutex = 0) ∨ (s.producer p).pc = .returned := by
  have blocked : s.produce nitems p = none := stuck (.produce p)
  unfold State.produce at blocked
  split at blocked
  · exact Or.inl ⟨‹_›, eq_zero_of_blocked blocked⟩
  · exact Or.inr (Or.inl ⟨‹_›, eq_zero_of_blocked blocked⟩)
  · split at blocked <;> cases blocked
  all_goals first | exact Or.inr (Or.inr ‹_›) | cases blocked

/-- A stuck consumer waits for one of its semaphores, or has returned. -/
theorem Stuck.consumer (stuck : Stuck nitems s) (c : κ) :
    ((s.consumer c).pc = .waitStored ∧ s.nstored = 0) ∨
      ((s.consumer c).pc = .waitMutex ∧ s.mutex = 0) ∨ (s.consumer c).pc = .returned := by
  have blocked : s.consume nitems c = none := stuck (.consume c)
  unfold State.consume at blocked
  split at blocked
  · exact Or.inl ⟨‹_›, eq_zero_of_blocked blocked⟩
  · exact Or.inr (Or.inl ⟨‹_›, eq_zero_of_blocked blocked⟩)
  · split at blocked <;> cases blocked
  all_goals first | exact Or.inr (Or.inr ‹_›) | cases blocked

/-- **Nobody holds `mutex`.** -/
theorem Stuck.mutex (stuck : Stuck nitems s) (tokens : Tokens s) : s.mutex = 1 := by
  have producers : s.producers ProducePc.inside = 0 := total_eq_zero fun p => by
    rcases stuck.producer p with ⟨here, _⟩ | ⟨here, _⟩ | here <;> rw [here] <;> rfl
  have consumers : s.consumers ConsumePc.inside = 0 := total_eq_zero fun c => by
    rcases stuck.consumer c with ⟨here, _⟩ | ⟨here, _⟩ | here <;> rw [here] <;> rfl
  have law := tokens.mutex
  omega

/-- So a stuck producer waits for a place, or has returned. -/
theorem Stuck.waits_or_returned (stuck : Stuck nitems s) (tokens : Tokens s) (p : π) :
    ((s.producer p).pc = .waitEmpty ∧ s.nempty = 0) ∨ (s.producer p).pc = .returned := by
  have free := stuck.mutex tokens
  rcases stuck.producer p with waits | ⟨_, taken⟩ | returned
  · exact Or.inl waits
  · omega
  · exact Or.inr returned

/-- And a stuck consumer waits for an item, or has returned. -/
theorem Stuck.waits_or_returned' (stuck : Stuck nitems s) (tokens : Tokens s) (c : κ) :
    ((s.consumer c).pc = .waitStored ∧ s.nstored = 0) ∨ (s.consumer c).pc = .returned := by
  have free := stuck.mutex tokens
  rcases stuck.consumer c with waits | ⟨_, taken⟩ | returned
  · exact Or.inl waits
  · omega
  · exact Or.inr returned

/-- The sum of a weight that vanishes where a stuck producer can stand. -/
theorem Stuck.producers_eq_zero (stuck : Stuck nitems s) (tokens : Tokens s) {w : ProducePc → ℤ}
    (waits : w .waitEmpty = 0) (returned : w .returned = 0) : s.producers w = 0 := by
  refine total_eq_zero fun p => ?_
  rcases stuck.waits_or_returned tokens p with ⟨here, _⟩ | here <;> rw [here] <;> assumption

theorem Stuck.consumers_eq_zero (stuck : Stuck nitems s) (tokens : Tokens s) {w : ConsumePc → ℤ}
    (waits : w .waitStored = 0) (returned : w .returned = 0) : s.consumers w = 0 := by
  refine total_eq_zero fun c => ?_
  rcases stuck.waits_or_returned' tokens c with ⟨here, _⟩ | here <;> rw [here] <;> assumption

/-- The tokens of a stuck process are all in the counts. -/
theorem Stuck.laws (stuck : Stuck nitems s) (tokens : Tokens s) :
    s.nempty + s.nput = nbuff + s.nget ∧
      s.nstored + s.nget = s.nput + s.producers ProducePc.posted ∧
      s.prodcount = s.nput ∧ s.conscount = s.nget := by
  have producers := fun w => stuck.producers_eq_zero tokens (w := w)
  have consumers := fun w => stuck.consumers_eq_zero tokens (w := w)
  have empty := tokens.empty
  have stored := tokens.stored
  have put := tokens.put
  have get := tokens.get
  rw [producers _ rfl rfl, consumers _ rfl rfl] at empty stored
  rw [producers _ rfl rfl] at put
  rw [consumers _ rfl rfl] at get
  exact ⟨by omega, by omega, by omega, by omega⟩

/-- With a token of `nstored` left, all consumers have returned, and all items are fetched. -/
theorem Stuck.all_fetched [Nonempty κ] (stuck : Stuck nitems s) (tokens : Tokens s)
    (ordered : Ordered nitems s) (some : 0 < s.nstored) :
    (∀ c, (s.consumer c).pc = .returned) ∧ nitems ≤ s.nget := by
  have returned : ∀ c, (s.consumer c).pc = .returned := by
    intro c
    rcases stuck.waits_or_returned' tokens c with ⟨_, none⟩ | returned
    · omega
    · exact returned
  obtain ⟨c⟩ := ‹Nonempty κ›
  exact ⟨returned, ordered.consumed c (by rw [returned c]; rfl)⟩

/-- **A stuck process has a producer that has returned.** -/
theorem Stuck.producer_returned [Nonempty π] [Nonempty κ] (stuck : Stuck nitems s)
    (tokens : Tokens s) (ordered : Ordered nitems s) : ∃ p, (s.producer p).pc = .returned := by
  by_contra nobody
  push Not at nobody
  have waits : ∀ p, (s.producer p).pc = .waitEmpty ∧ s.nempty = 0 := by
    intro p
    rcases stuck.waits_or_returned tokens p with waits | returned
    · exact waits
    · exact absurd returned (nobody p)
  have full : s.nempty = 0 := by
    obtain ⟨p⟩ := ‹Nonempty π›
    exact (waits p).2
  have posted : s.producers ProducePc.posted = 0 := total_eq_zero fun p => by
    rw [(waits p).1]
    rfl
  obtain ⟨empty, stored, _, _⟩ := stuck.laws tokens
  have items : 0 < s.nstored := by
    unfold nbuff at empty
    omega
  have fetched := (stuck.all_fetched tokens ordered items).2
  have most := ordered.most
  unfold nbuff at empty
  omega

/-- **A stuck process has shut down.** -/
theorem Stuck.shut_down [Nonempty π] [Nonempty κ] (stuck : Stuck nitems s) (tokens : Tokens s)
    (ordered : Ordered nitems s) :
    (∀ p, (s.producer p).pc = .returned) ∧ (∀ c, (s.consumer c).pc = .returned) ∧
      (s.nput : ℤ) = max nitems 0 ∧ (s.nget : ℤ) = max nitems 0 ∧
      s.prodcount = max nitems 0 ∧ s.conscount = max nitems 0 ∧
      s.mutex = 1 ∧ s.nempty = nbuff ∧ s.nstored = Fintype.card π := by
  obtain ⟨first, returned⟩ := stuck.producer_returned tokens ordered
  obtain ⟨empty, stored, put, get⟩ := stuck.laws tokens
  have all := ordered.produced first (by rw [returned]; rfl)
  have most := ordered.most
  have le := ordered.le
  have posted : 1 ≤ s.producers ProducePc.posted := by
    have le := le_producers (s := s) ProducePc.posted_nonneg first
    rw [returned] at le
    exact le
  obtain ⟨consumers, fetched⟩ := stuck.all_fetched tokens ordered (by omega)
  have producers : ∀ p, (s.producer p).pc = .returned := by
    intro p
    rcases stuck.waits_or_returned tokens p with ⟨_, full⟩ | returned
    · unfold nbuff at empty
      omega
    · exact returned
  have ended : s.producers ProducePc.posted = Fintype.card π := by
    unfold State.producers total
    rw [Finset.sum_congr rfl fun p _ => show (s.producer p).pc.posted = 1 by rw [producers p]; rfl]
    simp
  refine ⟨producers, consumers, by omega, by omega, by omega, by omega, stuck.mutex tokens, ?_, ?_⟩
  · omega
  · omega

/-- **`prodcons4` shuts down cleanly**: every run is finite, and where no thread can step all have
returned, everything has been stored, fetched and counted, and the semaphores are at rest. -/
theorem shuts_down [Nonempty π] [Nonempty κ] (nitems : ℤ) :
    (∃ bound, ∀ actions (s : State π κ),
      (machine nitems).run start actions = some s → actions.length ≤ bound) ∧
      ∀ s : State π κ, (machine nitems).Reachable Anything s → Stuck nitems s →
        (∀ p, (s.producer p).pc = .returned) ∧ (∀ c, (s.consumer c).pc = .returned) ∧
          (s.nput : ℤ) = max nitems 0 ∧ (s.nget : ℤ) = max nitems 0 ∧
          s.prodcount = max nitems 0 ∧ s.conscount = max nitems 0 ∧
          s.mutex = 1 ∧ s.nempty = nbuff ∧ s.nstored = Fintype.card π := by
  refine ⟨⟨State.left nitems (start : State π κ), fun actions s ran => ?_⟩,
    fun s reachable stuck => ?_⟩
  · exact Machine.run_length_le (I := fun _ => True) (State.left nitems) (fun _ _ _ _ _ => trivial)
      (fun _ _ _ _ step => left_lt (step_cases step)) trivial ran
  · exact stuck.shut_down (tokens_of_reachable reachable) (ordered_of_reachable reachable)

/-- Two items, two producers, two consumers. `q` holds a slot while `p` stores, `c` holds a stored
item while `q` stores, and each producer lets a consumer terminate. -/
def twoItems (p q : π) (c d : κ) : List (Act π κ) :=
  [Act.produce p, .produce q] ++ List.replicate 5 (Act.produce p) ++ [Act.consume c] ++
    List.replicate 5 (Act.produce q) ++ List.replicate 5 (Act.consume c) ++
    List.replicate 6 (Act.consume d) ++ List.replicate 6 (Act.produce p) ++
    List.replicate 6 (Act.produce q) ++ List.replicate 5 (Act.consume c) ++
    List.replicate 5 (Act.consume d)

theorem stuck_twoItems :
    Stuck 2 ((machine 2).after (twoItems (0 : Fin 2) (1 : Fin 2) (0 : Fin 2) (1 : Fin 2))) := by
  have produce : ∀ p, (((machine 2).after
      (twoItems (0 : Fin 2) (1 : Fin 2) (0 : Fin 2) (1 : Fin 2))).step 2
      (.produce p)).isNone = true := by decide +kernel
  have consume : ∀ c, (((machine 2).after
      (twoItems (0 : Fin 2) (1 : Fin 2) (0 : Fin 2) (1 : Fin 2))).step 2
      (.consume c)).isNone = true := by decide +kernel
  rintro (p | c)
  · exact Option.isNone_iff_eq_none.mp (produce p)
  · exact Option.isNone_iff_eq_none.mp (consume c)

/-- In the end each thread has counted one item, and `nstored` has one token for each producer. -/
theorem shuts_down_twoItems :
    let s := (machine 2).after (twoItems (0 : Fin 2) (1 : Fin 2) (0 : Fin 2) (1 : Fin 2))
    s.prodcount = 2 ∧ s.conscount = 2 ∧ s.nstored = Fintype.card (Fin 2) ∧
      (∀ p, (s.producer p).count = 1) ∧ ∀ c, (s.consumer c).count = 1 := by
  obtain ⟨-, -, -, -, prodcount, conscount, -, -, nstored⟩ :=
    (shuts_down 2).2 _ (Machine.reachable_after (by decide +kernel) (by decide +kernel))
      stuck_twoItems
  exact ⟨prodcount, conscount, nstored, by decide +kernel, by decide +kernel⟩

end Unpvol2.Prodcons4
