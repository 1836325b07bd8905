/-
**`prodcons4` is a first-in first-out buffer.**

`Ordered` holds in every reachable state: the items in the buffer are `nget, ..., nput - 1`, each in
its place, and what has been stored and fetched are the items below `nput` and below `nget`.

* A store needs a place: its producer has a token of `nempty`, so fewer than `NBUFF` items are in
  the buffer (`Tokens.room`).
* A fetch needs an item. While no producer has seen the end, the consumer's token of `nstored` is
  one (`Tokens.item`); afterwards tokens stand for nothing, but then all `nitems` have been stored
  and a consumer that fetches has found `nget < nitems`.
-/

import Mathlib.Data.List.Range
import Unpvol2.Lib.RingBuffer
import Unpvol2.Prodcons4.Tokens

set_option linter.unusedSectionVars false

namespace Unpvol2.Prodcons4

open Interleaving

variable {π κ : Type} [DecidableEq π] [DecidableEq κ] [Fintype π] [Fintype κ]

/-! ### The weights are not negative -/

theorem ProducePc.empty_nonneg (pc : ProducePc) : 0 ≤ pc.empty := by cases pc <;> decide

theorem ProducePc.unposted_nonneg (pc : ProducePc) : 0 ≤ pc.unposted := by cases pc <;> decide

theorem ProducePc.posted_nonneg (pc : ProducePc) : 0 ≤ pc.posted := by cases pc <;> decide

theorem ConsumePc.stored_nonneg (pc : ConsumePc) : 0 ≤ pc.stored := by cases pc <;> decide

theorem ConsumePc.unposted_nonneg (pc : ConsumePc) : 0 ≤ pc.unposted := by cases pc <;> decide

variable {s s' : State π κ} {nitems : ℤ}

theorem producers_nonneg {w : ProducePc → ℤ} (nonneg : ∀ pc, 0 ≤ w pc) : 0 ≤ s.producers w :=
  total_nonneg (w := fun x : Thread ProducePc => w x.pc) (fun x => nonneg x.pc) _

theorem consumers_nonneg {w : ConsumePc → ℤ} (nonneg : ∀ pc, 0 ≤ w pc) : 0 ≤ s.consumers w :=
  total_nonneg (w := fun x : Thread ConsumePc => w x.pc) (fun x => nonneg x.pc) _

theorem le_producers {w : ProducePc → ℤ} (nonneg : ∀ pc, 0 ≤ w pc) (p : π) :
    w (s.producer p).pc ≤ s.producers w :=
  le_total (w := fun x : Thread ProducePc => w x.pc) (fun _ => nonneg _) p

theorem le_consumers {w : ConsumePc → ℤ} (nonneg : ∀ pc, 0 ≤ w pc) (c : κ) :
    w (s.consumer c).pc ≤ s.consumers w :=
  le_total (w := fun x : Thread ConsumePc => w x.pc) (fun _ => nonneg _) c

/-! ### A place for every store, an item for every fetch -/

/-- **A producer in its section finds a free place.** -/
theorem Tokens.room (tokens : Tokens s) {p : π} (here : (s.producer p).pc = .critical) :
    s.nput < s.nget + nbuff := by
  have own : 1 ≤ s.producers ProducePc.empty := by
    have le := le_producers (s := s) ProducePc.empty_nonneg p
    rw [here] at le
    exact le
  have others := consumers_nonneg (s := s) ConsumePc.unposted_nonneg
  have law := tokens.empty
  omega

/-- **A consumer in its section finds an item**, unless a producer has seen the end. -/
theorem Tokens.item (tokens : Tokens s) {c : κ} (here : (s.consumer c).pc = .critical)
    (running : s.producers ProducePc.posted = 0) : s.nget < s.nput := by
  have own : 1 ≤ s.consumers ConsumePc.stored := by
    have le := le_consumers (s := s) ConsumePc.stored_nonneg c
    rw [here] at le
    exact le
  have others := producers_nonneg (s := s) ProducePc.unposted_nonneg
  have law := tokens.stored
  omega

/-! ### The items in the buffer -/

/-- The producer has seen the end. -/
def ProducePc.ended : ProducePc → Bool
  | .doneStored | .doneEmpty | .doneMutex | .returned => true
  | _ => false

/-- The consumer has seen the end. -/
def ConsumePc.ended : ConsumePc → Bool
  | .doneStored | .doneMutex | .returned => true
  | _ => false

/-- The buffer between two critical sections. -/
structure Ordered (nitems : ℤ) (s : State π κ) : Prop where
  nputval : s.nputval = s.nput
  ngetval : s.ngetval = s.nget
  le : s.nget ≤ s.nput
  most : s.nput ≤ nitems.toNat
  produced : ∀ p, (s.producer p).pc.ended = true → nitems ≤ s.nput
  consumed : ∀ c, (s.consumer c).pc.ended = true → nitems ≤ s.nget
  window : ∀ k, s.nget ≤ k → k < s.nput → s.buff (slot k) = k
  stored : s.stored = List.range s.nput
  fetched : s.fetched = List.range s.nget
  errors : s.errors = []

theorem ordered_start : Ordered nitems (start : State π κ) where
  nputval := rfl
  ngetval := rfl
  le := le_refl 0
  most := Nat.zero_le _
  produced := fun _ ended => by cases ended
  consumed := fun _ ended => by cases ended
  window := fun k _ below => absurd below (Nat.not_lt_zero k)
  stored := rfl
  fetched := rfl
  errors := rfl

instance : NeZero nbuff := ⟨by decide⟩

/-- The items that have been stored and not fetched lie in their places. -/
theorem Ordered.stores (ordered : Ordered nitems s) :
    Stores (fun k value => value = k) s.buff s.nget s.nput :=
  ordered.window

/-- With the extra token posted, all items have been stored. -/
theorem Ordered.all_stored (ordered : Ordered nitems s)
    (posted : s.producers ProducePc.posted ≠ 0) : nitems ≤ s.nput := by
  obtain ⟨p, some⟩ : ∃ p, (s.producer p).pc.posted ≠ 0 := by
    by_contra none
    push Not at none
    exact posted (total_eq_zero none)
  refine ordered.produced p ?_
  cases here : (s.producer p).pc <;> rw [here] at some <;> first | rfl | exact absurd rfl some

/-- **What a consumer fetches is there.** -/
theorem Ordered.item (ordered : Ordered nitems s) (tokens : Tokens s) {c : κ}
    (here : (s.consumer c).pc = .critical) (more : (s.nget : ℤ) < nitems) : s.nget < s.nput := by
  by_cases posted : s.producers ProducePc.posted = 0
  · exact tokens.item here posted
  · have all := ordered.all_stored posted
    omega

/-- A step outside the critical sections' bodies. -/
theorem Ordered.kept (ordered : Ordered nitems s) (nput : s'.nput = s.nput)
    (nget : s'.nget = s.nget) (nputval : s'.nputval = s.nputval) (ngetval : s'.ngetval = s.ngetval)
    (buff : s'.buff = s.buff) (stored : s'.stored = s.stored) (fetched : s'.fetched = s.fetched)
    (errors : s'.errors = s.errors)
    (produced : ∀ p, (s'.producer p).pc.ended = true →
      (s.producer p).pc.ended = true ∨ nitems ≤ s.nput)
    (consumed : ∀ c, (s'.consumer c).pc.ended = true →
      (s.consumer c).pc.ended = true ∨ nitems ≤ s.nget) : Ordered nitems s' where
  nputval := by rw [nput, nputval, ordered.nputval]
  ngetval := by rw [nget, ngetval, ordered.ngetval]
  le := by rw [nput, nget]; exact ordered.le
  most := by rw [nput]; exact ordered.most
  produced := fun p ended => by
    rw [nput]
    rcases produced p ended with before | all
    · exact ordered.produced p before
    · exact all
  consumed := fun c ended => by
    rw [nget]
    rcases consumed c ended with before | all
    · exact ordered.consumed c before
    · exact all
  window := by rw [nput, nget, buff]; exact ordered.window
  stored := by rw [nput, stored]; exact ordered.stored
  fetched := by rw [nget, fetched]; exact ordered.fetched
  errors := by rw [errors]; exact ordered.errors

/-- A thread that has ended has ended before, or is the one that moves. -/
theorem produceTo_ended {p q : π} {pc : ProducePc}
    (ended : ((s.produceTo p pc).producer q).pc.ended = true) :
    (s.producer q).pc.ended = true ∨ pc.ended = true :=
  update_or (P := fun x : Thread ProducePc => x.pc.ended = true) ended

theorem consumeTo_ended {c d : κ} {pc : ConsumePc}
    (ended : ((s.consumeTo c pc).consumer d).pc.ended = true) :
    (s.consumer d).pc.ended = true ∨ pc.ended = true :=
  update_or (P := fun x : Thread ConsumePc => x.pc.ended = true) ended

/-- **The store.** -/
theorem Ordered.store (ordered : Ordered nitems s) (tokens : Tokens s) {p : π}
    (here : (s.producer p).pc = .critical) (more : (s.nput : ℤ) < nitems) :
    Ordered nitems (s.store.produceTo p .postMutex) where
  nputval := by
    show s.nputval + 1 = s.nput + 1
    rw [ordered.nputval]
  ngetval := ordered.ngetval
  le := Nat.le_succ_of_le ordered.le
  most := by
    show s.nput + 1 ≤ nitems.toNat
    omega
  produced := fun q ended => by
    rcases produceTo_ended ended with before | now
    · have all := ordered.produced q before
      omega
    · cases now
  consumed := ordered.consumed
  window := ordered.stores.put (tokens.room here) ordered.nputval
  stored := by
    show s.stored ++ [s.nputval] = List.range (s.nput + 1)
    rw [ordered.stored, ordered.nputval, List.range_succ]
  fetched := ordered.fetched
  errors := ordered.errors

/-- **The fetch.** -/
theorem Ordered.fetch (ordered : Ordered nitems s) (tokens : Tokens s) {c : κ}
    (here : (s.consumer c).pc = .critical) (more : (s.nget : ℤ) < nitems) :
    Ordered nitems (s.fetch.consumeTo c .postMutex) := by
  have item := ordered.item tokens here more
  have value : s.buff (slot s.nget) = s.nget := ordered.stores.get item
  exact {
    nputval := ordered.nputval
    ngetval := by
      show s.ngetval + 1 = s.nget + 1
      rw [ordered.ngetval]
    le := item
    most := ordered.most
    produced := ordered.produced
    consumed := fun d ended => by
      rcases consumeTo_ended ended with before | now
      · have all := ordered.consumed d before
        omega
      · cases now
    window := ordered.stores.drop
    stored := ordered.stored
    fetched := by
      show s.fetched ++ [s.buff (slot s.nget)] = List.range (s.nget + 1)
      rw [ordered.fetched, value, List.range_succ]
    errors := by
      show (if s.buff (slot s.nget) ≠ s.ngetval then _ else s.errors) = []
      rw [if_neg (by rw [value, ordered.ngetval]; exact fun differs => differs rfl)]
      exact ordered.errors }

/-- **Every step keeps the order.** -/
theorem Ordered.step {action : Act π κ} (ordered : Ordered nitems s) (tokens : Tokens s)
    (step : Step nitems s action s') : Ordered nitems s' := by
  have producer : ∀ (p : π) (pc : ProducePc), pc.ended = (s.producer p).pc.ended →
      ∀ q, ((s.produceTo p pc).producer q).pc.ended = true →
        (s.producer q).pc.ended = true ∨ nitems ≤ s.nput := by
    intro p pc same q ended
    rcases produceTo_ended ended with before | now
    · exact Or.inl before
    · exact Or.inr (ordered.produced p (same.symm.trans now))
  have consumer : ∀ (c : κ) (pc : ConsumePc), pc.ended = (s.consumer c).pc.ended →
      ∀ d, ((s.consumeTo c pc).consumer d).pc.ended = true →
        (s.consumer d).pc.ended = true ∨ nitems ≤ s.nget := by
    intro c pc same d ended
    rcases consumeTo_ended ended with before | now
    · exact Or.inl before
    · exact Or.inr (ordered.consumed c (same.symm.trans now))
  cases step with
  | store p here more => exact ordered.store tokens here more
  | fetch c here more => exact ordered.fetch tokens here more
  | produceEnd p here all =>
    exact ordered.kept rfl rfl rfl rfl rfl rfl rfl rfl (fun q ended => Or.inr all)
      fun d ended => Or.inl ended
  | consumeEnd c here all =>
    exact ordered.kept rfl rfl rfl rfl rfl rfl rfl rfl (fun q ended => Or.inl ended)
      fun d ended => Or.inr all
  | produceCount p here =>
    refine ordered.kept rfl rfl rfl rfl rfl rfl rfl rfl (fun q ended => ?_)
      fun d ended => Or.inl ended
    exact producer p .waitEmpty (by rw [here]; rfl) q (by
      by_cases same : q = p
      · subst same
        simpa [State.produceTo] using ended
      · simpa [State.produceTo, Function.update_of_ne same] using ended)
  | consumeCount c here =>
    refine ordered.kept rfl rfl rfl rfl rfl rfl rfl rfl (fun q ended => Or.inl ended)
      fun d ended => ?_
    exact consumer c .waitStored (by rw [here]; rfl) d (by
      by_cases same : d = c
      · subst same
        simpa [State.consumeTo] using ended
      · simpa [State.consumeTo, Function.update_of_ne same] using ended)
  | waitEmpty p here | produceLock p here | produceEndStored p here | produceEndEmpty p here
  | produceEndMutex p here | produceUnlock p here | postStored p here =>
    exact ordered.kept rfl rfl rfl rfl rfl rfl rfl rfl (producer p _ (by rw [here]; rfl))
      fun d ended => Or.inl ended
  | waitStored c here | consumeLock c here | consumeEndStored c here | consumeEndMutex c here
  | consumeUnlock c here | postEmpty c here =>
    exact ordered.kept rfl rfl rfl rfl rfl rfl rfl rfl (fun q ended => Or.inl ended)
      (consumer c _ (by rw [here]; rfl))

theorem ordered_of_reachable (reachable : (machine nitems).Reachable Anything s) :
    Ordered nitems s := by
  refine reachable.induct ordered_start ?_
  intro s action s' before ordered _ step
  exact ordered.step (tokens_of_reachable before) (step_cases step)

/-- **First in, first out.** The error branch is never taken, a consumer that fetches finds the
item it expects, and between the sections the items are stored and fetched in order, at most
`NBUFF` of them in the buffer. -/
theorem fifo (reachable : (machine nitems).Reachable Anything s) :
    s.errors = [] ∧
      (∀ c, (s.consumer c).pc = .critical → (s.nget : ℤ) < nitems →
        s.buff (slot s.nget) = s.ngetval) ∧
      s.nget ≤ s.nput ∧ s.nput ≤ s.nget + nbuff ∧ s.nputval = s.nput ∧ s.ngetval = s.nget ∧
      s.stored = List.range s.nput ∧ s.fetched = List.range s.nget ∧
      (s.nput : ℤ) ≤ max nitems 0 ∧ (s.nget : ℤ) ≤ max nitems 0 := by
  have ordered := ordered_of_reachable reachable
  have tokens := tokens_of_reachable reachable
  have most := ordered.most
  have le := ordered.le
  refine ⟨ordered.errors, fun c here more => ?_, le, ?_, ordered.nputval, ordered.ngetval,
    ordered.stored, ordered.fetched, by omega, by omega⟩
  · rw [ordered.ngetval]
    exact ordered.window s.nget (le_refl _) (ordered.item tokens here more)
  · have producers := producers_nonneg (s := s) ProducePc.empty_nonneg
    have consumers := consumers_nonneg (s := s) ConsumePc.unposted_nonneg
    have law := tokens.empty
    omega

/-- One item of two is stored and its token posted, and the consumer has come to its section. -/
def oneStored (p : π) (c : κ) : List (Act π κ) :=
  List.replicate 5 (.produce p) ++ List.replicate 2 (.consume c)

theorem fifo_oneStored :
    ((machine 2).after (oneStored (0 : Fin 2) (0 : Fin 1))).buff (slot 0) = 0 ∧
      ((machine 2).after (oneStored (0 : Fin 2) (0 : Fin 1))).stored = List.range 1 :=
  have run := fifo (s := (machine 2).after (oneStored (0 : Fin 2) (0 : Fin 1)))
    (Machine.reachable_after (by decide) (by decide))
  ⟨run.2.1 0 (by decide) (by decide), run.2.2.2.2.2.2.1⟩

end Unpvol2.Prodcons4
