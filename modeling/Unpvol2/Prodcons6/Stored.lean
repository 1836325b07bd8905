/-
**What `prodcons6` has stored.**

* `Put` — the indices are stored in order, each with its own value; `put.nput` and `put.nval` are
  behind only between the increments of the producer that holds `put.mutex`. A producer that has
  seen the end has seen all items stored.
* `Counted` — an item that has been stored is counted in `nready.nready`, has been taken by the
  consumer, or has its producer between the store and `nready.nready++`. Producers may overtake each
  other there, and the count does not say whose items they are.
* `reads_stored` — the consumer, about to read `buff[i]`, has taken `i + 1` items from the count, so
  more than `i` indices have been stored: `i` is one of them.
-/

import Mathlib.Data.List.Range
import Unpvol2.Prodcons6.Step

set_option linter.unusedSectionVars false

namespace Unpvol2.Prodcons6

open Interleaving

variable {π : Type} [DecidableEq π]

/-! ### Under `put.mutex` -/

/-- Where the producer that holds `put.mutex` stands. -/
def State.holder (s : State π) : Option ProducePc :=
  s.putMutex.map fun p => (s.producer p).pc

/-- An index has been stored and `put.nput` not incremented. -/
def storing : Option ProducePc → ℕ
  | some .incNput => 1
  | _ => 0

/-- `put.nput` has been incremented and `put.nval` has not. -/
def counting : Option ProducePc → ℕ
  | some .incNval => 1
  | _ => 0

/-- The producer has seen the end. -/
def ProducePc.ended : ProducePc → Bool
  | .unlockEnd | .returned => true
  | _ => false

/-- What has been stored, and how far the counters are behind. -/
structure Put (nitems : ℤ) (s : State π) : Prop where
  nput : s.nput + storing s.holder = s.stored.length
  nval : s.nval + counting s.holder = s.nput
  more : s.holder = some .store → (s.nput : ℤ) < nitems
  most : s.stored.length ≤ nitems.toNat
  ended : ∀ p, (s.producer p).pc.ended = true → nitems ≤ s.stored.length
  stored : s.stored = (List.range s.stored.length).map fun k => (k, k)
  contents : ∀ k < s.stored.length, s.buff k = k

theorem put_start {nitems : ℤ} : Put nitems (start : State π) where
  nput := rfl
  nval := rfl
  more := fun here => by cases here
  most := Nat.zero_le _
  ended := fun _ ended => by cases ended
  stored := rfl
  contents := fun _ below => absurd below (Nat.not_lt_zero _)

section Moves

variable {s s' : State π} {nitems : ℤ} {p : π} {x : Producer}

/-- The producer inside holds the mutex. -/
theorem Owned.holder (owned : Owned s) (here : (s.producer p).pc.inPut = true) :
    s.putMutex = some p :=
  (owned.put p).mp here

theorem holder_of_inside (mutex : s.putMutex = some p) : s.holder = some (s.producer p).pc := by
  unfold State.holder
  rw [mutex]
  rfl

theorem holder_of_update (mutex : s'.putMutex = some p)
    (producer : s'.producer = Function.update s.producer p x) : s'.holder = some x.pc := by
  rw [holder_of_inside mutex, producer, Function.update_self]

/-- A producer outside moves. -/
theorem holder_of_outside (owned : Owned s) (here : (s.producer p).pc.inPut = false)
    (mutex : s'.putMutex = s.putMutex)
    (producer : s'.producer = Function.update s.producer p x) : s'.holder = s.holder := by
  unfold State.holder
  rw [mutex, producer]
  cases holder : s.putMutex with
  | none => rfl
  | some q =>
    have ne : q ≠ p := by
      intro same
      have inside : s.inPut q = true := (owned.put q).mpr holder
      rw [same] at inside
      exact absurd (here.symm.trans inside) Bool.false_ne_true
    simp only [Option.map_some, Function.update_of_ne ne]

/-- A producer's step that stores nothing. -/
theorem Put.produce (put : Put nitems s) (producer : s'.producer = Function.update s.producer p x)
    (stored : s'.stored = s.stored) (buff : s'.buff = s.buff)
    (nput : s'.nput + storing s'.holder = s.nput + storing s.holder)
    (nval : s'.nval + counting s'.holder = s'.nput)
    (more : s'.holder = some .store → (s'.nput : ℤ) < nitems)
    (ended : x.pc.ended = true → nitems ≤ s.stored.length) : Put nitems s' where
  nput := by rw [nput, put.nput, stored]
  nval := nval
  more := more
  most := by rw [stored]; exact put.most
  ended := fun q now => by
    rw [producer] at now
    rw [stored]
    rcases update_or (P := fun x : Producer => x.pc.ended = true) now with before | own
    · exact put.ended q before
    · exact ended own
  stored := by rw [stored]; exact put.stored
  contents := by rw [stored, buff]; exact put.contents

/-- A producer's step outside `put.mutex`. -/
theorem Put.outside (put : Put nitems s) (owned : Owned s)
    (here : (s.producer p).pc.inPut = false)
    (producer : s'.producer = Function.update s.producer p x) (mutex : s'.putMutex = s.putMutex)
    (stored : s'.stored = s.stored) (buff : s'.buff = s.buff) (nput : s'.nput = s.nput)
    (nval : s'.nval = s.nval) (running : x.pc.ended = false) : Put nitems s' := by
  have holder := holder_of_outside owned here mutex producer
  refine put.produce producer stored buff ?_ ?_ ?_ ?_
  · rw [holder, nput]
  · rw [holder, nput, nval]
    exact put.nval
  · rw [holder, nput]
    exact put.more
  · intro ended
    exact absurd (running.symm.trans ended) Bool.false_ne_true

/-- A producer's step under `put.mutex`. -/
theorem Put.inside (put : Put nitems s) (mutex : s.putMutex = some p)
    (mutex' : s'.putMutex = some p) (producer : s'.producer = Function.update s.producer p x)
    (stored : s'.stored = s.stored) (buff : s'.buff = s.buff)
    (nput : s'.nput + storing (some x.pc) = s.nput + storing (some (s.producer p).pc))
    (nval : s'.nval + counting (some x.pc) = s'.nput)
    (more : x.pc = .store → (s'.nput : ℤ) < nitems)
    (ended : x.pc.ended = true → nitems ≤ s.stored.length) : Put nitems s' := by
  have before := holder_of_inside mutex
  have after := holder_of_update mutex' producer
  refine put.produce producer stored buff ?_ ?_ ?_ ended
  · rw [before, after, nput]
  · rw [after]
    exact nval
  · rw [after]
    intro here
    exact more (Option.some.inj here)

/-- A producer gives `put.mutex` back. -/
theorem Put.unlock (put : Put nitems s) (mutex : s.putMutex = some p)
    (mutex' : s'.putMutex = none) (producer : s'.producer = Function.update s.producer p x)
    (stored : s'.stored = s.stored) (buff : s'.buff = s.buff) (nput : s'.nput = s.nput)
    (nval : s'.nval = s.nval) (settled : storing (some (s.producer p).pc) = 0)
    (settled' : counting (some (s.producer p).pc) = 0)
    (ended : x.pc.ended = true → nitems ≤ s.stored.length) : Put nitems s' := by
  have before := holder_of_inside mutex
  have after : s'.holder = none := by
    unfold State.holder
    rw [mutex']
    rfl
  have law := put.nval
  rw [before, settled'] at law
  refine put.produce producer stored buff ?_ ?_ ?_ ended
  · rw [before, after, settled, nput]
    rfl
  · rw [after, nput, nval]
    exact law
  · rw [after]
    exact nofun

/-- The consumer's steps. -/
theorem Put.consume (put : Put nitems s) (producer : s'.producer = s.producer)
    (mutex : s'.putMutex = s.putMutex) (stored : s'.stored = s.stored) (buff : s'.buff = s.buff)
    (nput : s'.nput = s.nput) (nval : s'.nval = s.nval) : Put nitems s' := by
  have holder : s'.holder = s.holder := by
    unfold State.holder
    rw [mutex, producer]
  exact {
    nput := by rw [nput, holder, stored]; exact put.nput
    nval := by rw [nval, holder, nput]; exact put.nval
    more := by rw [nput, holder]; exact put.more
    most := by rw [stored]; exact put.most
    ended := by rw [producer, stored]; exact put.ended
    stored := by rw [stored]; exact put.stored
    contents := by rw [stored, buff]; exact put.contents }

/-- **The store.** -/
theorem Put.store (put : Put nitems s) (owned : Owned s) (here : (s.producer p).pc = .store) :
    Put nitems (s.store.produceTo p .incNput) := by
  have mutex := owned.holder (p := p) (by rw [here]; rfl)
  have before := holder_of_inside mutex
  have after : (s.store.produceTo p .incNput).holder = some .incNput :=
    holder_of_update (x := { s.producer p with pc := .incNput }) mutex rfl
  rw [here] at before
  have next : s.nput = s.stored.length := by
    have law := put.nput
    rw [before] at law
    exact law
  have value : s.nval = s.nput := by
    have law := put.nval
    rw [before] at law
    exact law
  have more := put.more before
  have length : (s.store.produceTo p .incNput).stored.length = s.stored.length + 1 :=
    List.length_append
  exact {
    nput := by
      rw [after, length, ← next]
      rfl
    nval := by
      rw [after]
      exact value
    more := by
      rw [after]
      exact nofun
    most := by
      rw [length]
      omega
    ended := fun q now => by
      rw [length]
      rcases update_or (P := fun x : Producer => x.pc.ended = true) now with ended | own
      · have all := put.ended q ended
        omega
      · cases own
    stored := by
      rw [length]
      show s.stored ++ [(s.nput, s.nval)] = _
      rw [List.range_succ, List.map_append, ← put.stored, value, next]
      rfl
    contents := fun k below => by
      rw [length] at below
      show Function.update s.buff s.nput s.nval k = k
      by_cases new : k = s.nput
      · rw [new, Function.update_self, value]
      · rw [Function.update_of_ne new]
        exact put.contents k (by omega) }

/-- **Every step keeps what is stored in order.** -/
theorem Put.step {action : Act π} (put : Put nitems s) (owned : Owned s)
    (step : Step nitems s action s') : Put nitems s' := by
  cases step with
  | lockPut p here free =>
    have before : s.holder = none := by
      unfold State.holder
      rw [free]
      rfl
    have after : State.holder { s.produceTo p .testPut with putMutex := some p } =
        some .testPut := holder_of_update (x := { s.producer p with pc := .testPut }) rfl rfl
    have law := put.nval
    rw [before] at law
    refine put.produce (p := p) rfl rfl rfl ?_ ?_ ?_ fun now => by cases now
    · rw [before, after]
      rfl
    · rw [after]
      exact law
    · rw [after]
      exact nofun
  | full p here all =>
    have mutex := owned.holder (p := p) (by rw [here]; rfl)
    have length := put.nput
    have law := put.nval
    rw [holder_of_inside mutex, here] at length law
    refine put.inside mutex mutex rfl rfl rfl (by rw [here]; rfl) law nofun fun _ => ?_
    rw [← length]
    exact all
  | notFull p here more =>
    have mutex := owned.holder (p := p) (by rw [here]; rfl)
    have law := put.nval
    rw [holder_of_inside mutex, here] at law
    exact put.inside mutex mutex rfl rfl rfl (by rw [here]; rfl) law (fun _ => more)
      fun now => by cases now
  | unlockEnd p here =>
    have mutex := owned.holder (p := p) (by rw [here]; rfl)
    exact put.unlock mutex rfl rfl rfl rfl rfl rfl (by rw [here]; rfl) (by rw [here]; rfl)
      fun _ => put.ended p (by rw [here]; rfl)
  | store p here => exact put.store owned here
  | incNput p here =>
    have mutex := owned.holder (p := p) (by rw [here]; rfl)
    have law := put.nval
    rw [holder_of_inside mutex, here] at law
    refine put.inside mutex mutex rfl rfl rfl (by rw [here]; rfl) ?_ nofun fun now => by cases now
    exact congrArg (· + 1) law
  | incNval p here =>
    have mutex := owned.holder (p := p) (by rw [here]; rfl)
    have law := put.nval
    rw [holder_of_inside mutex, here] at law
    exact put.inside mutex mutex rfl rfl rfl (by rw [here]; rfl) law nofun fun now => by cases now
  | unlockPut p here =>
    have mutex := owned.holder (p := p) (by rw [here]; rfl)
    exact put.unlock mutex rfl rfl rfl rfl rfl rfl (by rw [here]; rfl) (by rw [here]; rfl)
      fun now => by cases now
  | lockReady p here | nothingReady p here | someReady p here | signal p here
  | signalNobody p here | incReady p here | unlockReady p here | count p here =>
    exact put.outside owned (p := p) (by rw [here]; rfl) rfl rfl rfl rfl rfl rfl rfl
  | more here | done here | lock here | empty here | notEmpty here | wait here | relock here
  | decReady here | unlock here | read here | next here | spurious here =>
    exact put.consume rfl rfl rfl rfl rfl rfl

/-- A producer about to store has the index after all stored ones. -/
theorem Put.next (put : Put nitems s) (owned : Owned s) {p : π}
    (here : (s.producer p).pc = .store) : s.nput = s.stored.length ∧ (s.nput : ℤ) < nitems := by
  have holder := holder_of_inside (owned.holder (p := p) (by rw [here]; rfl))
  rw [here] at holder
  have law := put.nput
  rw [holder] at law
  exact ⟨law, put.more holder⟩

/-- The indices stored are those below `put.nput`, or its increment is the next statement of the
producer that has stored one more. -/
theorem Put.length (put : Put nitems s) : s.stored.length = s.nput ∨
    ∃ p, (s.producer p).pc = .incNput ∧ s.stored.length = s.nput + 1 := by
  have law := put.nput
  by_cases behind : s.holder = some .incNput
  · obtain ⟨p, _, here⟩ := Option.map_eq_some_iff.mp behind
    rw [behind] at law
    exact Or.inr ⟨p, here, law.symm⟩
  · have settled : storing s.holder = 0 := by
      unfold storing
      split
      · exact absurd ‹_› behind
      · rfl
    omega

end Moves

theorem put_of_reachable {nitems : ℤ} {s : State π}
    (reachable : (machine nitems).Reachable Anything s) : Put nitems s := by
  refine reachable.induct put_start ?_
  intro s action s' before put _ step
  exact put.step (owned_of_reachable before) (step_cases step)

/-! ### Under `nready.mutex` -/

/-- An item stored and not yet counted in `nready.nready`. -/
def ProducePc.unready : ProducePc → ℤ
  | .incNput | .incNval | .unlockPut | .lockReady | .testReady | .signal | .incReady => 1
  | _ => 0

/-- An item stored and not yet counted in `count[]`. -/
def ProducePc.uncounted : ProducePc → ℤ
  | .incNput | .incNval | .unlockPut | .lockReady | .testReady | .signal | .incReady
  | .unlockReady | .count => 1
  | _ => 0

/-- The item `i` has been taken from the count. -/
def ConsumePc.taken : ConsumePc → ℕ
  | .unlock | .read | .next => 1
  | _ => 0

/-- The consumer is in the body of its loop. -/
def ConsumePc.looping : ConsumePc → Bool
  | .test | .returned => false
  | _ => true

theorem ProducePc.unready_nonneg (pc : ProducePc) : 0 ≤ pc.unready := by cases pc <;> decide

variable [Fintype π]

namespace State

/-- The sum of a weight over all producers. -/
def producers (s : State π) (w : ProducePc → ℤ) : ℤ := total (fun x => w x.pc) s.producer

/-- The sum of `count[]`. -/
def count (s : State π) : ℤ := total (fun x => (x.count : ℤ)) s.producer

/-- The number of items taken from the count. -/
def taken (s : State π) : ℕ := s.consumer.i + s.consumer.pc.taken

end State

/-- Where the items that have been stored are counted. -/
structure Counted (nitems : ℤ) (s : State π) : Prop where
  ready : s.nready + s.producers ProducePc.unready + s.taken = s.stored.length
  put : s.count + s.producers ProducePc.uncounted = s.stored.length
  nonneg : 0 ≤ s.nready
  dec : s.consumer.pc = .decReady → 0 < s.nready
  looping : s.consumer.pc.looping = true → (s.consumer.i : ℤ) < nitems
  returned : s.consumer.pc = .returned → nitems ≤ s.consumer.i

theorem counted_start {nitems : ℤ} : Counted nitems (start : State π) where
  ready := by
    have none : (start : State π).producers ProducePc.unready = 0 := total_eq_zero fun _ => rfl
    rw [none]
    rfl
  put := by
    have none : (start : State π).producers ProducePc.uncounted = 0 := total_eq_zero fun _ => rfl
    have zero : (start : State π).count = 0 := total_eq_zero fun _ => rfl
    rw [none, zero]
    rfl
  nonneg := le_refl 0
  dec := fun here => by cases here
  looping := fun here => by cases here
  returned := fun here => by cases here

section Moves

variable {s s' : State π} {nitems : ℤ}

theorem producers_nonneg {w : ProducePc → ℤ} (nonneg : ∀ pc, 0 ≤ w pc) : 0 ≤ s.producers w :=
  total_nonneg (w := fun x : Producer => w x.pc) (fun x => nonneg x.pc) _

/-- **A producer's step that counts its own item counts all.** -/
theorem Counted.produce (counted : Counted nitems s) (p : π) (x : Producer)
    (producer : s'.producer = Function.update s.producer p x)
    (consumer : s'.consumer = s.consumer ∨
      s.consumer.pc = .asleep ∧ s'.consumer = { s.consumer with pc := .woken })
    (le : s.nready ≤ s'.nready)
    (ready : s'.nready + x.pc.unready - s'.stored.length =
      s.nready + (s.producer p).pc.unready - s.stored.length)
    (put : x.count + x.pc.uncounted - s'.stored.length =
      (s.producer p).count + (s.producer p).pc.uncounted - s.stored.length) :
    Counted nitems s' := by
  have sum : ∀ w : ProducePc → ℤ,
      s'.producers w = s.producers w - w (s.producer p).pc + w x.pc := by
    intro w
    unfold State.producers
    rw [producer, total_update]
  have count : s'.count = s.count - (s.producer p).count + x.count := by
    unfold State.count
    rw [producer, total_update]
  obtain ⟨ready', put', nonneg, dec, looping, returned⟩ := counted
  have consumer : s'.taken = s.taken ∧ (s'.consumer.pc = .decReady → 0 < s.nready) ∧
      (s'.consumer.pc.looping = true → (s'.consumer.i : ℤ) < nitems) ∧
      (s'.consumer.pc = .returned → nitems ≤ s'.consumer.i) := by
    unfold State.taken
    rcases consumer with same | ⟨asleep, woken⟩
    · rw [same]
      exact ⟨rfl, dec, looping, returned⟩
    · rw [woken, asleep]
      exact ⟨rfl, nofun, fun _ => looping (by rw [asleep]; rfl), nofun⟩
  obtain ⟨taken, dec, looping, returned⟩ := consumer
  refine ⟨?_, ?_, by omega, fun here => ?_, looping, returned⟩
  · rw [sum, taken]
    omega
  · rw [sum, count]
    omega
  · have positive := dec here
    omega

/-- **A consumer's step that counts its own item counts all.** -/
theorem Counted.consume (counted : Counted nitems s) (producer : s'.producer = s.producer)
    (stored : s'.stored = s.stored) (ready : s'.nready + s'.taken = s.nready + s.taken)
    (nonneg : 0 ≤ s'.nready) (dec : s'.consumer.pc = .decReady → 0 < s'.nready)
    (looping : s'.consumer.pc.looping = true → (s'.consumer.i : ℤ) < nitems)
    (returned : s'.consumer.pc = .returned → nitems ≤ s'.consumer.i) : Counted nitems s' where
  ready := by
    have law := counted.ready
    unfold State.producers at law ⊢
    rw [producer, stored]
    omega
  put := by
    have law := counted.put
    unfold State.producers State.count at law ⊢
    rw [producer, stored]
    exact law
  nonneg := nonneg
  dec := dec
  looping := looping
  returned := returned

attribute [local simp] State.produceTo State.consumeTo State.store State.read State.taken
  ProducePc.unready ProducePc.uncounted ConsumePc.taken

/-- **Every step keeps count.** -/
theorem Counted.step {action : Act π} (counted : Counted nitems s)
    (step : Step nitems s action s') : Counted nitems s' := by
  have nonneg := counted.nonneg
  cases step with
  | signal p here asleep =>
    refine counted.produce p _ rfl (Or.inr ⟨asleep, rfl⟩) (le_refl _) ?_ ?_ <;> simp [here]
  | incReady p here =>
    refine counted.produce p _ rfl (Or.inl rfl) (Int.le_add_one (le_refl _)) ?_ ?_ <;>
      simp [here]
  | lockPut p here | full p here | notFull p here | unlockEnd p here | store p here | incNput p here
  | incNval p here | unlockPut p here | lockReady p here | nothingReady p here | someReady p here
  | signalNobody p here | unlockReady p here | count p here =>
    refine counted.produce p _ rfl (Or.inl rfl) (le_refl _) ?_ ?_ <;> simp [here]
  | more here more =>
    exact counted.consume rfl rfl (by simp [here]) nonneg nofun (fun _ => more) nofun
  | done here all =>
    exact counted.consume rfl rfl (by simp [here]) nonneg nofun nofun fun _ => all
  | notEmpty here some =>
    refine counted.consume rfl rfl (by simp [here]) nonneg (fun _ => ?_)
      (fun _ => counted.looping (by rw [here]; rfl)) nofun
    show 0 < s.nready
    omega
  | decReady here =>
    have positive := counted.dec here
    refine counted.consume rfl rfl (by simp [here]) ?_ nofun
      (fun _ => counted.looping (by rw [here]; rfl)) nofun
    show 0 ≤ s.nready - 1
    omega
  | next here =>
    exact counted.consume rfl rfl (by simp [here]) nonneg nofun nofun nofun
  | lock here | empty here | wait here | relock here | unlock here | read here | spurious here =>
    exact counted.consume rfl rfl (by simp [here]) nonneg nofun
      (fun _ => counted.looping (by rw [here]; rfl)) nofun

end Moves

section Reachable

variable {s : State π} {nitems : ℤ}

theorem counted_of_reachable (reachable : (machine nitems).Reachable Anything s) :
    Counted nitems s := by
  refine reachable.induct counted_start ?_
  intro s action s' _ counted _ step
  exact counted.step (step_cases step)

/-- **More than `i` indices have been stored** when the consumer reads `buff[i]`. -/
theorem Counted.read (counted : Counted nitems s) (here : s.consumer.pc = .read) :
    s.consumer.i < s.stored.length := by
  have others := producers_nonneg (s := s) ProducePc.unready_nonneg
  have nonneg := counted.nonneg
  have law := counted.ready
  unfold State.taken at law
  rw [here] at law
  simp only [ConsumePc.taken] at law
  omega

/-- The consumer reports nothing. -/
theorem no_errors (reachable : (machine nitems).Reachable Anything s) : s.errors = [] := by
  refine reachable.induct (I := fun s => s.errors = []) rfl ?_
  intro s action s' before none _ step
  have put := put_of_reachable before
  have counted := counted_of_reachable before
  cases step_cases step with
  | read here =>
    have value := put.contents _ (counted.read here)
    show (if s.buff s.consumer.i ≠ s.consumer.i then _ else s.errors) = []
    rw [if_neg fun differs => differs value]
    exact none
  | _ => exact none

/-- **The unlocked reads see finished writes.** The indices are stored in order, each once and with
its own value, within `buff`; they are those below `put.nput` (but for the producer that is about to
increment it), and `put.nval` is `put.nput` while `put.mutex` is free. The consumer reads `buff[i]`
without `nready.mutex`, after `i` has been stored there and while no producer stores to it, and it
never reports anything. -/
theorem reads_stored {nitems : ℤ} (most : nitems ≤ maxnitems) {s : State π}
    (reachable : (machine nitems).Reachable Anything s) :
    s.stored = (List.range s.stored.length).map (fun k => (k, k)) ∧
      (s.stored.length = s.nput ∨
        ∃ p, (s.producer p).pc = .incNput ∧ s.stored.length = s.nput + 1) ∧
      (s.putMutex = none → s.stored.length = s.nput ∧ s.nval = s.nput) ∧
      (∀ p, (s.producer p).pc = .store → s.nput = s.stored.length ∧ s.nput < maxnitems) ∧
      (s.consumer.pc = .read →
        s.readyMutex ≠ some .consumer ∧ s.consumer.i < maxnitems ∧
          (s.consumer.i, s.consumer.i) ∈ s.stored ∧ s.buff s.consumer.i = s.consumer.i ∧
          ∀ p, (s.producer p).pc = .store → s.nput ≠ s.consumer.i) ∧
      s.errors = [] := by
  have owned := owned_of_reachable reachable
  have put := put_of_reachable reachable
  have counted := counted_of_reachable reachable
  refine ⟨put.stored, put.length, fun free => ?_, fun p here => ?_,
    fun here => ⟨?_, ?_, ?_, ?_, ?_⟩, no_errors reachable⟩
  · have holder : s.holder = none := by
      unfold State.holder
      rw [free]
      rfl
    have nput := put.nput
    have nval := put.nval
    rw [holder] at nput nval
    exact ⟨nput.symm, nval⟩
  · obtain ⟨next, more⟩ := put.next owned here
    exact ⟨next, by omega⟩
  · intro holder
    have inside : s.consumer.pc.inReady = true := (owned.ready .consumer).mpr holder
    rw [here] at inside
    cases inside
  · have more := counted.looping (by rw [here]; rfl)
    omega
  · rw [put.stored]
    exact List.mem_map.mpr ⟨s.consumer.i, List.mem_range.mpr (counted.read here), rfl⟩
  · exact put.contents _ (counted.read here)
  · intro p storing same
    have below := counted.read here
    have next := (put.next owned storing).1
    omega

/-- Two producers store one item each, the second counts first, and the consumer comes to read. -/
def overtaken (first second : π) : List (Act π) :=
  List.replicate 6 (Act.produce first) ++ List.replicate 11 (Act.produce second) ++
    List.replicate 5 Act.consume

theorem reads_stored_overtaken :
    ((machine 2).after (overtaken (0 : Fin 2) (1 : Fin 2))).buff 0 = 0 :=
  ((reads_stored (by decide) (Machine.reachable_after (M := machine 2) (by decide)
    (by decide))).2.2.2.2.1 (by decide)).2.2.2.1

end Reachable

end Unpvol2.Prodcons6
