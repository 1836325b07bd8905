/-
**`prodcons6` never sleeps through work, and ends.**

A producer signals only if `nready.nready` is 0, and before it increments it. `Sleeps` says why the
signals it leaves out do not matter: the consumer goes to sleep only on a count of 0, and whoever
makes the count positive has signalled under the same hold of `nready.mutex`. So nothing is ready
while the consumer sleeps, and a signal with the count positive would wake nobody.

Where no thread can step nobody holds a mutex, hence every producer has returned and all items are
stored and counted. A consumer that still slept would have taken all of them, and so have seen the
end of its loop.
-/

import Unpvol2.Prodcons6.Stored

set_option linter.unusedSectionVars false

namespace Unpvol2.Prodcons6

open Interleaving

variable {π : Type} [DecidableEq π] {s s' : State π} {nitems : ℤ}

/-! ### Asleep with nothing ready -/

/-- The consumer goes to sleep with nothing ready, and nothing gets ready while it sleeps. -/
structure Sleeps (s : State π) : Prop where
  wait : s.consumer.pc = .wait → s.nready = 0
  asleep : s.consumer.pc = .asleep → s.nready = 0 ∧ ∀ p, (s.producer p).pc ≠ .incReady

theorem sleeps_start : Sleeps (start : State π) where
  wait := fun here => by cases here
  asleep := fun here => by cases here

/-- A producer's step that makes nothing ready and does not come to do so. -/
theorem Sleeps.produce (sleeps : Sleeps s) {p : π} {x : Producer}
    (producer : s'.producer = Function.update s.producer p x) (consumer : s'.consumer = s.consumer)
    (nready : s'.nready = s.nready)
    (away : s.consumer.pc = .asleep → x.pc ≠ .incReady) : Sleeps s' where
  wait := by
    rw [consumer, nready]
    exact sleeps.wait
  asleep := by
    rw [consumer, nready, producer]
    intro here
    refine ⟨(sleeps.asleep here).1, fun q => ?_⟩
    by_cases same : q = p
    · rw [same, Function.update_self]
      exact away here
    · rw [Function.update_of_ne same]
      exact (sleeps.asleep here).2 q

/-- A consumer's step to a statement where it does not sleep. -/
theorem Sleeps.consume (wait : s'.consumer.pc ≠ .wait) (asleep : s'.consumer.pc ≠ .asleep) :
    Sleeps s' where
  wait := fun here => absurd here wait
  asleep := fun here => absurd here asleep

/-- **Every step keeps the sleeping consumer without work.** -/
theorem Sleeps.step {action : Act π} (sleeps : Sleeps s) (owned : Owned s)
    (step : Step nitems s action s') : Sleeps s' := by
  cases step with
  | signal p here asleep => exact Sleeps.consume nofun nofun
  | someReady p here some =>
    exact sleeps.produce (p := p) rfl rfl rfl fun asleep => absurd (sleeps.asleep asleep).1 some
  | signalNobody p here awake =>
    exact sleeps.produce (p := p) rfl rfl rfl fun asleep => absurd asleep awake
  | incReady p here =>
    -- the producer holds the mutex, so the consumer is not about to sleep on it
    have inside : s.inReady (.producer p) = true := by
      show (s.producer p).pc.inReady = true
      rw [here]
      rfl
    refine Sleeps.consume (fun wait => ?_) fun asleep => (sleeps.asleep asleep).2 p here
    have consumer : s.inReady .consumer = true := by
      show s.consumer.pc.inReady = true
      rw [show s.consumer.pc = .wait from wait]
      rfl
    cases owned.ready.unique inside consumer
  | wait here =>
    have inside : s.inReady .consumer = true := by
      show s.consumer.pc.inReady = true
      rw [here]
      rfl
    refine ⟨nofun, fun _ => ⟨sleeps.wait here, fun p increments => ?_⟩⟩
    have producer : s.inReady (.producer p) = true := by
      show (s.producer p).pc.inReady = true
      rw [show (s.producer p).pc = .incReady from increments]
      rfl
    cases owned.ready.unique inside producer
  | empty here zero => exact ⟨fun _ => zero, nofun⟩
  | lockPut p here | full p here | notFull p here | unlockEnd p here | store p here | incNput p here
  | incNval p here | unlockPut p here | lockReady p here | nothingReady p here | unlockReady p here
  | count p here =>
    exact sleeps.produce (p := p) rfl rfl rfl fun _ => nofun
  | more here | done here | lock here | notEmpty here | relock here | decReady here | unlock here
  | read here | next here | spurious here =>
    exact Sleeps.consume nofun nofun

theorem sleeps_of_reachable (reachable : (machine nitems).Reachable Anything s) : Sleeps s := by
  refine reachable.induct sleeps_start ?_
  intro s action s' before sleeps _ step
  exact sleeps.step (owned_of_reachable before) (step_cases step)

/-- A signal left out would have woken nobody. -/
theorem Sleeps.signal (sleeps : Sleeps s) (some : s.nready ≠ 0) : s.signal = s := by
  unfold State.signal
  rw [if_neg fun asleep => some (sleeps.asleep asleep).1]

/-! ### Where nobody can step -/

/-- No thread can take a step. A spurious wake-up is not a step of a thread. -/
def Stuck (nitems : ℤ) (s : State π) : Prop :=
  (∀ p, s.produce nitems p = none) ∧ s.consume nitems = none

/-- A lock that does not return has found the mutex held. -/
theorem held_of_blocked {τ : Type} [DecidableEq τ] {mutex : Option τ} {s' : State π}
    (blocked : (if mutex = none then some s' else none) = none) : ∃ t, mutex = some t := by
  cases mutex with
  | none =>
    rw [if_pos rfl] at blocked
    cases blocked
  | some t => exact ⟨t, rfl⟩

/-- A stuck producer waits for a mutex, or has returned. -/
theorem Stuck.producer (stuck : Stuck nitems s) (owned : Owned s) (put : Put nitems s)
    (most : nitems ≤ maxnitems) (p : π) :
    ((s.producer p).pc = .lockPut ∧ ∃ q, s.putMutex = some q) ∨
      ((s.producer p).pc = .lockReady ∧ ∃ t, s.readyMutex = some t) ∨
      (s.producer p).pc = .returned := by
  have blocked := stuck.1 p
  unfold State.produce at blocked
  split at blocked <;> rename_i here
  · exact Or.inl ⟨here, held_of_blocked blocked⟩
  · cases blocked
  · cases blocked
  · have bound : s.nput < maxnitems := by
      have more := (put.next owned here).2
      omega
    rw [if_pos bound] at blocked
    cases blocked
  · cases blocked
  · cases blocked
  · cases blocked
  · exact Or.inr (Or.inl ⟨here, held_of_blocked blocked⟩)
  all_goals first | exact Or.inr (Or.inr here) | cases blocked

/-- A stuck consumer waits for its mutex, sleeps, or has returned. -/
theorem Stuck.consumer (stuck : Stuck nitems s)
    (looping : s.consumer.pc.looping = true → (s.consumer.i : ℤ) < nitems)
    (most : nitems ≤ maxnitems) :
    ((s.consumer.pc = .lock ∨ s.consumer.pc = .woken) ∧ ∃ t, s.readyMutex = some t) ∨
      s.consumer.pc = .asleep ∨ s.consumer.pc = .returned := by
  have blocked := stuck.2
  unfold State.consume at blocked
  split at blocked <;> rename_i here
  · cases blocked
  · exact Or.inl ⟨Or.inl here, held_of_blocked blocked⟩
  · cases blocked
  · cases blocked
  · exact Or.inr (Or.inl here)
  · exact Or.inl ⟨Or.inr here, held_of_blocked blocked⟩
  · cases blocked
  · cases blocked
  · have bound : s.consumer.i < maxnitems := by
      have more := looping (by rw [here]; rfl)
      omega
    rw [if_pos bound] at blocked
    cases blocked
  · cases blocked
  · exact Or.inr (Or.inr here)

variable [Fintype π]

/-- **Nobody holds a mutex.** -/
theorem Stuck.free (stuck : Stuck nitems s) (owned : Owned s) (put : Put nitems s)
    (counted : Counted nitems s) (most : nitems ≤ maxnitems) :
    s.putMutex = none ∧ s.readyMutex = none := by
  have producer := stuck.producer owned put most
  constructor
  · by_contra held
    obtain ⟨p, holder⟩ := Option.ne_none_iff_exists'.mp held
    have inside : (s.producer p).pc.inPut = true := (owned.put p).mpr holder
    rcases producer p with ⟨here, _⟩ | ⟨here, _⟩ | here <;> rw [here] at inside <;> cases inside
  · by_contra held
    obtain ⟨t, holder⟩ := Option.ne_none_iff_exists'.mp held
    cases t with
    | producer p =>
      have inside : (s.producer p).pc.inReady = true := (owned.ready (.producer p)).mpr holder
      rcases producer p with ⟨here, _⟩ | ⟨here, _⟩ | here <;> rw [here] at inside <;> cases inside
    | consumer =>
      have inside : s.consumer.pc.inReady = true := (owned.ready .consumer).mpr holder
      rcases stuck.consumer counted.looping most with ⟨here | here, _⟩ | here | here <;>
        rw [here] at inside <;> cases inside

/-- **A stuck process has come to its end.** -/
theorem Stuck.ended [Nonempty π] (stuck : Stuck nitems s) (owned : Owned s) (put : Put nitems s)
    (counted : Counted nitems s) (sleeps : Sleeps s) (most : nitems ≤ maxnitems) :
    (∀ p, (s.producer p).pc = .returned) ∧ s.consumer.pc = .returned ∧ s.nready = 0 ∧
      (s.nput : ℤ) = max nitems 0 ∧ s.count = max nitems 0 := by
  obtain ⟨putFree, readyFree⟩ := stuck.free owned put counted most
  have producers : ∀ p, (s.producer p).pc = .returned := by
    intro p
    rcases stuck.producer owned put most p with ⟨_, q, held⟩ | ⟨_, t, held⟩ | returned
    · exact absurd (putFree.symm.trans held) nofun
    · exact absurd (readyFree.symm.trans held) nofun
    · exact returned
  have stored : nitems ≤ s.stored.length := by
    obtain ⟨p⟩ := ‹Nonempty π›
    exact put.ended p (by rw [producers p]; rfl)
  have bound := put.most
  have ready := counted.ready
  have counts := counted.put
  have unready : s.producers ProducePc.unready = 0 := total_eq_zero fun p => by
    rw [producers p]
    rfl
  have uncounted : s.producers ProducePc.uncounted = 0 := total_eq_zero fun p => by
    rw [producers p]
    rfl
  have nput : s.nput = s.stored.length := by
    rcases put.length with settled | ⟨p, here, _⟩
    · exact settled.symm
    · rw [producers p] at here
      cases here
  have nonneg := counted.nonneg
  have consumer : s.consumer.pc = .returned := by
    rcases stuck.consumer counted.looping most with ⟨_, t, held⟩ | asleep | returned
    · exact absurd (readyFree.symm.trans held) nofun
    · -- asleep with nothing ready, it has taken everything
      have more := counted.looping (by rw [asleep]; rfl)
      have none := (sleeps.asleep asleep).1
      unfold State.taken at ready
      rw [asleep] at ready
      simp only [ConsumePc.taken] at ready
      omega
    · exact returned
  have all := counted.returned consumer
  have taken : s.taken = s.consumer.i := by
    unfold State.taken
    rw [consumer]
    rfl
  exact ⟨producers, consumer, by omega, by omega, by omega⟩

/-- **`prodcons6` never sleeps through work and always ends.** While the consumer sleeps and has not
been woken, nothing is ready; the signals left out would have woken nobody; and where no thread can
step, all have returned and everything has been stored, counted and taken. -/
theorem awake_and_ends [Nonempty π] {nitems : ℤ} (most : nitems ≤ maxnitems) {s : State π}
    (reachable : (machine nitems).Reachable Anything s) :
    (s.consumer.pc = .asleep → s.nready = 0) ∧
      (∀ p, (s.producer p).pc = .testReady → s.nready ≠ 0 → s.signal = s) ∧
      (Stuck nitems s →
        (∀ p, (s.producer p).pc = .returned) ∧ s.consumer.pc = .returned ∧ s.nready = 0 ∧
          (s.nput : ℤ) = max nitems 0 ∧ s.count = max nitems 0) := by
  have sleeps := sleeps_of_reachable reachable
  exact ⟨fun asleep => (sleeps.asleep asleep).1, fun _ _ => sleeps.signal,
    fun stuck => stuck.ended (owned_of_reachable reachable) (put_of_reachable reachable)
      (counted_of_reachable reachable) sleeps most⟩

/-- The consumer sleeps, is woken up for the only item, and all return. -/
def sleptThrough (p : π) : List (Act π) :=
  List.replicate 4 .consume ++ List.replicate 15 (.produce p) ++ List.replicate 7 .consume

theorem stuck_sleptThrough : Stuck 1 ((machine 1).after (sleptThrough (0 : Fin 1))) := by
  have produce : ∀ p, (((machine 1).after (sleptThrough (0 : Fin 1))).produce 1 p).isNone =
      true := by decide
  have consume : (((machine 1).after (sleptThrough (0 : Fin 1))).consume 1).isNone = true := by
    decide
  exact ⟨fun p => Option.isNone_iff_eq_none.mp (produce p), Option.isNone_iff_eq_none.mp consume⟩

theorem awake_and_ends_sleptThrough :
    ((machine 1).after (sleptThrough (0 : Fin 1))).nready = 0 ∧
      ((machine 1).after (sleptThrough (0 : Fin 1))).count = 1 :=
  have run := awake_and_ends (s := (machine 1).after (sleptThrough (0 : Fin 1)))
    (by decide) (Machine.reachable_after (M := machine 1) (by decide) (by decide))
  have ended := run.2.2 stuck_sleptThrough
  ⟨ended.2.2.1, ended.2.2.2.2⟩

end Unpvol2.Prodcons6
