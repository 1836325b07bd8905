/-
**`rwlock` finds nothing wrong and comes to an end.**

Every statement of a thread takes it farther in its round, and a round has at most 13 of them.

* `Stuck.returned` — where no thread can step all have returned: `rcountlock` is free then, so that
  nobody is inside, and the lock is free as well.
* `rwlock_clean` — no `exit(-1)` is reached, every run is finite, and at its end both counters are
  `0` and nobody has the lock.
-/

import Mathlib.Data.Fintype.BigOperators
import Unpvol2.Rwlockc.Kept

set_option linter.unusedSectionVars false

namespace Unpvol2.Rwlockc

open C Interleaving
open SharedLock (Side Held)
open Test1 (Change Options)

variable {ι : Type} [DecidableEq ι] [Fintype ι] {function : ι → Side}

/-! ### The end -/

/-- How far a thread has come in its round. -/
def Pc.place : Pc → ℕ
  | .test | .lock | .returned => 0
  | .countLock .inc => 1
  | .load .inc => 2
  | .store .inc _ => 3
  | .countUnlock .inc => 4
  | .testWriters => 5
  | .countLock .dec | .testReaders => 6
  | .load .dec => 7
  | .store .dec _ => 8
  | .countUnlock .dec => 9
  | .unlock => 10
  | .increment => 11

/-- The statements a thread has left, at most. -/
def Thread.left (nloop : ℤ) (x : Thread) : ℕ :=
  match x.pc with
  | .returned => 0
  | .test => 13 * (nloop - x.i).toNat + 1
  | pc => 13 * (nloop - x.i).toNat - pc.place

def State.left (nloop : ℤ) (s : State ι) : ℤ := total (fun x => (x.left nloop : ℤ)) s.thread

/-- A thread in its round has it to do. -/
def Looping (nloop : ℤ) (s : State ι) : Prop :=
  ∀ t, (s.thread t).pc = .test ∨ (s.thread t).pc = .returned ∨ (s.thread t).i < nloop

section Ends

variable {nloop : ℤ} {s s' : State ι} {t : ι} {x : Thread}

theorem Looping.moved (looping : Looping nloop s)
    (thread : s'.thread = Function.update s.thread t x)
    (own : x.pc = .test ∨ x.pc = .returned ∨ x.i < nloop) : Looping nloop s' := by
  intro u
  rw [thread]
  by_cases mover : u = t
  · rw [mover, Function.update_self]
    exact own
  · rw [Function.update_of_ne mover]
    exact looping u

/-- One thread moves on in its round. -/
theorem left_moved (thread : s'.thread = Function.update s.thread t x)
    (less : x.left nloop < (s.thread t).left nloop) : s'.left nloop < s.left nloop := by
  unfold State.left
  rw [thread, total_update]
  omega

theorem Pc.place_le (pc : Pc) : pc.place ≤ 11 := by
  cases pc with
  | countLock change | load change | store change | countUnlock change =>
    cases change <;> exact of_decide_eq_true rfl
  | test | lock | testWriters | testReaders | unlock | increment | returned =>
    exact of_decide_eq_true rfl

theorem Thread.left_of_place (x : Thread) (begun : x.pc ≠ .test ∧ x.pc ≠ .returned) :
    x.left nloop = 13 * (nloop - x.i).toNat - x.pc.place := by
  unfold Thread.left
  split
  · exact absurd ‹_› begun.2
  · exact absurd ‹_› begun.1
  · rfl

/-- A thread goes on in its round. -/
theorem left_goto (looping : Looping nloop s) {pc : Pc}
    (thread : s'.thread = Function.update s.thread t { s.thread t with pc := pc })
    (here : (s.thread t).pc ≠ .test ∧ (s.thread t).pc ≠ .returned)
    (farther : (s.thread t).pc.place < pc.place) :
    Looping nloop s' ∧ s'.left nloop < s.left nloop := by
  have inside := ((looping t).resolve_left here.1).resolve_left here.2
  refine ⟨looping.moved thread (.inr (.inr inside)), left_moved thread ?_⟩
  have begun : pc ≠ .test ∧ pc ≠ .returned := by
    constructor <;> rintro rfl <;> exact absurd farther (Nat.not_lt_zero _)
  rw [Thread.left_of_place _ here, Thread.left_of_place { s.thread t with pc := pc } begun]
  have bound := pc.place_le
  show 13 * (nloop - (s.thread t).i).toNat - pc.place < _
  omega

/-- **Every step leaves less to do.** -/
theorem left_step (looping : Looping nloop s) (kept : Kept function s)
    (step : Step nloop s t s') : Looping nloop s' ∧ s'.left nloop < s.left nloop := by
  cases step with
  | more here more =>
    refine ⟨looping.moved rfl (.inr (.inr more)), left_moved rfl ?_⟩
    unfold Thread.left
    rw [here]
    exact Nat.lt_succ_self _
  | done here most =>
    refine ⟨looping.moved rfl (.inr (.inl rfl)), left_moved rfl ?_⟩
    unfold Thread.left
    rw [here]
    exact Nat.succ_pos _
  | lock here free =>
    exact left_goto looping rfl (by rw [here]; exact ⟨nofun, nofun⟩)
      (by rw [here]; cases (s.thread t).function <;> decide)
  | countLock change here reads free =>
    exact left_goto looping rfl (by rw [here]; exact ⟨nofun, nofun⟩)
      (by rw [here]; cases change <;> decide)
  | load change here =>
    refine left_goto looping rfl (by rw [here]; exact ⟨nofun, nofun⟩) ?_
    rw [here]
    cases change <;> exact Nat.lt_succ_self _
  | store change value here =>
    refine left_goto looping (setCounter_thread _ _) (by rw [here]; exact ⟨nofun, nofun⟩) ?_
    rw [here]
    cases change <;> cases (s.thread t).function <;> exact of_decide_eq_true rfl
  | countUnlock change here reads =>
    exact left_goto looping rfl (by rw [here]; exact ⟨nofun, nofun⟩)
      (by rw [here]; cases change <;> decide)
  | testWriters here fine =>
    exact left_goto looping rfl (by rw [here]; exact ⟨nofun, nofun⟩)
      (by rw [here]; cases (s.thread t).function <;> decide)
  | testReaders here writes fine =>
    exact left_goto looping rfl (by rw [here]; exact ⟨nofun, nofun⟩) (by rw [here]; decide)
  | exit bad => exact absurd bad kept.fine
  | unlock side here holds =>
    exact left_goto looping rfl (by rw [here]; exact ⟨nofun, nofun⟩) (by rw [here]; decide)
  | increment here =>
    have inside : (s.thread t).i < nloop := by
      rcases looping t with stands | stands | inside
      · rw [here] at stands
        cases stands
      · rw [here] at stands
        cases stands
      · exact inside
    refine ⟨looping.moved rfl (.inl rfl), left_moved rfl ?_⟩
    rw [Thread.left_of_place (s.thread t) (by rw [here]; exact ⟨nofun, nofun⟩), here]
    show 13 * (nloop - ((s.thread t).i + 1)).toNat + 1 < 13 * (nloop - (s.thread t).i).toNat - 11
    omega

/-- A thread with a lock gives it back. -/
theorem unlock_isSome (kept : Kept function s) (here : (s.thread t).pc = .unlock) :
    s.unlock t ≠ none := by
  have holds := kept.holds (t := t) (by rw [here]; rfl)
  unfold State.unlock
  split
  · exact nofun
  · split
    · exact nofun
    · rename_i writes reads
      cases side : (s.thread t).function with
      | shared => exact absurd (Nat.pos_of_ne_zero (side ▸ holds)) reads
      | exclusive => exact absurd (Nat.pos_of_ne_zero (side ▸ holds)) writes

/-- A thread that cannot step waits for the lock or for `rcountlock`, or has returned. -/
theorem Stuck.stands (stuck : Stuck nloop s) (kept : Kept function s) (t : ι) :
    ((s.thread t).pc = .lock ∧ ¬ s.rwlock.Free (s.thread t).function) ∨
      ((∃ change, (s.thread t).pc = .countLock change) ∧ s.rcountlock ≠ none) ∨
      (s.thread t).pc = .returned := by
  have halted : s.run nloop t = none := by
    have halted := stuck t
    unfold State.step at halted
    rw [kept.running] at halted
    exact halted
  have proper := kept.proper t
  unfold Thread.Proper at proper
  unfold State.run at halted
  cases side : (s.thread t).function with
  | shared =>
    rw [side] at halted proper
    cases here : (s.thread t).pc with
    | lock =>
      refine .inl ⟨rfl, fun free => ?_⟩
      rw [here] at halted
      simp only [State.reader, State.lock, if_pos free, reduceCtorEq] at halted
    | countLock change =>
      refine .inr (.inl ⟨⟨change, rfl⟩, fun free => ?_⟩)
      rw [here] at halted
      simp only [State.reader, State.countLock, if_pos free, reduceCtorEq] at halted
    | returned => exact .inr (.inr rfl)
    | testReaders => exact absurd here proper
    | unlock =>
      rw [here] at halted
      exact absurd halted (unlock_isSome kept here)
    | testWriters =>
      rw [here] at halted
      simp only [State.reader] at halted
      split at halted <;> cases halted
    | countUnlock change =>
      rw [here] at halted
      cases change <;> cases halted
    | test | load | store | increment =>
      rw [here] at halted
      cases halted
  | exclusive =>
    rw [side] at halted proper
    cases here : (s.thread t).pc with
    | lock =>
      refine .inl ⟨rfl, fun free => ?_⟩
      rw [here] at halted
      simp only [State.writer, State.lock, if_pos free, reduceCtorEq] at halted
    | returned => exact .inr (.inr rfl)
    | countLock change => exact absurd here (proper change).1
    | countUnlock change => exact absurd here (proper change).2
    | unlock =>
      rw [here] at halted
      exact absurd halted (unlock_isSome kept here)
    | testWriters | testReaders =>
      rw [here] at halted
      simp only [State.writer] at halted
      split at halted <;> cases halted
    | store change =>
      rw [here] at halted
      cases change <;> cases halted
    | test | load | increment =>
      rw [here] at halted
      cases halted

/-- **Where no thread can step all have returned.** -/
theorem Stuck.returned (stuck : Stuck nloop s) (kept : Kept function s) (t : ι) :
    (s.thread t).pc = .returned := by
  have stands := stuck.stands kept
  have free : s.rcountlock = none := by
    by_contra held
    obtain ⟨u, holder⟩ := Option.ne_none_iff_exists'.mp held
    have counting : (s.thread u).counting = true := (kept.owner u).mpr holder
    unfold Thread.counting at counting
    rcases stands u with ⟨here, _⟩ | ⟨⟨change, here⟩, _⟩ | here <;> rw [here] at counting <;>
      exact absurd (Bool.and_eq_true_iff.mp counting).2 Bool.false_ne_true
  have outside : ∀ u side, s.rwlock u side = 0 := by
    intro u side
    rw [kept.locks]
    unfold Thread.locks
    refine if_neg fun both => ?_
    rcases stands u with ⟨here, _⟩ | ⟨_, held⟩ | here
    · rw [here] at both
      cases both.2
    · exact held free
    · rw [here] at both
      cases both.2
  rcases stands t with ⟨_, taken⟩ | ⟨_, held⟩ | here
  · refine absurd ?_ taken
    cases (s.thread t).function with
    | shared => exact fun u => outside u .exclusive
    | exclusive => exact outside
  · exact absurd free held
  · exact here

end Ends

/-- The `int` option bounds the number of readers. -/
theorem readers_lt (o : Options) : readers (functionOf o) < 2 ^ 31 := by
  have sides : readers (functionOf o) = o.nreaders.toInt.toNat := by
    unfold readers count total
    rw [Fintype.sum_sum_type]
    simp [functionOf]
  have bound := o.nreaders.toInt_lt
  rw [sides]
  omega

theorem left_start (nloop : ℤ) (function : ι → Side) :
    (start function).left nloop = Fintype.card ι * (13 * nloop.toNat + 1) := by
  have own : ∀ t, (((start function).thread t).left nloop : ℤ) = 13 * nloop.toNat + 1 := fun t => by
    show ((13 * (nloop - 0).toNat + 1 : ℕ) : ℤ) = _
    rw [Int.sub_zero]
    rfl
  unfold State.left total
  rw [Finset.sum_congr rfl fun t _ => own t, Finset.sum_const, Finset.card_univ, nsmul_eq_mul]

end Unpvol2.Rwlockc
