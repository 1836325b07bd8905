/-
**Inside and outside the bracket of `rwlock`.**

`Kept` says that a thread has the lock of its side exactly inside its bracket, that the lock keeps
its sides apart, and that the counters count the threads between their two changes. A value that has
been loaded is still the counter's when it is stored, since whoever stores is alone: a writer in the
lock, a reader under `rcountlock`.
-/

import Unpvol2.Lib.Mutex
import Unpvol2.Lib.Threads
import Unpvol2.Rwlockc.Step

set_option linter.unusedSectionVars false

namespace Unpvol2.Rwlockc

open C Interleaving
open SharedLock (Side Held)
open Test1 (Change Options)

variable {ι : Type} [DecidableEq ι] [Fintype ι]

/-! ### Inside the bracket -/

/-- Between the lock and its return. -/
def Pc.inside : Pc → Bool
  | .countLock _ | .load _ | .store _ _ | .countUnlock _ | .testWriters | .testReaders
  | .unlock => true
  | .test | .lock | .increment | .returned => false

/-- The thread has been counted and not been uncounted. -/
def Pc.inCount : Pc → Bool
  | .store .dec _ | .load .dec | .countLock .dec | .countUnlock .inc | .testWriters
  | .testReaders => true
  | .store .inc _ | .load .inc | .countLock .inc | .countUnlock .dec | .test | .lock | .unlock
  | .increment | .returned => false

theorem Pc.inside_of_inCount {pc : Pc} (counted : pc.inCount = true) : pc.inside = true := by
  cases pc <;> first | rfl | cases counted

/-- The thread is in the section of `rcountlock`. -/
def Thread.counting (x : Thread) : Bool :=
  x.function = .shared &&
    match x.pc with
    | .load _ | .store _ _ | .countUnlock _ => true
    | _ => false

/-- The thread is a counted one of the side. -/
def Thread.counts (side : Side) (x : Thread) : Bool := x.function = side && x.pc.inCount

/-- The statements that belong to the thread's function. -/
def Thread.Proper (x : Thread) : Prop :=
  match x.function with
  | .shared => x.pc ≠ .testReaders
  | .exclusive => ∀ change, x.pc ≠ .countLock change ∧ x.pc ≠ .countUnlock change

/-- The locks of a thread. -/
def Thread.locks (x : Thread) (side : Side) : ℕ :=
  if x.function = side ∧ x.pc.inside = true then 1 else 0

structure Kept (function : ι → Side) (s : State ι) : Prop where
  running : s.exited = false
  function : ∀ t, (s.thread t).function = function t
  locks : ∀ t side, s.rwlock t side = (s.thread t).locks side
  exclusive : s.rwlock.Exclusive
  counter : ∀ side, s.counter side = count (Thread.counts side) s.thread
  loaded : ∀ t change value, (s.thread t).pc = .store change value →
    value = s.counter (s.thread t).function
  owner : Owns s.rcountlock fun t => (s.thread t).counting
  /-- `writer` has no `rcountlock`, and `reader` does not test `shared.nreaders` -/
  proper : ∀ t, (s.thread t).Proper

variable {function : ι → Side}

theorem kept_start (function : ι → Side) : Kept function (start function) where
  running := rfl
  function := fun _ => rfl
  locks := fun t side => by
    unfold Thread.locks
    exact (if_neg fun both => by cases both.2).symm
  exclusive := SharedLock.exclusive_start
  counter := fun side => by
    have none : count (Thread.counts side) (start function).thread = 0 :=
      count_eq_zero_iff.mpr fun t => Bool.and_false _
    rw [none]
    cases side <;> rfl
  loaded := fun t change value here => by cases here
  owner := Owns.init fun t => Bool.and_false _
  proper := fun t => by
    show (⟨function t, .test, 0⟩ : Thread).Proper
    unfold Thread.Proper
    cases function t with
    | shared => exact fun same => by cases same
    | exclusive => exact fun _ => ⟨nofun, nofun⟩

section Facts

variable {s : State ι} {t u : ι}

theorem Kept.holds (kept : Kept function s) (inside : (s.thread t).pc.inside = true) :
    s.rwlock t (s.thread t).function ≠ 0 := by
  rw [kept.locks]
  unfold Thread.locks
  rw [if_pos ⟨rfl, inside⟩]
  exact Nat.one_ne_zero

/-- **Two threads inside are readers.** -/
theorem Kept.together (kept : Kept function s) (inside : (s.thread t).pc.inside = true)
    (inside' : (s.thread u).pc.inside = true) (other : u ≠ t) :
    (s.thread t).function = .shared ∧ (s.thread u).function = .shared := by
  have first := kept.holds inside
  have second := kept.holds inside'
  cases mine : (s.thread t).function with
  | exclusive =>
    rw [mine] at first
    cases theirs : (s.thread u).function with
    | exclusive =>
      rw [theirs] at second
      exact absurd (kept.exclusive.one u t second first) other
    | shared =>
      rw [theirs] at second
      exact absurd (kept.exclusive.alone t u first) second
  | shared =>
    rw [mine] at first
    cases theirs : (s.thread u).function with
    | exclusive =>
      rw [theirs] at second
      exact absurd (kept.exclusive.alone u t second) first
    | shared => exact ⟨rfl, rfl⟩

/-- **A counter that no other thread may have raised**: the thread inside is a writer, or the
counter is that of the writers. -/
theorem Kept.counter_le (kept : Kept function s) {side : Side}
    (inside : (s.thread t).pc.inside = true)
    (apart : (s.thread t).function = .exclusive ∨ side = .exclusive) :
    s.counter side ≤ if (s.thread t).counts side then 1 else 0 := by
  have others : ∀ u, (s.thread u).counts side = true → u = t := by
    intro u counted
    by_contra other
    obtain ⟨on, counted⟩ := Bool.and_eq_true_iff.mp counted
    have both := kept.together inside (Pc.inside_of_inCount counted) other
    rcases apart with writes | exclusive
    · rw [both.1] at writes
      cases writes
    · have on := of_decide_eq_true on
      rw [both.2, exclusive] at on
      cases on
  rw [kept.counter]
  split
  · exact count_le_one fun u v first second => (others u first).trans (others v second).symm
  · rename_i own
    refine (count_eq_zero_iff.mpr fun u => Bool.eq_false_of_not_eq_true fun counted => ?_).le
    exact own (others u counted ▸ counted)

theorem counts_le_limit (x : Thread) :
    (if x.counts .exclusive then (1 : ℤ) else 0) ≤ limit x.function := by
  unfold Thread.counts
  cases x.function with
  | shared => exact Int.le_refl 0
  | exclusive => split <;> decide

/-- **No test fails.** -/
theorem Kept.fine (kept : Kept function s) :
    ¬(((s.thread t).pc = .testWriters ∧ s.nwriters > limit (s.thread t).function) ∨
      ((s.thread t).pc = .testReaders ∧ (s.thread t).function = .exclusive ∧
        s.nreaders > 0)) := by
  rintro (⟨here, many⟩ | ⟨here, writes, many⟩)
  · have inside : (s.thread t).pc.inside = true := by
      rw [here]
      rfl
    have most : s.counter .exclusive ≤ limit (s.thread t).function :=
      (kept.counter_le inside (.inr rfl)).trans (counts_le_limit _)
    exact absurd many (Int.not_lt.mpr most)
  · have inside : (s.thread t).pc.inside = true := by
      rw [here]
      rfl
    have own : ¬ (s.thread t).counts .shared = true := by
      unfold Thread.counts
      rw [writes]
      exact Bool.false_ne_true
    have most : s.counter .shared ≤ _ := kept.counter_le inside (.inl writes)
    rw [if_neg own] at most
    exact absurd many (Int.not_lt.mpr most)

end Facts

/-! ### The steps -/

section Moves

variable {nloop : ℤ} {s s' : State ι} {t : ι} {x : Thread}

/-- A thread moves, and does not touch the lock. -/
theorem Kept.goes (kept : Kept function s) (thread : s'.thread = Function.update s.thread t x)
    (same : x.function = (s.thread t).function)
    (inside : x.pc.inside = (s.thread t).pc.inside) (running : s'.exited = s.exited)
    (rwlock : s'.rwlock = s.rwlock)
    (counter : ∀ side, s'.counter side + (if (s.thread t).counts side then 1 else 0) =
      s.counter side + if x.counts side then 1 else 0)
    (loaded : ∀ u change value, (s'.thread u).pc = .store change value →
      value = s'.counter (s'.thread u).function)
    (owner : Owns s'.rcountlock fun t => (s'.thread t).counting) (proper : x.Proper) :
    Kept function s' where
  running := running.trans kept.running
  function := fun u => by
    rw [thread]
    by_cases mover : u = t
    · rw [mover, Function.update_self, same]
      exact kept.function t
    · rw [Function.update_of_ne mover]
      exact kept.function u
  locks := fun u side => by
    rw [rwlock, thread]
    by_cases mover : u = t
    · rw [mover, Function.update_self, kept.locks]
      unfold Thread.locks
      rw [same, inside]
    · rw [Function.update_of_ne mover]
      exact kept.locks u side
  exclusive := rwlock ▸ kept.exclusive
  counter := fun side => by
    have change := counter side
    rw [kept.counter] at change
    rw [thread, count_update]
    omega
  loaded := loaded
  owner := owner
  proper := fun u => by
    rw [thread]
    by_cases mover : u = t
    · rw [mover, Function.update_self]
      exact proper
    · rw [Function.update_of_ne mover]
      exact kept.proper u

/-- What has been loaded stays, where the counters do. -/
theorem Kept.keepLoaded (kept : Kept function s)
    (thread : s'.thread = Function.update s.thread t x)
    (counter : ∀ side, s'.counter side = s.counter side)
    (own : ∀ change value, x.pc = .store change value → value = s.counter x.function) (u : ι)
    (change : Change) (value : ℤ) (here : (s'.thread u).pc = .store change value) :
    value = s'.counter (s'.thread u).function := by
  rw [counter]
  rw [thread] at here ⊢
  by_cases mover : u = t
  · rw [mover, Function.update_self] at here ⊢
    exact own change value here
  · rw [Function.update_of_ne mover] at here ⊢
    exact kept.loaded u change value here

/-- The owner of `rcountlock`, where nobody takes it or gives it back. -/
theorem Kept.keepOwner (kept : Kept function s)
    (thread : s'.thread = Function.update s.thread t x) (rcountlock : s'.rcountlock = s.rcountlock)
    (same : x.counting = (s.thread t).counting) :
    Owns s'.rcountlock fun t => (s'.thread t).counting := by
  rw [rcountlock]
  refine kept.owner.keep fun u => ?_
  rw [thread]
  by_cases mover : u = t
  · rw [mover, Function.update_self, same]
  · rw [Function.update_of_ne mover]

/-- A statement that changes nothing but where the thread stands. -/
theorem Kept.goto (kept : Kept function s) (x : Thread)
    (thread : s'.thread = Function.update s.thread t x)
    (same : x.function = (s.thread t).function)
    (inside : x.pc.inside = (s.thread t).pc.inside)
    (inCount : x.pc.inCount = (s.thread t).pc.inCount) (running : s'.exited = s.exited)
    (rwlock : s'.rwlock = s.rwlock) (rcountlock : s'.rcountlock = s.rcountlock)
    (counter : ∀ side, s'.counter side = s.counter side)
    (counting : x.counting = (s.thread t).counting)
    (loaded : ∀ change value, x.pc = .store change value → value = s.counter x.function)
    (proper : x.Proper) : Kept function s' := by
  refine kept.goes thread same inside running rwlock (fun side => ?_)
    (kept.keepLoaded thread counter loaded) (kept.keepOwner thread rcountlock counting) proper
  unfold Thread.counts
  rw [counter, same, inCount]

/-- A thread enters or leaves its bracket. -/
theorem Kept.bracket (kept : Kept function s) {side : Side} {n : ℕ}
    (thread : s'.thread = Function.update s.thread t x)
    (same : x.function = (s.thread t).function) (mine : (s.thread t).function = side)
    (rwlock : s'.rwlock = s.rwlock.set t side n) (locks : n = x.locks side)
    (exclusive : s'.rwlock.Exclusive) (running : s'.exited = s.exited)
    (inCount : x.pc.inCount = (s.thread t).pc.inCount) (rcountlock : s'.rcountlock = s.rcountlock)
    (counter : ∀ side, s'.counter side = s.counter side)
    (counting : x.counting = (s.thread t).counting)
    (loaded : ∀ change value, x.pc ≠ .store change value) (proper : x.Proper) :
    Kept function s' := by
  -- the rest is as after a statement that leaves the lock alone
  have other : ∀ u side', u ≠ t ∨ side' ≠ side → s'.rwlock u side' = s.rwlock u side' := by
    intro u side' ne
    rw [rwlock, SharedLock.Held.set_of_ne ne]
  refine ⟨running.trans kept.running, fun u => ?_, fun u side' => ?_, exclusive, fun side' => ?_,
    kept.keepLoaded thread counter fun change value here => absurd here (loaded change value),
    kept.keepOwner thread rcountlock counting, fun u => ?_⟩
  · rw [thread]
    by_cases mover : u = t
    · rw [mover, Function.update_self, same]
      exact kept.function t
    · rw [Function.update_of_ne mover]
      exact kept.function u
  · rw [thread]
    by_cases mover : u = t
    · subst mover
      rw [Function.update_self]
      by_cases here : side' = side
      · rw [here, rwlock, SharedLock.Held.set_self, locks]
      · rw [other _ _ (.inr here), kept.locks]
        unfold Thread.locks
        rw [if_neg fun both => here (both.1.symm.trans mine),
          if_neg fun both => here (both.1.symm.trans (same.trans mine))]
    · rw [Function.update_of_ne mover, other _ _ (.inl mover)]
      exact kept.locks u side'
  · rw [counter, kept.counter, thread, count_update]
    unfold Thread.counts
    rw [same, inCount]
    omega
  · rw [thread]
    by_cases mover : u = t
    · rw [mover, Function.update_self]
      exact proper
    · rw [Function.update_of_ne mover]
      exact kept.proper u

/-- The number of threads in `reader`. -/
def readers (function : ι → Side) : ℤ := count (fun side => side = .shared) function

/-- **An `int` counts the threads of a side.** -/
theorem Kept.counter_lt (kept : Kept function s) (few : readers function < 2 ^ 31)
    (inside : (s.thread t).pc.inside = true) :
    s.counter (s.thread t).function + (if (s.thread t).pc.inCount then 0 else 1) < 2 ^ 31 := by
  cases mine : (s.thread t).function with
  | exclusive =>
    have most := kept.counter_le inside (.inr rfl)
    unfold Thread.counts at most
    rw [mine] at most
    cases counted : (s.thread t).pc.inCount with
    | false =>
      rw [counted, Bool.and_false, if_neg Bool.false_ne_true] at most
      rw [if_neg Bool.false_ne_true]
      omega
    | true =>
      rw [counted, Bool.and_true, if_pos (decide_eq_true rfl)] at most
      rw [if_pos rfl]
      omega
  | shared =>
    rw [kept.counter]
    -- with the thread itself they are still readers
    have change := count_update (Thread.counts .shared) s.thread t
      { s.thread t with pc := .testWriters }
    have all : count (Thread.counts .shared) (Function.update s.thread t
        { s.thread t with pc := .testWriters }) ≤ readers function := by
      refine count_le_count fun u counted => ?_
      by_cases mover : u = t
      · rw [mover, ← kept.function t, mine]
        rfl
      · rw [Function.update_of_ne mover] at counted
        rw [← kept.function u]
        exact (Bool.and_eq_true_iff.mp counted).1
    have own : Thread.counts .shared { s.thread t with pc := .testWriters } = true := by
      unfold Thread.counts
      rw [mine]
      rfl
    have before : (s.thread t).counts .shared = (s.thread t).pc.inCount := by
      unfold Thread.counts
      rw [mine]
      rfl
    rw [own, before, if_pos rfl] at change
    split at change <;> split <;> omega

theorem setCounter_counter (value : ℤ) (side side' : Side) :
    (s.setCounter value side).counter side' = if side' = side then value else s.counter side' := by
  cases side <;> cases side' <;> rfl

@[simp] theorem setCounter_thread (value : ℤ) (side : Side) :
    (s.setCounter value side).thread = s.thread := by
  cases side <;> rfl

@[simp] theorem setCounter_exited (value : ℤ) (side : Side) :
    (s.setCounter value side).exited = s.exited := by
  cases side <;> rfl

@[simp] theorem setCounter_rwlock (value : ℤ) (side : Side) :
    (s.setCounter value side).rwlock = s.rwlock := by
  cases side <;> rfl

@[simp] theorem setCounter_rcountlock (value : ℤ) (side : Side) :
    (s.setCounter value side).rcountlock = s.rcountlock := by
  cases side <;> rfl

/-- What is stored is an `int`. -/
theorem Kept.stored_range (kept : Kept function s) (few : readers function < 2 ^ 31)
    {change : Change} {value : ℤ} (here : (s.thread t).pc = .store change value) :
    int32 (value + change.delta) = value + change.delta := by
  have inside : (s.thread t).pc.inside = true := by
    rw [here]
    rfl
  have small := kept.counter_lt few inside
  rw [here, ← kept.loaded t change value here] at small
  cases change with
  | inc =>
    have nonneg : 0 ≤ value := by
      rw [kept.loaded t _ value here, kept.counter]
      exact count_nonneg _ _
    exact int32_of_lt (Int.add_nonneg nonneg (by decide)) small
  | dec =>
    have some : 1 ≤ value := by
      rw [kept.loaded t _ value here, kept.counter]
      exact one_le_count (t := t) (Bool.and_eq_true_iff.mpr ⟨decide_eq_true rfl, by rw [here]; rfl⟩)
    have small : value + 0 < 2 ^ 31 := small
    exact int32_of_lt (show 0 ≤ value + -1 by omega) (show value + -1 < 2 ^ 31 by omega)

/-- **Whoever stores is alone**: two threads inside are readers, and they store under
`rcountlock`. -/
theorem Kept.alone (kept : Kept function s) {change change' : Change} {value value' : ℤ} {u : ι}
    (here : (s.thread t).pc = .store change value)
    (there : (s.thread u).pc = .store change' value') : u = t := by
  by_contra other
  have both := kept.together (t := t) (u := u) (by rw [here]; rfl) (by rw [there]; rfl) other
  have first : (s.thread t).counting = true := by
    unfold Thread.counting
    rw [both.1, here]
    rfl
  have second : (s.thread u).counting = true := by
    unfold Thread.counting
    rw [both.2, there]
    rfl
  exact other (kept.owner.unique second first)

/-- **The store of a counter.** -/
theorem Kept.store (kept : Kept function s) (few : readers function < 2 ^ 31) {change : Change}
    {value : ℤ} (here : (s.thread t).pc = .store change value) :
    Kept function ((s.goto t (stored (s.thread t).function change)).setCounter
      (int32 (value + change.delta)) (s.thread t).function) := by
  have next : ∀ side, (stored side change).inside = true ∧
      (∀ change' value', stored side change ≠ .store change' value') := by
    intro side
    cases side <;> cases change <;> exact ⟨rfl, nofun⟩
  refine kept.goes (x := { s.thread t with pc := stored (s.thread t).function change })
    (setCounter_thread _ _) rfl ?_ (setCounter_exited _ _) (setCounter_rwlock _ _) (fun side => ?_)
    (fun u change' value' there => ?_) (kept.keepOwner (setCounter_thread _ _)
      (setCounter_rcountlock _ _) ?_) ?_
  · rw [here]
    exact (next _).1
  · rw [setCounter_counter, kept.stored_range few here]
    unfold Thread.counts
    by_cases own : (s.thread t).function = side
    · rw [if_pos own.symm, kept.loaded t change value here, own, here]
      cases change <;> cases side <;> simp [Change.delta, stored, Pc.inCount]
    · rw [if_neg fun same => own same.symm, decide_eq_false own]
      rfl
  · rw [setCounter_thread] at there ⊢
    rw [setCounter_counter]
    have there : (Function.update s.thread t { s.thread t with
      pc := stored (s.thread t).function change } u).pc = .store change' value' := there
    show value' = if (Function.update s.thread t _ u).function = _ then _ else
      s.counter (Function.update s.thread t _ u).function
    by_cases mover : u = t
    · rw [mover, Function.update_self] at there
      exact absurd there ((next _).2 _ _)
    · rw [Function.update_of_ne mover] at there ⊢
      exact absurd (kept.alone here there) mover
  · unfold Thread.counting
    rw [here]
    cases change <;> cases (s.thread t).function <;> rfl
  · have proper := kept.proper t
    unfold Thread.Proper at proper ⊢
    cases side : (s.thread t).function with
    | shared => cases change <;> exact nofun
    | exclusive => cases change <;> exact fun _ => ⟨nofun, nofun⟩

theorem Thread.proper_of_plain (section' : ∀ change, x.pc ≠ .countLock change ∧
    x.pc ≠ .countUnlock change) (readers : x.pc ≠ .testReaders) : x.Proper := by
  unfold Thread.Proper
  cases x.function with
  | shared => exact readers
  | exclusive => exact section'

/-- **Every step keeps it.** -/
theorem Kept.step (kept : Kept function s) (few : readers function < 2 ^ 31)
    (step : Step nloop s t s') : Kept function s' := by
  have proper := kept.proper t
  unfold Thread.Proper at proper
  cases step with
  | more here | done here =>
    refine kept.goto { s.thread t with pc := _ } rfl rfl (by rw [here]; rfl) (by rw [here]; rfl)
      rfl rfl rfl (fun side => by cases side <;> rfl) ?_ nofun ?_
    · unfold Thread.counting
      rw [here]
    · exact Thread.proper_of_plain (fun _ => ⟨nofun, nofun⟩) nofun
  | lock here free =>
    have outside : s.rwlock t (s.thread t).function = 0 := by
      rw [kept.locks]
      unfold Thread.locks
      rw [here]
      exact if_neg fun both => by cases both.2
    refine kept.bracket (x := { s.thread t with pc := entry (s.thread t).function }) rfl rfl rfl rfl
      ?_ (free.grant t) rfl ?_ rfl (fun side => by cases side <;> rfl) ?_ ?_ ?_
    · rw [outside]
      unfold Thread.locks
      exact (if_pos ⟨rfl, by cases (s.thread t).function <;> rfl⟩).symm
    · rw [here]
      cases (s.thread t).function <;> rfl
    · unfold Thread.counting
      rw [here]
      cases (s.thread t).function <;> rfl
    · cases (s.thread t).function <;> exact nofun
    · unfold Thread.Proper
      cases (s.thread t).function <;> [exact nofun; exact fun _ => ⟨nofun, nofun⟩]
  | countLock change here reads free =>
    have owner : Owns none fun t => (s.thread t).counting := free ▸ kept.owner
    refine kept.goes (x := { s.thread t with pc := .load change }) rfl rfl (by rw [here]; rfl) rfl
      rfl (fun side => ?_) (kept.keepLoaded rfl (fun side => by cases side <;> rfl) nofun)
      (owner.lock (t := t) ?_ fun u ne => ?_)
      (Thread.proper_of_plain (fun _ => ⟨nofun, nofun⟩) nofun)
    · unfold Thread.counts
      rw [here]
      cases change <;> cases side <;> rfl
    · show (Function.update s.thread t _ t).counting = true
      rw [Function.update_self]
      unfold Thread.counting
      rw [reads]
      rfl
    · show (Function.update s.thread t _ u).counting = _
      rw [Function.update_of_ne ne]
  | load change here =>
    refine kept.goto { s.thread t with pc := _ } rfl rfl (by rw [here]; rfl)
      (by rw [here]; cases change <;> rfl) rfl rfl rfl (fun side => by cases side <;> rfl) ?_ ?_ ?_
    · unfold Thread.counting
      rw [here]
    · rintro _ _ ⟨⟩
      rfl
    · exact Thread.proper_of_plain (fun _ => ⟨nofun, nofun⟩) nofun
  | store change value here => exact kept.store few here
  | countUnlock change here reads =>
    refine kept.goes (x := { s.thread t with pc := counted change }) rfl rfl
      (by rw [here]; cases change <;> rfl) rfl rfl (fun side => ?_)
      (kept.keepLoaded rfl (fun side => by cases side <;> rfl) (by cases change <;> exact nofun))
      (kept.owner.unlock (t := t) ?_ ?_ fun u ne => ?_)
      (by cases change <;> exact Thread.proper_of_plain (fun _ => ⟨nofun, nofun⟩) nofun)
    · unfold Thread.counts
      rw [here]
      cases change <;> cases side <;> rfl
    · show (s.thread t).counting = true
      unfold Thread.counting
      rw [reads, here]
      rfl
    · show (Function.update s.thread t _ t).counting = false
      rw [Function.update_self]
      unfold Thread.counting
      cases change <;> exact Bool.and_false _
    · show (Function.update s.thread t _ u).counting = _
      rw [Function.update_of_ne ne]
  | testWriters here fine =>
    refine kept.goto { s.thread t with pc := _ } rfl rfl ?_ ?_ rfl rfl rfl
      (fun side => by cases side <;> rfl) ?_ ?_ ?_
    · rw [here]
      cases (s.thread t).function <;> rfl
    · rw [here]
      cases (s.thread t).function <;> rfl
    · unfold Thread.counting
      rw [here]
      cases (s.thread t).function <;> rfl
    · cases (s.thread t).function <;> exact nofun
    · unfold Thread.Proper
      cases (s.thread t).function <;> [exact nofun; exact fun _ => ⟨nofun, nofun⟩]
  | testReaders here writes fine =>
    refine kept.goto { s.thread t with pc := _ } rfl rfl (by rw [here]; rfl) (by rw [here]; rfl)
      rfl rfl rfl (fun side => by cases side <;> rfl) ?_ nofun ?_
    · unfold Thread.counting
      rw [here, writes]
      rfl
    · unfold Thread.Proper
      rw [writes]
      exact fun _ => ⟨nofun, nofun⟩
  | exit bad => exact absurd bad kept.fine
  | unlock side here holds =>
    have mine : (s.thread t).function = side ∧ s.rwlock t side = 1 := by
      rw [kept.locks] at holds ⊢
      unfold Thread.locks at holds ⊢
      split at holds
      · rename_i both
        exact ⟨both.1, if_pos both⟩
      · exact absurd holds (Nat.lt_irrefl 0)
    refine kept.bracket (x := { s.thread t with pc := .increment }) rfl rfl mine.1 rfl ?_
      (kept.exclusive.release t side) rfl (by rw [here]; rfl) rfl
      (fun side => by cases side <;> rfl) ?_ nofun
      (Thread.proper_of_plain (fun _ => ⟨nofun, nofun⟩) nofun)
    · rw [mine.2]
      unfold Thread.locks
      exact (if_neg fun both => by cases both.2).symm
    · unfold Thread.counting
      rw [here]
  | increment here =>
    refine kept.goto { s.thread t with pc := .test, i := _ } rfl rfl (by rw [here]; rfl)
      (by rw [here]; rfl) rfl rfl rfl (fun side => by cases side <;> rfl) ?_ nofun ?_
    · unfold Thread.counting
      rw [here]
    · exact Thread.proper_of_plain (fun _ => ⟨nofun, nofun⟩) nofun

end Moves

end Unpvol2.Rwlockc
