/-
**`test1` finds nothing wrong and comes to an end.**

`Tallied` says that `shared.nreaders` and `shared.nwriters` count the threads between the two
changes of their counter, that a value that has been loaded is still the counter's value when it is
stored, and that `rcountlock` is held by the reader that changes `shared.nreaders`. The exclusion
of the lock carries it: two threads in the bracket are both readers, so no `exit(-1)` is reached
and no change of `shared.nwriters` is lost.

A state in which no thread can step leaves only sleepers on the lock; the lock is then free, and
by its accounting and its wake-ups there are none.
-/

import Mathlib.Data.Fintype.BigOperators
import Unpvol2.Test1.Link

set_option linter.unusedSectionVars false

namespace Unpvol2.Test1

open C Interleaving Rwlock

variable {ι : Type} [DecidableEq ι] [Fintype ι] {s s' : State ι}

/-! ### Between the two changes of a counter -/

/-- The thread has been counted and not been uncounted. -/
def Pc.inCount : Pc → Bool
  | .store .dec _ | .load .dec | .countLock .dec | .countUnlock .inc | .testWriters
  | .testReaders => true
  | _ => false

/-- The thread is in the section of `rcountlock`. -/
def Thread.counting (x : Thread) : Bool :=
  x.function = .rd &&
    match x.pc with
    | .load _ | .store _ _ | .countUnlock _ => true
    | _ => false

/-- The statements that belong to the thread's function. -/
def Thread.Proper (x : Thread) : Prop :=
  match x.function with
  | .rd => x.pc ≠ .testReaders
  | .wr => ∀ change, x.pc ≠ .countLock change ∧ x.pc ≠ .countUnlock change

/-- The number of threads of a side that are counted. -/
def State.tally (s : State ι) (m : Mode) : ℤ :=
  count (fun x : Thread => x.function = m && x.pc.inCount) s.thread

structure Tallied (s : State ι) : Prop where
  running : s.exited = false
  counter : ∀ m, s.counter m = s.tally m
  loaded : ∀ t change value, (s.thread t).pc = .store change value →
    value = s.counter (s.thread t).function
  owner : ∀ t, (s.thread t).counting = true ↔ s.rcountlock = some t
  proper : ∀ t, (s.thread t).Proper

theorem tallied_start (function : ι → Mode) : Tallied (start function) where
  running := rfl
  counter := fun m => by
    have none : (start function).tally m = 0 := count_eq_zero_iff.mpr fun t => Bool.and_false _
    rw [none]
    cases m <;> rfl
  loaded := fun t change value here => by cases here
  owner := fun t => by simp [start, Thread.counting]
  proper := fun t => by
    show (⟨function t, .test, 0⟩ : Thread).Proper
    unfold Thread.Proper
    cases function t with
    | rd => exact fun same => by cases same
    | wr => exact fun _ => ⟨nofun, nofun⟩

/-- The counted are inside their bracket. -/
theorem inCount_stage {pc : Pc} (inside : pc.inCount = true) : pc.stage = .holding := by
  cases pc <;> first | rfl | cases inside

/-! ### The exclusion -/

/-- **A writer in its bracket is alone.** -/
theorem Linked.alone (linked : Linked s) (accounted : Accounted s.rwlock) {t u : ι}
    (writes : (s.thread t).function = .wr) (holding : (s.thread t).pc.stage = .holding)
    (holding' : (s.thread u).pc.stage = .holding) : t = u := by
  by_contra ne
  have own := linked.link t
  have other := linked.link u
  unfold Link at own other
  rw [holding, writes] at own
  rw [holding'] at other
  have one := own.2 .wr
  simp only [Thread.held] at one
  exact accounted.writer_alone ne own.1 (by rw [one]; decide) other.1 other.2.holds

theorem Linked.tally_writers (linked : Linked s) (accounted : Accounted s.rwlock) :
    s.tally .wr ≤ 1 := by
  refine count_le_one fun t u found found' => ?_
  simp only [Bool.and_eq_true, decide_eq_true_eq] at found found'
  exact linked.alone accounted found.1 (inCount_stage found.2) (inCount_stage found'.2)

theorem tally_readers {function : ι → Mode} (same : ∀ t, (s.thread t).function = function t) :
    s.tally .rd ≤ readers function := by
  refine count_le_count fun t found => ?_
  simp only [Bool.and_eq_true, decide_eq_true_eq] at found
  exact decide_eq_true ((same t).symm.trans found.1)

/-- With a writer in its bracket, nobody else is counted. -/
theorem Linked.tally_eq_zero (linked : Linked s) (accounted : Accounted s.rwlock) {t : ι}
    (writes : (s.thread t).function = .wr) (holding : (s.thread t).pc.stage = .holding)
    {m : Mode} (out : m = .rd ∨ (s.thread t).pc.inCount = false) : s.tally m = 0 := by
  refine count_eq_zero_iff.mpr fun u => ?_
  by_contra found
  have found := Bool.eq_true_of_not_eq_false found
  simp only [Bool.and_eq_true, decide_eq_true_eq] at found
  obtain rfl := linked.alone accounted writes holding (inCount_stage found.2)
  rcases out with rfl | out
  · rw [writes] at found
    cases found.1
  · rw [out] at found
    cases found.2

/-! ### One step -/

/-- A step of thread `t` that changes no counter. -/
theorem Tallied.moved (tallied : Tallied s) (t : ι) (x : Thread) (running : s'.exited = s.exited)
    (thread : s'.thread = Function.update s.thread t x)
    (counter : ∀ m, s'.counter m = s.counter m)
    (function : x.function = (s.thread t).function)
    (inCount : x.pc.inCount = (s.thread t).pc.inCount)
    (loaded : ∀ change value, x.pc = .store change value → value = s.counter x.function)
    (owner : ∀ u, (s'.thread u).counting = true ↔ s'.rcountlock = some u) (proper : x.Proper) :
    Tallied s' where
  running := running.trans tallied.running
  counter := fun m => by
    have same : s'.tally m = s.tally m := by
      unfold State.tally
      rw [thread, count_update, function, inCount]
      omega
    rw [counter, same]
    exact tallied.counter m
  loaded := fun u change value here => by
    rw [counter]
    rw [thread] at here ⊢
    by_cases same : u = t
    · subst same
      rw [Function.update_self] at here ⊢
      exact loaded change value here
    · rw [Function.update_of_ne same] at here ⊢
      exact tallied.loaded u change value here
  owner := owner
  proper := fun u => by
    rw [thread]
    by_cases same : u = t
    · rw [same, Function.update_self]
      exact proper
    · rw [Function.update_of_ne same]
      exact tallied.proper u

/-- A statement that touches neither a counter nor `rcountlock`. -/
theorem Tallied.goto (tallied : Tallied s) (t : ι) (x : Thread) (running : s'.exited = s.exited)
    (thread : s'.thread = Function.update s.thread t x)
    (counter : ∀ m, s'.counter m = s.counter m) (rcountlock : s'.rcountlock = s.rcountlock)
    (function : x.function = (s.thread t).function)
    (inCount : x.pc.inCount = (s.thread t).pc.inCount)
    (loaded : ∀ change value, x.pc = .store change value → value = s.counter x.function)
    (counting : x.counting = (s.thread t).counting) (proper : x.Proper) : Tallied s' := by
  refine tallied.moved t x running thread counter function inCount loaded (fun u => ?_) proper
  rw [rcountlock, thread]
  by_cases same : u = t
  · rw [same, Function.update_self, counting]
    exact tallied.owner t
  · rw [Function.update_of_ne same]
    exact tallied.owner u

/-- The counting of a thread at a statement. -/
theorem stored_inCount (m : Mode) (change : Change) :
    (stored m change).inCount = decide (change = .inc) := by
  cases m <;> cases change <;> rfl

theorem store_inCount (change : Change) (value : ℤ) :
    (Pc.store change value).inCount = decide (change = .dec) := by
  cases change <;> rfl

@[simp] theorem setCounter_counter (value : ℤ) (m m' : Mode) :
    (s.setCounter value m).counter m' = if m' = m then value else s.counter m' := by
  cases m <;> cases m' <;> rfl

@[simp] theorem setCounter_rcountlock (value : ℤ) (m : Mode) :
    (s.setCounter value m).rcountlock = s.rcountlock := by
  cases m <;> rfl

@[simp] theorem setCounter_exited (value : ℤ) (m : Mode) :
    (s.setCounter value m).exited = s.exited := by
  cases m <;> rfl

@[simp] theorem setCounter_tally (value : ℤ) (m m' : Mode) :
    (s.setCounter value m).tally m' = s.tally m' := by
  unfold State.tally
  rw [setCounter_thread]

/-- A store changes its tally like its counter. -/
theorem stored_tally {t : ι} {change : Change} {value : ℤ}
    (here : (s.thread t).pc = .store change value) (m : Mode) :
    (s.goto t (stored (s.thread t).function change)).tally m =
      s.tally m + if m = (s.thread t).function then change.delta else 0 := by
  show count _ (Function.update s.thread t _) = _
  rw [count_update, here, store_inCount, stored_inCount]
  unfold State.tally
  cases change <;> cases m <;> cases (s.thread t).function <;> simp [Change.delta, sub_eq_add_neg]

/-- **One thread at a time stores a counter**: the readers by `rcountlock`, a writer by the lock. -/
theorem Tallied.store_alone (tallied : Tallied s) (linked : Linked s)
    (accounted : Accounted s.rwlock) {t u : ι} {change change' : Change} {value value' : ℤ}
    (here : (s.thread t).pc = .store change value) (there : (s.thread u).pc = .store change' value')
    (side : (s.thread u).function = (s.thread t).function) : u = t := by
  cases function : (s.thread t).function with
  | rd =>
    have mine := (tallied.owner t).mp (by simp [Thread.counting, function, here])
    have its := (tallied.owner u).mp (by simp [Thread.counting, side.trans function, there])
    rw [mine] at its
    exact (Option.some.inj its).symm
  | wr =>
    exact (linked.alone accounted function (by rw [here]; rfl) (by rw [there]; rfl)).symm

/-- **The store of a counter**: what was loaded is still there, so the change is one. -/
theorem Tallied.store (tallied : Tallied s) (linked : Linked s) (accounted : Accounted s.rwlock)
    (few : ∀ t next, (s.goto t next).tally .rd < 2 ^ 31) {t : ι} {change : Change} {value : ℤ}
    (here : (s.thread t).pc = .store change value) :
    Tallied ((s.goto t (stored (s.thread t).function change)).setCounter
      (int32 (value + change.delta)) (s.thread t).function) := by
  have old : value = s.tally (s.thread t).function :=
    (tallied.loaded t change value here).trans (tallied.counter _)
  have after := stored_tally here
  have now := after (s.thread t).function
  rw [if_pos rfl] at now
  have nonneg : 0 ≤ s.tally (s.thread t).function + change.delta := by
    rw [← now]
    exact count_nonneg _ _
  have small : s.tally (s.thread t).function + change.delta < 2 ^ 31 := by
    cases function : (s.thread t).function with
    | rd =>
      rw [function] at now
      rw [← now]
      exact few t _
    | wr =>
      have one := linked.tally_writers accounted
      have le : change.delta ≤ 1 := by cases change <;> decide
      omega
  rw [old, int32_of_lt nonneg small]
  have own := goto_own (s := s) t (stored (s.thread t).function change)
  refine ⟨by rw [setCounter_exited]; exact tallied.running, fun m => ?_,
    fun u change' value' there => ?_, fun u => ?_, fun u => ?_⟩
  · -- the counter and the tally change alike
    rw [setCounter_counter, setCounter_tally, after]
    split
    · rename_i same
      rw [same]
    · rw [add_zero]
      exact tallied.counter m
  · -- no other thread is about to store a value of this counter
    rw [setCounter_thread] at there ⊢
    rw [setCounter_counter]
    by_cases same : u = t
    · rw [same, own] at there
      cases function : (s.thread t).function <;> rw [function] at there <;> cases change <;>
        cases there
    · rw [goto_others _ same] at there ⊢
      rw [tallied.loaded u change' value' there]
      exact (if_neg fun side =>
        same (tallied.store_alone linked accounted here there side)).symm
  · -- a reader keeps `rcountlock` until its unlock
    rw [setCounter_thread, setCounter_rcountlock]
    show _ ↔ s.rcountlock = some u
    by_cases same : u = t
    · rw [same, own, ← tallied.owner t]
      cases function : (s.thread t).function <;> cases change <;>
        simp [Thread.counting, function, here, stored]
    · rw [goto_others _ same]
      exact tallied.owner u
  · rw [setCounter_thread]
    by_cases same : u = t
    · rw [same, own]
      unfold Thread.Proper
      cases function : (s.thread t).function with
      | rd => exact fun same => by cases change <;> cases same
      | wr => cases change <;> exact fun _ => ⟨nofun, nofun⟩
    · rw [goto_others _ same]
      exact tallied.proper u

/-- `pthread_mutex_lock(&shared.rcountlock)`. -/
theorem Tallied.countLock (tallied : Tallied s) {t : ι} {change : Change}
    (here : (s.thread t).pc = .countLock change) (reads : (s.thread t).function = .rd)
    (free : s.rcountlock = none) :
    Tallied { s.goto t (.load change) with rcountlock := some t } := by
  refine tallied.moved t _ rfl rfl (fun m => by cases m <;> rfl) rfl ?_ (fun _ _ same => ?_)
    (fun u => ?_) ?_
  · rw [here]
    cases change <;> rfl
  · cases same
  · show ((s.goto t (.load change)).thread u).counting = true ↔ some t = some u
    by_cases same : u = t
    · rw [same, goto_own]
      simp [Thread.counting, reads]
    · rw [goto_others _ same, tallied.owner u, free]
      exact ⟨nofun, fun taken => absurd (Option.some.inj taken).symm same⟩
  · unfold Thread.Proper
    rw [reads]
    exact fun same => by cases same

/-- `pthread_mutex_unlock(&shared.rcountlock)`. -/
theorem Tallied.countUnlock (tallied : Tallied s) {t : ι} {change : Change}
    (here : (s.thread t).pc = .countUnlock change) (reads : (s.thread t).function = .rd) :
    Tallied (s.countUnlock t (counted change)) := by
  have mine : s.rcountlock = some t :=
    (tallied.owner t).mp (by simp [Thread.counting, reads, here])
  refine tallied.moved t _ rfl rfl (fun m => by cases m <;> rfl) rfl ?_ (fun _ _ same => ?_)
    (fun u => ?_) ?_
  · rw [here]
    cases change <;> rfl
  · cases change <;> cases same
  · show ((s.goto t (counted change)).thread u).counting = true ↔ none = some u
    by_cases same : u = t
    · rw [same, goto_own]
      cases change <;> simp [Thread.counting, reads, counted]
    · rw [goto_others _ same, tallied.owner u, mine]
      exact ⟨fun taken => absurd (Option.some.inj taken).symm same, nofun⟩
  · unfold Thread.Proper
    rw [reads]
    cases change <;> exact fun same => by cases same

/-- **No test finds a thread that the lock should keep out.** -/
theorem Tallied.no_exit (tallied : Tallied s) (linked : Linked s)
    (accounted : Accounted s.rwlock) {t : ι} :
    ¬ (((s.thread t).pc = .testWriters ∧ s.nwriters > limit (s.thread t).function) ∨
      ((s.thread t).pc = .testReaders ∧ (s.thread t).function = .wr ∧ s.nreaders > 0)) := by
  have writers : s.nwriters = s.tally .wr := tallied.counter .wr
  have readers : s.nreaders = s.tally .rd := tallied.counter .rd
  rintro (⟨here, bad⟩ | ⟨here, writes, bad⟩)
  · cases function : (s.thread t).function with
    | wr =>
      have one := linked.tally_writers accounted
      rw [function] at bad
      simp only [limit] at bad
      omega
    | rd =>
      rw [function, writers] at bad
      obtain ⟨u, found⟩ := exists_of_count_pos bad
      simp only [Bool.and_eq_true, decide_eq_true_eq] at found
      have same := linked.alone accounted found.1 (inCount_stage found.2)
        (show (s.thread t).pc.stage = .holding by rw [here]; rfl)
      rw [same, function] at found
      cases found.1
  · have none := linked.tally_eq_zero accounted (m := .rd) writes
      (by rw [here]; rfl) (Or.inl rfl)
    omega

/-- **Every step keeps the counters right.** -/
theorem Tallied.step {action : Act ι} (tallied : Tallied s) (linked : Linked s)
    (accounted : Accounted s.rwlock) (few : ∀ t next, (s.goto t next).tally .rd < 2 ^ 31)
    (step : Step s action s') : Tallied s' := by
  have counters : ∀ (s' : State ι), s'.nreaders = s.nreaders → s'.nwriters = s.nwriters →
      ∀ m, s'.counter m = s.counter m := by
    intro s' reads writes m
    cases m with
    | rd => exact reads
    | wr => exact writes
  cases step with
  | test t next here branch =>
    refine tallied.goto t _ rfl rfl (counters _ rfl rfl) rfl rfl ?_ ?_ ?_ ?_
    · rw [here]
      rcases branch with rfl | rfl <;> rfl
    · rcases branch with rfl | rfl <;> exact fun _ _ same => by cases same
    · rcases branch with rfl | rfl <;> simp [Thread.counting, here]
    · unfold Thread.Proper
      rcases branch with rfl | rfl <;> split <;> simp
  | call t c next rwlock here step =>
    refine tallied.goto t _ rfl rfl (counters _ rfl rfl) rfl rfl ?_ ?_ ?_ ?_
    · rcases here with ⟨here, _, rfl⟩ | ⟨here, _, rfl⟩ <;> rw [here] <;> rfl
    · rcases here with ⟨here, _, rfl⟩ | ⟨here, _, rfl⟩ <;> exact fun _ _ same => by cases same
    · rcases here with ⟨here, _, rfl⟩ | ⟨here, _, rfl⟩ <;> simp [Thread.counting, here]
    · unfold Thread.Proper
      rcases here with ⟨here, _, rfl⟩ | ⟨here, _, rfl⟩ <;> split <;> simp
  | locked t here idle =>
    refine tallied.goto t _ rfl rfl (counters _ rfl rfl) rfl rfl ?_ ?_ ?_ ?_
    · rw [here]
      cases (s.thread t).function <;> rfl
    · cases (s.thread t).function <;> exact fun _ _ same => by cases same
    · cases function : (s.thread t).function <;> simp [Thread.counting, here, function, entry]
    · unfold Thread.Proper
      cases function : (s.thread t).function <;> simp [entry]
  | unlocked t here idle =>
    refine tallied.goto t _ rfl rfl (counters _ rfl rfl) rfl rfl ?_ (fun _ _ same => ?_) ?_ ?_
    · rw [here]
      rfl
    · cases same
    · simp [Thread.counting, here]
    · unfold Thread.Proper
      split <;> simp
  | countLock t change here reads free => exact tallied.countLock here reads free
  | load t change here =>
    refine tallied.goto t _ rfl rfl (counters _ rfl rfl) rfl rfl ?_ (fun _ _ same => ?_) ?_ ?_
    · rw [here]
      cases change <;> rfl
    · cases same
      rfl
    · simp [Thread.counting, here]
    · unfold Thread.Proper
      split <;> simp
  | store t change value here => exact tallied.store linked accounted few here
  | countUnlock t change here reads => exact tallied.countUnlock here reads
  | testWriters t here fine =>
    refine tallied.goto t _ rfl rfl (counters _ rfl rfl) rfl rfl ?_ ?_ ?_ ?_
    · rw [here]
      cases (s.thread t).function <;> rfl
    · cases (s.thread t).function <;> exact fun _ _ same => by cases same
    · cases function : (s.thread t).function <;> simp [Thread.counting, here, function, tested]
    · unfold Thread.Proper
      cases function : (s.thread t).function <;> simp [tested]
  | testReaders t here writes fine =>
    refine tallied.goto t _ rfl rfl (counters _ rfl rfl) rfl rfl ?_ (fun _ _ same => ?_) ?_ ?_
    · rw [here]
      rfl
    · cases same
    · simp [Thread.counting, here, writes]
    · unfold Thread.Proper
      split <;> simp
  | exit t bad => exact absurd bad (tallied.no_exit linked accounted)
  | inside action inner rwlock step =>
    exact ⟨tallied.running, fun m => (counters _ rfl rfl m).trans (tallied.counter m),
      fun t change value here => (tallied.loaded t change value here).trans
        (counters _ rfl rfl _).symm, tallied.owner, tallied.proper⟩

/-! ### Reachable states -/

section Reachable

variable {nloop : ℤ} {function : ι → Mode}

theorem reachable_tallied (few : readers function < 2 ^ 31)
    (reachable : (system nloop function).Reachable Succeeds s) : Tallied s := by
  refine reachable.induct (tallied_start function) ?_
  intro s action s' before tallied succeeds step
  have accounted : Accounted s.rwlock :=
    reachable_accounted ((lock_reachable few before).mono fun _ _ proper => proper.1)
  refine tallied.step (reachable_linked before) accounted (fun t next => ?_) (step_cases step).2
  refine lt_of_le_of_lt (tally_readers fun u => ?_) few
  have own := reachable_function before u
  by_cases same : u = t
  · rw [same, goto_own]
    exact same ▸ own
  · rw [goto_others _ same]
    exact own

/-! ### No thread can step -/

theorem step_run (running : s.ended = false) (t : ι) :
    s.step nloop (.run t) = s.run nloop t := by
  rw [State.step, running]
  rfl

theorem step_lock (running : s.ended = false) {action : Rwlock.Act ι} (own : action.own = true) :
    s.step nloop (.lock action) =
      (s.rwlock.step action).map fun rwlock => { s with rwlock := rwlock } := by
  have inner : action.inner = true := by cases action <;> first | rfl | cases own
  rw [State.step, running]
  exact if_pos inner

/-- No thread can step inside the lock. -/
theorem Stuck.lock (stuck : Stuck nloop s) (running : s.ended = false) : ¬ CanStep s.rwlock := by
  rintro ⟨action, own, succeeds, possible⟩
  have blocked := stuck.2 action own succeeds
  rw [step_lock running own, Option.map_eq_none_iff] at blocked
  rw [blocked] at possible
  cases possible

/-- A thread outside the lock can call its functions. -/
theorem call_ne_none (ready : s.rwlock.exited = false) {t : ι} (idle : s.rwlock.loc t = .idle)
    (c : Call) (next : Pc) : s.call t c next ≠ none := by
  have called : s.rwlock.step (.call t c) = some (s.rwlock.goto t (.entered c)) := by
    rw [step_eq_act ready]
    exact if_pos idle
  rw [State.call, called]
  exact Option.some_ne_none _

theorem back_eq_none {t : ι} {after : State ι} (blocked : s.back t after = none) :
    s.rwlock.loc t ≠ .idle := by
  intro idle
  rw [State.back, if_pos idle] at blocked
  cases blocked

/-- Thread `t` has returned, is in a function of the lock, or waits for `rcountlock`. -/
def Halted (s : State ι) (t : ι) (pc : Pc) : Prop :=
  pc = .returned ∨ ((pc = .locking ∨ pc = .unlocking) ∧ s.rwlock.loc t ≠ .idle) ∨
    (∃ change, pc = .countLock change) ∧ s.rcountlock ≠ none

theorem reader_halted (ready : s.rwlock.exited = false) {t : ι} {pc : Pc}
    (idle : pc = .lock ∨ pc = .unlock → s.rwlock.loc t = .idle) (proper : pc ≠ .testReaders)
    (blocked : s.reader nloop t pc = none) : Halted s t pc := by
  cases pc with
  | test | load | store => cases blocked
  | lock => exact absurd blocked (call_ne_none ready (idle (Or.inl rfl)) _ _)
  | unlock => exact absurd blocked (call_ne_none ready (idle (Or.inr rfl)) _ _)
  | locking => exact Or.inr (Or.inl ⟨Or.inl rfl, back_eq_none blocked⟩)
  | unlocking => exact Or.inr (Or.inl ⟨Or.inr rfl, back_eq_none blocked⟩)
  | countLock change =>
    refine Or.inr (Or.inr ⟨⟨change, rfl⟩, fun free => ?_⟩)
    rw [State.reader, State.countLock, if_pos free] at blocked
    cases blocked
  | countUnlock change => cases change <;> cases blocked
  | testWriters =>
    simp only [State.reader] at blocked
    split at blocked <;> cases blocked
  | testReaders => exact absurd rfl proper
  | returned => exact Or.inl rfl

theorem writer_halted (ready : s.rwlock.exited = false) {t : ι} {pc : Pc}
    (idle : pc = .lock ∨ pc = .unlock → s.rwlock.loc t = .idle)
    (proper : ∀ change, pc ≠ .countLock change ∧ pc ≠ .countUnlock change)
    (blocked : s.writer nloop t pc = none) : Halted s t pc := by
  cases pc with
  | test | load => cases blocked
  | lock => exact absurd blocked (call_ne_none ready (idle (Or.inl rfl)) _ _)
  | unlock => exact absurd blocked (call_ne_none ready (idle (Or.inr rfl)) _ _)
  | locking => exact Or.inr (Or.inl ⟨Or.inl rfl, back_eq_none blocked⟩)
  | unlocking => exact Or.inr (Or.inl ⟨Or.inr rfl, back_eq_none blocked⟩)
  | countLock change => exact absurd rfl (proper change).1
  | countUnlock change => exact absurd rfl (proper change).2
  | store change value => cases change <;> cases blocked
  | testWriters =>
    simp only [State.writer] at blocked
    split at blocked <;> cases blocked
  | testReaders =>
    simp only [State.writer] at blocked
    split at blocked <;> cases blocked
  | returned => exact Or.inl rfl

/-- **Where a thread that cannot step stands.** -/
theorem Stuck.halted (stuck : Stuck nloop s) (running : s.ended = false) (tallied : Tallied s)
    (linked : Linked s) (t : ι) : Halted s t (s.thread t).pc := by
  have blocked := stuck.1 t
  have proper := tallied.proper t
  have ready : s.rwlock.exited = false := (Bool.or_eq_false_iff.mp running).2
  have idle : (s.thread t).pc = .lock ∨ (s.thread t).pc = .unlock → s.rwlock.loc t = .idle := by
    have link := linked.link t
    unfold Link at link
    rintro (here | here) <;> rw [here] at link <;> exact link.1
  unfold Thread.Proper at proper
  rw [step_run running, State.run] at blocked
  cases function : (s.thread t).function with
  | rd =>
    rw [function] at blocked proper
    exact reader_halted ready idle proper blocked
  | wr =>
    rw [function] at blocked proper
    exact writer_halted ready idle proper blocked

/-- Nobody is stuck at `rcountlock`: its owner could go on. -/
theorem Stuck.rcountlock (stuck : Stuck nloop s) (running : s.ended = false)
    (tallied : Tallied s) (linked : Linked s) : s.rcountlock = none := by
  cases owner : s.rcountlock with
  | none => rfl
  | some t =>
    have counting := (tallied.owner t).mpr owner
    rcases stuck.halted running tallied linked t with here | ⟨here | here, _⟩ | ⟨⟨_, here⟩, _⟩ <;>
      simp [Thread.counting, here] at counting

/-- In a function of the lock, a stuck thread has met no error. -/
theorem Stuck.serves (stuck : Stuck nloop s) (running : s.ended = false) (tallied : Tallied s)
    (linked : Linked s) {t : ι} (busy : s.rwlock.loc t ≠ .idle) :
    (s.rwlock.thread t).Free ∧ (s.rwlock.loc t).serves (.lock (s.thread t).function) = true ∨
      (s.rwlock.loc t).serves .unlock = true := by
  have link := linked.link t
  unfold Link at link
  rcases stuck.halted running tallied linked t with here | ⟨here | here, _⟩ | ⟨⟨_, here⟩, _⟩ <;>
    rw [here] at link
  · exact absurd link.1 busy
  · rcases link with ⟨serves, none⟩ | ⟨idle, _⟩
    · exact Or.inl ⟨none, serves⟩
    · exact absurd idle busy
  · rcases link with ⟨serves, _⟩ | ⟨idle, _⟩
    · exact Or.inr serves
    · exact absurd idle busy
  · exact absurd link.1 busy

/-- Nobody is stuck with `rw_mutex`: its owner could go on. -/
theorem Stuck.rwMutex (stuck : Stuck nloop s) (running : s.ended = false) (tallied : Tallied s)
    (linked : Linked s) (owner : Owner s.rwlock) (stays : ∀ t, s.rwlock.loc t ≠ .exit) :
    s.rwlock.rwMutex = none := by
  have ready : s.rwlock.exited = false := (Bool.or_eq_false_iff.mp running).2
  cases held : s.rwlock.rwMutex with
  | none => rfl
  | some t =>
    exfalso
    have inside := (owner t).mpr held
    have busy : s.rwlock.loc t ≠ .idle := fun idle => by
      rw [idle] at inside
      cases inside
    rcases stuck.serves running tallied linked busy with ⟨_, serves⟩ | serves
    · exact stuck.lock running (can_step_inside ready serves inside (stays t))
    · exact stuck.lock running (can_step_inside ready serves inside (stays t))

/-- **A stuck thread has returned, or sleeps on the lock**, and it has no lock. -/
theorem Stuck.asleep (stuck : Stuck nloop s) (running : s.ended = false) (tallied : Tallied s)
    (linked : Linked s) (owner : Owner s.rwlock) (stays : ∀ t, s.rwlock.loc t ≠ .exit) (t : ι) :
    (s.rwlock.thread t).Free ∧ ((s.thread t).pc = .returned ∨ ∃ m, s.rwlock.loc t = .asleep m) := by
  have ready : s.rwlock.exited = false := (Bool.or_eq_false_iff.mp running).2
  have free := stuck.rwMutex running tallied linked owner stays
  rcases stuck.halted running tallied linked t with here | ⟨_, busy⟩ | ⟨_, taken⟩
  · have link := linked.link t
    unfold Link at link
    rw [here] at link
    exact ⟨link.2, Or.inl here⟩
  · have sleeps : ∀ c, (s.rwlock.loc t).serves c = true → ∃ m, s.rwlock.loc t = .asleep m := by
      intro c serves
      by_contra awake
      push Not at awake
      exact stuck.lock running
        (can_step_free ready linked.initialised free serves (owner.not_inside free t) awake)
    rcases stuck.serves running tallied linked busy with ⟨none, serves⟩ | serves
    · exact ⟨none, Or.inr (sleeps _ serves)⟩
    · obtain ⟨m, asleep⟩ := sleeps _ serves
      rw [asleep] at serves
      cases serves
  · exact absurd (stuck.rcountlock running tallied linked) taken

end Reachable

/-! ### The two results -/

/-- The `int` option bounds the number of readers. -/
theorem readers_lt (o : Options) : readers o.function < 2 ^ 31 := by
  have sides : readers o.function = o.nreaders.toInt.toNat := by
    unfold readers count total
    rw [Fintype.sum_sum_type]
    simp [Options.function]
  have bound := o.nreaders.toInt_lt
  rw [sides]
  omega

/-- The lock of a stuck process: nobody has it, and nobody waits for it. -/
theorem stuck_lock {lock : Rwlock.State ι} (reachable : Rwlock.machine.Reachable Proper lock)
    (free : lock.rwMutex = none) (none : ∀ t, (lock.thread t).Free)
    (stands : ∀ t, lock.loc t = .idle ∨ ∃ m, lock.loc t = .asleep m) :
    lock.rw.rwRefcount = 0 ∧ lock.rw.rwNwaitreaders = 0 ∧ lock.rw.rwNwaitwriters = 0 ∧
      ∀ t, lock.loc t = .idle := by
  have legal : ∀ (s : Rwlock.State ι) action, Proper s action → Legal s action :=
    fun _ _ proper => proper.1.1
  have accounted : Accounted lock := reachable_accounted (reachable.mono fun _ _ proper => proper.1)
  have owner := (reachable_counted reachable).1
  have calm : Calm lock :=
    calm_of_succeeds (reachable.mono fun _ _ proper => ⟨proper.1.1, proper.2⟩) free
  have count : ∀ m, lock.rw.nwait m = lock.waiting m := reachable_waiting legal reachable
  have out : ∀ m, lock.outstanding m = 0 := fun m =>
    total_eq_zero fun t => by rw [none t m]; rfl
  have refcount : lock.rw.rwRefcount = 0 := by
    have exclusion := accounted.exclusion owner free
    rw [out, out] at exclusion
    omega
  -- a counted waiter is a sleeper
  have waiting : ∀ m, (∀ t, lock.loc t ≠ .asleep m) → lock.waiting m = 0 := by
    intro m nobody
    refine count_eq_zero_iff.mpr fun t => ?_
    show (lock.loc t).waits m = false
    rcases stands t with idle | ⟨m', asleep⟩
    · rw [idle]
      rfl
    · rw [asleep]
      exact decide_eq_false fun same => nobody t (same ▸ asleep)
  have writers : lock.rw.rwNwaitwriters = 0 := by
    by_contra some
    have positive : 0 < lock.rw.rwNwaitwriters := by
      have nonneg := (reachable_counted reachable).2.nonneg .wr
      simp only [MyPthreadRwlockT.nwait] at nonneg
      omega
    obtain ⟨t, woke⟩ := calm.writers refcount positive
    rcases stands t with idle | ⟨m, asleep⟩
    · rw [idle] at woke
      cases woke
    · rw [asleep] at woke
      cases woke
  have noReader : ∀ t, lock.loc t ≠ .asleep .rd := fun t asleep =>
    calm.readers (by omega) writers ⟨t, Or.inl asleep⟩
  have noWriter : ∀ t, lock.loc t ≠ .asleep .wr := by
    intro t asleep
    have positive : 1 ≤ lock.waiting .wr := one_le_count (t := t) (by
      show (lock.loc t).waits .wr = true
      rw [asleep]
      rfl)
    have same := count .wr
    simp only [MyPthreadRwlockT.nwait] at same
    omega
  refine ⟨refcount, (count .rd).trans (waiting .rd noReader), writers, fun t => ?_⟩
  rcases stands t with idle | ⟨m, asleep⟩
  · exact idle
  · cases m with
    | rd => exact absurd asleep (noReader t)
    | wr => exact absurd asleep (noWriter t)

/-- **`test1` end to end.** No `exit` is reached, and where no thread can step all have returned,
both counters are back at `0` and the lock is as it was initialised. -/
theorem test1_clean (o : Options) {s : State o.Threads}
    (reachable : (test1 o).Reachable Succeeds s) :
    s.exited = false ∧ (Stuck o.nloop.toInt s →
      (∀ t, (s.thread t).pc = .returned) ∧ s.nreaders = 0 ∧ s.nwriters = 0 ∧
        s.rwlock.rw.rwRefcount = 0 ∧ s.rwlock.rw.rwNwaitreaders = 0 ∧
        s.rwlock.rw.rwNwaitwriters = 0) := by
  have few := readers_lt o
  have tallied := reachable_tallied few reachable
  refine ⟨tallied.running, fun stuck => ?_⟩
  have linked := reachable_linked reachable
  have lock := lock_reachable few reachable
  have owner := (reachable_counted lock).1
  have ready : s.rwlock.exited = false :=
    (reachable_accounted (lock.mono fun _ _ proper => proper.1)).running
  have running : s.ended = false := Bool.or_eq_false_iff.mpr ⟨tallied.running, ready⟩
  have stays : ∀ t, s.rwlock.loc t ≠ .exit := fun t here => by
    rw [reachable_exit lock t here] at ready
    cases ready
  have stands := stuck.asleep running tallied linked owner stays
  have free := stuck.rwMutex running tallied linked owner stays
  obtain ⟨refcount, readers, writers, idle⟩ := stuck_lock lock free (fun t => (stands t).1)
    fun t => by
      rcases (stands t).2 with here | asleep
      · have link := linked.link t
        unfold Link at link
        rw [here] at link
        exact Or.inl link.1
      · exact Or.inr asleep
  have returned : ∀ t, (s.thread t).pc = .returned := by
    intro t
    rcases (stands t).2 with here | ⟨m, asleep⟩
    · exact here
    · rw [idle t] at asleep
      cases asleep
  have counters : ∀ m, s.counter m = 0 := by
    intro m
    rw [tallied.counter m]
    refine count_eq_zero_iff.mpr fun t => ?_
    rw [returned t]
    exact Bool.and_false _
  exact ⟨returned, counters .rd, counters .wr, refcount, readers, writers⟩

/-- A process whose threads have all returned, and stand outside the lock, is stuck. -/
theorem stuck_of_returned {nloop : ℤ} {s : State ι} (returned : ∀ t, (s.thread t).pc = .returned)
    (idle : ∀ t, s.rwlock.loc t = .idle) : Stuck nloop s := by
  refine ⟨fun t => ?_, fun action own _ => ?_⟩
  · have run : s.run nloop t = none := by
      simp only [State.run, returned t]
      cases (s.thread t).function <;> rfl
    simp only [State.step, run, ite_self]
  · have act : s.rwlock.act action = none := by
      cases action with
      | call | cancel | spurious => cases own
      | _ => simp only [Rwlock.State.act, idle]
    simp only [State.step, State.inside, Rwlock.State.step, act, ite_self, Option.map_none]

/-- One round of one reader and one writer. -/
def oneEach : Options := ⟨1, 1, 1⟩

def theReader : oneEach.Threads := .inl ⟨0, by decide⟩

def theWriter : oneEach.Threads := .inr ⟨0, by decide⟩

/-- The writer comes while the reader has the lock and goes to sleep; the reader's unlock wakes
it. -/
def meeting (r w : ι) : List (Act ι) :=
  List.replicate 2 (Act.run r) ++
    [Act.lock (.magic r), .lock (.mutexLock r 0), .lock (.mutexUnlock r), .run r] ++
    List.replicate 2 (Act.run w) ++
    [Act.lock (.magic w), .lock (.mutexLock w 0), .lock (.condWait w 0)] ++
    List.replicate 10 (Act.run r) ++
    [Act.lock (.magic r), .lock (.mutexLock r 0), .lock (.condSignal r {w}),
      .lock (.mutexUnlock r), .lock (.reacquire w 0), .lock (.mutexUnlock w)] ++
    List.replicate 8 (Act.run w) ++
    [Act.lock (.magic w), .lock (.mutexLock w 0), .lock (.mutexUnlock w)] ++
    List.replicate 2 (Act.run w) ++ List.replicate 2 (Act.run r)

theorem stuck_meeting :
    Stuck oneEach.nloop.toInt ((test1 oneEach).after (meeting theReader theWriter)) :=
  stuck_of_returned (by decide +kernel) (by decide +kernel)

theorem test1_clean_meeting :
    let s := (test1 oneEach).after (meeting theReader theWriter)
    s.exited = false ∧ (∀ t, (s.thread t).pc = .returned) ∧ s.nreaders = 0 ∧ s.nwriters = 0 ∧
      s.rwlock.rw.rwRefcount = 0 := by
  obtain ⟨running, clean⟩ := test1_clean oneEach
    (Machine.reachable_after (by decide +kernel) (by decide +kernel) :
      (test1 oneEach).Reachable Succeeds ((test1 oneEach).after (meeting theReader theWriter)))
  obtain ⟨returned, readers, writers, refcount, -, -⟩ := clean stuck_meeting
  exact ⟨running, returned, readers, writers, refcount⟩

end Unpvol2.Test1
