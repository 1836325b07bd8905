/-
**`test1` uses the lock as the lock demands.**

`Step` lists the steps of `test1`. `Linked` ties the statement each thread stands at to what the
lock knows of the thread: outside its bracket a thread is outside the lock and has none, inside
the bracket it has exactly the lock of its side. So `unlock` is only called by a holder, every
thread has at most one lock, and a run of `test1` is, seen from the lock, a run of
`Rwlock.machine` in which the callers keep their promises (`lock_reachable`).
-/

import Unpvol2.Rwlock.Caller
import Unpvol2.Rwlock.Wakeup
import Unpvol2.Test1.Model

set_option linter.unusedSectionVars false

namespace Unpvol2.Test1

open C Interleaving Rwlock

variable {ι : Type} [DecidableEq ι] [Fintype ι]

/-! ### The list of the steps -/

/-- The first statement in the bracket. -/
def entry : Mode → Pc
  | .rd => .countLock .inc
  | .wr => .load .inc

/-- The statement after a store. -/
def stored : Mode → Change → Pc
  | .rd, change => .countUnlock change
  | .wr, .inc => .testWriters
  | .wr, .dec => .unlock

/-- The statement after `rcountlock` has been given back. -/
def counted : Change → Pc
  | .inc => .testWriters
  | .dec => .unlock

/-- The statement after the test of `shared.nwriters`. -/
def tested : Mode → Pc
  | .rd => .countLock .dec
  | .wr => .testReaders

/-- The number of writers the test of `shared.nwriters` allows. -/
def limit : Mode → ℤ
  | .rd => 0
  | .wr => 1

/-- The counter of a side. -/
def State.counter (s : State ι) : Mode → ℤ
  | .rd => s.nreaders
  | .wr => s.nwriters

def State.setCounter (s : State ι) (value : ℤ) : Mode → State ι
  | .rd => { s with nreaders := value }
  | .wr => { s with nwriters := value }

/-- The steps, case by case. -/
inductive Step (s : State ι) : Act ι → State ι → Prop
  | test (t : ι) (next : Pc) (here : (s.thread t).pc = .test)
      (branch : next = .lock ∨ next = .returned) : Step s (.run t) (s.goto t next)
  | call (t : ι) (c : Call) (next : Pc) (rwlock : Rwlock.State ι)
      (here : ((s.thread t).pc = .lock ∧ c = .lock (s.thread t).function ∧ next = .locking) ∨
        ((s.thread t).pc = .unlock ∧ c = .unlock ∧ next = .unlocking))
      (step : s.rwlock.step (.call t c) = some rwlock) :
      Step s (.run t) { s.goto t next with rwlock := rwlock }
  | locked (t : ι) (here : (s.thread t).pc = .locking) (idle : s.rwlock.loc t = .idle) :
      Step s (.run t) (s.goto t (entry (s.thread t).function))
  | unlocked (t : ι) (here : (s.thread t).pc = .unlocking) (idle : s.rwlock.loc t = .idle) :
      Step s (.run t) (s.round t)
  | countLock (t : ι) (change : Change) (here : (s.thread t).pc = .countLock change)
      (reads : (s.thread t).function = .rd) (free : s.rcountlock = none) :
      Step s (.run t) { s.goto t (.load change) with rcountlock := some t }
  | load (t : ι) (change : Change) (here : (s.thread t).pc = .load change) :
      Step s (.run t) (s.goto t (.store change (s.counter (s.thread t).function)))
  | store (t : ι) (change : Change) (value : ℤ) (here : (s.thread t).pc = .store change value) :
      Step s (.run t) ((s.goto t (stored (s.thread t).function change)).setCounter
        (int32 (value + change.delta)) (s.thread t).function)
  | countUnlock (t : ι) (change : Change) (here : (s.thread t).pc = .countUnlock change)
      (reads : (s.thread t).function = .rd) : Step s (.run t) (s.countUnlock t (counted change))
  | testWriters (t : ι) (here : (s.thread t).pc = .testWriters)
      (fine : ¬ s.nwriters > limit (s.thread t).function) :
      Step s (.run t) (s.goto t (tested (s.thread t).function))
  | testReaders (t : ι) (here : (s.thread t).pc = .testReaders)
      (writes : (s.thread t).function = .wr) (fine : ¬ s.nreaders > 0) :
      Step s (.run t) (s.goto t (.load .dec))
  | exit (t : ι)
      (bad : ((s.thread t).pc = .testWriters ∧ s.nwriters > limit (s.thread t).function) ∨
        ((s.thread t).pc = .testReaders ∧ (s.thread t).function = .wr ∧ s.nreaders > 0)) :
      Step s (.run t) s.exit
  | inside (action : Rwlock.Act ι) (inner : action.inner = true) (rwlock : Rwlock.State ι)
      (step : s.rwlock.step action = some rwlock) :
      Step s (.lock action) { s with rwlock := rwlock }

/-- The loop test. -/
theorem Step.of_test {s : State ι} {t : ι} (nloop : ℤ) (here : (s.thread t).pc = .test) :
    Step s (.run t) (s.test nloop t) := by
  unfold State.test
  split
  · exact .test t _ here (Or.inl rfl)
  · exact .test t _ here (Or.inr rfl)

/-- The call of a function of the lock. -/
theorem Step.of_call {s s' : State ι} {t : ι} {c : Call} {next : Pc}
    (here : ((s.thread t).pc = .lock ∧ c = .lock (s.thread t).function ∧ next = .locking) ∨
      ((s.thread t).pc = .unlock ∧ c = .unlock ∧ next = .unlocking))
    (called : s.call t c next = some s') : Step s (.run t) s' := by
  obtain ⟨rwlock, stepped, rfl⟩ := Option.map_eq_some_iff.mp called
  exact .call t c next rwlock here stepped

theorem back_eq_some {s s' after : State ι} {t : ι} (back : s.back t after = some s') :
    s.rwlock.loc t = .idle ∧ after = s' := by
  simpa only [State.back, Option.ite_none_right_eq_some, Option.some.injEq] using back

/-- The step of a thread of `reader`. -/
theorem reader_cases {nloop : ℤ} {s s' : State ι} {t : ι} (reads : (s.thread t).function = .rd)
    (step : s.reader nloop t (s.thread t).pc = some s') : Step s (.run t) s' := by
  cases here : (s.thread t).pc with
  | test =>
    rw [here] at step
    cases step
    exact .of_test nloop here
  | lock =>
    rw [here] at step
    exact .of_call (Or.inl ⟨here, by rw [reads], rfl⟩) step
  | locking =>
    rw [here] at step
    obtain ⟨idle, rfl⟩ := back_eq_some step
    have entered := Step.locked t here idle
    rw [reads] at entered
    exact entered
  | countLock change =>
    rw [here] at step
    simp only [State.reader, State.countLock, Option.ite_none_right_eq_some,
      Option.some.injEq] at step
    obtain ⟨free, rfl⟩ := step
    exact .countLock t change here reads free
  | load change =>
    rw [here] at step
    cases step
    have loaded := Step.load t change here
    rw [reads] at loaded
    exact loaded
  | store change value =>
    rw [here] at step
    cases step
    have stored := Step.store t change value here
    rw [reads] at stored
    exact stored
  | countUnlock change =>
    rw [here] at step
    cases change <;> cases step <;> exact .countUnlock t _ here reads
  | testWriters =>
    rw [here] at step
    simp only [State.reader] at step
    split at step
    · cases step
      exact .exit t (Or.inl ⟨here, by rw [reads]; assumption⟩)
    · cases step
      have tested := Step.testWriters t here (by rw [reads]; assumption)
      rw [reads] at tested
      exact tested
  | unlock =>
    rw [here] at step
    exact .of_call (Or.inr ⟨here, rfl, rfl⟩) step
  | unlocking =>
    rw [here] at step
    obtain ⟨idle, rfl⟩ := back_eq_some step
    exact .unlocked t here idle
  | testReaders | returned =>
    rw [here] at step
    cases step

/-- The step of a thread of `writer`. -/
theorem writer_cases {nloop : ℤ} {s s' : State ι} {t : ι} (writes : (s.thread t).function = .wr)
    (step : s.writer nloop t (s.thread t).pc = some s') : Step s (.run t) s' := by
  cases here : (s.thread t).pc with
  | test =>
    rw [here] at step
    cases step
    exact .of_test nloop here
  | lock =>
    rw [here] at step
    exact .of_call (Or.inl ⟨here, by rw [writes], rfl⟩) step
  | locking =>
    rw [here] at step
    obtain ⟨idle, rfl⟩ := back_eq_some step
    have entered := Step.locked t here idle
    rw [writes] at entered
    exact entered
  | load change =>
    rw [here] at step
    cases step
    have loaded := Step.load t change here
    rw [writes] at loaded
    exact loaded
  | store change value =>
    rw [here] at step
    have stored := Step.store t change value here
    rw [writes] at stored
    cases change <;> cases step <;> exact stored
  | testWriters =>
    rw [here] at step
    simp only [State.writer] at step
    split at step
    · cases step
      exact .exit t (Or.inl ⟨here, by rw [writes]; assumption⟩)
    · cases step
      have tested := Step.testWriters t here (by rw [writes]; assumption)
      rw [writes] at tested
      exact tested
  | testReaders =>
    rw [here] at step
    simp only [State.writer] at step
    split at step
    · cases step
      exact .exit t (Or.inr ⟨here, writes, by assumption⟩)
    · cases step
      exact .testReaders t here writes (by assumption)
  | unlock =>
    rw [here] at step
    exact .of_call (Or.inr ⟨here, rfl, rfl⟩) step
  | unlocking =>
    rw [here] at step
    obtain ⟨idle, rfl⟩ := back_eq_some step
    exact .unlocked t here idle
  | countLock | countUnlock | returned =>
    rw [here] at step
    cases step

/-- **The inversion of the step function.** -/
theorem step_cases {nloop : ℤ} {s s' : State ι} {action : Act ι}
    (step : s.step nloop action = some s') : s.ended = false ∧ Step s action s' := by
  unfold State.step at step
  split at step
  · cases step
  · rename_i running
    refine ⟨Bool.eq_false_of_not_eq_true running, ?_⟩
    cases action with
    | run t =>
      simp only [State.run] at step
      split at step
      · exact reader_cases ‹_› step
      · exact writer_cases ‹_› step
    | lock action =>
      simp only [State.inside] at step
      split at step
      · obtain ⟨rwlock, stepped, rfl⟩ := Option.map_eq_some_iff.mp step
        exact .inside action ‹_› rwlock stepped
      · cases step

/-! ### Inside and outside the bracket -/

/-- The part of the loop's body a statement belongs to. -/
inductive Stage
  | outside
  | locking
  | holding
  | unlocking
deriving DecidableEq

def Pc.stage : Pc → Stage
  | .test | .lock | .returned => .outside
  | .locking => .locking
  | .unlocking => .unlocking
  | .countLock _ | .load _ | .store _ _ | .countUnlock _ | .testWriters | .testReaders
  | .unlock => .holding

/-- What the lock knows of a thread of a side, stage by stage. -/
def Stage.Link (m : Mode) : Stage → Rwlock.Thread → Prop
  | .outside, x => x.loc = .idle ∧ x.Free
  | .locking, x => (x.loc.serves (.lock m) = true ∧ x.Free) ∨ (x.loc = .idle ∧ x.Has m)
  | .holding, x => x.loc = .idle ∧ x.Has m
  | .unlocking, x => (x.loc.serves .unlock = true ∧ x.Has m) ∨ (x.loc = .idle ∧ x.Free)

/-- What the lock knows of thread `t` fits the statement `t` stands at. -/
def Link (s : State ι) (t : ι) : Prop :=
  (s.thread t).pc.stage.Link (s.thread t).function (s.rwlock.thread t)

structure Linked (s : State ι) : Prop where
  initialised : Initialised s.rwlock.rw
  link : ∀ t, Link s t

theorem linked_start (function : ι → Mode) : Linked (start function) where
  initialised := rfl
  link := fun t => ⟨rfl, fun m => by cases m <;> rfl⟩

variable {s s' : State ι}

/-- A step of one thread that leaves the lock alone. -/
theorem Linked.moved (linked : Linked s) (t : ι) (lock : s'.rwlock = s.rwlock)
    (others : ∀ u, u ≠ t → s'.thread u = s.thread u) (own : Link s' t) : Linked s' where
  initialised := lock ▸ linked.initialised
  link := fun u => by
    by_cases same : u = t
    · exact same ▸ own
    · unfold Link
      rw [others u same, lock]
      exact linked.link u

/-- A statement that stays in its stage. -/
theorem Linked.stays (linked : Linked s) (t : ι) (lock : s'.rwlock = s.rwlock)
    (others : ∀ u, u ≠ t → s'.thread u = s.thread u)
    (function : (s'.thread t).function = (s.thread t).function)
    (stage : (s'.thread t).pc.stage = (s.thread t).pc.stage) : Linked s' := by
  refine linked.moved t lock others ?_
  unfold Link
  rw [function, stage, lock]
  exact linked.link t

theorem goto_others {t u : ι} (next : Pc) (ne : u ≠ t) : (s.goto t next).thread u = s.thread u :=
  Function.update_of_ne ne _ _

theorem goto_own (t : ι) (next : Pc) :
    (s.goto t next).thread t = { s.thread t with pc := next } :=
  Function.update_self ..

@[simp] theorem setCounter_thread (value : ℤ) (m : Mode) :
    (s.setCounter value m).thread = s.thread := by
  cases m <;> rfl

@[simp] theorem setCounter_rwlock (value : ℤ) (m : Mode) :
    (s.setCounter value m).rwlock = s.rwlock := by
  cases m <;> rfl

theorem entry_stage (m : Mode) : (entry m).stage = .holding := by cases m <;> rfl

theorem stored_stage (m : Mode) (change : Change) : (stored m change).stage = .holding := by
  cases m <;> cases change <;> rfl

theorem counted_stage (change : Change) : (counted change).stage = .holding := by
  cases change <;> rfl

theorem tested_stage (m : Mode) : (tested m).stage = .holding := by cases m <;> rfl

/-- What a thread's call adds to the link. -/
theorem Linked.call (linked : Linked s) {t : ι} {c : Call} {next : Pc} {rwlock : Rwlock.State ι}
    (here : ((s.thread t).pc = .lock ∧ c = .lock (s.thread t).function ∧ next = .locking) ∨
      ((s.thread t).pc = .unlock ∧ c = .unlock ∧ next = .unlocking))
    (step : s.rwlock.step (.call t c) = some rwlock) :
    Linked { s.goto t next with rwlock := rwlock } := by
  have own := linked.link t
  unfold Link at own
  cases Rwlock.step_cases step with
  | call t c idle =>
    have entered : (s.rwlock.goto t (.entered c)).thread t =
        { s.rwlock.thread t with loc := .entered c } := Function.update_self ..
    refine ⟨linked.initialised, fun u => ?_⟩
    by_cases same : u = t
    · subst same
      unfold Link
      show Stage.Link ((s.goto u next).thread u).function ((s.goto u next).thread u).pc.stage
        ((s.rwlock.goto u (.entered c)).thread u)
      rw [goto_own, entered]
      rcases here with ⟨pc, rfl, rfl⟩ | ⟨pc, rfl, rfl⟩
      · rw [pc] at own
        exact Or.inl ⟨decide_eq_true rfl, own.2⟩
      · rw [pc] at own
        exact Or.inl ⟨rfl, own.2⟩
    · unfold Link
      show Stage.Link ((s.goto t next).thread u).function ((s.goto t next).thread u).pc.stage
        ((s.rwlock.goto t (.entered c)).thread u)
      have kept : (s.rwlock.goto t (.entered c)).thread u = s.rwlock.thread u :=
        Function.update_of_ne same _ _
      rw [goto_others next same, kept]
      exact linked.link u

/-- A step inside the lock keeps the link, or ends the call. -/
theorem Linked.inside (linked : Linked s) {action : Rwlock.Act ι} (inner : action.inner = true)
    (succeeds : Rwlock.Succeeds action) {rwlock : Rwlock.State ι}
    (step : s.rwlock.step action = some rwlock) : Linked { s with rwlock := rwlock } := by
  have step := Rwlock.step_cases step
  refine ⟨step.magic_eq.trans linked.initialised, fun t => ?_⟩
  have own := linked.link t
  unfold Link at own ⊢
  show Stage.Link (s.thread t).function (s.thread t).pc.stage (rwlock.thread t)
  cases stage : (s.thread t).pc.stage with
  | outside | holding =>
    rw [stage] at own
    rw [step.idle inner own.1]
    exact own
  | locking =>
    rw [stage] at own
    rcases own with ⟨serves, none⟩ | ⟨idle, one⟩
    · rcases step.caller inner succeeds linked.initialised rfl serves with ⟨on, same⟩ | back
      · exact Or.inl ⟨on, none.of_held same⟩
      · rw [back]
        exact Or.inr (none.returned_lock _)
    · rw [step.idle inner idle]
      exact Or.inr ⟨idle, one⟩
  | unlocking =>
    rw [stage] at own
    rcases own with ⟨serves, one⟩ | ⟨idle, none⟩
    · rcases step.caller inner succeeds linked.initialised rfl serves with ⟨on, same⟩ | back
      · exact Or.inl ⟨on, one.of_held same⟩
      · rw [back]
        exact Or.inr one.returned_unlock
    · rw [step.idle inner idle]
      exact Or.inr ⟨idle, none⟩

/-- **Every step keeps the link.** -/
theorem Linked.step {action : Act ι} (linked : Linked s) (succeeds : Succeeds s action)
    (step : Step s action s') : Linked s' := by
  -- within a stage only the statement changes
  have goto : ∀ (t : ι) (next : Pc), next.stage = (s.thread t).pc.stage → Linked (s.goto t next) :=
    fun t next stage => linked.stays t rfl (fun u ne => goto_others next ne)
      (by rw [goto_own]) (by rw [goto_own]; exact stage)
  cases step with
  | test t next here branch =>
    refine goto t next ?_
    rw [here]
    rcases branch with rfl | rfl <;> rfl
  | call t c next rwlock here step => exact linked.call here step
  | locked t here idle =>
    refine linked.moved t rfl (fun u ne => goto_others _ ne) ?_
    have own := linked.link t
    unfold Link at own ⊢
    rw [here] at own
    rw [goto_own]
    show (entry _).stage.Link _ (s.rwlock.thread t)
    rw [entry_stage]
    rcases own with ⟨serves, _⟩ | holding
    · unfold Rwlock.State.loc at idle
      rw [idle] at serves
      cases serves
    · exact holding
  | unlocked t here idle =>
    refine linked.moved t rfl (fun u ne => Function.update_of_ne ne _ _) ?_
    have own := linked.link t
    have round : (s.round t).thread t =
        { s.thread t with pc := .test, i := (s.thread t).i + 1 } := Function.update_self ..
    unfold Link at own ⊢
    rw [here] at own
    rw [round]
    rcases own with ⟨serves, _⟩ | outside
    · unfold Rwlock.State.loc at idle
      rw [idle] at serves
      cases serves
    · exact outside
  | countLock t change here reads free =>
    have moved := goto t (.load change) (by rw [here]; rfl)
    exact ⟨moved.initialised, moved.link⟩
  | load t change here => exact goto t _ (by rw [here]; rfl)
  | store t change value here =>
    have moved := goto t (stored (s.thread t).function change) (by rw [here, stored_stage]; rfl)
    refine ⟨?_, fun u => ?_⟩
    · rw [setCounter_rwlock]
      exact moved.initialised
    · unfold Link
      rw [setCounter_thread, setCounter_rwlock]
      exact moved.link u
  | countUnlock t change here reads =>
    have moved := goto t (counted change) (by rw [here, counted_stage]; rfl)
    exact ⟨moved.initialised, moved.link⟩
  | testWriters t here fine => exact goto t _ (by rw [here, tested_stage]; rfl)
  | testReaders t here writes fine => exact goto t _ (by rw [here]; rfl)
  | exit t bad => exact ⟨linked.initialised, linked.link⟩
  | inside action inner rwlock step => exact linked.inside inner succeeds step

theorem reachable_linked {nloop : ℤ} {function : ι → Mode}
    (reachable : (system nloop function).Reachable Succeeds s) : Linked s := by
  refine reachable.induct (linked_start function) ?_
  intro s action s' _ linked succeeds step
  exact linked.step succeeds (step_cases step).2

/-! ### Seen from the lock -/

/-- No step changes the function a thread runs. -/
theorem Step.function_eq {action : Act ι} (step : Step s action s') (t : ι) :
    (s'.thread t).function = (s.thread t).function := by
  have goto : ∀ (u : ι) (next : Pc),
      ((s.goto u next).thread t).function = (s.thread t).function := by
    intro u next
    by_cases same : t = u
    · rw [same, goto_own]
    · rw [goto_others next same]
  cases step with
  | unlocked u here idle =>
    by_cases same : t = u
    · have round : (s.round u).thread u =
          { s.thread u with pc := .test, i := (s.thread u).i + 1 } := Function.update_self ..
      rw [same, round]
    · exact congrArg Thread.function (Function.update_of_ne same _ _)
  | store u change value here =>
    rw [setCounter_thread]
    exact goto u _
  | exit | inside => rfl
  | test | call | locked | countLock | load | countUnlock | testWriters | testReaders =>
    exact goto _ _

theorem reachable_function {nloop : ℤ} {function : ι → Mode}
    (reachable : (system nloop function).Reachable Succeeds s) (t : ι) :
    (s.thread t).function = function t := by
  refine reachable.induct (I := fun s : State ι => (s.thread t).function = function t) rfl ?_
  intro s action s' _ same _ step
  exact ((step_cases step).2.function_eq t).trans same

/-- The number of threads in `reader`. -/
def readers (function : ι → Mode) : ℤ := count (fun m => m = .rd) function

/-- **No thread has more than one lock**, so there are no more read locks than readers. -/
theorem Linked.outstanding_le (linked : Linked s) {function : ι → Mode}
    (same : ∀ t, (s.thread t).function = function t) :
    s.rwlock.outstanding .rd ≤ readers function := by
  refine Finset.sum_le_sum fun t _ => ?_
  have link := linked.link t
  unfold Link at link
  rw [same] at link
  have free : ∀ {x : Rwlock.Thread}, x.Free →
      (x.held .rd : ℤ) ≤ if function t = .rd then 1 else 0 := by
    intro x none
    rw [none .rd]
    split <;> simp
  have has : ∀ {x : Rwlock.Thread}, x.Has (function t) →
      (x.held .rd : ℤ) ≤ if function t = .rd then 1 else 0 := by
    intro x one
    rw [one .rd]
    cases function t <;> simp
  simp only [decide_eq_true_eq]
  cases stage : (s.thread t).pc.stage with
  | outside => rw [stage] at link; exact free link.2
  | locking => rw [stage] at link; rcases link with link | link; exacts [free link.2, has link.2]
  | holding => rw [stage] at link; exact has link.2
  | unlocking => rw [stage] at link; rcases link with link | link; exacts [has link.2, free link.2]

/-- **The lock's view of `test1`**: every promise of its callers is kept. -/
theorem lock_reachable {nloop : ℤ} {function : ι → Mode} (few : readers function < 2 ^ 31)
    (reachable : (system nloop function).Reachable Succeeds s) :
    Rwlock.machine.Reachable Proper s.rwlock := by
  refine reachable.simulate (N := Rwlock.machine) (fun s => s.rwlock) rfl ?_
  intro s action s' before succeeds step
  have after := before.tail succeeds step
  have small : FewReaders s'.rwlock :=
    lt_of_le_of_lt ((reachable_linked after).outstanding_le (reachable_function after)) few
  have linked := reachable_linked before
  cases (step_cases step).2 with
  | call t c next rwlock here call =>
    refine Or.inr ⟨.call t c, ⟨⟨?_, ?_⟩, trivial⟩, call⟩
    · rcases here with ⟨_, rfl, _⟩ | ⟨pc, rfl, _⟩
      · exact trivial
      · have link := linked.link t
        unfold Link at link
        rw [pc] at link
        exact link.2.holds
    · intro rwlock' stepped
      rw [call] at stepped
      cases stepped
      exact small
  | inside action inner rwlock inside =>
    refine Or.inr ⟨action, ⟨⟨?_, ?_⟩, succeeds⟩, inside⟩
    · cases action <;> trivial
    · intro rwlock' stepped
      rw [inside] at stepped
      cases stepped
      exact small
  | store => exact Or.inl (setCounter_rwlock _ _)
  | _ => exact Or.inl rfl

end Unpvol2.Test1
