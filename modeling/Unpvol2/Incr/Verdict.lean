/-
**The verdict of `incr_rwlock1`.**

The self-check compares the counter, which is right, with the product as an `int`. So it reports an
error exactly where the product is not an `int`, in every run that gets to the comparison; and
whatever the arguments some run does, that in which `main` creates the threads and each of them runs
all of its rounds before the next one starts.

* `exists_exited` — the run that completes.
* `right_iff` — **the self-check is right in every run exactly if the product is below `2 ^ 31`.**
-/

import Unpvol2.Incr.Counted

set_option linter.unusedSectionVars false

namespace Unpvol2.Incr

open C Interleaving Rwlock

/-! ### A call that nobody disturbs -/

section Alone

variable {ι : Type} [DecidableEq ι] [Fintype ι]

/-- The thread has the write lock, and nobody else does anything. -/
def writing (u : ι) : Rwlock.State ι :=
  { Rwlock.start with
    rw := ⟨rwMagicValue, 0, 0, -1⟩
    thread := Function.update Rwlock.start.thread u ⟨.idle, 0, 0, 1⟩ }

/-- The steps in a call. -/
def served (u : ι) : List (Rwlock.Act ι) := [.magic u, .mutexLock u 0, .mutexUnlock u]

theorem wrapper_fine (c : Call) : (wrapper c 0).message = none := (wrapper_message c 0).mpr rfl

theorem run_lock (u : ι) :
    Rwlock.process.run ⟨Rwlock.start, none⟩ (.call u (.lock .wr) :: served u) =
      some ⟨writing u, none⟩ := by
  have granted : body (.lock .wr) pthreadRwlockInitializer =
      (⟨rwMagicValue, 0, 0, -1⟩, .mutexUnlock 0) := rfl
  have magic : (pthreadRwlockInitializer).rwMagic = rwMagicValue := rfl
  simp only [Rwlock.process, Machine.run, served, Process.step, Rwlock.State.step,
    Rwlock.State.act, Rwlock.State.goto, Rwlock.State.loc, Rwlock.State.enter, Rwlock.State.leave,
    Rwlock.State.returns, Rwlock.start, Pthread.loc, granted, magic, wrapper_fine,
    Function.update_self, Function.update_idem, Option.bind_some, Option.bind_none, Option.map_some,
    Option.isSome_none, if_true, ne_eq, not_true_eq_false, if_false, Bool.false_eq_true,
    Bool.or_false, reduceCtorEq, decide_false]
  rfl

theorem writing_idle (u : ι) : (writing u).loc u = .idle := by
  simp only [Rwlock.State.loc, writing, Function.update_self]

theorem run_unlock (u : ι) :
    Rwlock.process.run ⟨writing u, none⟩ (.call u .unlock :: served u) =
      some ⟨Rwlock.start, none⟩ := by
  have given : body .unlock ⟨rwMagicValue, 0, 0, -1⟩ =
      (pthreadRwlockInitializer, .mutexUnlock 0) := rfl
  have out : Rwlock.Thread.returned ⟨.mutexUnlock .unlock 0, 0, 0, 1⟩ .unlock 0 =
      ⟨.idle, 0, 0, 0⟩ := rfl
  simp only [Rwlock.process, Machine.run, served, Process.step, Rwlock.State.step,
    Rwlock.State.act, Rwlock.State.goto, Rwlock.State.loc, Rwlock.State.enter, Rwlock.State.leave,
    Rwlock.State.returns, Rwlock.start, writing, Pthread.loc, given, out, wrapper_fine,
    Function.update_self, Function.update_idem, Option.bind_some, Option.bind_none, Option.map_some,
    Option.isSome_none, if_true, ne_eq, not_true_eq_false, if_false, Bool.false_eq_true,
    Bool.or_false, reduceCtorEq, decide_false]
  rw [Function.update_eq_self_iff.mpr rfl]

end Alone

/-! ### One thread after the other -/

variable {n nloop : ℕ}

/-- The program with `nloop` and `n`, whatever their range. -/
def program (nloop n : ℕ) : Machine (State n) (Act n) := ⟨start n, State.step nloop⟩

/-- A state in which no error has occurred. -/
def settled (lock : Rwlock.State (Option (Fin n))) (counter : ℤ) (main : Main)
    (thread : Fin n → Thread) : State n :=
  ⟨⟨lock, none⟩, counter, main, thread, none⟩

/-- The steps inside the lock. -/
theorem reaches_inside {s : State n} {actions : List (Rwlock.Act (Option (Fin n)))}
    {p : Process (Option (Fin n))} (inner : ∀ action ∈ actions, action.inner = true)
    (running : s.main.pc ≠ .exited) (ran : Rwlock.process.run s.process actions = some p) :
    (program nloop n).Reaches Anything s { s with process := p } := by
  induction actions generalizing s with
  | nil =>
    cases ran
    exact Machine.Reaches.refl _
  | cons action rest ih =>
    obtain ⟨next, moved, ran⟩ := Option.bind_eq_some_iff.mp ran
    obtain ⟨goes, _, _⟩ := process_step moved
    have step : (program nloop n).step s (.lock action) = some { s with process := next } := by
      show s.step nloop (.lock action) = _
      have alive : s.ended = false := by
        simp [State.ended, goes.1, goes.2, running]
      have moved : s.process.step action = some next := moved
      simp only [State.step, alive, inner action List.mem_cons_self, moved, Option.map_some,
        Bool.false_eq_true, if_false, if_true]
    exact ((Machine.Reaches.refl s).tail trivial step).trans
      (ih (fun action member => inner action (List.mem_cons_of_mem _ member)) running ran)

/-- A call that nobody disturbs. -/
theorem reaches_call {s : State n} (after : State n) {u : Option (Fin n)} {c : Call}
    {p : Process (Option (Fin n))} (statement : s.step nloop (.run u) = s.call u c after)
    (running : after.main.pc ≠ .exited)
    (ran : Rwlock.process.run s.process (.call u c :: served u) = some p) :
    (program nloop n).Reaches Anything s { after with process := p } := by
  obtain ⟨next, called, ran⟩ := Option.bind_eq_some_iff.mp ran
  have called : s.process.step (.call u c) = some next := called
  have step : (program nloop n).step s (.run u) = some { after with process := next } := by
    show s.step nloop _ = _
    rw [statement, State.call, called]
    rfl
  have inner : ∀ action ∈ served u, action.inner = true := by
    simp [served, Rwlock.Act.inner]
  exact ((Machine.Reaches.refl s).tail trivial step).trans
    (reaches_inside (s := { after with process := next }) inner running ran)

section Thread

variable {main : Main} {thread : Fin n → Thread} {t : Fin n} {counter : ℤ}

/-- A statement of a thread outside the lock. -/
theorem reaches_statement {lock : Rwlock.State (Option (Fin n))} {x : Thread} {s' : State n}
    (alive : lock.exited = false) (running : main.pc ≠ .exited)
    (statement : (settled lock counter main (Function.update thread t x)).incr nloop t = some s') :
    (program nloop n).Reaches Anything (settled lock counter main (Function.update thread t x))
      s' := by
  have step : (program nloop n).step (settled lock counter main (Function.update thread t x))
      (.run (some t)) = some s' := by
    show State.step nloop _ (.run (some t)) = _
    rw [← statement]
    simp [State.step, State.ended, settled, alive, running]
  exact (Machine.Reaches.refl _).tail trivial step

/-- A call of a thread. -/
theorem reaches_call_thread {lock lock' : Rwlock.State (Option (Fin n))} {x y : Thread} {c : Call}
    (alive : lock.exited = false) (running : main.pc ≠ .exited)
    (statement : (settled lock counter main (Function.update thread t x)).incr nloop t =
      (settled lock counter main (Function.update thread t x)).call (some t) c
        (settled lock counter main (Function.update thread t y)))
    (ran : Rwlock.process.run ⟨lock, none⟩ (.call (some t) c :: served (some t)) =
      some ⟨lock', none⟩) :
    (program nloop n).Reaches Anything (settled lock counter main (Function.update thread t x))
      (settled lock' counter main (Function.update thread t y)) := by
  have step : (settled lock counter main (Function.update thread t x)).step nloop (.run (some t)) =
      (settled lock counter main (Function.update thread t x)).call (some t) c
        (settled lock counter main (Function.update thread t y)) := by
    rw [← statement]
    simp [State.step, State.ended, settled, alive, running]
  exact reaches_call _ step running ran

/-- **A round adds one.** -/
theorem reaches_round (running : main.pc ≠ .exited) {i : ℕ} (more : i < nloop) :
    (program nloop n).Reaches Anything
      (settled Rwlock.start counter main (Function.update thread t ⟨.test, i⟩))
      (settled Rwlock.start (int64 (counter + 1)) main
        (Function.update thread t ⟨.test, i + 1⟩)) := by
  have idle := writing_idle (some t)
  have test : (program nloop n).Reaches Anything
      (settled Rwlock.start counter main (Function.update thread t ⟨.test, i⟩))
      (settled Rwlock.start counter main (Function.update thread t ⟨.wrlock, i⟩)) :=
    reaches_statement rfl running (by simp [State.incr, settled, State.goto, more])
  have lock : (program nloop n).Reaches Anything
      (settled Rwlock.start counter main (Function.update thread t ⟨.wrlock, i⟩))
      (settled (writing (some t)) counter main (Function.update thread t ⟨.wrlocking, i⟩)) :=
    reaches_call_thread rfl running (by simp [State.incr, settled, State.goto]) (run_lock _)
  have locked : (program nloop n).Reaches Anything
      (settled (writing (some t)) counter main (Function.update thread t ⟨.wrlocking, i⟩))
      (settled (writing (some t)) counter main (Function.update thread t ⟨.load, i⟩)) :=
    reaches_statement rfl running (by simp [State.incr, settled, State.goto, State.back, idle])
  have load : (program nloop n).Reaches Anything
      (settled (writing (some t)) counter main (Function.update thread t ⟨.load, i⟩))
      (settled (writing (some t)) counter main (Function.update thread t ⟨.store counter, i⟩)) :=
    reaches_statement rfl running (by simp [State.incr, settled, State.goto])
  have store : (program nloop n).Reaches Anything
      (settled (writing (some t)) counter main (Function.update thread t ⟨.store counter, i⟩))
      (settled (writing (some t)) (int64 (counter + 1)) main
        (Function.update thread t ⟨.unlock, i⟩)) :=
    reaches_statement rfl running (by simp [State.incr, settled, State.goto])
  have unlock : (program nloop n).Reaches Anything
      (settled (writing (some t)) (int64 (counter + 1)) main
        (Function.update thread t ⟨.unlock, i⟩))
      (settled Rwlock.start (int64 (counter + 1)) main
        (Function.update thread t ⟨.unlocking, i⟩)) :=
    reaches_call_thread rfl running (by simp [State.incr, settled, State.goto]) (run_unlock _)
  have unlocked : (program nloop n).Reaches Anything
      (settled Rwlock.start (int64 (counter + 1)) main
        (Function.update thread t ⟨.unlocking, i⟩))
      (settled Rwlock.start (int64 (counter + 1)) main
        (Function.update thread t ⟨.test, i + 1⟩)) :=
    reaches_statement rfl running (by simp [State.incr, settled, State.round, State.back,
      Rwlock.State.loc, Rwlock.start])
  exact test.trans (lock.trans (locked.trans (load.trans (store.trans (unlock.trans unlocked)))))

/-- All rounds of a thread. -/
theorem exists_rounds (running : main.pc ≠ .exited) (thread : Fin n → Thread) (t : Fin n)
    (counter : ℤ) {k : ℕ} (rounds : k ≤ nloop) : ∃ counter', (program nloop n).Reaches Anything
      (settled Rwlock.start counter main (Function.update thread t ⟨.test, 0⟩))
      (settled Rwlock.start counter' main (Function.update thread t ⟨.test, k⟩)) := by
  induction k with
  | zero => exact ⟨counter, Machine.Reaches.refl _⟩
  | succ k ih =>
    obtain ⟨counter', before⟩ := ih (by omega)
    exact ⟨_, before.trans (reaches_round running rounds)⟩

/-- A thread runs to its end. -/
theorem exists_returned (nloop : ℕ) (running : main.pc ≠ .exited) (thread : Fin n → Thread)
    (t : Fin n) (counter : ℤ) : ∃ counter', (program nloop n).Reaches Anything
      (settled Rwlock.start counter main (Function.update thread t ⟨.test, 0⟩))
      (settled Rwlock.start counter' main (Function.update thread t ⟨.returned, nloop⟩)) := by
  obtain ⟨counter', rounds⟩ := exists_rounds running thread t counter (le_refl nloop)
  exact ⟨counter', rounds.trans
    (reaches_statement rfl running (by simp [State.incr, settled, State.goto]))⟩

end Thread

/-! ### The loops of `main` -/

/-- The first `k` threads are `x` and the others `y`. -/
def firstThreads (n k : ℕ) (x y : Thread) : Fin n → Thread := fun t => if (t : ℕ) < k then x else y

theorem firstThreads_zero (x y : Thread) : firstThreads n 0 x y = fun _ => y :=
  funext fun t => if_neg (Nat.not_lt_zero t)

theorem firstThreads_all (x y : Thread) : firstThreads n n x y = fun _ => x :=
  funext fun t => if_pos t.isLt

/-- One thread more. -/
theorem firstThreads_succ {k : ℕ} (more : k < n) (x y : Thread) :
    Function.update (firstThreads n k x y) ⟨k, more⟩ x = firstThreads n (k + 1) x y := by
  funext t
  by_cases same : t = ⟨k, more⟩
  · rw [same, Function.update_self, firstThreads, if_pos (Nat.lt_succ_self k)]
  · have other : (t : ℕ) ≠ k := fun eq => same (Fin.ext eq)
    rw [Function.update_of_ne same, firstThreads, firstThreads]
    by_cases before : (t : ℕ) < k
    · rw [if_pos before, if_pos (by omega)]
    · rw [if_neg before, if_neg (by omega)]

/-- The next thread is not one of the first. -/
theorem firstThreads_self {k : ℕ} (more : k < n) (x y : Thread) :
    Function.update (firstThreads n k x y) ⟨k, more⟩ y = firstThreads n k x y :=
  Function.update_eq_self_iff.mpr (if_neg (Nat.lt_irrefl k)).symm

section Main

variable {lock : Rwlock.State (Option (Fin n))} {counter : ℤ} {thread : Fin n → Thread}

/-- A statement of `main` outside the lock. -/
theorem reaches_main {main : Main} {s' : State n} (alive : lock.exited = false)
    (running : main.pc ≠ .exited)
    (statement : (settled lock counter main thread).runMain nloop = some s') :
    (program nloop n).Reaches Anything (settled lock counter main thread) s' := by
  have step : (program nloop n).step (settled lock counter main thread) (.run none) = some s' := by
    show State.step nloop _ (.run none) = _
    rw [← statement]
    simp [State.step, State.ended, settled, alive, running]
  exact (Machine.Reaches.refl _).tail trivial step

/-- `main` creates the threads. -/
theorem reaches_create {k : ℕ} (created : k ≤ n) (alive : lock.exited = false) :
    (program nloop n).Reaches Anything
      (settled lock counter ⟨.create, 0⟩ fun _ => ⟨.unborn, 0⟩)
      (settled lock counter ⟨.create, k⟩ (firstThreads n k ⟨.test, 0⟩ ⟨.unborn, 0⟩)) := by
  induction k with
  | zero =>
    rw [firstThreads_zero]
    exact Machine.Reaches.refl _
  | succ k ih =>
    refine (ih (by omega)).trans (reaches_main alive nofun ?_)
    rw [← firstThreads_succ created]
    simp [State.runMain, settled, State.create, State.mainTo, Nat.lt_of_succ_le created]

/-- The threads run, one after the other. -/
theorem exists_threads (nloop : ℕ) (counter : ℤ) {main : Main} (running : main.pc ≠ .exited)
    {k : ℕ} (returned : k ≤ n) : ∃ counter', (program nloop n).Reaches Anything
      (settled Rwlock.start counter main fun _ => ⟨.test, 0⟩)
      (settled Rwlock.start counter' main (firstThreads n k ⟨.returned, nloop⟩ ⟨.test, 0⟩)) := by
  induction k with
  | zero =>
    rw [firstThreads_zero]
    exact ⟨counter, Machine.Reaches.refl _⟩
  | succ k ih =>
    obtain ⟨counter', before⟩ := ih (by omega)
    obtain ⟨counter'', more⟩ := exists_returned nloop running
      (firstThreads n k ⟨.returned, nloop⟩ ⟨.test, 0⟩) ⟨k, returned⟩ counter'
    rw [firstThreads_self, firstThreads_succ] at more
    exact ⟨counter'', before.trans more⟩

/-- `main` joins the threads. -/
theorem reaches_join {k : ℕ} (joined : k ≤ n) (alive : lock.exited = false) :
    (program nloop n).Reaches Anything
      (settled lock counter ⟨.join, 0⟩ fun _ => ⟨.returned, nloop⟩)
      (settled lock counter ⟨.join, k⟩ fun _ => ⟨.returned, nloop⟩) := by
  induction k with
  | zero => exact Machine.Reaches.refl _
  | succ k ih =>
    refine (ih (by omega)).trans (reaches_main alive nofun ?_)
    simp [State.runMain, settled, State.mainTo, Nat.lt_of_succ_le joined]

end Main

/-- **Some run completes.** -/
theorem exists_exited (nloop n : ℕ) :
    ∃ s, (program nloop n).Reachable Anything s ∧ s.main.pc = .exited := by
  have idle := writing_idle (none : Option (Fin n))
  have lock : (program nloop n).Reaches Anything (start n)
      (settled (writing none) 0 ⟨.wrlocking, 0⟩ fun _ => ⟨.unborn, 0⟩) :=
    reaches_call (settled Rwlock.start 0 ⟨.wrlocking, 0⟩ fun _ => ⟨.unborn, 0⟩) rfl nofun
      (run_lock none)
  have locked : (program nloop n).Reaches Anything
      (settled (writing none) 0 ⟨.wrlocking, 0⟩ fun _ => ⟨.unborn, 0⟩)
      (settled (writing none) 0 ⟨.create, 0⟩ fun _ => ⟨.unborn, 0⟩) :=
    reaches_main rfl nofun (by simp [State.runMain, settled, State.mainTo, State.back, idle])
  have create : (program nloop n).Reaches Anything
      (settled (writing none) 0 ⟨.create, 0⟩ fun _ => ⟨.unborn, 0⟩)
      (settled (writing none) 0 ⟨.create, n⟩ fun _ => ⟨.test, 0⟩) := by
    rw [← firstThreads_all ⟨.test, 0⟩ ⟨.unborn, 0⟩]
    exact reaches_create (le_refl n) rfl
  have created : (program nloop n).Reaches Anything
      (settled (writing none) 0 ⟨.create, n⟩ fun _ => ⟨.test, 0⟩)
      (settled (writing none) 0 ⟨.unlock, 0⟩ fun _ => ⟨.test, 0⟩) :=
    reaches_main rfl nofun (by simp [State.runMain, settled, State.mainTo])
  have unlock : (program nloop n).Reaches Anything
      (settled (writing none) 0 ⟨.unlock, 0⟩ fun _ => ⟨.test, 0⟩)
      (settled Rwlock.start 0 ⟨.unlocking, 0⟩ fun _ => ⟨.test, 0⟩) :=
    reaches_call (settled (writing none) 0 ⟨.unlocking, 0⟩ fun _ => ⟨.test, 0⟩) rfl nofun
      (run_unlock none)
  have unlocked : (program nloop n).Reaches Anything
      (settled Rwlock.start 0 ⟨.unlocking, 0⟩ fun _ => ⟨.test, 0⟩)
      (settled Rwlock.start 0 ⟨.join, 0⟩ fun _ => ⟨.test, 0⟩) :=
    reaches_main rfl nofun rfl
  have run : ∃ counter, (program nloop n).Reaches Anything
      (settled Rwlock.start 0 ⟨.join, 0⟩ fun _ => ⟨.test, 0⟩)
      (settled Rwlock.start counter ⟨.join, 0⟩ fun _ => ⟨.returned, nloop⟩) := by
    rw [← firstThreads_all ⟨.returned, nloop⟩ ⟨.test, 0⟩]
    exact exists_threads nloop 0 (fun same => by cases same) (le_refl n)
  obtain ⟨counter, threads⟩ := run
  have join : (program nloop n).Reaches Anything
      (settled Rwlock.start counter ⟨.join, 0⟩ fun _ => ⟨.returned, nloop⟩)
      (settled Rwlock.start counter ⟨.join, n⟩ fun _ => ⟨.returned, nloop⟩) :=
    reaches_join (le_refl n) rfl
  have joined : (program nloop n).Reaches Anything
      (settled Rwlock.start counter ⟨.join, n⟩ fun _ => ⟨.returned, nloop⟩)
      (settled Rwlock.start counter ⟨.compare, 0⟩ fun _ => ⟨.returned, nloop⟩) :=
    reaches_main rfl nofun (by simp [State.runMain, settled, State.mainTo])
  have started : (program nloop n).Reachable Anything
      (settled Rwlock.start 0 ⟨.join, 0⟩ fun _ => ⟨.test, 0⟩) :=
    lock.trans (locked.trans (create.trans (created.trans (unlock.trans unlocked))))
  exact ⟨_, (started.trans (threads.trans (join.trans joined))).trans
    (reaches_main rfl nofun rfl), rfl⟩

/-! ### The result -/

/-- **Where the product is not an `int` some run reports an error.** -/
theorem exists_wrong {a : Arguments} (large : 2 ^ 31 ≤ a.nloop * a.nthreads) :
    ∃ s, (incrRwlock1 a).Reachable Anything s ∧ ¬ Right a.nloop s := by
  obtain ⟨s, reachable, exited⟩ := exists_exited a.nloop a.nthreads
  have reachable : (incrRwlock1 a).Reachable Anything s := reachable
  refine ⟨s, reachable, fun right => ?_⟩
  have reported := (kept_of_reachable reachable).reported (by exact_mod_cast large) exited
  rw [right.verdict exited] at reported
  cases reported

/-- **The self-check of `incr_rwlock1` is right in every run exactly if `nloop * nthreads` is below
`2 ^ 31`**: no increment comes before the release by `main`, after the joins the counter is the
product, and no error is reported. -/
theorem right_iff (a : Arguments) :
    (∀ s, (incrRwlock1 a).Reachable Anything s → Right a.nloop s) ↔
      a.nloop * a.nthreads < 2 ^ 31 := by
  constructor
  · intro right
    by_contra large
    obtain ⟨s, reachable, wrong⟩ := exists_wrong (not_lt.mp large)
    exact wrong (right s reachable)
  · intro small s reachable
    exact (kept_of_reachable reachable).right (by exact_mod_cast small)

/-- **Two threads with `2 ^ 30` rounds each**: the product is negative, and an error is reported. -/
theorem wrong_verdict : ¬ ∀ (a : Arguments) (s : State a.nthreads),
    (incrRwlock1 a).Reachable Anything s → Right a.nloop s := by
  intro right
  obtain ⟨s, reachable, wrong⟩ := exists_wrong (a := ⟨2 ^ 30, 2, by decide, by decide⟩) (by decide)
  exact wrong (right _ s reachable)

end Unpvol2.Incr
