/-
**The counter of `incr_rwlock1`.**

`Kept` says that `shared.counter` is the number of increments the threads have made, that a value
that has been loaded is still the counter's value when it is stored, that no thread runs before it
has been created, and that `main` has joined the threads it has passed. The exclusion of the write
lock carries it (`Used.exclusive`): while one thread is between its load and its store no other is
in its bracket, and `main` is not either.

* `Kept.step` — every step keeps it, whatever the pthread calls return.
* `Kept.right` — **then the self-check is right, if the product is an `int`.**
-/

import Mathlib.Data.Fintype.BigOperators
import Unpvol2.Incr.Step
import Unpvol2.Rwlock.Bracket

set_option linter.unusedSectionVars false

namespace Unpvol2.Incr

open C Interleaving Rwlock

variable {n nloop : ℕ} {s s' : State n}

/-! ### Stages and rounds -/

def MainPc.stage : MainPc → Stage
  | .wrlock | .join | .compare | .exited => .outside
  | .wrlocking => .locking
  | .create | .unlock => .holding
  | .unlocking => .unlocking

def Pc.stage : Pc → Stage
  | .unborn | .test | .wrlock | .returned => .outside
  | .wrlocking => .locking
  | .load | .store _ | .unlock => .holding
  | .unlocking => .unlocking

/-- The part of its bracket a thread is in. -/
def State.stage (s : State n) : Option (Fin n) → Stage
  | none => s.main.pc.stage
  | some t => (s.thread t).pc.stage

/-- The thread has been created and has not returned. -/
def Pc.running : Pc → Bool
  | .unborn | .returned => false
  | .test | .wrlock | .wrlocking | .load | .store _ | .unlock | .unlocking => true

/-- The number of threads that `main` has created. -/
def Main.created (n : ℕ) (x : Main) : ℕ :=
  match x.pc with
  | .wrlock | .wrlocking => 0
  | .create => x.i
  | .unlock | .unlocking | .join | .compare | .exited => n

/-- The number of threads that `main` has joined. -/
def Main.joined (n : ℕ) (x : Main) : ℕ :=
  match x.pc with
  | .wrlock | .wrlocking | .create | .unlock | .unlocking => 0
  | .join => x.i
  | .compare | .exited => n

/-- The number of increments the thread has made. -/
def Thread.done (x : Thread) : ℤ :=
  match x.pc with
  | .unlock | .unlocking => x.i + 1
  | _ => x.i

/-- The loop counter fits the statement the thread stands at. -/
def Thread.Fits (nloop : ℕ) (x : Thread) : Prop :=
  match x.pc with
  | .unborn => x.i = 0
  | .test => x.i ≤ nloop
  | .wrlock | .wrlocking | .load | .store _ | .unlock | .unlocking => x.i < nloop
  | .returned => x.i = nloop

theorem Thread.Fits.done_le {x : Thread} (fits : x.Fits nloop) : x.done ≤ nloop := by
  unfold Thread.Fits at fits
  unfold Thread.done
  cases here : x.pc with
  | unborn | test | wrlock | wrlocking | load | store | unlock | unlocking | returned =>
    rw [here] at fits
    dsimp only at fits ⊢
    omega

/-! ### The invariant -/

structure Kept (nloop : ℕ) (s : State n) : Prop where
  used : Used s.stage s.process
  unborn : ∀ t : Fin n, s.main.created n ≤ t → (s.thread t).pc = .unborn
  fits : ∀ t, (s.thread t).Fits nloop
  loaded : ∀ t value, (s.thread t).pc = .store value → value = s.counter
  counter : s.counter = total Thread.done s.thread
  joined : ∀ t : Fin n, t < s.main.joined n → (s.thread t).pc = .returned
  error : s.main.pc = .exited →
    s.error = if s.counter ≠ int32 (nloop * n) then some s.counter else none

theorem kept_start : Kept nloop (start n) where
  used := by
    have outside : (start n).stage = fun _ => .outside := by
      funext u
      cases u <;> rfl
    rw [outside]
    exact used_start
  unborn := fun _ _ => rfl
  fits := fun _ => rfl
  loaded := fun _ _ here => by cases here
  counter := (total_eq_zero fun _ => rfl).symm
  joined := fun _ before => absurd before (Nat.not_lt_zero _)
  error := fun here => by cases here

/-! ### The stages after a step -/

/-- `main` has moved. -/
theorem stage_main (thread : s'.thread = s.thread) :
    s'.stage = Function.update s.stage none s'.main.pc.stage := by
  funext u
  cases u with
  | none => rw [Function.update_self]; rfl
  | some t =>
    rw [Function.update_of_ne (Option.some_ne_none t)]
    exact congrArg (fun thread => (thread t).pc.stage) thread

/-- One thread has moved. -/
theorem stage_thread (t : Fin n) (x : Thread) (main : s'.main = s.main)
    (thread : s'.thread = Function.update s.thread t x) :
    s'.stage = Function.update s.stage (some t) x.pc.stage := by
  funext u
  cases u with
  | none =>
    rw [Function.update_of_ne (Option.some_ne_none t).symm]
    exact congrArg (fun x => x.pc.stage) main
  | some u =>
    show (s'.thread u).pc.stage = _
    rw [thread]
    by_cases same : u = t
    · rw [same, Function.update_self, Function.update_self]
    · rw [Function.update_of_ne same, Function.update_of_ne fun eq => same (Option.some.inj eq)]
      rfl

/-- A thread that stays in its stage. -/
theorem used_stays {u : Option (Fin n)} {stage : Stage} (same : s.stage u = stage)
    (used : Used s.stage s.process) : Used (Function.update s.stage u stage) s.process := by
  rw [← same, Function.update_eq_self]
  exact used

/-! ### The steps of `main` -/

section Steps

/-- `main` moves, and the threads do not. -/
theorem Kept.moveMain (kept : Kept nloop s) {pc : MainPc} (here : s.main.pc = pc)
    (thread : s'.thread = s.thread) (counter : s'.counter = s.counter)
    (used : Used (Function.update s.stage none s'.main.pc.stage) s'.process)
    (created : ∀ t : Fin n, s'.main.created n ≤ t → (⟨pc, s.main.i⟩ : Main).created n ≤ t)
    (joined : ∀ t : Fin n, t < s'.main.joined n →
      t < (⟨pc, s.main.i⟩ : Main).joined n ∨ (s.thread t).pc = .returned)
    (error : s'.main.pc = .exited →
      s'.error = if s.counter ≠ int32 (nloop * n) then some s.counter else none) :
    Kept nloop s' := by
  subst here
  refine ⟨?_, fun t later => ?_, fun t => ?_, fun t value there => ?_, ?_, fun t before => ?_,
    fun exited => ?_⟩
  · rw [stage_main thread]
    exact used
  · rw [thread]
    exact kept.unborn t (created t later)
  · rw [thread]
    exact kept.fits t
  · rw [thread] at there
    rw [counter]
    exact kept.loaded t value there
  · rw [counter, thread]
    exact kept.counter
  · rw [thread]
    exact (joined t before).elim (kept.joined t) id
  · rw [counter]
    exact error exited

/-- `main` creates the next thread. -/
theorem Kept.create (kept : Kept nloop s) (t : Fin n) (here : s.main.pc = .create)
    (i : s.main.i = t) : Kept nloop (s.create t) := by
  have created : s.main.created n = t := by
    unfold Main.created
    rw [here, i]
  have fresh : (s.thread t).pc = .unborn := kept.unborn t created.le
  have none : (s.thread t).done = 0 := by
    have fits := kept.fits t
    unfold Thread.Fits at fits
    rw [fresh] at fits
    unfold Thread.done
    rw [fresh]
    exact congrArg Nat.cast fits
  have others : ∀ u, u ≠ t → (s.create t).thread u = s.thread u := fun u ne =>
    Function.update_of_ne ne _ _
  have own : (s.create t).thread t = ⟨.test, 0⟩ := Function.update_self ..
  have stage : (s.create t).stage = s.stage := by
    funext u
    cases u with
    | none => exact (congrArg MainPc.stage here).symm
    | some u =>
      show ((s.create t).thread u).pc.stage = (s.thread u).pc.stage
      by_cases same : u = t
      · rw [same, own, fresh]
        rfl
      · rw [others u same]
  refine ⟨?_, fun u later => ?_, fun u => ?_, fun u value there => ?_, ?_, fun u before => ?_, ?_⟩
  · rw [stage]
    exact kept.used
  · have later : (t : ℕ) + 1 ≤ u := later
    rw [others u (fun same => by rw [same] at later; omega)]
    exact kept.unborn u (created.trans_le (by omega))
  · by_cases same : u = t
    · rw [same, own]
      exact Nat.zero_le _
    · rw [others u same]
      exact kept.fits u
  · by_cases same : u = t
    · rw [same, own] at there
      cases there
    · rw [others u same] at there
      exact kept.loaded u value there
  · show s.counter = total Thread.done (Function.update s.thread t ⟨.test, 0⟩)
    have new : Thread.done ⟨.test, 0⟩ = 0 := rfl
    rw [total_update, none, new, kept.counter]
    omega
  · exact absurd before (Nat.not_lt_zero _)
  · nofun

/-! ### The steps of the threads -/

/-- A thread moves that has been created and has not returned. -/
theorem Kept.moveThread (kept : Kept nloop s) (t : Fin n) (x : Thread)
    (thread : s'.thread = Function.update s.thread t x) (main : s'.main = s.main)
    (error : s'.error = s.error)
    (used : Used (Function.update s.stage (some t) x.pc.stage) s'.process)
    (running : (s.thread t).pc.running = true) (fits : x.Fits nloop)
    (loaded : ∀ value, x.pc = .store value → value = s'.counter)
    (others : ∀ u, u ≠ t → ∀ value, (s.thread u).pc = .store value → s'.counter = s.counter)
    (counter : s'.counter = s.counter - (s.thread t).done + x.done)
    (ends : s.main.pc = .exited → s'.counter = s.counter) : Kept nloop s' := by
  have away : ∀ u, u ≠ t → s'.thread u = s.thread u := fun u ne => by
    rw [thread, Function.update_of_ne ne]
  have own : s'.thread t = x := by rw [thread, Function.update_self]
  refine ⟨?_, fun u later => ?_, fun u => ?_, fun u value here => ?_, ?_, fun u before => ?_,
    fun here => ?_⟩
  · rw [stage_thread t x main thread]
    exact used
  · rw [main] at later
    have fresh := kept.unborn u later
    by_cases same : u = t
    · rw [same] at fresh
      rw [fresh] at running
      cases running
    · rw [away u same]
      exact fresh
  · by_cases same : u = t
    · rw [same, own]
      exact fits
    · rw [away u same]
      exact kept.fits u
  · by_cases same : u = t
    · rw [same, own] at here
      exact loaded value here
    · rw [away u same] at here
      rw [others u same value here]
      exact kept.loaded u value here
  · rw [counter, thread, total_update, kept.counter]
  · rw [main] at before
    have returned := kept.joined u before
    by_cases same : u = t
    · rw [same] at returned
      rw [returned] at running
      cases running
    · rw [away u same]
      exact returned
  · rw [main] at here
    rw [error, ends here]
    exact kept.error here

/-- A thread goes on from the statement `pc`, and the counter stays. -/
theorem Kept.goes (kept : Kept nloop s) (t : Fin n) {pc : Pc} (here : (s.thread t).pc = pc)
    (x : Thread) (thread : s'.thread = Function.update s.thread t x) (main : s'.main = s.main)
    (error : s'.error = s.error) (counter : s'.counter = s.counter)
    (used : Used (Function.update s.stage (some t) x.pc.stage) s'.process)
    (running : pc.running = true)
    (fits : (⟨pc, (s.thread t).i⟩ : Thread).Fits nloop → x.Fits nloop)
    (done : x.done = (⟨pc, (s.thread t).i⟩ : Thread).done)
    (loaded : ∀ value, x.pc = .store value → value = s.counter) : Kept nloop s' := by
  subst here
  refine kept.moveThread t x thread main error used running (fits (kept.fits t)) ?_
    (fun _ _ _ _ => counter) ?_ fun _ => counter
  · rw [counter]
    exact loaded
  · rw [counter, done]
    exact (sub_add_cancel _ _).symm

theorem sum_rounds (n nloop : ℕ) : ∑ _ : Fin n, (nloop : ℤ) = nloop * n := by
  rw [Finset.sum_const, Finset.card_univ, Fintype.card_fin, nsmul_eq_mul, mul_comm]

/-- All threads together make `nloop * n` increments at most. -/
theorem total_done_le {thread : Fin n → Thread} (fits : ∀ t, (thread t).Fits nloop) :
    total Thread.done thread ≤ nloop * n := by
  rw [← sum_rounds]
  exact Finset.sum_le_sum fun t _ => (fits t).done_le

theorem Kept.counter_nonneg (kept : Kept nloop s) : 0 ≤ s.counter := by
  rw [kept.counter]
  refine total_nonneg (fun x => ?_) _
  unfold Thread.done
  split <;> omega

/-- **No increment is lost**: the store writes the counter's value plus one. -/
theorem Kept.store (kept : Kept nloop s) (small : (nloop : ℤ) * n < 2 ^ 63) (t : Fin n) (value : ℤ)
    (here : (s.thread t).pc = .store value) (running : s.main.pc ≠ .exited) :
    Kept nloop { s.goto t .unlock with counter := int64 (value + 1) } := by
  have fits : Thread.Fits nloop { s.thread t with pc := .unlock } := by
    have before := kept.fits t
    unfold Thread.Fits at before
    rw [here] at before
    exact before
  have done : (s.thread t).done = (s.thread t).i := by
    unfold Thread.done
    rw [here]
  have done' : Thread.done { s.thread t with pc := .unlock } = (s.thread t).i + 1 := rfl
  have stored : int64 (value + 1) = s.counter + 1 := by
    have room : s.counter + 1 ≤ nloop * n := by
      have all : total Thread.done (Function.update s.thread t { s.thread t with pc := .unlock }) ≤
          nloop * n := by
        refine total_done_le fun u => ?_
        by_cases same : u = t
        · rw [same, Function.update_self]
          exact fits
        · rw [Function.update_of_ne same]
          exact kept.fits u
      rw [total_update, done, done', ← kept.counter] at all
      omega
    have low := kept.counter_nonneg
    rw [kept.loaded t value here]
    exact int64_of_range (by omega) (by omega)
  have holding : s.stage (some t) = .holding := by
    show (s.thread t).pc.stage = _
    rw [here]
    rfl
  refine kept.moveThread t { s.thread t with pc := .unlock } rfl rfl rfl
    (used_stays holding kept.used) (by rw [here]; rfl) fits nofun (fun u other v there => ?_) ?_
    fun gone => absurd gone running
  · have holding' : s.stage (some u) = .holding := by
      show (s.thread u).pc.stage = _
      rw [there]
      rfl
    exact absurd (Option.some.inj (kept.used.exclusive holding' holding)) other
  · rw [done, done']
    show int64 (value + 1) = _
    rw [stored]
    omega

/-- **Every step keeps it.** -/
theorem Kept.step {action : Act n} (kept : Kept nloop s) (small : (nloop : ℤ) * n < 2 ^ 63)
    (running : s.ended = false) (step : Step nloop s action s') : Kept nloop s' := by
  unfold State.ended at running
  simp only [Bool.or_eq_false_iff, decide_eq_false_iff_not] at running
  have goes : s.process.ended = none :=
    Option.isNone_iff_eq_none.mp (Option.isSome_eq_false_iff.mp running.1.1)
  have used := kept.used
  -- behind the first loop all threads have been created, before the second none is joined
  have all : ∀ (t : Fin n) (m : ℕ), n ≤ (t : ℕ) → m ≤ t := fun t _ later =>
    absurd t.isLt (not_lt.mpr later)
  have nobody : ∀ (t : Fin n) {P : Prop}, (t : ℕ) < 0 → P := fun t _ before =>
    absurd before (Nat.not_lt_zero _)
  cases step with
  | wrlock here call =>
    exact kept.moveMain here rfl rfl (used.lock (congrArg MainPc.stage here) call)
      (fun _ => id) (fun t => nobody t) nofun
  | wrlocked here idle =>
    exact kept.moveMain here rfl rfl (used.locked (congrArg MainPc.stage here) goes idle)
      (fun _ => id) (fun t => nobody t) nofun
  | create t here i => exact kept.create t here i
  | created here _ =>
    exact kept.moveMain here rfl rfl (used_stays (congrArg MainPc.stage here :) used)
      (fun t => all t _) (fun t => nobody t) nofun
  | unlock here call =>
    exact kept.moveMain here rfl rfl (used.unlock (congrArg MainPc.stage here) call)
      (fun _ => id) (fun t => nobody t) nofun
  | unlocked here idle =>
    exact kept.moveMain here rfl rfl (used.unlocked (congrArg MainPc.stage here) goes idle)
      (fun _ => id) (fun t => nobody t) nofun
  | join t here i returned =>
    refine kept.moveMain here rfl rfl (used_stays (congrArg MainPc.stage here :) used)
      (fun _ => id) (fun u before => ?_) nofun
    have before : (u : ℕ) < t + 1 := before
    rcases Nat.lt_succ_iff_lt_or_eq.mp before with earlier | same
    · exact .inl (i ▸ earlier)
    · rw [Fin.ext same]
      exact .inr returned
  | joined here most =>
    exact kept.moveMain here rfl rfl (used_stays (congrArg MainPc.stage here :) used)
      (fun _ => id) (fun u _ => .inl (u.isLt.trans_le most)) nofun
  | compare here =>
    exact kept.moveMain here rfl rfl (used_stays (congrArg MainPc.stage here :) used)
      (fun _ => id) (fun _ => .inl) fun _ => rfl
  | test t next here branch =>
    rcases branch with ⟨more, rfl⟩ | ⟨most, rfl⟩
    · exact kept.goes t here ⟨.wrlock, _⟩ rfl rfl rfl rfl
        (used_stays (congrArg Pc.stage here :) used) rfl (fun _ => more) rfl nofun
    · exact kept.goes t here ⟨.returned, _⟩ rfl rfl rfl rfl
        (used_stays (congrArg Pc.stage here :) used) rfl (fun fit => le_antisymm fit most) rfl nofun
  | lock t here call =>
    exact kept.goes t here ⟨.wrlocking, _⟩ rfl rfl rfl rfl
      (used.lock (congrArg Pc.stage here) call) rfl id rfl nofun
  | locked t here idle =>
    exact kept.goes t here ⟨.load, _⟩ rfl rfl rfl rfl
      (used.locked (congrArg Pc.stage here) goes idle) rfl id rfl nofun
  | load t here =>
    refine kept.goes t here ⟨.store s.counter, _⟩ rfl rfl rfl rfl
      (used_stays (congrArg Pc.stage here :) used) rfl id rfl ?_
    rintro value ⟨⟩
    rfl
  | store t value here => exact kept.store small t value here running.2
  | release t here call =>
    exact kept.goes t here ⟨.unlocking, _⟩ rfl rfl rfl rfl
      (used.unlock (congrArg Pc.stage here) call) rfl id rfl nofun
  | round t here idle =>
    exact kept.goes t here ⟨.test, _⟩ rfl rfl rfl rfl
      (used.unlocked (congrArg Pc.stage here) goes idle) rfl id rfl nofun
  | inside action inner moved =>
    exact ⟨used.inside inner moved, kept.unborn, kept.fits, kept.loaded, kept.counter,
      kept.joined, kept.error⟩

end Steps

/-! ### The self-check -/

/-- **No increment before `main` releases its write lock.** -/
theorem Kept.released (kept : Kept nloop s) {t : Fin n} {value : ℤ}
    (here : (s.thread t).pc = .store value) : s.Released := by
  have holding : s.stage (some t) = .holding := congrArg Pc.stage here
  refine ⟨?_, kept.used.alone holding (Option.some_ne_none t)⟩
  have alone : s.stage none ≠ .holding := fun there =>
    Option.some_ne_none t (kept.used.exclusive holding there)
  have away : s.main.pc.stage ≠ .holding := alone
  have created : s.main.created n ≠ 0 := by
    intro none
    have fresh := kept.unborn t (none ▸ Nat.zero_le _)
    rw [here] at fresh
    cases fresh
  unfold Main.created at created
  cases main : s.main.pc with
  | wrlock | wrlocking =>
    rw [main] at created
    exact absurd rfl created
  | create | unlock =>
    rw [main] at away
    exact absurd rfl away
  | unlocking | join | compare | exited => rfl

/-- **After the joins the counter has its value.** -/
theorem Kept.counter_eq (kept : Kept nloop s)
    (here : s.main.pc = .compare ∨ s.main.pc = .exited) : s.counter = nloop * n := by
  have joined : s.main.joined n = n := by
    unfold Main.joined
    rcases here with here | here <;> rw [here]
  have all : ∀ t, (s.thread t).done = nloop := by
    intro t
    have returned := kept.joined t (joined.symm ▸ t.isLt)
    have fits := kept.fits t
    unfold Thread.Fits at fits
    unfold Thread.done
    rw [returned] at fits ⊢
    exact congrArg Nat.cast fits
  rw [kept.counter, ← sum_rounds]
  exact Finset.sum_congr rfl fun t _ => all t

/-- **The self-check is right if the product is an `int`.** -/
theorem Kept.right (kept : Kept nloop s) (fits : (nloop : ℤ) * n < 2 ^ 31) : Right nloop s where
  released := fun _ _ here => kept.released here
  joined := kept.counter_eq
  verdict := fun here => by
    have counter := kept.counter_eq (.inr here)
    have low := kept.counter_nonneg
    rw [counter] at low
    rw [kept.error here, counter, int32_of_lt low fits]
    exact if_neg (not_not.mpr rfl)

/-- And wrong if it is not. -/
theorem Kept.reported (kept : Kept nloop s) (large : 2 ^ 31 ≤ (nloop : ℤ) * n)
    (here : s.main.pc = .exited) : s.error = some s.counter := by
  rw [kept.error here, kept.counter_eq (.inr here)]
  refine if_pos fun same => ?_
  have range := (int32_range ((nloop : ℤ) * n)).2
  omega

/-- The counter, a `long`, has room for all increments. -/
theorem Arguments.product_lt (a : Arguments) : (a.nloop : ℤ) * a.nthreads < 2 ^ 63 := by
  have most : a.nloop * a.nthreads ≤ 2 ^ 31 * maxnthreads :=
    Nat.mul_le_mul a.nloop_lt.le a.nthreads_le
  unfold maxnthreads at most
  exact_mod_cast most.trans_lt (by decide)

/-- **The invariant holds in every run.** -/
theorem kept_of_reachable {a : Arguments} {s : State a.nthreads}
    (reachable : (incrRwlock1 a).Reachable Anything s) : Kept a.nloop s := by
  refine reachable.induct kept_start ?_
  intro s action s' _ kept _ step
  obtain ⟨running, step⟩ := step_cases step
  exact kept.step a.product_lt running step

end Unpvol2.Incr
