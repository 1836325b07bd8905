/-
**How `testcancel` ends.**

`Fits` ties the statement of a thread to what the lock knows of it, as in `Test1.Link`, and `Cut` is
a thread that has been cancelled in its wait. Up to the cancellation the lock is used as it demands;
after it the account of `rw_refcount` is still right (`Accounted.cancel`), for a cancelled waiter
has no lock.

* `testcancel_outcome` — where nothing more happens the process has ended with status `0`, and then
  `thread2` was not cancelled in the lock; or `destroy` has found the lock in use, and then
  `thread2` was cancelled with the write lock or in its wait; or **`thread1` waits in its `unlock`
  for ever**, for the mutex that `thread2` took along when it was cancelled in its wait.
-/

import Unpvol2.Rwlock.Cancel
import Unpvol2.Test1.Clean
import Unpvol2.Testcancel.Model

set_option linter.unusedSectionVars false

namespace Unpvol2.Testcancel

open C Interleaving Rwlock
open Test1 (stuck_lock)

/-! ### Outcomes -/

/-- What has become of the process. -/
inductive Outcome (s : State) : Prop
  /-- `thread2` has left the lock, or has not come to it -/
  | fine (exit : s.exit = some 0) (idle : s.rwlock.loc .thread2 = .idle)
      (free : (s.rwlock.thread .thread2).Free) (printed : .counts 0 0 0 ∈ s.stdout)
  /-- `destroy` finds a lock that nobody gives back -/
  | locked (exit : s.exit = some 1) (canceled : s.thread2 = .canceled)
      (has : (s.rwlock.thread .thread2).Has .wr) (printed : .counts (-1) 0 0 ∈ s.stdout)
  /-- `destroy` finds a writer that waits -/
  | counted (exit : s.exit = some 1) (dead : s.rwlock.loc .thread2 = .dead .wr)
      (printed : .counts 0 0 1 ∈ s.stdout)
  /-- `main` waits for `thread1`, and `thread1` for `rw_mutex` -/
  | hangs (exit : s.exit = none) (main : s.main = .join1)
      (waits : s.rwlock.loc .thread1 = .mutexLock .unlock)
      (dead : s.rwlock.loc .thread2 = .dead .wr) (mutex : s.rwlock.rwMutex = some .thread2)

/-! ### What the lock knows of a thread -/

/-- What the lock knows of a thread fits its stage, and its last call has returned `0`. -/
def Fits (m : Mode) (stage : Test1.Stage) (x : Rwlock.Thread) : Prop :=
  stage.Link m x ∧ (x.loc = .idle → x.result = 0)

/-- The thread has been cancelled in its wait. -/
def Cut (x : Rwlock.Thread) : Prop := (x.loc = .cancelled .wr ∨ x.loc = .dead .wr) ∧ x.Free

def Pc1.stage : Pc1 → Test1.Stage
  | .notYet | .rdlock | .returned => .outside
  | .rdlocking => .locking
  | .got | .cancel | .unlock => .holding
  | .unlocking => .unlocking

/-- What the lock knows of `thread2`, which is not cancelled unless it is asked to. -/
def Pc2.Fits (requested : Bool) : Pc2 → Rwlock.Thread → Prop
  | .notYet | .trying | .wrlock | .returned => Testcancel.Fits .wr .outside
  | .wrlocking => fun x => Testcancel.Fits .wr .locking x ∨ (requested = true ∧ Cut x)
  | .got | .sleep | .unlock => Testcancel.Fits .wr .holding
  | .unlocking => Testcancel.Fits .wr .unlocking
  | .canceled => fun x => requested = true ∧ x.loc = .idle ∧ (x.Free ∨ x.Has .wr)

variable {lock lock' : Rwlock.State Tid} {action : Rwlock.Act Tid} {t : Tid} {m : Mode}
  {stage : Test1.Stage} {x : Rwlock.Thread}

theorem total_tid {κ : Type} (w : κ → ℤ) (r : Tid → κ) :
    total w r = w (r .thread1) + w (r .thread2) :=
  Finset.sum_pair (by decide)

/-- A thread has its own lock or none. -/
theorem Fits.free_or_has (fits : Fits m stage x) : x.Free ∨ x.Has m := by
  obtain ⟨link, _⟩ := fits
  cases stage with
  | outside => exact .inl link.2
  | locking => exact link.imp (·.2) (·.2)
  | holding => exact .inr link.2
  | unlocking => exact (link.imp (·.2) (·.2)).symm

theorem Pc2.Fits.free_or_has {pc : Pc2} {requested : Bool} (fits : pc.Fits requested x) :
    x.Free ∨ x.Has .wr := by
  cases pc with
  | wrlocking => exact fits.elim (·.free_or_has) fun cut => .inl cut.2.2
  | canceled => exact fits.2.2
  | _ => exact Testcancel.Fits.free_or_has fits

/-- A step inside the lock keeps the link, or ends the call. -/
theorem Fits.inside (fits : Fits m stage (lock.thread t)) (step : Rwlock.Step lock action lock')
    (inner : action.inner = true) (succeeds : Succeeds action) (initialised : Initialised lock.rw) :
    Fits m stage (lock'.thread t) := by
  obtain ⟨link, answer⟩ := fits
  -- a call goes on, or returns
  have called : ∀ {c : Call}, c.blocking = true → (lock.loc t).serves c = true →
      (((lock'.loc t).serves c = true ∧ ((lock'.thread t).loc = .idle → False)) ∧
        ∀ m, (lock'.thread t).held m = (lock.thread t).held m) ∨
      lock'.thread t = (lock.thread t).returned c 0 := by
    intro c blocking serves
    refine (step.caller inner succeeds initialised blocking serves).imp_left fun on =>
      ⟨⟨on.1, fun idle => ?_⟩, on.2⟩
    have serves := on.1
    rw [Rwlock.State.loc, idle] at serves
    cases serves
  have zero : ∀ c : Call, ((lock.thread t).returned c 0).result = 0 := fun c => by
    cases c with
    | lock m => cases m <;> rfl
    | trylock m => cases m <;> rfl
    | unlock =>
      unfold Rwlock.Thread.returned
      rw [if_neg (not_not.mpr rfl)]
      cases (lock.thread t).released <;> rfl
  cases stage with
  | outside | holding =>
    rw [step.idle inner link.1]
    exact ⟨link, answer⟩
  | locking =>
    rcases link with ⟨serves, none⟩ | ⟨idle, one⟩
    · rcases called rfl serves with ⟨⟨on, busy⟩, same⟩ | back
      · exact ⟨.inl ⟨on, none.of_held same⟩, fun idle => (busy idle).elim⟩
      · rw [back]
        exact ⟨.inr (none.returned_lock _), fun _ => zero _⟩
    · rw [step.idle inner idle]
      exact ⟨.inr ⟨idle, one⟩, answer⟩
  | unlocking =>
    rcases link with ⟨serves, one⟩ | ⟨idle, none⟩
    · rcases called rfl serves with ⟨⟨on, busy⟩, same⟩ | back
      · exact ⟨.inl ⟨on, one.of_held same⟩, fun idle => (busy idle).elim⟩
      · rw [back]
        exact ⟨.inr one.returned_unlock, fun _ => zero _⟩
    · rw [step.idle inner idle]
      exact ⟨.inr ⟨idle, none⟩, answer⟩

/-- A dead thread stays dead. -/
theorem dead_inside (step : Rwlock.Step lock action lock') (here : lock.loc t = .dead m) :
    lock'.loc t = .dead m := by
  unfold Rwlock.State.loc at here ⊢
  rcases step.others fun own => step.not_dead here own.symm with same | ⟨_, asleep, _⟩
  · rw [same]
    exact here
  · rw [Rwlock.State.loc, here] at asleep
    cases asleep

/-- A thread that has been cancelled moves no lock. -/
theorem Cut.inside (cut : Cut (lock.thread t)) (step : Rwlock.Step lock action lock')
    (inner : action.inner = true) : Cut (lock'.thread t) := by
  obtain ⟨here, none⟩ := cut
  have held : ∀ m, (lock'.thread t).held m = (lock.thread t).held m := by
    rcases step.held t with same | ⟨c, result, there, _⟩
    · exact same
    · rcases here with here | here <;> rw [Rwlock.State.loc, here] at there <;> cases there
  refine ⟨?_, none.of_held held⟩
  rcases here with here | here
  · by_cases own : t = action.thread
    · subst own
      have stands : lock.loc action.thread = .cancelled .wr := here
      cases step with
      | terminate t m there free =>
        rw [Rwlock.Act.thread, there] at stands
        cases stands
        exact .inr (goto_loc_self lock t _)
      | cancel => cases inner
      | _ => simp_all [Rwlock.Act.thread]
    · rcases step.others own with same | ⟨m, asleep, _⟩
      · rw [same]
        exact .inl here
      · rw [Rwlock.State.loc, here] at asleep
        cases asleep
  · exact .inr (dead_inside step here)

/-- What the lock knows of `thread2` is kept. -/
theorem Pc2.Fits.inside {pc : Pc2} {requested : Bool} (fits : pc.Fits requested (lock.thread t))
    (step : Rwlock.Step lock action lock') (inner : action.inner = true)
    (succeeds : Succeeds action) (initialised : Initialised lock.rw) :
    pc.Fits requested (lock'.thread t) := by
  cases pc with
  | wrlocking =>
    exact fits.imp (fun fits => fits.inside step inner succeeds initialised) fun cut =>
      ⟨cut.1, cut.2.inside step inner⟩
  | canceled =>
    rw [step.idle inner fits.2.1]
    exact fits
  | _ => exact Testcancel.Fits.inside fits step inner succeeds initialised

/-- An inner step belongs to a thread in a call that goes on. -/
theorem not_idle_of_inner (step : Rwlock.Step lock action lock') (inner : action.inner = true) :
    lock.loc action.thread ≠ .idle := by
  intro idle
  cases step with
  | call => cases inner
  | cancel => cases inner
  | _ => simp_all [Rwlock.Act.thread]

theorem goto_few (few : FewReaders lock) {loc : Loc} : FewReaders (lock.goto t loc) := by
  have same : (lock.goto t loc).outstanding .rd = lock.outstanding .rd :=
    total_rewrite _ fun u => congrArg Int.ofNat (goto_held lock t u _ .rd)
  unfold FewReaders
  rw [same]
  exact few

/-- A cancellation moves no lock. -/
theorem cancel_accounted (accounted : Accounted lock)
    (step : Rwlock.Step lock (.cancel t) lock') : Accounted lock' := by
  cases step with
  | cancel t m here =>
    refine accounted.moved t { lock.thread t with loc := .cancelled m } rfl rfl
      (goto_few accounted.few) rfl (fun unlocking => by cases unlocking) fun m' => ?_
    have plain : (lock.loc t).grants m' = false ∧ (lock.loc t).releases = false := by
      rcases here with here | here <;> rw [here] <;> exact ⟨rfl, rfl⟩
    rw [locks_of_plain (x := { lock.thread t with loc := .cancelled m }) rfl rfl,
      locks_of_plain plain.1 plain.2]
    cases m' <;> rfl

/-! ### The invariant -/

/-- `thread1` has cancelled `thread2`. -/
def Pc1.asked : Pc1 → Bool
  | .unlock | .unlocking | .returned => true
  | _ => false

/-- `main` has joined `thread2`. -/
def MainPc.joined2 : MainPc → Bool
  | .create1 | .create2 | .join2 => false
  | _ => true

/-- `main` has joined both threads. -/
def MainPc.joined : MainPc → Bool
  | .counts | .destroy => true
  | _ => false

/-- `thread2` has ended. -/
def State.Over (s : State) : Prop := s.gone = true ∨ s.thread2 = .returned

/-- The process before it ends. -/
structure Kept (s : State) : Prop where
  running : s.exit = none
  reached : Rwlock.machine.Reachable Anything s.rwlock
  proper : s.requested = false → Rwlock.machine.Reachable Proper s.rwlock
  accounted : Accounted s.rwlock
  fits1 : Fits .rd s.thread1.stage (s.rwlock.thread .thread1)
  fits2 : s.thread2.Fits s.requested (s.rwlock.thread .thread2)
  asked : s.requested = s.thread1.asked
  created1 : s.thread1 = .notYet ↔ s.main = .create1
  created2 : s.thread2 = .notYet ↔ s.main = .create1 ∨ s.main = .create2
  joined2 : s.main.joined2 = true → s.Over
  joined1 : s.main.joined = true → s.thread1 = .returned
  printed : s.main = .destroy → .counts s.rwlock.rw.rwRefcount s.rwlock.rw.rwNwaitreaders
    s.rwlock.rw.rwNwaitwriters ∈ s.stdout

variable {s s' : State}

theorem free_start : (⟨.idle, 0, 0, 0⟩ : Rwlock.Thread).Free := fun m => by cases m <;> rfl

theorem kept_start : Kept start where
  running := rfl
  reached := .refl _
  proper := fun _ => .refl _
  accounted := accounted_start
  fits1 := ⟨⟨rfl, free_start⟩, fun _ => rfl⟩
  fits2 := ⟨⟨rfl, free_start⟩, fun _ => rfl⟩
  asked := rfl
  created1 := iff_of_true rfl rfl
  created2 := iff_of_true rfl (.inl rfl)
  joined2 := fun joined => by cases joined
  joined1 := fun joined => by cases joined
  printed := fun here => by cases here

theorem Kept.initialised (kept : Kept s) : Initialised s.rwlock.rw :=
  reachable_initialised kept.reached

theorem Kept.owner (kept : Kept s) : Owner s.rwlock := (reachable_counted kept.reached).1

theorem Kept.counted (kept : Kept s) : Counted s.rwlock := (reachable_counted kept.reached).2

/-- A thread that has ended leaves the lock alone. -/
theorem Kept.finished (kept : Kept s) (finished : s.Over) :
    s.rwlock.loc .thread2 = .idle ∨ s.rwlock.loc .thread2 = .dead .wr := by
  have fits := kept.fits2
  rcases finished with gone | returned
  · rcases Bool.or_eq_true_iff.mp gone with canceled | dead
    · rw [of_decide_eq_true canceled] at fits
      exact .inl fits.2.1
    · exact .inr (of_decide_eq_true dead)
  · rw [returned] at fits
    exact .inl fits.1.1

/-- Few read locks are out. -/
theorem few_of_fits {pc1 : Test1.Stage} {pc2 : Pc2} {requested : Bool}
    (fits1 : Fits .rd pc1 (lock.thread .thread1))
    (fits2 : pc2.Fits requested (lock.thread .thread2)) : FewReaders lock := by
  have one : ∀ {m : Mode} {x : Rwlock.Thread}, x.Free ∨ x.Has m → (x.held .rd : ℤ) ≤ 1 := by
    rintro m x (none | one)
    · rw [none .rd]
      decide
    · rw [one .rd]
      split <;> decide
  have first := one fits1.free_or_has
  have second := one fits2.free_or_has
  unfold FewReaders Rwlock.State.outstanding
  rw [total_tid]
  omega

/-- **A step inside the lock.** -/
theorem Kept.inside (kept : Kept s) (inner : action.inner = true) (succeeds : Succeeds action)
    (stepped : s.rwlock.step action = some lock') : Kept { s with rwlock := lock' } := by
  have step := Rwlock.step_cases stepped
  have fits1 := kept.fits1.inside step inner succeeds kept.initialised
  have fits2 := kept.fits2.inside step inner succeeds kept.initialised
  have few := few_of_fits fits1 fits2
  have legal : Legal s.rwlock action := by
    cases action with
    | call | cancel => cases inner
    | _ => trivial
  have finished : s.Over → State.Over { s with rwlock := lock' } := by
    rintro (gone | returned)
    · refine .inl (Bool.or_eq_true_iff.mpr ?_)
      refine (Bool.or_eq_true_iff.mp gone).imp_right fun dead => ?_
      exact decide_eq_true (dead_inside step (of_decide_eq_true dead))
    · exact .inr returned
  refine ⟨kept.running, kept.reached.next trivial stepped, fun no => ?_,
    kept.accounted.step kept.owner legal few step, fits1, fits2, kept.asked, kept.created1,
    kept.created2, fun joined => finished (kept.joined2 joined), kept.joined1, fun here => ?_⟩
  · refine (kept.proper no).next ⟨⟨legal, fun s' same => ?_⟩, succeeds⟩ stepped
    cases stepped.symm.trans same
    exact few
  · -- both threads have ended, and nobody is left to move
    exfalso
    have here : s.main = .destroy := here
    have returned := kept.joined1 (by rw [here]; rfl)
    have ended := kept.finished (kept.joined2 (by rw [here]; rfl))
    have idle1 := kept.fits1.1
    rw [returned] at idle1
    have busy := not_idle_of_inner step inner
    cases mover : action.thread with
    | thread1 =>
      rw [mover] at busy
      exact busy idle1.1
    | thread2 =>
      rw [mover] at busy
      rcases ended with idle | dead
      · exact busy idle
      · exact step.not_dead dead mover

/-! ### The threads' own steps -/

/-- `thread1` goes on. -/
theorem Kept.move1 (kept : Kept s) {pc : Pc1} {requested : Bool} {stdout : List Line}
    (here : s.thread1 ≠ .notYet ∧ s.thread1 ≠ .returned) (created : pc ≠ .notYet)
    (reached : Rwlock.machine.Reachable Anything lock')
    (proper : requested = false → Rwlock.machine.Reachable Proper lock')
    (accounted : Accounted lock') (fits1 : Fits .rd pc.stage (lock'.thread .thread1))
    (same : lock'.thread .thread2 = s.rwlock.thread .thread2) (asked : requested = pc.asked)
    (more : s.requested = true → requested = true) :
    Kept { s with rwlock := lock', thread1 := pc, requested := requested, stdout := stdout } := by
  have fits2 : s.thread2.Fits requested (s.rwlock.thread .thread2) := by
    have fits := kept.fits2
    revert fits
    cases s.thread2 with
    | wrlocking => exact Or.imp_right fun cut => ⟨more cut.1, cut.2⟩
    | canceled => exact fun canceled => ⟨more canceled.1, canceled.2⟩
    | _ => exact id
  have running : ∀ pc : MainPc, pc = s.main → pc.joined ≠ true := by
    rintro _ rfl joined
    exact here.2 (kept.joined1 joined)
  refine ⟨kept.running, reached, proper, accounted, fits1, ?_, asked,
    iff_of_false created fun main => here.1 (kept.created1.mpr main), kept.created2,
    fun joined => ?_, fun joined => absurd joined (running _ rfl),
    fun main => absurd rfl (running .destroy main.symm)⟩
  · show s.thread2.Fits requested (lock'.thread .thread2)
    rw [same]
    exact fits2
  · have finished := kept.joined2 joined
    unfold State.Over State.gone Rwlock.State.loc at finished ⊢
    rw [same]
    exact finished

/-- `thread2` goes on. -/
theorem Kept.move2 (kept : Kept s) {pc : Pc2} {stdout : List Line} (here : s.thread2 ≠ .notYet)
    (going : ¬ s.Over) (created : pc ≠ .notYet)
    (reached : Rwlock.machine.Reachable Anything lock')
    (proper : s.requested = false → Rwlock.machine.Reachable Proper lock')
    (accounted : Accounted lock') (same : lock'.thread .thread1 = s.rwlock.thread .thread1)
    (fits2 : pc.Fits s.requested (lock'.thread .thread2)) :
    Kept { s with rwlock := lock', thread2 := pc, stdout := stdout } := by
  have fits1 := kept.fits1
  rw [← same] at fits1
  refine ⟨kept.running, reached, proper, accounted, fits1, fits2, kept.asked, kept.created1,
    iff_of_false created fun main => here (kept.created2.mpr main),
    fun joined => absurd (kept.joined2 joined) going, kept.joined1,
    fun main => absurd (kept.joined2 ?_) going⟩
  rw [show s.main = .destroy from main]
  rfl

/-- What the lock is after a call. -/
theorem Kept.called (kept : Kept s) {c : Call} (legal : Legal s.rwlock (.call t c))
    (stepped : s.rwlock.step (.call t c) = some lock') :
    lock' = s.rwlock.goto t (.entered c) ∧ Rwlock.machine.Reachable Anything lock' ∧
      (s.requested = false → Rwlock.machine.Reachable Proper lock') ∧ Accounted lock' := by
  have step := Rwlock.step_cases stepped
  have entered : lock' = s.rwlock.goto t (.entered c) := by
    cases step
    rfl
  have few : FewReaders lock' := by
    rw [entered]
    exact goto_few kept.accounted.few
  refine ⟨entered, kept.reached.next trivial stepped, fun no => ?_,
    kept.accounted.step kept.owner legal few step⟩
  refine (kept.proper no).next ⟨⟨legal, fun s' same => ?_⟩, trivial⟩ stepped
  cases stepped.symm.trans same
  exact few

theorem goto_thread_self (lock : Rwlock.State Tid) (t : Tid) (loc : Loc) :
    (lock.goto t loc).thread t = { lock.thread t with loc := loc } :=
  Function.update_self ..

theorem goto_thread_ne (lock : Rwlock.State Tid) {t u : Tid} (ne : u ≠ t) (loc : Loc) :
    (lock.goto t loc).thread u = lock.thread u :=
  Function.update_of_ne ne ..

/-- A thread without a lock calls for one. -/
theorem Fits.call_lock (fits : Fits m .outside x) :
    Fits m .locking { x with loc := .entered (.lock m) } :=
  ⟨.inl ⟨decide_eq_true rfl, fits.1.2⟩, fun idle => by cases idle⟩

/-- A thread with its lock calls `unlock`. -/
theorem Fits.call_unlock (fits : Fits m .holding x) :
    Fits m .unlocking { x with loc := .entered .unlock } :=
  ⟨.inl ⟨rfl, fits.1.2⟩, fun idle => by cases idle⟩

/-- A thread is back with its lock. -/
theorem Fits.locked (fits : Fits m .locking x) (idle : x.loc = .idle) : Fits m .holding x := by
  refine ⟨?_, fits.2⟩
  rcases fits.1 with ⟨serves, _⟩ | holding
  · rw [idle] at serves
    cases serves
  · exact holding

/-- A thread is back without it. -/
theorem Fits.unlocked (fits : Fits m .unlocking x) (idle : x.loc = .idle) : Fits m .outside x := by
  refine ⟨?_, fits.2⟩
  rcases fits.1 with ⟨serves, _⟩ | outside
  · rw [idle] at serves
    cases serves
  · exact outside

/-- The wrapper of a call that has returned `0` returns. -/
theorem back_eq {c : Call} {next : State} (answer : s.rwlock.loc t = .idle →
      (s.rwlock.thread t).result = 0) (back : s.back t c next = some s') :
    s.rwlock.loc t = .idle ∧ next = s' := by
  unfold State.back at back
  obtain ⟨idle, same⟩ := Option.ite_none_right_eq_some.mp back
  rw [answer idle] at same
  refine ⟨idle, Option.some.inj (same ▸ ?_)⟩
  cases c with
  | lock m => cases m <;> rfl
  | trylock m => cases m <;> rfl
  | unlock => rfl

/-- **A statement of `thread1`.** -/
theorem Kept.thread1 (kept : Kept s) (step : s.thread1Step = some s') : Kept s' := by
  have fits := kept.fits1
  have asked := kept.asked
  -- the thread goes on outside the lock
  have goes : ∀ {pc : Pc1} {stdout : List Line},
      (s.thread1 ≠ .notYet ∧ s.thread1 ≠ .returned) → pc ≠ .notYet →
      Fits .rd pc.stage (s.rwlock.thread .thread1) → pc.asked = s.requested →
      Kept { s with thread1 := pc, stdout := stdout } := fun here created fits asked =>
    kept.move1 here created kept.reached kept.proper kept.accounted fits rfl asked.symm id
  -- it calls a function of the lock
  have calls : ∀ (c : Call) (pc : Pc1), Legal s.rwlock (.call .thread1 c) →
      (s.thread1 ≠ .notYet ∧ s.thread1 ≠ .returned) → pc ≠ .notYet →
      Fits .rd pc.stage { s.rwlock.thread .thread1 with loc := .entered c } →
      pc.asked = s.requested → s.call .thread1 c { s with thread1 := pc } = some s' → Kept s' := by
    intro c pc legal here created fits asked call
    obtain ⟨lock', stepped, rfl⟩ := Option.map_eq_some_iff.mp call
    obtain ⟨rfl, reached, proper, accounted⟩ := kept.called legal stepped
    refine kept.move1 here created reached proper accounted ?_
      (goto_thread_ne s.rwlock (by decide) _) asked.symm id
    rw [goto_thread_self]
    exact fits
  unfold State.thread1Step at step
  cases here : s.thread1 with
  | notYet | returned =>
    rw [here] at step
    cases step
  | rdlock =>
    rw [here] at step fits asked
    exact calls (.lock .rd) .rdlocking trivial (by rw [here]; exact ⟨nofun, nofun⟩) nofun
      fits.call_lock asked.symm step
  | rdlocking =>
    rw [here] at step fits asked
    obtain ⟨idle, rfl⟩ := back_eq fits.2 step
    exact goes (by rw [here]; exact ⟨nofun, nofun⟩) nofun (fits.locked idle) asked.symm
  | got =>
    rw [here] at step fits asked
    cases step
    exact goes (by rw [here]; exact ⟨nofun, nofun⟩) nofun fits asked.symm
  | cancel =>
    rw [here] at step fits
    cases step
    exact kept.move1 (by rw [here]; exact ⟨nofun, nofun⟩) nofun kept.reached nofun kept.accounted
      fits rfl rfl fun _ => rfl
  | unlock =>
    rw [here] at step fits asked
    exact calls .unlock .unlocking fits.1.2.holds (by rw [here]; exact ⟨nofun, nofun⟩) nofun
      fits.call_unlock asked.symm step
  | unlocking =>
    rw [here] at step fits asked
    obtain ⟨idle, rfl⟩ := back_eq fits.2 step
    exact goes (by rw [here]; exact ⟨nofun, nofun⟩) nofun (fits.unlocked idle) asked.symm

/-- A thread that can go on has not ended. -/
theorem not_over (alive : s.rwlock.loc .thread2 ≠ .dead .wr)
    (here : s.thread2 ≠ .canceled ∧ s.thread2 ≠ .returned) : ¬ s.Over := by
  rintro (gone | returned)
  · rcases Bool.or_eq_true_iff.mp gone with canceled | dead
    · exact here.1 (of_decide_eq_true canceled)
    · exact alive (of_decide_eq_true dead)
  · exact here.2 returned

/-- **A statement of `thread2`.** -/
theorem Kept.thread2 (kept : Kept s) (step : s.thread2Step = some s') : Kept s' := by
  have fits := kept.fits2
  -- the thread goes on outside the lock
  have goes : ∀ {pc : Pc2} {stdout : List Line}, s.rwlock.loc .thread2 = .idle →
      (s.thread2 ≠ .notYet ∧ s.thread2 ≠ .canceled ∧ s.thread2 ≠ .returned) → pc ≠ .notYet →
      pc.Fits s.requested (s.rwlock.thread .thread2) →
      Kept { s with thread2 := pc, stdout := stdout } := fun idle here created fits =>
    kept.move2 here.1 (not_over (by rw [idle]; nofun) here.2) created kept.reached kept.proper
      kept.accounted rfl fits
  -- it calls a function of the lock
  have calls : ∀ (c : Call) (pc : Pc2), s.rwlock.loc .thread2 = .idle →
      Legal s.rwlock (.call .thread2 c) →
      (s.thread2 ≠ .notYet ∧ s.thread2 ≠ .canceled ∧ s.thread2 ≠ .returned) → pc ≠ .notYet →
      pc.Fits s.requested { s.rwlock.thread .thread2 with loc := .entered c } →
      s.call .thread2 c { s with thread2 := pc } = some s' → Kept s' := by
    intro c pc idle legal here created fits call
    obtain ⟨lock', stepped, rfl⟩ := Option.map_eq_some_iff.mp call
    obtain ⟨rfl, reached, proper, accounted⟩ := kept.called legal stepped
    refine kept.move2 here.1 (not_over (by rw [idle]; nofun) here.2) created reached proper
      accounted (goto_thread_ne s.rwlock (by decide) _) ?_
    rw [goto_thread_self]
    exact fits
  unfold State.thread2Step at step
  cases here : s.thread2 with
  | notYet | returned | canceled =>
    rw [here] at step
    cases step
  | trying =>
    rw [here] at step fits
    cases step
    exact goes fits.1.1 (by rw [here]; exact ⟨nofun, nofun, nofun⟩) nofun fits
  | wrlock =>
    rw [here] at step fits
    exact calls (.lock .wr) .wrlocking fits.1.1 trivial
      (by rw [here]; exact ⟨nofun, nofun, nofun⟩) nofun (.inl fits.call_lock) step
  | wrlocking =>
    rw [here] at step fits
    have idle : s.rwlock.loc .thread2 = .idle := (Option.ite_none_right_eq_some.mp step).1
    rcases fits with fits | ⟨_, cut | cut, _⟩
    · obtain ⟨idle, rfl⟩ := back_eq fits.2 step
      exact goes idle (by rw [here]; exact ⟨nofun, nofun, nofun⟩) nofun (fits.locked idle)
    · cases cut.symm.trans idle
    · cases cut.symm.trans idle
  | got =>
    rw [here] at step fits
    cases step
    exact goes fits.1.1 (by rw [here]; exact ⟨nofun, nofun, nofun⟩) nofun fits
  | sleep =>
    rw [here] at step fits
    obtain ⟨_, same⟩ := Option.ite_none_left_eq_some.mp step
    cases same
    exact goes fits.1.1 (by rw [here]; exact ⟨nofun, nofun, nofun⟩) nofun fits
  | unlock =>
    rw [here] at step fits
    exact calls .unlock .unlocking fits.1.1 fits.1.2.holds
      (by rw [here]; exact ⟨nofun, nofun, nofun⟩) nofun fits.call_unlock step
  | unlocking =>
    rw [here] at step fits
    obtain ⟨idle, rfl⟩ := back_eq fits.2 step
    exact goes idle (by rw [here]; exact ⟨nofun, nofun, nofun⟩) nofun (fits.unlocked idle)

/-- **`thread2` acts on its cancellation.** -/
theorem Kept.canceled (kept : Kept s) (step : s.canceledStep = some s') : Kept s' := by
  have fits := kept.fits2
  obtain ⟨requested, step⟩ := Option.ite_none_right_eq_some.mp step
  -- it does so outside the lock
  have outside : s.rwlock.loc .thread2 = .idle →
      (s.thread2 ≠ .notYet ∧ s.thread2 ≠ .canceled ∧ s.thread2 ≠ .returned) →
      Kept { s with thread2 := .canceled } := fun idle here =>
    kept.move2 here.1 (not_over (by rw [idle]; nofun) here.2) nofun kept.reached kept.proper
      kept.accounted rfl ⟨requested, idle, kept.fits2.free_or_has⟩
  cases here : s.thread2 with
  | trying | got | sleep =>
    rw [here] at step fits
    cases step
    exact outside fits.1.1 (by rw [here]; exact ⟨nofun, nofun, nofun⟩)
  | wrlocking =>
    rw [here] at step fits
    obtain ⟨lock', stepped, rfl⟩ := Option.map_eq_some_iff.mp step
    have inner := Rwlock.step_cases stepped
    have accounted := cancel_accounted kept.accounted inner
    have reached : Rwlock.machine.Reachable Anything lock' := kept.reached.next trivial stepped
    cases inner with
    | cancel t m waits =>
      have alive : s.rwlock.loc .thread2 ≠ .dead .wr := by
        rcases waits with waits | waits <;> rw [waits] <;> nofun
      have fits : (s.rwlock.loc .thread2).serves (.lock .wr) = true ∧
          (s.rwlock.thread .thread2).Free := by
        rcases fits with ⟨serves | ⟨idle, _⟩, _⟩ | ⟨_, cut | cut, _⟩
        · exact serves
        · rcases waits with waits | waits <;> cases waits.symm.trans idle
        · rcases waits with waits | waits <;> cases waits.symm.trans cut
        · rcases waits with waits | waits <;> cases waits.symm.trans cut
      have side : m = .wr := by
        have serves := fits.1
        rcases waits with waits | waits <;> rw [waits] at serves <;>
          cases of_decide_eq_true serves <;> rfl
      subst side
      have cut : Cut ((s.rwlock.goto .thread2 (.cancelled .wr)).thread .thread2) := by
        rw [goto_thread_self]
        exact ⟨.inl rfl, fits.2⟩
      exact kept.move2 (by rw [here]; nofun)
        (not_over alive (by rw [here]; exact ⟨nofun, nofun⟩)) nofun reached
        (fun no => by rw [requested] at no; cases no) accounted
        (goto_thread_ne s.rwlock (by decide) _) (.inr ⟨requested, cut⟩)
  | notYet | wrlock | unlock | unlocking | returned | canceled =>
    rw [here] at step
    cases step

/-- A thread of the lock that fits a stage has not been cancelled. -/
theorem Fits.not_dead (fits : Fits m stage x) : x.loc ≠ .dead .wr := by
  intro dead
  obtain ⟨link, _⟩ := fits
  have idle : x.loc ≠ .idle := by
    rw [dead]
    nofun
  have serves : ∀ c, x.loc.serves c ≠ true := fun c => by
    rw [dead]
    nofun
  cases stage with
  | outside | holding => exact idle link.1
  | locking | unlocking => exact link.elim (fun call => serves _ call.1) fun back => idle back.1

/-- Who has died in its wait was asked to cancel. -/
theorem Pc2.Fits.dead {pc : Pc2} {requested : Bool} (fits : pc.Fits requested x)
    (dead : x.loc = .dead .wr) : pc = .wrlocking ∧ requested = true ∧ x.Free := by
  cases pc with
  | wrlocking =>
    rcases fits with fits | ⟨asked, cut⟩
    · exact absurd dead fits.not_dead
    · exact ⟨rfl, asked, cut.2⟩
  | canceled => cases dead.symm.trans fits.2.1
  | _ => exact absurd dead (Testcancel.Fits.not_dead fits)

/-- **The counts when both threads have ended.** -/
theorem Kept.counts (kept : Kept s) (returned : s.thread1 = .returned) (finished : s.Over) :
    let rw := s.rwlock.rw
    (s.rwlock.loc .thread2 = .idle ∧ (s.rwlock.thread .thread2).Free ∧
        rw.rwRefcount = 0 ∧ rw.rwNwaitreaders = 0 ∧ rw.rwNwaitwriters = 0) ∨
      (s.thread2 = .canceled ∧ (s.rwlock.thread .thread2).Has .wr ∧
        rw.rwRefcount = -1 ∧ rw.rwNwaitreaders = 0 ∧ rw.rwNwaitwriters = 0) ∨
      (s.rwlock.loc .thread2 = .dead .wr ∧
        rw.rwRefcount = 0 ∧ rw.rwNwaitreaders = 0 ∧ rw.rwNwaitwriters = 1) := by
  intro rw
  have fits1 := kept.fits1.1
  rw [returned] at fits1
  obtain ⟨idle1, free1⟩ := fits1
  have ended := kept.finished finished
  -- the account and the wait counters are those of `thread2`
  have locks : ∀ m, s.rwlock.locks m = (s.rwlock.thread .thread2).held m := by
    intro m
    have grants : (s.rwlock.loc .thread2).grants m = false ∧
        (s.rwlock.loc .thread2).releases = false := by
      rcases ended with idle | dead
      · rw [idle]
        exact ⟨rfl, rfl⟩
      · rw [dead]
        exact ⟨rfl, rfl⟩
    unfold Rwlock.State.locks
    rw [total_tid, locks_of_plain (by rw [idle1]; rfl) (by rw [idle1]; rfl), free1 m,
      locks_of_plain grants.1 grants.2]
    exact Int.zero_add _
  have nwait : ∀ m, rw.nwait m = (s.rwlock.loc .thread2).counted m := by
    intro m
    rw [kept.counted m, total_tid, idle1]
    exact Int.zero_add _
  have accounts := kept.accounted.accounts
  rw [locks, locks] at accounts
  have readers := nwait .rd
  have writers := nwait .wr
  rcases ended with idle | dead
  · rw [idle] at readers writers
    rcases kept.fits2.free_or_has with free | has
    · refine .inl ⟨idle, free, ?_, readers, writers⟩
      rw [free .rd, free .wr] at accounts
      rcases accounts with ⟨_, count⟩ | ⟨one, _⟩
      · exact count
      · cases one
    · refine .inr (.inl ⟨?_, has, ?_, readers, writers⟩)
      · rcases finished with gone | returned
        · rcases Bool.or_eq_true_iff.mp gone with canceled | dead
          · exact of_decide_eq_true canceled
          · cases idle.symm.trans (of_decide_eq_true dead)
        · have fits := kept.fits2
          rw [returned] at fits
          have none := fits.1.2 .wr
          rw [has .wr] at none
          cases none
      · rw [has .rd, has .wr] at accounts
        rcases accounts with ⟨none, _⟩ | ⟨_, _, count⟩
        · cases none
        · exact count
  · rw [dead] at readers writers
    have free := (kept.fits2.dead dead).2.2
    refine .inr (.inr ⟨dead, ?_, readers, writers⟩)
    rw [free .rd, free .wr] at accounts
    rcases accounts with ⟨_, count⟩ | ⟨one, _⟩
    · exact count
    · cases one

/-- **`destroy` ends the process**, in one way or another. -/
theorem Kept.destroy (kept : Kept s) (here : s.main = .destroy) (step : s.mainStep = some s') :
    s'.exit.isSome = true ∧ Outcome s' := by
  have returned := kept.joined1 (by rw [here]; rfl)
  have finished := kept.joined2 (by rw [here]; rfl)
  have printed := kept.printed here
  have magic : ¬ s.rwlock.rw.rwMagic ≠ rwMagicValue := not_not.mpr kept.initialised
  unfold State.mainStep at step
  rw [here] at step
  cases step
  unfold myPthreadRwlockDestroy
  rw [if_neg magic]
  rcases kept.counts returned finished with ⟨idle, free, refcount, readers, writers⟩ |
    ⟨canceled, has, refcount, readers, writers⟩ | ⟨dead, refcount, readers, writers⟩
  · rw [if_neg (by rw [refcount, readers, writers]; decide)]
    rw [refcount, readers, writers] at printed
    exact ⟨rfl, .fine rfl idle free printed⟩
  · rw [if_pos (.inl (by rw [refcount]; decide))]
    rw [refcount, readers, writers] at printed
    exact ⟨rfl, .locked rfl canceled has (List.mem_append_left _ printed)⟩
  · rw [if_pos (.inr (.inr (by rw [writers]; decide)))]
    rw [refcount, readers, writers] at printed
    exact ⟨rfl, .counted rfl dead (List.mem_append_left _ printed)⟩

/-- **A statement of `main`**, or the end of the process. -/
theorem Kept.main (kept : Kept s) (step : s.mainStep = some s') :
    Kept s' ∨ (s'.exit.isSome = true ∧ Outcome s') := by
  -- both threads have been created
  have goes : ∀ (pc : MainPc) (stdout : List Line), s.main ≠ .create1 → s.main ≠ .create2 →
      pc ≠ .create1 → pc ≠ .create2 → s.Over → (pc.joined = true → s.thread1 = .returned) →
      (pc = .destroy → .counts s.rwlock.rw.rwRefcount s.rwlock.rw.rwNwaitreaders
        s.rwlock.rw.rwNwaitwriters ∈ stdout) →
      Kept { s with main := pc, stdout := stdout } := by
    intro pc stdout not1 not2 new1 new2 finished joined printed
    exact { kept with
      created1 := iff_of_false (fun none => not1 (kept.created1.mp none)) new1
      created2 := iff_of_false (fun none => (kept.created2.mp none).elim not1 not2)
        fun new => new.elim new1 new2
      joined2 := fun _ => finished
      joined1 := joined
      printed := printed }
  cases here : s.main with
  | destroy => exact .inr (kept.destroy here step)
  | create1 =>
    rw [State.mainStep, here] at step
    cases step
    have fits := kept.fits1
    have asked := kept.asked
    rw [kept.created1.mpr here] at fits asked
    have second := kept.created2.mpr (.inl here)
    exact .inl { kept with
      fits1 := fits
      asked := asked
      created1 := iff_of_false nofun nofun
      created2 := iff_of_true second (.inr rfl)
      joined2 := nofun
      joined1 := nofun
      printed := nofun }
  | create2 =>
    rw [State.mainStep, here] at step
    cases step
    have fits := kept.fits2
    rw [kept.created2.mpr (.inr here)] at fits
    have first : s.thread1 ≠ .notYet := fun none => by
      cases here.symm.trans (kept.created1.mp none)
    exact .inl { kept with
      fits2 := fits
      created1 := iff_of_false first nofun
      created2 := iff_of_false nofun nofun
      joined2 := nofun
      joined1 := nofun
      printed := nofun }
  | join2 =>
    rw [State.mainStep, here] at step
    left
    simp only at step
    split at step
    · cases step
      exact goes _ s.stdout (by rw [here]; nofun) (by rw [here]; nofun) nofun nofun (.inl ‹_›)
        nofun nofun
    · split at step
      · cases step
        exact goes _ s.stdout (by rw [here]; nofun) (by rw [here]; nofun) nofun nofun (.inr ‹_›)
          nofun nofun
      · cases step
  | status2 canceled =>
    rw [State.mainStep, here] at step
    have finished := kept.joined2 (by rw [here]; rfl)
    have joins : ∀ stdout, Kept { s with main := .join1, stdout := stdout } := fun stdout =>
      goes .join1 stdout (by rw [here]; nofun) (by rw [here]; nofun) nofun nofun finished nofun
        nofun
    left
    cases canceled <;> cases step <;> exact joins _
  | join1 =>
    rw [State.mainStep, here] at step
    have finished := kept.joined2 (by rw [here]; rfl)
    obtain ⟨returned, same⟩ := Option.ite_none_right_eq_some.mp step
    cases same
    exact .inl (goes _ s.stdout (by rw [here]; nofun) (by rw [here]; nofun) nofun nofun finished
      (fun _ => returned) nofun)
  | counts =>
    rw [State.mainStep, here] at step
    have finished := kept.joined2 (by rw [here]; rfl)
    have returned := kept.joined1 (by rw [here]; rfl)
    cases step
    exact .inl (goes .destroy _ (by rw [here]; nofun) (by rw [here]; nofun) nofun nofun finished
      (fun _ => returned) fun _ => List.mem_append_right _ (List.mem_singleton.mpr rfl))

/-- **What one step keeps**, or how it ends the process. -/
theorem Kept.step (kept : Kept s) {action : Act} (timely : Timely s action)
    (step : s.step action = some s') : Kept s' ∨ (s'.exit.isSome = true ∧ Outcome s') := by
  obtain ⟨_, step⟩ := Option.ite_none_left_eq_some.mp step
  cases action with
  | main => exact kept.main step
  | thread1 => exact .inl (kept.thread1 step)
  | thread2 => exact .inl (kept.thread2 step)
  | canceled => exact .inl (kept.canceled step)
  | lock action =>
    obtain ⟨inner, step⟩ := Option.ite_none_right_eq_some.mp step
    obtain ⟨lock', stepped, rfl⟩ := Option.map_eq_some_iff.mp step
    exact .inl (kept.inside inner timely stepped)

theorem kept_of_reachable (reachable : machine.Reachable Timely s) :
    Kept s ∨ (s.exit.isSome = true ∧ Outcome s) := by
  refine reachable.induct (I := fun s => Kept s ∨ (s.exit.isSome = true ∧ Outcome s))
    (.inl kept_start) ?_
  rintro s action s' _ (kept | ⟨ended, _⟩) timely step
  · exact kept.step timely step
  · have running := (Option.ite_none_left_eq_some.mp step).1
    unfold State.ended at running
    rw [ended] at running
    exact absurd rfl running

/-! ### Where nothing more happens -/

section Stuck

/-- A thread outside the lock can call it. -/
theorem Kept.can_call (kept : Kept s) {c : Call} (idle : s.rwlock.loc t = .idle) {next : State}
    (none : s.call t c next = none) : False := by
  unfold State.call at none
  rw [Option.map_eq_none_iff, step_eq_act kept.accounted.running] at none
  simp [Rwlock.State.act, idle] at none

/-- Who is not back is in the call. -/
theorem not_idle_of_back {c : Call} {next : State} (none : s.back t c next = none) :
    s.rwlock.loc t ≠ .idle := by
  intro idle
  unfold State.back at none
  rw [if_pos idle] at none
  cases none

variable (kept : Kept s) (stuck : Stuck s)

include kept stuck

theorem Kept.still (action : Act) (own : action.Own) :
    (match action with
      | .main => s.mainStep
      | .thread1 => s.thread1Step
      | .thread2 => s.thread2Step
      | .canceled => s.canceledStep
      | .lock action => s.inside action) = none := by
  have running : ¬ s.ended = true := by
    unfold State.ended
    rw [kept.running, kept.accounted.running]
    decide
  have none := stuck action own
  unfold State.step at none
  rw [if_neg running] at none
  exact none

/-- The lock cannot go on. -/
theorem Kept.not_canStep : ¬ CanStep s.rwlock := by
  rintro ⟨action, own, succeeds, moves⟩
  have none : s.inside action = none := kept.still stuck (.lock action) ⟨own, succeeds⟩
  have inner : action.inner = true := by
    cases action with
    | call | cancel | spurious => cases own
    | _ => rfl
  unfold State.inside at none
  rw [if_pos inner, Option.map_eq_none_iff] at none
  rw [none] at moves
  cases moves

/-- `main` waits for a thread that has not ended. -/
theorem Kept.main_stuck :
    (s.main = .join2 ∧ ¬ s.Over) ∨ (s.main = .join1 ∧ s.thread1 ≠ .returned) := by
  have none : s.mainStep = none := kept.still stuck .main trivial
  unfold State.mainStep at none
  cases here : s.main with
  | join2 =>
    rw [here] at none
    refine .inl ⟨rfl, ?_⟩
    intro finished
    by_cases gone : s.gone = true
    · rw [if_pos gone] at none
      cases none
    · rw [if_neg gone, if_pos (finished.resolve_left gone)] at none
      cases none
  | join1 =>
    rw [here] at none
    refine .inr ⟨rfl, fun returned => ?_⟩
    rw [if_pos returned] at none
    cases none
  | _ =>
    rw [here] at none
    cases none

/-- `thread1` has returned or is in a call. -/
theorem Kept.thread1_stuck : s.thread1 = .returned ∨
    (s.thread1 = .rdlocking ∧ (s.rwlock.loc .thread1).serves (.lock .rd) = true ∧
      (s.rwlock.thread .thread1).Free) ∨
    (s.thread1 = .unlocking ∧ (s.rwlock.loc .thread1).serves .unlock = true) := by
  have none : s.thread1Step = none := kept.still stuck .thread1 trivial
  have fits := kept.fits1
  unfold State.thread1Step at none
  cases here : s.thread1 with
  | notYet =>
    have main := kept.created1.mp here
    rcases kept.main_stuck stuck with ⟨there, _⟩ | ⟨there, _⟩ <;> cases main.symm.trans there
  | returned => exact .inl rfl
  | rdlock | unlock =>
    rw [here] at none fits
    exact (kept.can_call fits.1.1 none).elim
  | rdlocking =>
    rw [here] at none fits
    exact .inr (.inl ⟨rfl, fits.1.resolve_right fun back => not_idle_of_back none back.1⟩)
  | unlocking =>
    rw [here] at none fits
    exact .inr (.inr ⟨rfl, (fits.1.resolve_right fun back => not_idle_of_back none back.1).1⟩)
  | got | cancel =>
    rw [here] at none
    cases none

/-- `thread2` has ended, or is in a call, or has been cancelled there. -/
theorem Kept.thread2_stuck : s.thread2 = .returned ∨ s.thread2 = .canceled ∨
    (s.thread2 = .wrlocking ∧ ((s.rwlock.loc .thread2).serves (.lock .wr) = true ∧
      (s.rwlock.thread .thread2).Free ∨ Cut (s.rwlock.thread .thread2))) ∨
    (s.thread2 = .unlocking ∧ (s.rwlock.loc .thread2).serves .unlock = true) := by
  have none : s.thread2Step = none := kept.still stuck .thread2 trivial
  have fits := kept.fits2
  unfold State.thread2Step at none
  cases here : s.thread2 with
  | notYet =>
    have main := kept.created2.mp here
    rcases kept.main_stuck stuck with ⟨there, _⟩ | ⟨there, _⟩ <;> rw [there] at main <;>
      rcases main with main | main <;> cases main
  | returned => exact .inl rfl
  | canceled => exact .inr (.inl rfl)
  | wrlock | unlock =>
    rw [here] at none fits
    exact (kept.can_call fits.1.1 none).elim
  | wrlocking =>
    rw [here] at none fits
    refine .inr (.inr (.inl ⟨rfl, fits.imp (fun fits => ?_) (·.2)⟩))
    exact fits.1.resolve_right fun back => not_idle_of_back none back.1
  | unlocking =>
    rw [here] at none fits
    refine .inr (.inr (.inr ⟨rfl, ?_⟩))
    exact (fits.1.resolve_right fun back => not_idle_of_back none back.1).1
  | trying | got =>
    rw [here] at none
    cases none
  | sleep =>
    -- it wakes, or acts on its cancellation
    have none' : s.canceledStep = Option.none := kept.still stuck .canceled trivial
    rw [here] at none
    unfold State.canceledStep at none'
    rw [here] at none'
    cases requested : s.requested <;> rw [requested] at none none'
    · cases none
    · cases none'

/-- Who stands in a call with `rw_mutex` free sleeps. -/
theorem Kept.asleep (free : s.rwlock.rwMutex = none) {c : Call}
    (serves : (s.rwlock.loc t).serves c = true) : ∃ m, s.rwlock.loc t = .asleep m := by
  by_contra awake
  push Not at awake
  exact kept.not_canStep stuck (can_step_free kept.accounted.running kept.initialised free serves
    (kept.owner.not_inside free t) awake)

/-- **Nobody alive is stuck with `rw_mutex`.** -/
theorem Kept.mutex {t : Tid} (mutex : s.rwlock.rwMutex = some t) :
    t = .thread2 ∧ s.rwlock.loc .thread2 = .dead .wr := by
  have inside := (kept.owner t).mpr mutex
  have stays : s.rwlock.loc t ≠ .exit := fun here => by
    have ended := reachable_exit kept.reached t here
    rw [kept.accounted.running] at ended
    cases ended
  have called : ∀ {c : Call}, (s.rwlock.loc t).serves c ≠ true := fun serves =>
    kept.not_canStep stuck (can_step_inside kept.accounted.running serves inside stays)
  have outside : s.rwlock.loc t ≠ .idle := fun idle => by
    rw [idle] at inside
    cases inside
  have fits1 := kept.fits1
  have fits2 := kept.fits2
  cases t with
  | thread1 =>
    exfalso
    rcases kept.thread1_stuck stuck with here | ⟨_, serves, _⟩ | ⟨_, serves⟩
    · rw [here] at fits1
      exact outside fits1.1.1
    · exact called serves
    · exact called serves
  | thread2 =>
    refine ⟨rfl, ?_⟩
    rcases kept.thread2_stuck stuck with here | here | ⟨_, ⟨serves, _⟩ | ⟨cut, _⟩⟩ | ⟨_, serves⟩
    · rw [here] at fits2
      exact absurd fits2.1.1 outside
    · rw [here] at fits2
      exact absurd fits2.2.1 outside
    · exact absurd serves called
    · rcases cut with cut | dead
      · rw [show s.rwlock.loc .thread2 = _ from cut] at inside
        cases inside
      · exact dead
    · exact absurd serves called

/-- **`thread1` waits for the mutex of the dead.** -/
theorem Kept.hangs (dead : s.rwlock.loc .thread2 = .dead .wr) : Outcome s := by
  obtain ⟨_, requested, _⟩ := kept.fits2.dead dead
  have mutex := (kept.owner .thread2).mp (by rw [dead]; rfl)
  have asked := kept.asked.symm.trans requested
  have finished : s.Over := .inl (Bool.or_eq_true_iff.mpr (.inr (decide_eq_true dead)))
  obtain ⟨main, waits⟩ := (kept.main_stuck stuck).resolve_left fun before => before.2 finished
  have serves : (s.rwlock.loc .thread1).serves .unlock = true := by
    rcases kept.thread1_stuck stuck with here | ⟨here, _⟩ | ⟨_, serves⟩
    · exact absurd here waits
    · rw [here] at asked
      cases asked
    · exact serves
  have outside : (s.rwlock.loc .thread1).inside ≠ true := fun inside => by
    cases mutex.symm.trans ((kept.owner .thread1).mp inside)
  refine .hangs kept.running main ?_ dead mutex
  cases here : s.rwlock.loc .thread1 with
  | entered c =>
    -- the test of `rw_magic` needs no mutex
    have magic : ¬ s.rwlock.rw.rwMagic ≠ rwMagicValue := not_not.mpr kept.initialised
    refine absurd ⟨.magic .thread1, rfl, trivial, ?_⟩ (kept.not_canStep stuck)
    rw [step_eq_act kept.accounted.running]
    simp only [Rwlock.State.act, here]
    rw [if_neg magic]
    rfl
  | mutexLock c =>
    rw [here] at serves
    cases of_decide_eq_true serves
    rfl
  | idle | condWait | asleep | woken | cancelled | dead =>
    rw [here] at serves
    cases serves
  | condSignal | condBroadcast | mutexUnlock | exit =>
    rw [here] at outside
    exact absurd rfl outside

/-- With `rw_mutex` free something happens. -/
theorem Kept.not_free : s.rwlock.rwMutex ≠ none := by
  intro free
  have thread1 : (s.thread1 = .returned) ∨
      (s.thread1 = .rdlocking ∧ (s.rwlock.thread .thread1).Free ∧
        ∃ m, s.rwlock.loc .thread1 = .asleep m) := by
    rcases kept.thread1_stuck stuck with here | ⟨here, serves, none⟩ | ⟨_, serves⟩
    · exact .inl here
    · exact .inr ⟨here, none, kept.asleep stuck free serves⟩
    · obtain ⟨m, asleep⟩ := kept.asleep stuck free serves
      rw [asleep] at serves
      cases serves
  have thread2 : s.Over ∨ ((s.rwlock.thread .thread2).Free ∧
      s.thread2 = .wrlocking ∧ ∃ m, s.rwlock.loc .thread2 = .asleep m) := by
    rcases kept.thread2_stuck stuck with here | here | ⟨here, ⟨serves, none⟩ | ⟨cut | cut, _⟩⟩ |
      ⟨_, serves⟩
    · exact .inl (.inr here)
    · exact .inl (.inl (Bool.or_eq_true_iff.mpr (.inl (decide_eq_true here))))
    · exact .inr ⟨none, here, kept.asleep stuck free serves⟩
    · -- a cancelled thread takes the mutex
      have cut : s.rwlock.loc .thread2 = .cancelled .wr := cut
      refine absurd ⟨.terminate .thread2, rfl, trivial, ?_⟩ (kept.not_canStep stuck)
      rw [step_eq_act kept.accounted.running]
      simp [Rwlock.State.act, cut, free]
    · exact .inl (.inl (Bool.or_eq_true_iff.mpr (.inr (decide_eq_true cut))))
    · obtain ⟨m, asleep⟩ := kept.asleep stuck free serves
      rw [asleep] at serves
      cases serves
  cases requested : s.requested with
  | true =>
    have returned : s.thread1 = .returned := by
      have asked := kept.asked.symm.trans requested
      refine thread1.resolve_right fun waits => ?_
      rw [waits.1] at asked
      cases asked
    have finished : s.Over := by
      refine thread2.resolve_right ?_
      rintro ⟨_, here, m, asleep⟩
      -- a sleeper that is asked to cancel does
      have none : s.canceledStep = Option.none := kept.still stuck .canceled trivial
      unfold State.canceledStep at none
      rw [if_pos requested, here] at none
      rw [Option.map_eq_none_iff, step_eq_act kept.accounted.running] at none
      simp [Rwlock.State.act, asleep] at none
    exact (kept.main_stuck stuck).elim (fun joins => joins.2 finished) fun joins => joins.2 returned
  | false =>
    have asked := kept.asked.symm.trans requested
    obtain ⟨_, free1, m, asleep⟩ := thread1.resolve_left fun returned => by
      rw [returned] at asked
      cases asked
    -- without a cancellation nobody sleeps for ever
    have stands : (s.rwlock.thread .thread2).Free ∧
        (s.rwlock.loc .thread2 = .idle ∨ ∃ m, s.rwlock.loc .thread2 = .asleep m) := by
      rcases thread2 with (gone | returned) | ⟨none, _, asleep⟩
      · exfalso
        have fits := kept.fits2
        rcases Bool.or_eq_true_iff.mp gone with canceled | dead
        · rw [of_decide_eq_true canceled] at fits
          cases requested.symm.trans fits.1
        · cases requested.symm.trans (fits.dead (of_decide_eq_true dead)).2.1
      · have fits := kept.fits2
        rw [returned] at fits
        exact ⟨fits.1.2, .inl fits.1.1⟩
      · exact ⟨none, .inr asleep⟩
    have idle := (stuck_lock (kept.proper requested) free
      (fun t => by cases t; exacts [free1, stands.1])
      fun t => by cases t; exacts [.inr ⟨m, asleep⟩, stands.2]).2.2.2 .thread1
    cases idle.symm.trans asleep

end Stuck

/-- **Who waits for the mutex of the dead waits for ever.** -/
theorem Kept.stuck (kept : Kept s) (main : s.main = .join1)
    (waits : s.rwlock.loc .thread1 = .mutexLock .unlock)
    (dead : s.rwlock.loc .thread2 = .dead .wr) (mutex : s.rwlock.rwMutex = some .thread2) :
    Stuck s := by
  have busy : s.rwlock.loc .thread1 ≠ .idle := by
    rw [waits]
    nofun
  have thread1 : s.thread1 = .unlocking := by
    have link := kept.fits1.1
    cases here : s.thread1 with
    | unlocking => rfl
    | rdlocking =>
      rw [here] at link
      rcases link with ⟨serves, _⟩ | ⟨idle, _⟩
      · rw [show (s.rwlock.thread .thread1).loc = _ from waits] at serves
        cases serves
      · exact absurd idle busy
    | _ =>
      rw [here] at link
      exact absurd link.1 busy
  have thread2 := (kept.fits2.dead dead).1
  intro action own
  refine Option.eq_none_iff_forall_ne_some.mpr fun s' step => ?_
  obtain ⟨_, step⟩ := Option.ite_none_left_eq_some.mp step
  cases action with
  | main =>
    have step : s.mainStep = some s' := step
    rw [State.mainStep, main] at step
    cases thread1.symm.trans (Option.ite_none_right_eq_some.mp step).1
  | thread1 =>
    have step : s.thread1Step = some s' := step
    rw [State.thread1Step, thread1] at step
    exact busy (Option.ite_none_right_eq_some.mp step).1
  | thread2 =>
    have step : s.thread2Step = some s' := step
    rw [State.thread2Step, thread2] at step
    cases dead.symm.trans (Option.ite_none_right_eq_some.mp step).1
  | canceled =>
    obtain ⟨_, step⟩ := Option.ite_none_right_eq_some.mp step
    rw [thread2] at step
    obtain ⟨lock', stepped, _⟩ := Option.map_eq_some_iff.mp step
    exact (Rwlock.step_cases stepped).not_dead dead rfl
  | lock action =>
    obtain ⟨inner, step⟩ := Option.ite_none_right_eq_some.mp step
    obtain ⟨lock', stepped, _⟩ := Option.map_eq_some_iff.mp step
    have step := Rwlock.step_cases stepped
    cases mover : action.thread with
    | thread2 => exact step.not_dead dead mover
    | thread1 =>
      rw [← mover] at waits
      cases step with
      | lock t c here free => cases free.symm.trans mutex
      | lockError t c result here failed => exact failed own.2
      | call | cancel => cases inner
      | _ => simp_all [Rwlock.Act.thread]

/-- **How `testcancel` ends**: with the status that `destroy` tells, or never. -/
theorem testcancel_outcome (reachable : machine.Reachable Timely s) : Stuck s ↔ Outcome s := by
  constructor
  · intro stuck
    rcases kept_of_reachable reachable with kept | ⟨_, outcome⟩
    · cases mutex : s.rwlock.rwMutex with
      | none => exact absurd mutex (kept.not_free stuck)
      | some t => exact kept.hangs stuck (kept.mutex stuck mutex).2
    · exact outcome
  · have ended : ∀ {status : ℤ}, s.exit = some status → Stuck s := by
      intro status exit action _
      unfold State.step State.ended
      rw [exit]
      rfl
    intro outcome
    cases outcome with
    | fine exit | locked exit | counted exit => exact ended exit
    | hangs exit main waits dead mutex =>
      rcases kept_of_reachable reachable with kept | ⟨finished, _⟩
      · exact kept.stuck main waits dead mutex
      · rw [exit] at finished
        cases finished

/-- The sleeps are long enough: `thread2` waits when it is cancelled, and dies before the
`unlock`. -/
def sleeps : List Act :=
  [.main, .thread1, .lock (.magic .thread1), .lock (.mutexLock .thread1 0),
    .lock (.mutexUnlock .thread1), .thread1, .thread1, .main, .thread2, .thread2,
    .lock (.magic .thread2), .lock (.mutexLock .thread2 0), .lock (.condWait .thread2 0), .thread1,
    .canceled, .lock (.terminate .thread2), .thread1, .lock (.magic .thread1), .main, .main]

theorem testcancel_outcome_sleeps :
    Stuck (machine.after sleeps) ∧ (machine.after sleeps).stdout = [.gotRead, .trying] :=
  ⟨(testcancel_outcome (machine.reachable_after (by decide) (by decide))).mpr
    (.hangs rfl rfl rfl rfl rfl), rfl⟩

end Unpvol2.Testcancel
