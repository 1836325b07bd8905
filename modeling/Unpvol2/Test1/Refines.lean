/-
**`test1` with the hand-written lock does what `rwlock` does with the lock of the system.**

The two programs are the same but for their lock. `State.seen` forgets the steps inside the
hand-written one: a thread in a call of it stands before the call until the call has taken effect,
and behind it from then on.

* `effect_step` — the effect of a call is the statement `pthread_rwlock_rdlock`, `wrlock` or
  `unlock` of `rwlock`.
* `Step.view` — every other statement is the same statement of `rwlock`.
* `test1_refines` — **every run of `test1` is, statement by statement, a run of `rwlock`.**
-/

import Unpvol2.Rwlock.Linear
import Unpvol2.Rwlockc.Step
import Unpvol2.Test1.Clean

set_option linter.unusedSectionVars false

namespace Unpvol2.Test1

open C Interleaving Rwlock
open SharedLock (Side Held)

variable {ι : Type} [DecidableEq ι]

/-- The atomic lock and the threads that use it. -/
abbrev Lock (ι : Type) := Object.State (Held ι) ι SharedLock.Call ℤ

/-! ### `test1` with an atomic lock -/

/-- Before the effect of a call, or behind it. -/
def inCall (phase : Phase SharedLock.Call ℤ) (before behind : Rwlockc.Pc) : Rwlockc.Pc :=
  match phase with
  | .pending _ => before
  | _ => behind

/-- The statement of `rwlock` that a thread stands at. -/
def Pc.seen (m : Mode) (phase : Phase SharedLock.Call ℤ) : Pc → Rwlockc.Pc
  | .test => .test
  | .lock => .lock
  | .locking => inCall phase .lock (Rwlockc.entry m.side)
  | .countLock change => .countLock change
  | .load change => .load change
  | .store change value => .store change value
  | .countUnlock change => .countUnlock change
  | .testWriters => .testWriters
  | .testReaders => .testReaders
  | .unlock => .unlock
  | .unlocking => inCall phase .unlock .increment
  | .returned => .returned

def Thread.seen (x : Thread) (phase : Phase SharedLock.Call ℤ) : Rwlockc.Thread :=
  ⟨x.function.side, x.pc.seen x.function phase, x.i⟩

/-- The threads with the lock in the state `lock`. -/
def State.seen (s : State ι) (lock : Lock ι) : Rwlockc.State ι where
  rwlock := lock.object
  rcountlock := s.rcountlock
  nreaders := s.nreaders
  nwriters := s.nwriters
  thread := fun t => (s.thread t).seen (lock.phase t)
  exited := s.exited

def State.view (s : State ι) : Rwlockc.State ι := s.seen s.rwlock.view

/-- What a step shows: the statements of the threads, but not what they do with the lock. -/
def State.event (s : State ι) : Act ι → List (ι × Rwlockc.Thread)
  | .run t =>
    match (s.thread t).pc with
    | .lock | .locking | .unlock => []
    | _ => [(t, s.view.thread t)]
  | .lock _ => []

/-! ### A call takes effect -/

/-- The calls that are pending are those of the threads that stand in one. -/
def Fits (s : State ι) (phase : ι → Phase SharedLock.Call ℤ) : Prop :=
  ∀ t c, phase t = .pending c →
    ((s.thread t).pc = .locking ∧ c = .lock (s.thread t).function.side) ∨
      ((s.thread t).pc = .unlocking ∧ c = .unlock)

section Effect

variable {s : State ι} {lock : Lock ι} {t : ι} {c : SharedLock.Call} {result : ℤ} {after : Held ι}
  {phase : Phase SharedLock.Call ℤ}

/-- Fewer calls are pending. -/
theorem Fits.update (fits : Fits s lock.phase) (done : ∀ c, phase ≠ .pending c) :
    Fits s (Function.update lock.phase t phase) := by
  intro u c pending
  by_cases same : u = t
  · rw [same, Function.update_self] at pending
    exact absurd pending (done c)
  · rw [Function.update_of_ne same] at pending
    exact fits u c pending

/-- One thread is at another place of its call. -/
theorem seen_update (s : State ι) (lock : Lock ι) (object : Held ι) :
    s.seen ⟨object, Function.update lock.phase t phase⟩ =
      { s.seen lock with
        rwlock := object
        thread := Function.update (s.seen lock).thread t ((s.thread t).seen phase) } := by
  unfold State.seen
  congr 1
  funext u
  show (s.thread u).seen (Function.update lock.phase t phase u) = _
  by_cases same : u = t
  · rw [same, Function.update_self, Function.update_self]
  · rw [Function.update_of_ne same, Function.update_of_ne same]

/-- A call that has returned is as one that has taken effect. -/
theorem seen_respond (done : ∀ c, lock.phase t ≠ .pending c) (phase : Phase SharedLock.Call ℤ)
    (done' : ∀ c, phase ≠ .pending c) :
    s.seen { lock with phase := Function.update lock.phase t phase } = s.seen lock := by
  have behind : ∀ {phase : Phase SharedLock.Call ℤ} (before behind : Rwlockc.Pc),
      (∀ c, phase ≠ .pending c) → inCall phase before behind = behind := by
    intro phase before behind done
    cases phase with
    | pending c => exact absurd rfl (done c)
    | idle | done => rfl
  have same : (s.thread t).seen phase = (s.seen lock).thread t := by
    show _ = (s.thread t).seen (lock.phase t)
    unfold Thread.seen
    congr 1
    cases (s.thread t).pc <;>
      first | rfl | exact (behind _ _ done').trans (behind _ _ done).symm
  rw [seen_update, same, Function.update_eq_self]
  rfl

variable [Fintype ι] {nloop : ℤ}

/-- **The effect of a call is a statement of `rwlock`**, which shows nothing. -/
theorem effect_step (fits : Fits s lock.phase) (exclusive : lock.object.Exclusive)
    (running : s.exited = false) (pending : lock.phase t = .pending c)
    (effect : SharedLock.Effect ebusy (fun _ => False) lock.phase lock.object t c result after) :
    (s.seen lock).step nloop t =
        some (s.seen ⟨after, Function.update lock.phase t (.done c result)⟩) ∧
      (s.seen lock).event t = [] := by
  rw [seen_update]
  have own : (s.seen lock).thread t = (s.thread t).seen (.pending c) := pending ▸ rfl
  rcases fits t c pending with ⟨pc, rfl⟩ | ⟨pc, rfl⟩
  · have here : ((s.seen lock).thread t).pc = .lock := by
      rw [own]
      unfold Thread.seen
      rw [pc]
      rfl
    refine ⟨?_, by rw [Rwlockc.State.event, here]⟩
    cases effect with
    | lock side free =>
      refine ((Rwlockc.Step.lock here free).eq_some running exclusive).trans (congrArg some ?_)
      unfold Rwlockc.State.grant Rwlockc.State.goto Thread.seen
      rw [own, pc]
      rfl
    | fail call result failed error => exact error.elim
  · have here : ((s.seen lock).thread t).pc = .unlock := by
      rw [own]
      unfold Thread.seen
      rw [pc]
      rfl
    refine ⟨?_, by rw [Rwlockc.State.event, here]⟩
    cases effect with
    | unlock side holds =>
      refine ((Rwlockc.Step.unlock side here holds).eq_some running exclusive).trans
        (congrArg some ?_)
      unfold Rwlockc.State.release Rwlockc.State.goto Thread.seen
      rw [own, pc]
      rfl
    | fail call result failed error => exact error.elim

end Effect

section Run

variable {s : State ι} {lock lock' : Lock ι} [Fintype ι] {nloop : ℤ} {function : ι → Side}

/-- `rwlock` comes from the one state to the other and shows this. -/
def Shows (nloop : ℤ) (function : ι → Side) (s s' : Rwlockc.State ι)
    (shown : List (ι × Rwlockc.Thread)) : Prop :=
  ∃ statements, (Rwlockc.system nloop function).run s statements = some s' ∧
    (Rwlockc.system nloop function).history Rwlockc.State.event s statements = shown

/-- **What the lock does by itself**: where no thread calls it, the effects of the calls are
statements that show nothing. -/
theorem shows_seen {effects : List (Object.Act (Held ι) ι SharedLock.Call ℤ)}
    (reachable : (rwlock fun _ => False).machine.Reachable Anything lock)
    (fits : Fits s lock.phase) (running : s.exited = false)
    (ran : (rwlock fun _ => False).machine.run lock effects = some lock')
    (quiet : ∀ t c, .invoke t c ∉
      (rwlock fun _ => False).machine.history Object.event lock effects) :
    Shows nloop function (s.seen lock) (s.seen lock') [] := by
  induction effects generalizing lock with
  | nil =>
    cases ran
    exact ⟨[], rfl, rfl⟩
  | cons action rest ih =>
    obtain ⟨next, step, ran⟩ := Option.bind_eq_some_iff.mp ran
    rw [Machine.history_cons step] at quiet
    have after := reachable.tail trivial step
    have later : ∀ t c, .invoke t c ∉
        (rwlock fun _ => False).machine.history Object.event next rest :=
      fun t c called => quiet t c (List.mem_append_right _ called)
    cases Object.step_cases step with
    | invoke t c idle =>
      exact absurd (List.mem_append_left _ (List.mem_singleton.mpr rfl)) (quiet t c)
    | effect t c result held pending effect =>
      have exclusive := SharedLock.exclusive_of_reachable ebusy (fun _ => False) reachable
      obtain ⟨moved, silent⟩ : (Rwlockc.system nloop function).step (s.seen lock) t = some _ ∧ _ :=
        effect_step fits exclusive running pending effect
      obtain ⟨statements, ran', same⟩ := ih after (fits.update fun _ => by exact nofun) ran later
      refine ⟨t :: statements, ?_, ?_⟩
      · exact Option.bind_eq_some_iff.mpr ⟨_, moved, ran'⟩
      · rw [Machine.history_cons moved, silent, same]
        rfl
    | respond t c result done =>
      have stays : s.seen { lock with phase := Function.update lock.phase t .idle } = s.seen lock :=
        seen_respond (fun c' pending => by rw [done] at pending; cases pending) .idle
          fun _ => by exact nofun
      rw [← stays]
      exact ih after (fits.update fun _ => by exact nofun) ran later

end Run

/-! ### The steps of `test1` -/

/-- A call that is pending is the one the thread is in. -/
theorem pending_of_serves {loc : Loc} {c : Call} {c' : SharedLock.Call}
    (serves : loc.serves c = true) (pending : loc.phase = .pending c') : c' = c.operation := by
  cases loc with
  | entered c'' | mutexLock c'' =>
    cases pending
    rw [of_decide_eq_true serves]
  | condWait m | asleep m | woken m =>
    cases pending
    rw [of_decide_eq_true serves]
    rfl
  | exit =>
    cases pending
    rw [of_decide_eq_true serves]
    rfl
  | idle | condSignal | condBroadcast | mutexUnlock => cases pending
  | cancelled | dead => cases serves

section Steps

variable [Fintype ι] {nloop : ℤ} {function : ι → Side} {s s' : State ι} {t : ι}

theorem Linked.fits (linked : Linked s) : Fits s s.rwlock.view.phase := by
  intro t c pending
  have link := linked.link t
  have idle : (s.rwlock.thread t).loc ≠ .idle := fun idle => by
    have phase : (s.rwlock.loc t).phase = .idle := congrArg Loc.phase idle
    exact absurd (phase.symm.trans pending) nofun
  unfold Link at link
  cases here : (s.thread t).pc with
  | locking =>
    rw [here] at link
    rcases link with ⟨serves, _⟩ | ⟨none, _⟩
    · exact .inl ⟨rfl, pending_of_serves serves pending⟩
    · exact absurd none idle
  | unlocking =>
    rw [here] at link
    rcases link with ⟨serves, _⟩ | ⟨none, _⟩
    · exact .inr ⟨rfl, pending_of_serves serves pending⟩
    · exact absurd none idle
  | test | lock | countLock | load | store | countUnlock | testWriters | testReaders | unlock
  | returned =>
    rw [here] at link
    exact absurd link.1 idle

theorem view_goto (s : State ι) (t : ι) (next : Pc) :
    (s.goto t next).view =
      s.view.goto t (next.seen (s.thread t).function (s.rwlock.view.phase t)) := by
  unfold State.view State.seen Rwlockc.State.goto
  congr 1
  funext u
  show (Function.update s.thread t _ u).seen (s.rwlock.view.phase u) = _
  by_cases same : u = t
  · rw [same, Function.update_self, Function.update_self]
    rfl
  · rw [Function.update_of_ne same, Function.update_of_ne same]

theorem view_round (s : State ι) (t : ι) : (s.round t).view = s.view.round t := by
  unfold State.view State.seen Rwlockc.State.round
  congr 1
  funext u
  show (Function.update s.thread t _ u).seen (s.rwlock.view.phase u) = _
  by_cases same : u = t
  · rw [same, Function.update_self, Function.update_self]
    rfl
  · rw [Function.update_of_ne same, Function.update_of_ne same]

theorem view_test (nloop : ℤ) (s : State ι) (t : ι) :
    (s.test nloop t).view = s.view.test nloop t := by
  unfold State.test Rwlockc.State.test
  have same : (s.view.thread t).i = (s.thread t).i := rfl
  rw [same]
  split
  · exact view_goto s t .lock
  · exact view_goto s t .returned

/-- One statement of `rwlock`. -/
theorem Shows.statement {before after : Rwlockc.State ι}
    (step : Rwlockc.Step nloop before t after) (running : before.exited = false)
    (exclusive : before.rwlock.Exclusive) :
    Shows nloop function before after (before.event t) := by
  have moved : (Rwlockc.system nloop function).step before t = some after :=
    step.eq_some running exclusive
  refine ⟨[t], Option.bind_eq_some_iff.mpr ⟨after, moved, rfl⟩, ?_⟩
  rw [Machine.history_cons moved]
  exact List.append_nil _

theorem Shows.stays (same : s'.view = s.view) : Shows nloop function s.view s'.view [] :=
  ⟨[], congrArg some same.symm, rfl⟩

/-- Every statement but the calls of the lock is seen. -/
theorem event_run {pc : Rwlockc.Pc} (here : (s.view.thread t).pc = pc)
    (away : (s.thread t).pc ≠ .lock ∧ (s.thread t).pc ≠ .locking ∧ (s.thread t).pc ≠ .unlock)
    (away' : pc ≠ .lock ∧ pc ≠ .unlock) : s.event (.run t) = s.view.event t := by
  have shown : s.view.event t = [(t, s.view.thread t)] := by
    unfold Rwlockc.State.event
    rw [here]
    cases pc with
    | lock => exact absurd rfl away'.1
    | unlock => exact absurd rfl away'.2
    | _ => rfl
  rw [shown]
  show (match (s.thread t).pc with
    | .lock | .locking | .unlock => []
    | _ => [(t, s.view.thread t)]) = _
  cases own : (s.thread t).pc with
  | lock => exact absurd own away.1
  | locking => exact absurd own away.2.1
  | unlock => exact absurd own away.2.2
  | _ => rfl

/-- The loop test is the one of `nloop`. -/
theorem step_test (here : (s.thread t).pc = .test)
    (step : s.step nloop (.run t) = some s') : s' = s.test nloop t := by
  unfold State.step at step
  split at step
  · cases step
  · simp only [State.run] at step
    split at step <;> rw [here] at step <;> cases step <;> rfl

/-- The thread calls the lock: it still stands before the call. -/
theorem view_call {c : Call} {next : Pc} {rwlock : Rwlock.State ι}
    (here : ((s.thread t).pc = .lock ∧ c = .lock (s.thread t).function ∧ next = .locking) ∨
      ((s.thread t).pc = .unlock ∧ c = .unlock ∧ next = .unlocking))
    (step : s.rwlock.step (.call t c) = some rwlock) :
    State.view { s.goto t next with rwlock := rwlock } = s.view := by
  cases Rwlock.step_cases step with
  | call t c idle =>
    have out : Thread.out { s.rwlock.thread t with loc := .entered c } = (s.rwlock.thread t).out :=
      out_of_same (fun _ => ⟨rfl, rfl⟩)
        (fun _ => by rw [show (s.rwlock.thread t).loc = .idle from idle]; exact ⟨rfl, rfl⟩)
        fun m => by cases m <;> rfl
    have lock : (s.rwlock.goto t (.entered c)).view =
        ⟨s.rwlock.view.object, Function.update s.rwlock.view.phase t (.pending c.operation)⟩ := by
      rw [view_moved (x := { s.rwlock.thread t with loc := .entered c }) rfl, out]
      exact congrArg₂ Object.State.mk (Function.update_eq_self t _) rfl
    unfold State.view
    show State.seen _ (s.rwlock.goto t (.entered c)).view = _
    rw [lock]
    unfold State.seen
    congr 1
    funext u
    show (Function.update s.thread t _ u).seen (Function.update s.rwlock.view.phase t
      (.pending c.operation) u) = _
    by_cases same : u = t
    · subst same
      rw [Function.update_self, Function.update_self]
      unfold Thread.seen
      rcases here with ⟨pc, rfl, rfl⟩ | ⟨pc, rfl, rfl⟩ <;> rw [pc] <;> rfl
    · rw [Function.update_of_ne same, Function.update_of_ne same]

/-- No step inside the lock calls it. -/
theorem event_inner {rwlock : Rwlock.State ι} {action : Rwlock.Act ι} (inner : action.inner = true)
    (t : ι) (c : SharedLock.Call) : .invoke t c ∉ rwlock.event action := by
  cases action with
  | call => cases inner
  | magic u | mutexLock u result =>
    simp only [Rwlock.State.event]
    split
    · split <;> simp
    · exact List.not_mem_nil
  | mutexUnlock u =>
    simp only [Rwlock.State.event]
    split <;> simp
  | condWait | spurious | reacquire | condSignal | condBroadcast | cancel | terminate =>
    exact List.not_mem_nil

/-- **Each step is statements of `rwlock`** that show the same. -/
theorem shows_view {action : Act ι} (linked : Linked s)
    (lock : Rwlock.machine.Reachable Rwlock.Proper s.rwlock) (few : FewReaders s'.rwlock)
    (running : s.exited = false) (succeeds : Succeeds s action)
    (step : s.step nloop action = some s') :
    Shows nloop function s.view s'.view (s.event action) := by
  have legal : Rwlock.machine.Reachable (LegalErrors fun _ => False) s.rwlock := by
    refine lock.mono fun _ action proper => ⟨proper.1, ?_⟩
    have fine := proper.2
    cases action <;> first | trivial | exact .inl fine
  have image := reachable_view legal
  have exclusive : s.view.rwlock.Exclusive :=
    SharedLock.exclusive_of_reachable ebusy (fun _ => False) image
  -- a statement that is the same statement of `rwlock`
  have statement : ∀ {t : ι} {after : Rwlockc.State ι} {pc : Rwlockc.Pc},
      Rwlockc.Step nloop s.view t after → s'.view = after → (s.view.thread t).pc = pc →
      ((s.thread t).pc ≠ .lock ∧ (s.thread t).pc ≠ .locking ∧ (s.thread t).pc ≠ .unlock) →
      (pc ≠ .lock ∧ pc ≠ .unlock) →
      Shows nloop function s.view s'.view (s.event (.run t)) := by
    intro t after pc moved same here away away'
    rw [event_run here away away', same]
    exact .statement moved running exclusive
  have seen : ∀ {t : ι} {pc : Pc}, (s.thread t).pc = pc → (s.view.thread t).pc =
      pc.seen (s.thread t).function (s.rwlock.view.phase t) := by
    intro t pc here
    rw [← here]
    rfl
  cases (step_cases step).2 with
  | test t next here branch =>
    refine statement (.of_test (seen here)) ?_ (seen here) (by simp [here]) ⟨nofun, nofun⟩
    rw [step_test here step]
    exact view_test nloop s t
  | call t c next rwlock here called =>
    have silent : s.event (.run t) = [] := by
      rcases here with ⟨pc, _⟩ | ⟨pc, _⟩ <;> simp only [State.event, pc]
    rw [silent]
    exact .stays (view_call here called)
  | locked t here idle =>
    have silent : s.event (.run t) = [] := by simp only [State.event, here]
    rw [silent]
    refine .stays ?_
    rw [view_goto]
    have phase : s.rwlock.view.phase t = .idle := congrArg Loc.phase idle
    have same : (entry (s.thread t).function).seen (s.thread t).function
        (s.rwlock.view.phase t) = (s.view.thread t).pc := by
      rw [seen here, phase]
      cases (s.thread t).function <;> rfl
    rw [same]
    unfold Rwlockc.State.goto
    congr 1
    exact Function.update_eq_self t _
  | unlocked t here idle =>
    have phase : s.rwlock.view.phase t = .idle := congrArg Loc.phase idle
    have increment : (s.view.thread t).pc = .increment := by
      rw [seen here, phase]
      rfl
    exact statement (.increment increment) (view_round s t) increment (by simp [here])
      ⟨nofun, nofun⟩
  | countLock t change here reads free =>
    have side : (s.view.thread t).function = .shared := congrArg Mode.side reads
    refine statement (.countLock change (seen here) side free) ?_ (seen here) (by simp [here])
      ⟨nofun, nofun⟩
    exact congrArg (fun s : Rwlockc.State ι => { s with rcountlock := some t }) (view_goto s t _)
  | load t change here =>
    refine statement (.load change (seen here)) ?_ (seen here) (by simp [here]) ⟨nofun, nofun⟩
    rw [view_goto]
    show s.view.goto t (.store change _) = s.view.goto t (.store change _)
    congr 2
    show s.counter (s.thread t).function = s.view.counter (s.thread t).function.side
    cases (s.thread t).function <;> rfl
  | store t change value here =>
    refine statement (.store change value (seen here)) ?_ (seen here) (by simp [here])
      ⟨nofun, nofun⟩
    have side : (s.view.thread t).function = (s.thread t).function.side := rfl
    rw [side]
    have next : (stored (s.thread t).function change).seen (s.thread t).function
        (s.rwlock.view.phase t) = Rwlockc.stored (s.thread t).function.side change := by
      cases (s.thread t).function <;> cases change <;> rfl
    have moved := view_goto s t (stored (s.thread t).function change)
    rw [next] at moved
    rw [← moved]
    cases (s.thread t).function <;> rfl
  | countUnlock t change here reads =>
    have side : (s.view.thread t).function = .shared := congrArg Mode.side reads
    refine statement (.countUnlock change (seen here) side) ?_ (seen here) (by simp [here])
      ⟨nofun, nofun⟩
    have moved := view_goto s t (counted change)
    cases change <;>
      exact congrArg (fun s : Rwlockc.State ι => { s with rcountlock := none }) moved
  | testWriters t here fine =>
    have same : Rwlockc.limit (s.view.thread t).function = limit (s.thread t).function := by
      show Rwlockc.limit (s.thread t).function.side = _
      cases (s.thread t).function <;> rfl
    refine statement (.testWriters (seen here) (same ▸ fine)) ?_ (seen here) (by simp [here])
      ⟨nofun, nofun⟩
    rw [view_goto]
    show _ = s.view.goto t (Rwlockc.tested (s.thread t).function.side)
    cases (s.thread t).function <;> rfl
  | testReaders t here writes fine =>
    have side : (s.view.thread t).function = .exclusive := congrArg Mode.side writes
    exact statement (.testReaders (seen here) side fine) (view_goto s t _) (seen here)
      (by simp [here]) ⟨nofun, nofun⟩
  | exit t bad =>
    rcases bad with ⟨here, many⟩ | ⟨here, writes, many⟩
    · have same : Rwlockc.limit (s.view.thread t).function = limit (s.thread t).function := by
        show Rwlockc.limit (s.thread t).function.side = _
        cases (s.thread t).function <;> rfl
      exact statement (.exit (.inl ⟨seen here, same ▸ many⟩)) rfl (seen here) (by simp [here])
        ⟨nofun, nofun⟩
    · have side : (s.view.thread t).function = .exclusive := congrArg Mode.side writes
      exact statement (.exit (.inr ⟨seen here, side, many⟩)) rfl (seen here) (by simp [here])
        ⟨nofun, nofun⟩
  | inside action inner rwlock inside =>
    have admitted : LegalErrors (fun _ => False) s.rwlock action := by
      refine ⟨⟨by cases action <;> trivial, fun rwlock' stepped => ?_⟩, ?_⟩
      · rw [inside] at stepped
        cases stepped
        exact few
      · cases action <;> first | trivial | exact .inl succeeds
    obtain ⟨effects, ran, same⟩ := shows_step (lock.mono fun _ _ proper => proper.1) admitted
      (Rwlock.step_cases inside)
    refine shows_seen image linked.fits running ran ?_
    rw [same]
    exact fun t c => event_inner inner t c

end Steps

/-! ### The refinement -/

theorem view_start [Fintype ι] (function : ι → Mode) :
    (start function).view = Rwlockc.start fun t => (function t).side := by
  unfold State.view State.seen Rwlockc.start
  congr 1
  funext t side
  cases side <;> rfl

/-- **Every run of the threads is a run of the same threads with the lock of the system.** -/
theorem system_refines [Fintype ι] {nloop : ℤ} {function : ι → Mode}
    (few : readers function < 2 ^ 31) {actions : List (Act ι)} {s : State ι}
    (admitted : (system nloop function).Admitted Succeeds (start function) actions)
    (ran : (system nloop function).run (start function) actions = some s) :
    Shows nloop (fun t => (function t).side) (Rwlockc.start fun t => (function t).side) s.view
      ((system nloop function).history State.event (start function) actions) := by
  let N := Rwlockc.system nloop fun t => (function t).side
  have matched : ∃ statements, N.Admitted Anything (start function).view statements ∧
      N.run (start function).view statements = some s.view ∧
      N.history Rwlockc.State.event (start function).view statements =
        (system nloop function).history State.event (start function) actions := by
    refine Machine.history_simulate State.view ?_ (Machine.Reaches.refl _) admitted ran
    intro s action s' reachable succeeds step
    have after := reachable.tail succeeds step
    have small : FewReaders s'.rwlock :=
      lt_of_le_of_lt ((reachable_linked after).outstanding_le (reachable_function after)) few
    obtain ⟨statements, ran, same⟩ : Shows nloop (fun t => (function t).side) s.view s'.view _ :=
      shows_view (reachable_linked reachable) (lock_reachable few reachable) small
        (reachable_tallied few reachable).running succeeds step
    exact ⟨statements, Machine.admitted_anything _ _, ran, same⟩
  obtain ⟨statements, _, ran', same⟩ := matched
  rw [← view_start]
  exact ⟨statements, ran', same⟩

/-- **`test1` refines `rwlock`**: whatever the lock of `my_rwlock/` does inside, the statements of
the threads, with the values they read, come in an order in which `rwlock` takes them with the
lock of the system, and leave the counters, the threads and the locks as `rwlock` does. -/
theorem test1_refines (o : Options) {actions : List (Act o.Threads)} {s : State o.Threads}
    (admitted : (test1 o).Admitted Succeeds (test1 o).init actions)
    (ran : (test1 o).run (test1 o).init actions = some s) :
    ∃ statements, (Rwlockc.rwlock o).run (Rwlockc.rwlock o).init statements = some s.view ∧
      (Rwlockc.rwlock o).history Rwlockc.State.event (Rwlockc.rwlock o).init statements =
        (test1 o).history State.event (test1 o).init actions := by
  have same : (fun t => (o.function t).side) = Rwlockc.functionOf o := by
    funext t
    cases t <;> rfl
  have refined := system_refines (readers_lt o) admitted ran
  rw [same] at refined
  exact refined

/-- The run shows twelve statements of the reader and nine of the writer. -/
theorem test1_refines_meeting :
    ∃ statements,
      ((Rwlockc.rwlock oneEach).run (Rwlockc.rwlock oneEach).init statements).isSome = true ∧
      ((Rwlockc.rwlock oneEach).history Rwlockc.State.event (Rwlockc.rwlock oneEach).init
        statements).length = 21 := by
  obtain ⟨statements, ran, same⟩ := @test1_refines oneEach (meeting theReader theWriter) _
    (by decide +kernel) (Machine.run_after (by decide +kernel))
  exact ⟨statements, by rw [ran]; rfl, same ▸ by decide +kernel⟩

end Unpvol2.Test1
