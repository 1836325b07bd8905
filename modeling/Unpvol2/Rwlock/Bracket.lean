/-
**Threads that bracket their work in the lock, through the wrappers.**

A thread calls `Pthread_rwlock_wrlock`, works, and calls `Pthread_rwlock_unlock`. A call that meets
an error of a pthread call ends the process, so a thread that is back from its call has what it has
asked for.

* `Stage` — the part of its bracket a thread is in, and `Stage.Link` what the lock knows of it then.
* `Used` — the lock among such threads: every step inside the lock keeps it (`Used.inside`), and the
  calls and returns move one thread on to its next stage.
* `Used.alone` — **while one thread is at work no other has the write lock**, in or out of a call.
-/

import Unpvol2.Rwlock.Caller
import Unpvol2.Rwlock.Wrappers

set_option linter.unusedSectionVars false

namespace Unpvol2.Rwlock

open Interleaving

variable {ι : Type} [DecidableEq ι]

/-! ### A thread in a call -/

/-- The thread is in the call `c`, whatever it is going to return. -/
def Loc.within (c : Call) : Loc → Bool
  | .entered c' | .mutexLock c' | .mutexUnlock c' _ => c' = c
  | .condWait m | .asleep m | .woken m => c = .lock m
  | .condSignal | .condBroadcast | .exit => c = .unlock
  | .idle | .cancelled _ | .dead _ => false

theorem lockLoop_within (m : Mode) (rw : MyPthreadRwlockT) :
    ((lockLoop m rw).2.loc (.lock m)).within (.lock m) = true := by
  rcases lockLoop_next m rw with eq | eq <;> rw [eq] <;> exact decide_eq_true rfl

theorem lockWaited_within (m : Mode) (result : ℤ) (rw : MyPthreadRwlockT) :
    ((lockWaited m result rw).2.loc (.lock m)).within (.lock m) = true := by
  rcases lockWaited_next m result rw with eq | ⟨r, eq⟩ <;> rw [eq] <;> exact decide_eq_true rfl

/-- The section of a function ends inside the call. -/
theorem body_within (c : Call) (rw : MyPthreadRwlockT) : ((body c rw).2.loc c).within c = true := by
  cases c with
  | lock m => cases m <;> exact lockLoop_within _ rw
  | trylock m =>
    have tried : ((tryBody m rw).2.loc (.trylock m)).within (.trylock m) = true := by
      unfold tryBody
      split <;> exact decide_eq_true rfl
    cases m <;> exact tried
  | unlock =>
    show ((myPthreadRwlockUnlock rw).2.loc .unlock).within .unlock = true
    have woke : ∀ rw', ((unlockWake rw').2.loc .unlock).within .unlock = true := by
      intro rw'
      rcases unlockWake_next rw' with eq | eq | eq <;> rw [eq] <;> rfl
    unfold myPthreadRwlockUnlock
    split_ifs
    · exact woke _
    · exact woke _
    · rfl

/-- The thread is back from the call `c` with `result`. -/
def Act.Back (s : State ι) (action : Act ι) (s' : State ι) (t : ι) (c : Call) (result : ℤ) : Prop :=
  s'.thread t = (s.thread t).returned c result ∧ s.returns action = some (c, result)

section Steps

variable {s s' : State ι} {action : Act ι} {t : ι} {c : Call}

/-- A thread that moves stays in its call, or is back from it. -/
theorem Step.own_within (step : Step s action s') (inner : action.inner = true)
    (within : (s.loc action.thread).within c = true) :
    (s'.loc action.thread).within c = true ∨
      ∃ result, action.Back s s' action.thread c result := by
  have moved : ∀ {s : State ι} {t : ι} {loc : Loc}, loc.within c = true →
      ((s.goto t loc).loc t).within c = true := by
    intro s t loc stays
    rw [goto_loc_self]
    exact stays
  have failed : ∀ {t : ι} {result : ℤ}, result ≠ 0 →
      (s.fail t result).thread t = (s.thread t).returned c result := by
    intro t result nonzero
    rw [returned_failed _ c nonzero]
    exact Function.update_self ..
  cases step with
  | call => cases inner
  | cancel => cases inner
  | badMagic t c' here bad =>
    rw [Act.thread, here] at within
    cases of_decide_eq_true within
    refine .inr ⟨einval, failed (by decide), ?_⟩
    simp only [State.returns, here]
    exact if_pos bad
  | lockError t c' result here nonzero =>
    rw [Act.thread, here] at within
    cases of_decide_eq_true within
    refine .inr ⟨result, failed nonzero, ?_⟩
    simp only [State.returns, here]
    exact if_pos nonzero
  | magic t c' here =>
    rw [Act.thread, here] at within
    exact .inl (moved within)
  | lock t c' here free =>
    rw [Act.thread, here] at within
    cases of_decide_eq_true within
    exact .inl (moved (body_within c s.rw))
  | waitError t m result here | reacquire t m result here =>
    rw [Act.thread, here] at within
    cases of_decide_eq_true within
    exact .inl (moved (lockWaited_within m result s.rw))
  | wait t m here | spurious t m here =>
    rw [Act.thread, here] at within
    exact .inl (moved within)
  | condSignal t woken here | condBroadcast t woken all here =>
    rw [Act.thread, here] at within
    cases of_decide_eq_true within
    exact .inl (moved rfl)
  | mutexUnlock t c' result here =>
    rw [Act.thread, here] at within
    cases of_decide_eq_true within
    refine .inr ⟨result, Function.update_self .., ?_⟩
    simp only [State.returns, here]
  | terminate t m here =>
    rw [Act.thread, here] at within
    cases within

/-- **A call goes on, or returns.** -/
theorem Step.within (step : Step s action s') (inner : action.inner = true)
    (within : (s.loc t).within c = true) :
    ((s'.loc t).within c = true ∧ ∀ m, (s'.thread t).held m = (s.thread t).held m) ∨
      ∃ result, action.Back s s' t c result := by
  by_cases own : t = action.thread
  · subst own
    rcases step.own_within inner within with stays | back
    · rcases step.held action.thread with same | ⟨c', result, here, rfl⟩
      · exact .inl ⟨stays, same⟩
      · rw [leave_loc, if_pos rfl] at stays
        cases stays
    · exact .inr back
  · left
    unfold State.loc at within ⊢
    rcases step.others own with same | ⟨m, asleep, woke⟩
    · rw [same]
      exact ⟨within, fun _ => rfl⟩
    · unfold State.loc at asleep
      rw [woke]
      rw [asleep] at within
      exact ⟨within, fun m' => by cases m' <;> rfl⟩

end Steps

/-! ### The stages of a bracket -/

/-- The part of its bracket a thread is in. -/
inductive Stage
  | outside
  | locking
  | holding
  | unlocking
deriving DecidableEq

/-- What the lock knows of a thread of a side, stage by stage; `ended` tells that a wrapper has
ended the process. -/
def Stage.Link (m : Mode) (ended : Bool) : Stage → Thread → Prop
  | .outside, x => x.loc = .idle ∧ x.Free
  | .locking, x =>
    (x.loc.within (.lock m) = true ∧ x.Free) ∨ x.loc = .idle ∧ (x.Has m ∨ ended = true ∧ x.Free)
  | .holding, x => x.loc = .idle ∧ x.Has m
  | .unlocking, x =>
    (x.loc.within .unlock = true ∧ x.Has m) ∨ x.loc = .idle ∧ (x.Free ∨ ended = true ∧ x.Has m)

theorem not_within_of_idle {loc : Loc} {c : Call} (idle : loc = .idle) : loc.within c = false := by
  rw [idle]
  rfl

section Process

variable [Fintype ι] {p p' : Process ι} {action : Act ι} {t : ι} {m : Mode} {stage : Stage}

/-- Back from a call, the process goes on only if the call has returned `0`. -/
theorem process_returned {c : Call} {result : ℤ} (step : p.step action = some p')
    (returns : p.lock.returns action = some (c, result)) :
    result = 0 ∨ p'.ended.isSome = true := by
  obtain ⟨_, _, ended⟩ := process_step step
  rw [returns, Option.bind_some] at ended
  by_cases zero : result = 0
  · exact .inl zero
  · right
    rw [ended, Option.isSome_iff_ne_none]
    exact fun none => zero ((wrapper_message c result).mp none)

/-- **A step inside the lock keeps the link**, or ends the call or the process. -/
theorem Stage.Link.inside (link : stage.Link m p.ended.isSome (p.lock.thread t))
    (inner : action.inner = true) (step : p.step action = some p') :
    stage.Link m p'.ended.isSome (p'.lock.thread t) := by
  obtain ⟨running, move, _⟩ := process_step step
  have goes : p.ended.isSome = false := by
    rw [running.2]
    rfl
  rw [goes] at link
  cases stage with
  | outside | holding =>
    rw [Stage.Link, move.idle inner link.1]
    exact link
  | locking =>
    rcases link with ⟨within, none⟩ | ⟨idle, one | ⟨gone, _⟩⟩
    · rcases move.within inner within with ⟨on, same⟩ | ⟨result, back, returns⟩
      · exact .inl ⟨on, none.of_held same⟩
      · rw [back]
        by_cases fine : result = 0
        · subst fine
          obtain ⟨idle, one⟩ := none.returned_lock m
          exact .inr ⟨idle, .inl one⟩
        · rw [returned_failed _ _ fine]
          exact .inr ⟨rfl, .inr ⟨(process_returned step returns).resolve_left fine,
            none.of_held fun m' => by cases m' <;> rfl⟩⟩
    · rw [move.idle inner idle]
      exact .inr ⟨idle, .inl one⟩
    · cases gone
  | unlocking =>
    rcases link with ⟨within, one⟩ | ⟨idle, none | ⟨gone, _⟩⟩
    · rcases move.within inner within with ⟨on, same⟩ | ⟨result, back, returns⟩
      · exact .inl ⟨on, one.of_held same⟩
      · rw [back]
        by_cases fine : result = 0
        · subst fine
          obtain ⟨idle, none⟩ := one.returned_unlock
          exact .inr ⟨idle, .inl none⟩
        · rw [returned_failed _ _ fine]
          exact .inr ⟨rfl, .inr ⟨(process_returned step returns).resolve_left fine,
            one.of_held fun m' => by cases m' <;> rfl⟩⟩
    · rw [move.idle inner idle]
      exact .inr ⟨idle, .inl none⟩
    · cases gone

end Process

/-! ### The lock and its callers -/

variable [Fintype ι]

/-- **The lock among threads that bracket their work in the write lock.** -/
structure Used (stage : ι → Stage) (p : Process ι) : Prop where
  owner : Owner p.lock
  accounted : Accounted p.lock
  link : ∀ t, (stage t).Link .wr p.ended.isSome (p.lock.thread t)

theorem used_start : Used (fun _ => .outside) (⟨start, none⟩ : Process ι) where
  owner := owner_start
  accounted := accounted_start
  link := fun _ => ⟨rfl, fun m => by cases m <;> rfl⟩

section Used

variable {stage : ι → Stage} {p p' : Process ι} {action : Act ι} {t u : ι}

/-- Nobody has a read lock. -/
theorem fewReaders_of_link {ended : Bool} {s : State ι}
    (link : ∀ t, (stage t).Link .wr ended (s.thread t)) : FewReaders s := by
  have none : s.outstanding .rd = 0 := by
    refine total_eq_zero fun t => ?_
    have unread : (s.thread t).held .rd = 0 := by
      have here := link t
      have one : (s.thread t).Has .wr → (s.thread t).held .rd = 0 := fun has => has .rd
      cases at_ : stage t with
      | outside => rw [at_] at here; exact here.2 .rd
      | holding => rw [at_] at here; exact one here.2
      | locking =>
        rw [at_] at here
        rcases here with ⟨_, free⟩ | ⟨_, has | ⟨_, free⟩⟩
        exacts [free .rd, one has, free .rd]
      | unlocking =>
        rw [at_] at here
        rcases here with ⟨_, has⟩ | ⟨_, free | ⟨_, has⟩⟩
        exacts [one has, free .rd, one has]
    exact congrArg Nat.cast unread
  unfold FewReaders
  omega

/-- **Inside the lock.** -/
theorem Used.inside (used : Used stage p) (inner : action.inner = true)
    (step : p.step action = some p') : Used stage p' := by
  have link := fun t => (used.link t).inside inner step
  obtain ⟨_, move, _⟩ := process_step step
  have legal : Legal p.lock action := by
    cases action <;> trivial
  exact ⟨used.owner.step move,
    used.accounted.step used.owner legal (fewReaders_of_link link) move, link⟩

/-- One thread calls a function of the lock. -/
theorem Used.call (used : Used stage p) {c : Call} {next : Stage}
    (legal : Legal p.lock (.call t c))
    (link : next.Link .wr false { p.lock.thread t with loc := .entered c })
    (step : p.step (.call t c) = some p') : Used (Function.update stage t next) p' := by
  obtain ⟨running, move, ended⟩ := process_step step
  have goes : p'.ended.isSome = p.ended.isSome := by
    rw [ended, running.2]
    rfl
  have links : ∀ u, (Function.update stage t next u).Link .wr p'.ended.isSome
      (p'.lock.thread u) := by
    intro u
    rw [goes]
    generalize moved : p'.lock = s at move
    cases move with
    | call t c here =>
      by_cases same : u = t
      · subst same
        have entered : (p.lock.goto u (.entered c)).thread u =
            { p.lock.thread u with loc := .entered c } := Function.update_self ..
        rw [Function.update_self, entered, running.2]
        exact link
      · have kept : (p.lock.goto t (.entered c)).thread u = p.lock.thread u :=
          Function.update_of_ne same _ _
        rw [Function.update_of_ne same, kept]
        exact used.link u
  exact ⟨used.owner.step move,
    used.accounted.step used.owner legal (fewReaders_of_link links) move, links⟩

theorem Used.lock (used : Used stage p) (here : stage t = .outside)
    (step : p.step (.call t (.lock .wr)) = some p') :
    Used (Function.update stage t .locking) p' := by
  have link := used.link t
  rw [here] at link
  refine used.call (c := .lock .wr) trivial (.inl ⟨rfl, link.2.of_held fun m => ?_⟩) step
  cases m <;> rfl

theorem Used.unlock (used : Used stage p) (here : stage t = .holding)
    (step : p.step (.call t .unlock) = some p') :
    Used (Function.update stage t .unlocking) p' := by
  have link := used.link t
  rw [here] at link
  refine used.call (c := .unlock) link.2.holds (.inl ⟨rfl, link.2.of_held fun m => ?_⟩) step
  cases m <;> rfl

/-- A thread notices that it is back. -/
theorem Used.back (used : Used stage p) {next : Stage}
    (link : next.Link .wr p.ended.isSome (p.lock.thread t)) :
    Used (Function.update stage t next) p := by
  refine ⟨used.owner, used.accounted, fun u => ?_⟩
  by_cases same : u = t
  · subst same
    rw [Function.update_self]
    exact link
  · rw [Function.update_of_ne same]
    exact used.link u

/-- **Back from the lock function a thread has the lock.** -/
theorem Used.locked (used : Used stage p) (here : stage t = .locking) (goes : p.ended = none)
    (idle : p.lock.loc t = .idle) : Used (Function.update stage t .holding) p := by
  have link := used.link t
  rw [here] at link
  refine used.back ?_
  rcases link with ⟨within, _⟩ | ⟨out, one | ⟨ended, _⟩⟩
  · exact absurd within (Bool.eq_false_iff.mp (not_within_of_idle idle))
  · exact ⟨out, one⟩
  · rw [goes] at ended
    cases ended

theorem Used.unlocked (used : Used stage p) (here : stage t = .unlocking) (goes : p.ended = none)
    (idle : p.lock.loc t = .idle) : Used (Function.update stage t .outside) p := by
  have link := used.link t
  rw [here] at link
  refine used.back ?_
  rcases link with ⟨within, _⟩ | ⟨out, none | ⟨ended, _⟩⟩
  · exact absurd within (Bool.eq_false_iff.mp (not_within_of_idle idle))
  · exact ⟨out, none⟩
  · rw [goes] at ended
    cases ended

/-- A thread at work accounts for one write lock. -/
theorem Used.locks (used : Used stage p) (here : stage t = .holding) :
    (p.lock.thread t).locks .wr = 1 := by
  have link := used.link t
  rw [here] at link
  have one : (p.lock.thread t).held .wr = 1 := link.2 .wr
  rw [locks_of_plain (by rw [link.1]; rfl) (by rw [link.1]; rfl), one]
  rfl

/-- **While one thread is at work no other has the write lock.** -/
theorem Used.alone (used : Used stage p) (here : stage t = .holding) (other : t ≠ u) :
    (p.lock.thread u).locks .wr = 0 := by
  have nonneg := fun v => used.accounted.thread_locks_nonneg v .wr
  have both := add_le_total (w := Thread.locks .wr) nonneg other
  rw [used.locks here] at both
  have all : p.lock.locks .wr ≤ 1 := by
    rcases used.accounted.accounts with ⟨none, _⟩ | ⟨one, _⟩ <;> omega
  have mine := nonneg u
  change 1 + (p.lock.thread u).locks .wr ≤ p.lock.locks .wr at both
  omega

/-- So no two threads are at work. -/
theorem Used.exclusive (used : Used stage p) (here : stage t = .holding)
    (there : stage u = .holding) : t = u := by
  by_contra other
  have none := used.alone here other
  rw [used.locks there] at none
  cases none

end Used

end Unpvol2.Rwlock
