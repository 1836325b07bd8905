/-
**No wake-up of the lock is lost.**

`Calm s` says that nobody sleeps on a lock that is there for the taking: with `rw_refcount = 0` and
writers waiting, one of them has been woken; with `rw_refcount >= 0` and no writer waiting, no
reader sleeps. Between the moment `unlock` frees the lock and its `pthread_cond_signal` or
`pthread_cond_broadcast` the state is not calm, but `rw_mutex` is held (`Watched`).

The one step that breaks this is a writer that gives up its wait: `wrlock` drops
`rw_nwaitwriters` and returns the error without waking anybody. `Strands s t` lists the states in
which that leaves sleepers behind; `Watched.step` needs that no giving-up step is taken in one, and
`not_calm_of_strands` that taking one there is fatal.
-/

import Unpvol2.Rwlock.Accounting

set_option linter.unusedSectionVars false

namespace Unpvol2.Rwlock

open Interleaving

variable {ι : Type} [DecidableEq ι]

/-! ### Calm states -/

/-- A waiting writer has been woken and only has to take `rw_mutex` again. -/
def WriterWoken (s : State ι) : Prop := ∃ t, s.loc t = .woken .wr

/-- A reader is asleep, or about to fall asleep. -/
def ReaderSleeps (s : State ι) : Prop := ∃ t, s.loc t = .asleep .rd ∨ s.loc t = .condWait .rd

/-- Nobody sleeps on a lock that is there for the taking. -/
structure Calm (s : State ι) : Prop where
  writers : s.rw.rwRefcount = 0 → 0 < s.rw.rwNwaitwriters → WriterWoken s
  readers : 0 ≤ s.rw.rwRefcount → s.rw.rwNwaitwriters = 0 → ¬ ReaderSleeps s

/-- The state is calm, or `unlock` is about to send the wake-up that makes it calm. -/
def Watched (s : State ι) : Prop :=
  Calm s ∨
    (∃ t, s.loc t = .condSignal ∧ s.rw.rwRefcount = 0 ∧ 0 < s.rw.rwNwaitwriters) ∨
    (∃ t, s.loc t = .condBroadcast ∧ s.rw.rwNwaitwriters = 0)

theorem calm_start : Calm (start : State ι) where
  writers := fun _ waiting => absurd waiting (lt_irrefl (0 : ℤ))
  readers := fun _ _ ⟨t, sleeps⟩ => by
    rcases sleeps with sleeps | sleeps <;> cases sleeps

/-- Writer `t` gives up its wait, and nobody is left to wake the others. -/
def Strands (s : State ι) (t : ι) : Prop :=
  (0 ≤ s.rw.rwRefcount ∧ s.rw.rwNwaitwriters = 1 ∧ ∃ u, s.loc u = .asleep .rd) ∨
    (s.rw.rwRefcount = 0 ∧ 1 < s.rw.rwNwaitwriters ∧ ∀ u, u ≠ t → s.loc u ≠ .woken .wr)

/-- No writer gives up its wait in a state in which that strands the others. -/
def Considerate (s : State ι) : Act ι → Prop
  | .condWait t result => result ≠ 0 → s.loc t = .condWait .wr → ¬ Strands s t
  | .reacquire t result => result ≠ 0 → s.loc t = .woken .wr → ¬ Strands s t
  | _ => True

/-! ### Steps inside a calm state -/

section Moves

variable {s s' : State ι}

/-- A step that leaves the lock's fields alone, wakes at most, and puts nobody to sleep. -/
theorem Calm.kept (calm : Calm s) (count : s'.rw.rwRefcount = s.rw.rwRefcount)
    (waiting : s'.rw.rwNwaitwriters = s.rw.rwNwaitwriters)
    (woken : ∀ u, s.loc u = .woken .wr → s'.loc u = .woken .wr)
    (asleep : ∀ u, s'.loc u = .asleep .rd ∨ s'.loc u = .condWait .rd →
      s.loc u = .asleep .rd ∨ s.loc u = .condWait .rd) : Calm s' where
  writers := by
    rw [count, waiting]
    intro zero some
    obtain ⟨u, woke⟩ := calm.writers zero some
    exact ⟨u, woken u woke⟩
  readers := by
    rw [count, waiting]
    rintro nonneg none ⟨u, sleeps⟩
    exact calm.readers nonneg none ⟨u, asleep u sleeps⟩

/-- One thread moves from a location that is not a woken writer's to one that is not a sleeping
reader's. -/
theorem Calm.moved (calm : Calm s) (t : ι) (count : s'.rw.rwRefcount = s.rw.rwRefcount)
    (waiting : s'.rw.rwNwaitwriters = s.rw.rwNwaitwriters)
    (others : ∀ u, u ≠ t → s'.loc u = s.loc u) (woken : s.loc t ≠ .woken .wr)
    (asleep : s'.loc t = .asleep .rd ∨ s'.loc t = .condWait .rd →
      s.loc t = .asleep .rd ∨ s.loc t = .condWait .rd) : Calm s' := by
  refine calm.kept count waiting (fun u woke => ?_) fun u sleeps => ?_
  · rw [others u fun same => woken (same ▸ woke)]
    exact woke
  · by_cases same : u = t
    · subst same
      exact asleep sleeps
    · rw [others u same] at sleeps
      exact sleeps

/-- The same, with the location the thread goes to at hand. -/
theorem Calm.goes (calm : Calm s) (t : ι) {next : Loc}
    (count : s'.rw.rwRefcount = s.rw.rwRefcount)
    (waiting : s'.rw.rwNwaitwriters = s.rw.rwNwaitwriters)
    (loc : ∀ u, s'.loc u = if u = t then next else s.loc u) (woken : s.loc t ≠ .woken .wr)
    (awake : next ≠ .asleep .rd ∧ next ≠ .condWait .rd) : Calm s' := by
  refine calm.moved t count waiting (fun u ne => by rw [loc, if_neg ne]) woken ?_
  rw [loc, if_pos rfl]
  rintro (asleep | asleep)
  · exact absurd asleep awake.1
  · exact absurd asleep awake.2

/-- What is left of `Calm s` for the threads other than `t`. -/
structure CalmBut (s : State ι) (rw : MyPthreadRwlockT) (t : ι) : Prop where
  writers : rw.rwRefcount = 0 → 0 < rw.rwNwaitwriters → ∃ u, u ≠ t ∧ s.loc u = .woken .wr
  readers : 0 ≤ rw.rwRefcount → rw.rwNwaitwriters = 0 →
    ∀ u, u ≠ t → s.loc u ≠ .asleep .rd ∧ s.loc u ≠ .condWait .rd

theorem Calm.but (calm : Calm s) {t : ι} (woken : s.loc t ≠ .woken .wr) :
    CalmBut s s.rw t where
  writers := fun zero some => by
    obtain ⟨u, woke⟩ := calm.writers zero some
    exact ⟨u, fun same => woken (same ▸ woke), woke⟩
  readers := fun nonneg none u _ =>
    ⟨fun asleep => calm.readers nonneg none ⟨u, Or.inl asleep⟩,
      fun asleep => calm.readers nonneg none ⟨u, Or.inr asleep⟩⟩

/-- A section of `t` that does not end in a reader's wait. -/
theorem CalmBut.enter {t : ι} {c : Call} {ran : MyPthreadRwlockT × Pthread}
    (calm : CalmBut s ran.1 t) (next : ran.2 ≠ .condWait .rd) : Calm (s.enter t c ran) where
  writers := fun zero some => by
    obtain ⟨u, ne, woke⟩ := calm.writers zero some
    exact ⟨u, by rw [enter_loc, if_neg ne, woke]⟩
  readers := by
    rintro nonneg none ⟨u, sleeps⟩
    rw [enter_loc] at sleeps
    by_cases same : u = t
    · rw [if_pos same] at sleeps
      cases here : ran.2 <;> rw [here] at sleeps next <;> rcases sleeps with sleeps | sleeps <;>
        cases sleeps
      exact next rfl
    · rw [if_neg same] at sleeps
      have awake := calm.readers nonneg none u same
      rcases sleeps with sleeps | sleeps
      · exact awake.1 sleeps
      · exact awake.2 sleeps

/-- With a writer in the lock nobody could be let in. -/
theorem calm_of_locked (locked : s.rw.rwRefcount < 0) : Calm s where
  writers := fun zero => by omega
  readers := fun nonneg => by omega

/-- A reader is let in where no writer waits. -/
theorem CalmBut.takeRead {t : ι} {rw : MyPthreadRwlockT} (calm : CalmBut s rw t)
    (free : ¬ rw.busy .rd = true) : CalmBut s (rw.take .rd) t where
  writers := fun _ some => by
    simp only [MyPthreadRwlockT.busy, Bool.or_eq_true, decide_eq_true_eq] at free
    simp only [MyPthreadRwlockT.take] at some
    omega
  readers := fun _ none => by
    simp only [MyPthreadRwlockT.busy, Bool.or_eq_true, decide_eq_true_eq] at free
    simp only [MyPthreadRwlockT.take] at none
    exact calm.readers (by omega) none

/-- **The loop of `rdlock` and `wrlock` keeps the calm**: who waits has a reason to. -/
theorem CalmBut.lockLoop {t : ι} {m : Mode} {rw : MyPthreadRwlockT}
    (nonneg : 0 ≤ rw.rwNwaitwriters) (calm : m = .rd → CalmBut s rw t) :
    Calm (s.enter t (.lock m) (lockLoop m rw)) := by
  unfold Rwlock.lockLoop
  cases m with
  | rd =>
    have calm := calm rfl
    split
    · rename_i busy
      simp only [MyPthreadRwlockT.busy, Bool.or_eq_true, decide_eq_true_eq] at busy
      refine ⟨fun zero some => ?_, fun count none => ?_⟩
      · obtain ⟨u, ne, woke⟩ := calm.writers zero some
        exact ⟨u, by rw [enter_loc, if_neg ne, woke]⟩
      · simp only [State.enter, MyPthreadRwlockT.addWait] at count none
        omega
    · rename_i free
      exact (calm.takeRead free).enter fun same => by cases same
  | wr =>
    split
    · rename_i busy
      simp only [MyPthreadRwlockT.busy, decide_eq_true_eq] at busy
      refine ⟨fun zero => absurd zero busy, fun _ none => ?_⟩
      simp only [State.enter, MyPthreadRwlockT.addWait] at none
      omega
    · exact calm_of_locked (by simp [State.enter, MyPthreadRwlockT.take])

/-- The `try` functions keep the calm: they never wait, and a reader is let in only where no reader
has to sleep. -/
theorem CalmBut.tryBody {t : ι} {m : Mode} (calm : CalmBut s s.rw t) :
    Calm (s.enter t (.trylock m) (tryBody m s.rw)) := by
  unfold Rwlock.tryBody
  split
  · exact calm.enter fun same => by cases same
  · rename_i free
    cases m with
    | rd => exact (calm.takeRead free).enter fun same => by cases same
    | wr => exact calm_of_locked (by simp [State.enter, MyPthreadRwlockT.take])

end Moves

/-! ### `unlock` and its wake-ups -/

section Unlock

variable [Fintype ι] {s : State ι}

/-- With `rw_nwaitreaders = 0` no reader sleeps. -/
theorem Counted.no_reader (counted : Counted s) (none : s.rw.rwNwaitreaders ≤ 0) (u : ι) :
    s.loc u ≠ .asleep .rd ∧ s.loc u ≠ .condWait .rd := by
  have positive : ∀ m, (s.loc u).waits m = true → 0 < s.rw.nwait m := fun m => counted.pos
  constructor <;> intro here <;> have := positive .rd (by rw [here]; rfl) <;>
    simp only [MyPthreadRwlockT.nwait] at this <;> omega

/-- The second half of `unlock`: it ends calm, or at the wake-up. -/
theorem CalmBut.unlockWake (counted : Counted s) {t : ι} {rw : MyPthreadRwlockT}
    (writers : rw.rwNwaitwriters = s.rw.rwNwaitwriters)
    (readers : rw.rwNwaitreaders = s.rw.rwNwaitreaders) :
    Watched (s.enter t .unlock (unlockWake rw)) := by
  have nonneg : 0 ≤ s.rw.rwNwaitwriters := counted.nonneg .wr
  have here : ∀ ran, (s.enter t .unlock ran).loc t = ran.2.loc .unlock := fun ran => by
    rw [enter_loc, if_pos rfl]
  unfold Rwlock.unlockWake
  split
  · rename_i some
    split
    · rename_i zero
      exact Or.inr (Or.inl ⟨t, here _, zero, some⟩)
    · rename_i locked
      left
      refine CalmBut.enter ⟨fun zero => absurd zero locked, fun _ none => ?_⟩
        (fun same => by cases same)
      simp only at none
      omega
  · rename_i few
    have none : rw.rwNwaitwriters = 0 := by omega
    split
    · exact Or.inr (Or.inr ⟨t, here _, none⟩)
    · rename_i nobody
      left
      refine CalmBut.enter ⟨fun _ some => ?_, fun _ _ u _ => ?_⟩ (fun same => by cases same)
      · simp only at some
        omega
      · exact counted.no_reader (by omega) u

theorem Calm.unlock (calm : Calm s) (counted : Counted s) {t : ι} (woken : s.loc t ≠ .woken .wr) :
    Watched (s.enter t .unlock (myPthreadRwlockUnlock s.rw)) := by
  unfold myPthreadRwlockUnlock
  split
  · exact CalmBut.unlockWake counted rfl rfl
  · split
    · exact CalmBut.unlockWake counted rfl rfl
    · exact Or.inl ((calm.but woken).enter fun same => by cases same)

/-- The step after a wake-up: the sleepers of one side have been woken, `unlock` goes on. -/
theorem woke_loc (m : Mode) (woken : Finset ι) (t u : ι) (ne : u ≠ t) (loc : Loc) :
    ((s.wake m woken).goto t loc).loc u =
      if u ∈ woken ∧ s.loc u = .asleep m then .woken m else s.loc u := by
  rw [goto_loc_ne _ _ ne, wake_loc]

/-- Who sleeps after a wake-up has slept before it. -/
theorem slept_of_woke {m : Mode} {woken : Finset ι} {t u : ι} {c : Call} {result : ℤ}
    (sleeps : ((s.wake m woken).goto t (.mutexUnlock c result)).loc u = .asleep .rd ∨
      ((s.wake m woken).goto t (.mutexUnlock c result)).loc u = .condWait .rd) :
    u ≠ t ∧ ¬ (u ∈ woken ∧ s.loc u = .asleep m) ∧
      (s.loc u = .asleep .rd ∨ s.loc u = .condWait .rd) := by
  by_cases same : u = t
  · rw [same, goto_loc_self] at sleeps
    rcases sleeps with sleeps | sleeps <;> cases sleeps
  · rw [woke_loc _ _ _ _ same] at sleeps
    split at sleeps
    · rcases sleeps with sleeps | sleeps <;> cases sleeps
    · exact ⟨same, ‹_›, sleeps⟩

/-- **`pthread_cond_signal` wakes a writer if one has to be woken.** -/
theorem calm_of_signal (owner : Owner s) (counted : Counted s)
    (alive : ∀ t, (s.loc t).alive = true) {t : ι} (here : s.loc t = .condSignal)
    (waiting : 0 < s.rw.rwNwaitwriters) {woken : Finset ι}
    (asleep : ∀ u ∈ woken, s.loc u = .asleep .wr)
    (someone : (∃ u, s.loc u = .asleep .wr) → woken.Nonempty) :
    Calm ((s.wake .wr woken).goto t (.mutexUnlock .unlock 0)) where
  writers := by
    intro _ _
    by_cases sleeper : ∃ u, s.loc u = .asleep .wr
    · obtain ⟨u, member⟩ := someone sleeper
      have slept := asleep u member
      refine ⟨u, ?_⟩
      rw [woke_loc _ _ _ _ (fun same => by rw [same, here] at slept; cases slept),
        if_pos ⟨member, slept⟩]
    · -- nobody sleeps, so the writers that wait have all been woken before
      have positive : 0 < total (fun x : Thread => x.loc.counted .wr) s.thread := by
        rw [← counted .wr]
        exact waiting
      obtain ⟨u, weight⟩ : ∃ u, (s.loc u).counted .wr ≠ 0 := by
        by_contra nobody
        push Not at nobody
        have zero : total (fun x : Thread => x.loc.counted .wr) s.thread = 0 :=
          total_eq_zero nobody
        omega
      refine ⟨u, ?_⟩
      have living := alive u
      cases loc : s.loc u with
      | woken m =>
        rw [woke_loc _ _ _ _ (fun same => by rw [same, here] at loc; cases loc),
          if_neg (fun both => by rw [loc] at both; cases both.2), loc]
        rw [loc] at weight
        cases m with
        | rd => exact absurd rfl weight
        | wr => rfl
      | asleep m =>
        rw [loc] at weight
        cases m with
        | rd => exact absurd rfl weight
        | wr => exact absurd ⟨u, loc⟩ sleeper
      | condWait m =>
        have same := owner.eq (t := t) (by rw [here]; rfl) (show (s.loc u).inside = true by
          rw [loc]; rfl)
        rw [same, here] at loc
        cases loc
      | cancelled m | dead m => rw [loc] at living; cases living
      | _ => exact absurd (by rw [loc]; rfl) weight
  readers := fun _ none => by
    have none : s.rw.rwNwaitwriters = 0 := none
    omega

/-- **`pthread_cond_broadcast` leaves no reader asleep.** -/
theorem calm_of_broadcast (owner : Owner s) {t : ι} (here : s.loc t = .condBroadcast)
    (waiting : s.rw.rwNwaitwriters = 0) {everyone : Finset ι} (all : ∀ u, u ∈ everyone) :
    Calm ((s.wake .rd everyone).goto t (.mutexUnlock .unlock 0)) where
  writers := fun _ some => by
    have some : 0 < s.rw.rwNwaitwriters := some
    omega
  readers := by
    rintro _ _ ⟨u, sleeps⟩
    obtain ⟨ne, passed, slept | slept⟩ := slept_of_woke sleeps
    · exact passed ⟨all u, slept⟩
    · exact ne (owner.eq (by rw [here]; rfl) (by rw [slept]; rfl))

end Unlock

/-! ### The end of a wait -/

section Waited

variable [Fintype ι] {s : State ι}

theorem Calm.waited (calm : Calm s) (counted : Counted s) {t : ι} {m : Mode} {result : ℤ}
    (here : s.loc t = .woken m ∨ s.loc t = .condWait m)
    (asleep : ∀ u, u ≠ t → s.loc u ≠ .condWait .rd)
    (gentle : result ≠ 0 → m = .wr → ¬ Strands s t) :
    Calm (s.enter t (.lock m) (lockWaited m result s.rw)) := by
  have one : 0 < s.rw.nwait m := by
    refine counted.pos (t := t) ?_
    rcases here with here | here <;> rw [here] <;> exact decide_eq_true rfl
  unfold lockWaited
  cases m with
  | rd =>
    have but : CalmBut s (s.rw.addWait (-1) .rd) t := by
      have but := calm.but (t := t) fun same => by
        rcases here with here | here <;> rw [here] at same <;> cases same
      exact ⟨but.writers, but.readers⟩
    split
    · exact but.enter fun same => by cases same
    · exact CalmBut.lockLoop (counted.nonneg .wr) fun _ => but
  | wr =>
    simp only [MyPthreadRwlockT.nwait] at one
    split
    · rename_i failed
      have gentle := gentle failed rfl
      unfold Strands at gentle
      push Not at gentle
      refine CalmBut.enter ⟨fun zero some => ?_, fun nonneg none u ne => ?_⟩
        (fun same => by cases same)
      · simp only [MyPthreadRwlockT.addWait] at zero some
        exact gentle.2 zero (by omega)
      · simp only [MyPthreadRwlockT.addWait] at nonneg none
        exact ⟨gentle.1 nonneg (by omega) u, asleep u ne⟩
    · refine CalmBut.lockLoop ?_ fun same => by cases same
      simp only [MyPthreadRwlockT.addWait]
      omega

end Waited

/-! ### Every step -/

section Steps

variable [Fintype ι] {s s' : State ι} {action : Act ι}

/-- A calm state stays watched. -/
theorem Calm.step (calm : Calm s) (owner : Owner s) (counted : Counted s)
    (alive : ∀ t, (s.loc t).alive = true) (legal : Legal s action)
    (considerate : Considerate s action) (step : Step s action s') : Watched s' := by
  cases step with
  | call t c here =>
    refine Or.inl (calm.goes t rfl rfl (fun u => goto_loc s t u _) ?_ ⟨nofun, nofun⟩)
    rw [here]
    exact nofun
  | badMagic t c here bad =>
    refine Or.inl (calm.goes t rfl rfl (fun u => fail_loc s t u _) ?_ ⟨nofun, nofun⟩)
    rw [here]
    exact nofun
  | magic t c here =>
    refine Or.inl (calm.goes t rfl rfl (fun u => goto_loc s t u _) ?_ ⟨nofun, nofun⟩)
    rw [here]
    exact nofun
  | lockError t c result here failed =>
    refine Or.inl (calm.goes t rfl rfl (fun u => fail_loc s t u _) ?_ ⟨nofun, nofun⟩)
    rw [here]
    exact nofun
  | lock t c here free =>
    have woken : s.loc t ≠ .woken .wr := fun same => by rw [here] at same; cases same
    cases c with
    | lock m =>
      have loop := CalmBut.lockLoop (m := m) (counted.nonneg .wr) fun _ => calm.but woken
      cases m <;> exact Or.inl loop
    | trylock m =>
      have tried := (calm.but woken).tryBody (m := m)
      cases m <;> exact Or.inl tried
    | unlock => exact calm.unlock counted woken
  | waitError t m result here failed =>
    refine Or.inl (calm.waited counted (Or.inr here) (fun u ne same => ?_) fun wrong side => ?_)
    · exact ne (owner.eq (by rw [here]; rfl) (by rw [same]; rfl))
    · exact considerate wrong (by rw [here, side])
  | wait t m here =>
    refine Or.inl (calm.moved t rfl rfl (fun u ne => by rw [sleep_loc, if_neg ne]) ?_ ?_)
    · rw [here]
      exact fun same => by cases same
    · rw [sleep_loc, if_pos rfl, here]
      rintro (same | same) <;> cases same
      exact Or.inr rfl
  | spurious t m here =>
    refine Or.inl (calm.goes t rfl rfl (fun u => goto_loc s t u _) ?_ ⟨nofun, nofun⟩)
    rw [here]
    exact nofun
  | reacquire t m result here free =>
    refine Or.inl (calm.waited counted (Or.inl here) (fun u _ same => ?_) fun wrong side => ?_)
    · have outside := owner.not_inside free u
      rw [same] at outside
      cases outside
    · exact considerate wrong (by rw [here, side])
  | condSignal t woken here asleep someone =>
    by_cases waiting : 0 < s.rw.rwNwaitwriters
    · exact Or.inl (calm_of_signal owner counted alive here waiting asleep someone)
    · have none : s.rw.rwNwaitwriters = 0 := by
        have nonneg : 0 ≤ s.rw.rwNwaitwriters := counted.nonneg .wr
        omega
      refine Or.inl ⟨fun _ some => absurd some waiting, fun nonneg _ => ?_⟩
      rintro ⟨u, sleeps⟩
      exact calm.readers nonneg none ⟨u, (slept_of_woke sleeps).2.2⟩
  | condBroadcast t everyone all here =>
    refine Or.inl (calm.kept rfl rfl (fun u woke => ?_) fun u sleeps => (slept_of_woke sleeps).2.2)
    rw [woke_loc _ _ _ _ (fun same => by rw [same, here] at woke; cases woke),
      if_neg fun both => by rw [woke] at both; cases both.2]
    exact woke
  | mutexUnlock t c result here =>
    refine Or.inl (calm.goes t rfl rfl (fun u => leave_loc s t u _ _) ?_ ⟨nofun, nofun⟩)
    rw [here]
    exact nofun
  | cancel t m here => exact legal.elim
  | terminate t m here free =>
    have living := alive t
    rw [here] at living
    cases living

/-- **Every step keeps the watch**, unless a writer's failure strands the others. -/
theorem Watched.step (watched : Watched s) (owner : Owner s) (counted : Counted s)
    (alive : ∀ t, (s.loc t).alive = true) (legal : Legal s action)
    (considerate : Considerate s action) (step : Step s action s') : Watched s' := by
  rcases watched with calm | ⟨t, here, zero, some⟩ | ⟨t, here, none⟩
  · exact calm.step owner counted alive legal considerate step
  · have inside : (s.loc t).inside = true := by rw [here]; rfl
    by_cases own : action.thread = t
    · cases step with
      | condSignal u woken here' asleep someone =>
        exact Or.inl (calm_of_signal owner counted alive here' some asleep someone)
      | _ => simp_all [Act.thread]
    · obtain ⟨rw', _, stays⟩ := step.blocked owner inside own
      refine Or.inr (Or.inl ⟨t, ?_, by rw [rw']; exact zero, by rw [rw']; exact some⟩)
      unfold State.loc at here ⊢
      rw [stays, here]
  · have inside : (s.loc t).inside = true := by rw [here]; rfl
    by_cases own : action.thread = t
    · cases step with
      | condBroadcast u everyone all here' =>
        exact Or.inl (calm_of_broadcast owner here' none all)
      | _ => simp_all [Act.thread]
    · obtain ⟨rw', _, stays⟩ := step.blocked owner inside own
      refine Or.inr (Or.inr ⟨t, ?_, by rw [rw']; exact none⟩)
      unfold State.loc at here ⊢
      rw [stays, here]

end Steps

/-! ### Reachable states -/

variable [Fintype ι]

/-- Legal use in which no failing writer strands the others. -/
def LegalConsiderate (s : State ι) (action : Act ι) : Prop :=
  Legal s action ∧ Considerate s action

/-- Legal use in which every pthread call succeeds. -/
def LegalSucceeds (s : State ι) (action : Act ι) : Prop :=
  Legal s action ∧ Succeeds action

instance (s : State ι) : DecidablePred (LegalSucceeds s) :=
  fun _ => inferInstanceAs (Decidable (_ ∧ _))

/-- Where every pthread call succeeds no writer gives up. -/
theorem considerate_of_succeeds {s : State ι} {action : Act ι} (succeeds : Succeeds action) :
    Considerate s action := by
  cases action with
  | condWait t result => exact fun failed => absurd succeeds failed
  | reacquire t result => exact fun failed => absurd succeeds failed
  | _ => exact trivial

theorem reachable_watched {s : State ι} (reachable : machine.Reachable LegalConsiderate s) :
    Watched s := by
  refine reachable.induct (I := Watched) (Or.inl calm_start) ?_
  intro s action s' before watched admitted step
  obtain ⟨owner, counted⟩ := reachable_counted before
  exact watched.step owner counted (reachable_alive (fun _ _ admitted => admitted.1) before)
    admitted.1 admitted.2 (step_cases step)

/-- With `rw_mutex` free no wake-up is still to be sent. -/
theorem Watched.calm {s : State ι} (watched : Watched s) (owner : Owner s)
    (free : s.rwMutex = none) : Calm s := by
  rcases watched with calm | ⟨t, here, _⟩ | ⟨t, here, _⟩
  · exact calm
  · have outside := owner.not_inside free t
    rw [here] at outside
    cases outside
  · have outside := owner.not_inside free t
    rw [here] at outside
    cases outside

theorem calm_of_succeeds {s : State ι} (reachable : machine.Reachable LegalSucceeds s)
    (free : s.rwMutex = none) : Calm s := by
  have considerate : machine.Reachable LegalConsiderate s :=
    reachable.mono fun _ _ admitted => ⟨admitted.1, considerate_of_succeeds admitted.2⟩
  exact (reachable_watched considerate).calm (reachable_counted reachable).1 free

/-- **No lost wake-up.** Where every pthread call succeeds, a free lock with waiting writers has
woken one of them, and a lock that readers may enter has no reader asleep. -/
theorem no_lost_wakeup {s : State ι} (reachable : machine.Reachable LegalSucceeds s)
    (free : s.rwMutex = none) :
    (s.rw.rwRefcount = 0 → 0 < s.rw.rwNwaitwriters → ∃ t, s.loc t = .woken .wr) ∧
      (0 ≤ s.rw.rwRefcount → s.rw.rwNwaitwriters = 0 → ∀ t, s.loc t ≠ .asleep .rd) := by
  have calm := calm_of_succeeds reachable free
  exact ⟨calm.writers, fun nonneg none t asleep => calm.readers nonneg none ⟨t, Or.inl asleep⟩⟩

/-- The reader unlocks, and the writer is signalled. -/
theorem no_lost_wakeup_signalled :
    ∃ t, (machine.after (readerThenWriter (0 : Fin 2) 1 ++
      [.call 0 .unlock, .magic 0, .mutexLock 0 0, .condSignal 0 {1}, .mutexUnlock 0])).loc t =
        .woken .wr :=
  (no_lost_wakeup (machine.reachable_after (by decide) (by decide)) (by decide)).1
    (by decide) (by decide)

/-! ### A writer that gives up -/

instance (s : State ι) (t : ι) : Decidable (Strands s t) :=
  inferInstanceAs (Decidable (_ ∧ _ ∧ _ ∨ _ ∧ _ ∧ _))

instance (s : State ι) : DecidablePred (Considerate s)
  | .condWait t result =>
    inferInstanceAs (Decidable (result ≠ 0 → s.loc t = .condWait .wr → ¬ Strands s t))
  | .reacquire t result =>
    inferInstanceAs (Decidable (result ≠ 0 → s.loc t = .woken .wr → ¬ Strands s t))
  | .call _ _ | .magic _ | .mutexLock _ _ | .spurious _ | .condSignal _ _ | .condBroadcast _
  | .mutexUnlock _ | .cancel _ | .terminate _ => isTrue trivial

instance (s : State ι) : DecidablePred (LegalConsiderate s) :=
  fun _ => inferInstanceAs (Decidable (_ ∧ _))

/-- With `rw_mutex` free, nobody sleeps on a lock that is there for the taking. -/
def NobodyStranded (s : State ι) : Prop :=
  (0 ≤ s.rw.rwRefcount → s.rw.rwNwaitwriters = 0 → ∀ t, s.loc t ≠ .asleep .rd) ∧
    (s.rw.rwRefcount = 0 → 0 < s.rw.rwNwaitwriters → ∃ t, s.loc t = .woken .wr)

/-- In state `s` the `pthread_cond_wait` of writer `t` returns an error, at once or after a sleep,
and `my_pthread_rwlock_wrlock` returns it, which leads to `s'`. -/
def GivesUp (s : State ι) (t : ι) (s' : State ι) : Prop :=
  ∃ result ≠ 0, ∃ s₁,
    ((s.loc t = .woken .wr ∧ s.step (.reacquire t result) = some s₁) ∨
      (s.loc t = .condWait .wr ∧ s.step (.condWait t result) = some s₁)) ∧
    s₁.step (.mutexUnlock t) = some s'

/-- The state in which `wrlock` has returned the error of its wait. -/
theorem GivesUp.state {s s' : State ι} {t : ι} (gives : GivesUp s t s') :
    s'.rwMutex = none ∧ s'.rw = s.rw.addWait (-1) .wr ∧ s'.loc t = .idle ∧
      (∀ u, u ≠ t → s'.loc u = s.loc u) ∧
      (s.loc t = .woken .wr ∨ s.loc t = .condWait .wr) := by
  obtain ⟨result, failed, s₁, wait, leave⟩ := gives
  have ran : lockWaited .wr result s.rw = (s.rw.addWait (-1) .wr, .mutexUnlock result) :=
    if_pos failed
  have entered : s₁ = s.enter t (.lock .wr) (lockWaited .wr result s.rw) ∧
      (s.loc t = .woken .wr ∨ s.loc t = .condWait .wr) := by
    rcases wait with ⟨here, step⟩ | ⟨here, step⟩
    · cases step_cases step with
      | reacquire t m result here' free =>
        rw [here] at here'
        cases here'
        exact ⟨rfl, Or.inl here⟩
    · cases step_cases step with
      | waitError t m result here' failed =>
        rw [here] at here'
        cases here'
        exact ⟨rfl, Or.inr here⟩
      | wait t m here' => exact absurd rfl failed
  obtain ⟨rfl, here⟩ := entered
  cases step_cases leave with
  | mutexUnlock t c result' here' =>
    refine ⟨rfl, ?_, by rw [leave_loc, if_pos rfl], fun u ne => ?_, here⟩
    · exact congrArg Prod.fst ran
    · rw [leave_loc, if_neg ne, enter_loc, if_neg ne]

/-- Giving up in a stranding state strands somebody. -/
theorem GivesUp.not_stranded {s s' : State ι} {t : ι} (gives : GivesUp s t s')
    (strands : Strands s t) : ¬ NobodyStranded s' := by
  obtain ⟨_, rw', own, others, here⟩ := gives.state
  rintro ⟨readers, writers⟩
  rw [rw'] at readers writers
  simp only [MyPthreadRwlockT.addWait] at readers writers
  rcases strands with ⟨nonneg, one, u, asleep⟩ | ⟨zero, more, nobody⟩
  · have ne : u ≠ t := by
      rintro rfl
      rcases here with here | here <;> rw [asleep] at here <;> cases here
    exact readers nonneg (by omega) u (by rw [others u ne, asleep])
  · obtain ⟨u, woke⟩ := writers zero (by omega)
    by_cases same : u = t
    · rw [same, own] at woke
      cases woke
    · rw [others u same] at woke
      exact nobody u same woke

/-- **Writers that give up.** In every run in which no writer gives up its wait in a stranding
state, nobody is stranded whenever `rw_mutex` is free; and a writer that gives up in such a run
strands nobody if and only if the state it gives up in is not a stranding one. -/
theorem failed_wrlock {s : State ι} (reachable : machine.Reachable LegalConsiderate s) :
    (s.rwMutex = none → NobodyStranded s) ∧
      ∀ t s', GivesUp s t s' → (NobodyStranded s' ↔ ¬ Strands s t) := by
  obtain ⟨owner, counted⟩ := reachable_counted reachable
  have stranded : ∀ {s' : State ι}, machine.Reachable LegalConsiderate s' → s'.rwMutex = none →
      NobodyStranded s' := by
    intro s' reachable' free
    have calm := (reachable_watched reachable').calm (reachable_counted reachable').1 free
    exact ⟨fun nonneg none t asleep => calm.readers nonneg none ⟨t, Or.inl asleep⟩, calm.writers⟩
  refine ⟨stranded reachable, fun t s' gives => ⟨fun fine strands => ?_, fun gentle => ?_⟩⟩
  · exact gives.not_stranded strands fine
  · have free := gives.state.1
    obtain ⟨result, failed, s₁, wait, leave⟩ := gives
    have back : LegalConsiderate s₁ (.mutexUnlock t) := ⟨trivial, trivial⟩
    refine stranded ?_ free
    rcases wait with ⟨_, step⟩ | ⟨_, step⟩
    · have giving : LegalConsiderate s (.reacquire t result) := ⟨trivial, fun _ _ => gentle⟩
      exact (reachable.tail giving step).tail back leave
    · have giving : LegalConsiderate s (.condWait t result) := ⟨trivial, fun _ _ => gentle⟩
      exact (reachable.tail giving step).tail back leave

/-- Reader `0` has the lock, writer `1` and reader `2` wait for it, and reader `0` unlocks. -/
def unlockToWriter : List (Act (Fin 3)) :=
  [.call 0 (.lock .rd), .magic 0, .mutexLock 0 0, .mutexUnlock 0,
    .call 1 (.lock .wr), .magic 1, .mutexLock 1 0, .condWait 1 0,
    .call 2 (.lock .rd), .magic 2, .mutexLock 2 0, .condWait 2 0,
    .call 0 .unlock, .magic 0, .mutexLock 0 0, .condSignal 0 {1}, .mutexUnlock 0]

/-- The wait of the signalled writer returns an error, and `wrlock` returns it. -/
def gaveUp : State (Fin 3) :=
  machine.after (unlockToWriter ++ [.reacquire 1 1] ++ [.mutexUnlock 1])

theorem givesUp_unlockToWriter : GivesUp (machine.after unlockToWriter) 1 gaveUp := by
  have wait : machine.step (machine.after unlockToWriter) (.reacquire 1 1) =
      some (machine.after (unlockToWriter ++ [.reacquire 1 1])) := Machine.step_after (by decide)
  have leave : machine.step (machine.after (unlockToWriter ++ [.reacquire 1 1])) (.mutexUnlock 1) =
      some gaveUp := Machine.step_after (by decide)
  exact ⟨1, by decide, _, Or.inl ⟨by decide, wait⟩, leave⟩

theorem failed_wrlock_unlockToWriter : ¬ NobodyStranded gaveUp := fun fine =>
  ((failed_wrlock (machine.reachable_after (by decide) (by decide))).2 1 gaveUp
    givesUp_unlockToWriter).mp fine (by decide)

/-- **A writer that gives up can strand a reader**: reader `2` sleeps on a lock nobody has. -/
theorem failed_wrlock_strands :
    ¬ ∀ s : State (Fin 3), machine.Reachable Legal s → ∀ t s', GivesUp s t s' →
      NobodyStranded s' := by
  intro claim
  have fine := claim (machine.after unlockToWriter)
    (machine.reachable_after (by decide) (by decide)) 1 gaveUp givesUp_unlockToWriter
  exact fine.1 (by decide) (by decide) 2 (by decide)

end Unpvol2.Rwlock
