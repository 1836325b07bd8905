/-
**`my_pthread_rwlock_init` and `my_pthread_rwlock_destroy`: the pthread objects of a lock.**

A lock holds a mutex and two condition variables, which `init` makes one after the other and undoes
again in the other direction where one of them fails, and which `destroy` destroys. What the
standard leaves undefined is to make an object that has been made, or to destroy one that has not:
`misused`.

One process calls the two functions in any order, with or without an attribute; one step is one
pthread call or one group of tests or assignments, and what a pthread call returns is the
environment's choice. In between the threads of the process use the lock, where there is one, and
leave its counts as they like; they do not change `rw_magic` (`Step.magic_eq`).

`before` and `last` are read by no code: the fields when the function was called, and what the
function that has just returned has returned.

* `lifecycle_iff` — **in exactly the runs in which `init` does not come to its first pthread call on
  an initialised lock** no pthread object is misused, and between the calls all three objects exist
  or none, as `rw_magic` tells: a failed `init` leaves nothing behind, nor does `destroy`.
-/

import Unpvol2.Rwlock.Model

namespace Unpvol2.Rwlock.Lifecycle

open Interleaving

/-! ### The model -/

/-- The pthread objects of a lock. -/
inductive Object
  | rwMutex
  | rwCondreaders
  | rwCondwriters
deriving DecidableEq

/-- The statement the process stands at. -/
inductive Pc
  /-- in neither function -/
  | out
  /-- `if (attr != NULL)` -/
  | attr (null : Bool)
  /-- `pthread_mutex_init` or `pthread_cond_init` -/
  | init (o : Object)
  /-- the assignments to the four fields -/
  | fields
  /-- from `err3` or `err2` on, with `result` -/
  | undo (o : Object) (result : ℤ)
  /-- `if (rw->rw_magic != RW_MAGIC)` -/
  | magic
  /-- the tests of the three counts -/
  | counts
  /-- `pthread_mutex_destroy` or `pthread_cond_destroy` -/
  | destroy (o : Object)
  /-- `rw->rw_magic = 0` -/
  | clear
deriving DecidableEq

/-- The two functions. -/
inductive Fn
  | init
  | destroy
deriving DecidableEq

structure State where
  rw : MyPthreadRwlockT
  live : Object → Bool
  pc : Pc
  misused : Bool
  before : MyPthreadRwlockT
  last : Option (Fn × ℤ)

inductive Act
  /-- `my_pthread_rwlock_init(rw, attr)` -/
  | init (null : Bool)
  /-- `my_pthread_rwlock_destroy(rw)` -/
  | destroy
  /-- the threads leave these counts -/
  | use (refcount nwaitreaders nwaitwriters : ℤ)
  /-- the next statement; a pthread call returns `result` -/
  | run (result : ℤ)

namespace State

def goTo (s : State) (pc : Pc) : State := { s with pc := pc }

/-- The function returns. -/
def ret (s : State) (f : Fn) (result : ℤ) : State := { s with pc := .out, last := some (f, result) }

/-- A function is called. -/
def call (s : State) (pc : Pc) : Option State :=
  if s.pc = .out then some { s with pc := pc, before := s.rw, last := none } else none

/-- The object is made, or `pthread_mutex_init` or `pthread_cond_init` fails. -/
def make (s : State) (o : Object) (result : ℤ) : State :=
  { s with
    live := if result = 0 then Function.update s.live o true else s.live
    misused := s.misused || s.live o }

/-- The object is destroyed. -/
def unmake (s : State) (o : Object) : State :=
  { s with live := Function.update s.live o false, misused := s.misused || !s.live o }

/-- The next statement. -/
def run (s : State) (result : ℤ) : Option State :=
  match s.pc with
  | .out => none
  | .attr false => some (s.ret .init einval)
  | .attr true => some (s.goTo (.init .rwMutex))
  | .init .rwMutex =>
    let s := s.make .rwMutex result
    -- `goto err1`
    some (if result ≠ 0 then s.ret .init result else s.goTo (.init .rwCondreaders))
  | .init .rwCondreaders =>
    let s := s.make .rwCondreaders result
    some (s.goTo (if result ≠ 0 then .undo .rwMutex result else .init .rwCondwriters))
  | .init .rwCondwriters =>
    let s := s.make .rwCondwriters result
    some (s.goTo (if result ≠ 0 then .undo .rwCondreaders result else .fields))
  | .fields => some { s.ret .init 0 with rw := ⟨rwMagicValue, 0, 0, 0⟩ }
  | .undo .rwMutex result => some ((s.unmake .rwMutex).ret .init result)
  | .undo o result => some ((s.unmake o).goTo (.undo .rwMutex result))
  | .magic => some (if s.rw.rwMagic ≠ rwMagicValue then s.ret .destroy einval else s.goTo .counts)
  | .counts =>
    some (if s.rw.rwRefcount ≠ 0 ∨ s.rw.rwNwaitreaders ≠ 0 ∨ s.rw.rwNwaitwriters ≠ 0 then
      s.ret .destroy ebusy else s.goTo (.destroy .rwMutex))
  | .destroy .rwMutex => some ((s.unmake .rwMutex).goTo (.destroy .rwCondreaders))
  | .destroy .rwCondreaders => some ((s.unmake .rwCondreaders).goTo (.destroy .rwCondwriters))
  | .destroy .rwCondwriters => some ((s.unmake .rwCondwriters).goTo .clear)
  | .clear => some { s.ret .destroy 0 with rw := { s.rw with rwMagic := 0 } }

def step (s : State) : Act → Option State
  | .init null => s.call (.attr null)
  | .destroy => s.call .magic
  | .use refcount nwaitreaders nwaitwriters =>
    if s.pc = .out ∧ s.rw.rwMagic = rwMagicValue then
      some { s with rw := ⟨s.rw.rwMagic, nwaitreaders, nwaitwriters, refcount⟩, last := none }
    else none
  | .run result => s.run result

end State

/-- The memory of a lock that has not been initialised. -/
def start (memory : MyPthreadRwlockT) : State :=
  ⟨memory, fun _ => false, .out, false, memory, none⟩

def machine (memory : MyPthreadRwlockT) : Machine State Act := ⟨start memory, State.step⟩

/-! ### What the objects should be -/

/-- The result of a function, and the fields it leaves. -/
def Answers (before rw : MyPthreadRwlockT) : Fn × ℤ → Prop
  | (.init, result) =>
    (result = 0 ∧ rw = pthreadRwlockInitializer) ∨ (result ≠ 0 ∧ rw = before)
  | (.destroy, result) => (result, rw) = myPthreadRwlockDestroy before

/-- Nothing has been misused, and between the calls the objects are as `rw_magic` tells. -/
structure Sound (s : State) : Prop where
  proper : s.misused = false
  objects : s.pc = .out → ∀ o, s.live o = decide (s.rw.rwMagic = rwMagicValue)
  answers : ∀ answer, s.last = some answer → Answers s.before s.rw answer

/-- `init` does not make the mutex of an initialised lock. -/
def Fresh (s : State) : Act → Prop
  | .run _ => s.pc = .init .rwMutex → s.rw.rwMagic ≠ rwMagicValue
  | _ => True

instance (s : State) (action : Act) : Decidable (Fresh s action) :=
  match action with
  | .run _ => inferInstanceAs (Decidable (_ → _))
  | .init _ | .destroy | .use _ _ _ => isTrue trivial

/-! ### The invariant -/

/-- The objects at a statement, of a lock that is initialised or is not. -/
def Pc.lives (initialised : Bool) : Pc → Object → Bool
  | .out | .attr _ | .init .rwMutex | .magic => fun _ => initialised
  | .init .rwCondreaders | .undo .rwMutex _ => fun o => decide (o = .rwMutex)
  | .init .rwCondwriters | .undo .rwCondreaders _ => fun o => decide (o ≠ .rwCondwriters)
  | .fields | .undo .rwCondwriters _ | .counts | .destroy .rwMutex => fun _ => true
  | .destroy .rwCondreaders => fun o => decide (o ≠ .rwMutex)
  | .destroy .rwCondwriters => fun o => decide (o = .rwCondwriters)
  | .clear => fun _ => false

/-- What a statement knows of the fields. -/
def Pc.Knows (rw : MyPthreadRwlockT) : Pc → Prop
  | .out | .attr _ | .init .rwMutex | .magic => True
  | .init _ | .fields => rw.rwMagic ≠ rwMagicValue
  | .undo o result => rw.rwMagic ≠ rwMagicValue ∧ result ≠ 0 ∧ o ≠ .rwCondwriters
  | .counts => rw.rwMagic = rwMagicValue
  | .destroy _ | .clear =>
    rw.rwMagic = rwMagicValue ∧ rw.rwRefcount = 0 ∧ rw.rwNwaitreaders = 0 ∧ rw.rwNwaitwriters = 0

structure Kept (s : State) : Prop where
  proper : s.misused = false
  lives : s.live = s.pc.lives (decide (s.rw.rwMagic = rwMagicValue))
  knows : s.pc.Knows s.rw
  same : s.pc ≠ .out → s.rw = s.before
  going : s.pc ≠ .out → s.last = none
  answers : ∀ answer, s.last = some answer → Answers s.before s.rw answer

variable {memory : MyPthreadRwlockT} {s s' : State}

theorem kept_start (unset : memory.rwMagic ≠ rwMagicValue) : Kept (start memory) where
  proper := rfl
  lives := by
    have no : decide ((start memory).rw.rwMagic = rwMagicValue) = false := decide_eq_false unset
    rw [no]
    rfl
  knows := trivial
  same := fun inside => absurd rfl inside
  going := fun inside => absurd rfl inside
  answers := nofun

/-- The next statement is reached, and the fields stay. -/
theorem Kept.goTo (kept : Kept s) (inside : s.pc ≠ .out) {live : Object → Bool} {pc : Pc}
    (lives : live = pc.lives (decide (s.rw.rwMagic = rwMagicValue))) (knows : pc.Knows s.rw) :
    Kept { s with live := live, pc := pc } where
  proper := kept.proper
  lives := lives
  knows := knows
  same := fun _ => kept.same inside
  going := fun _ => kept.going inside
  answers := kept.answers

/-- The function returns. -/
theorem Kept.ret (kept : Kept s) {live : Object → Bool} {rw : MyPthreadRwlockT} {f : Fn}
    {result : ℤ}
    (lives : live = fun _ => decide (rw.rwMagic = rwMagicValue))
    (answers : Answers s.before rw (f, result)) :
    Kept { s.ret f result with live := live, rw := rw } where
  proper := kept.proper
  lives := lives
  knows := trivial
  same := fun inside => absurd rfl inside
  going := fun inside => absurd rfl inside
  answers := fun answer same => by
    cases same
    exact answers

/-- An object that is not there is made. -/
theorem make_eq (proper : s.misused = false) {o : Object} (absent : s.live o = false) (result : ℤ) :
    s.make o result =
      { s with live := if result = 0 then Function.update s.live o true else s.live } := by
  unfold State.make
  rw [proper, absent]
  rfl

/-- An object that is there is destroyed. -/
theorem unmake_eq (proper : s.misused = false) {o : Object} (present : s.live o = true) :
    s.unmake o = { s with live := Function.update s.live o false } := by
  unfold State.unmake
  rw [proper, present]
  rfl

/-- Two sets of objects that agree on all three. -/
theorem live_ext {live live' : Object → Bool} (mutex : live .rwMutex = live' .rwMutex)
    (readers : live .rwCondreaders = live' .rwCondreaders)
    (writers : live .rwCondwriters = live' .rwCondwriters) : live = live' := by
  funext o
  cases o
  · exact mutex
  · exact readers
  · exact writers

/-- **A statement of `init`.** -/
theorem Kept.run_init (kept : Kept s) {o : Object} (here : s.pc = .init o) {result : ℤ}
    (fresh : Fresh s (.run result)) (step : s.run result = some s') : Kept s' := by
  have lives := kept.lives
  have knows := kept.knows
  have inside : s.pc ≠ .out := by
    rw [here]
    nofun
  have same := kept.same inside
  unfold State.run at step
  rw [here] at step lives knows
  cases o with
  | rwMutex =>
    have unset : s.rw.rwMagic ≠ rwMagicValue := fresh here
    have no : decide (s.rw.rwMagic = rwMagicValue) = false := decide_eq_false unset
    rw [no] at lives
    simp only [make_eq kept.proper (congrFun lives .rwMutex), Option.some.injEq] at step
    subst step
    by_cases made : result = 0
    · rw [if_neg (not_not.mpr made), if_pos made]
      refine kept.goTo inside (live_ext ?_ ?_ ?_) unset <;> rw [lives] <;> rfl
    · rw [if_pos made, if_neg made]
      exact kept.ret (lives.trans (no ▸ rfl)) (.inr ⟨made, same⟩)
  | rwCondreaders =>
    have no : decide (s.rw.rwMagic = rwMagicValue) = false := decide_eq_false knows
    simp only [make_eq kept.proper (congrFun lives .rwCondreaders), Option.some.injEq] at step
    subst step
    by_cases made : result = 0
    · rw [if_neg (not_not.mpr made), if_pos made]
      refine kept.goTo inside (live_ext ?_ ?_ ?_) knows <;> rw [lives] <;> rfl
    · rw [if_pos made, if_neg made]
      exact kept.goTo inside lives ⟨knows, made, nofun⟩
  | rwCondwriters =>
    have no : decide (s.rw.rwMagic = rwMagicValue) = false := decide_eq_false knows
    simp only [make_eq kept.proper (congrFun lives .rwCondwriters), Option.some.injEq] at step
    subst step
    by_cases made : result = 0
    · rw [if_neg (not_not.mpr made), if_pos made]
      refine kept.goTo inside (live_ext ?_ ?_ ?_) knows <;> rw [lives] <;> rfl
    · rw [if_pos made, if_neg made]
      exact kept.goTo inside lives ⟨knows, made, nofun⟩

/-- **The way back from a failure.** -/
theorem Kept.run_undo (kept : Kept s) {o : Object} {failure result : ℤ}
    (here : s.pc = .undo o failure) (step : s.run result = some s') : Kept s' := by
  have lives := kept.lives
  have knows := kept.knows
  have inside : s.pc ≠ .out := by
    rw [here]
    nofun
  have same := kept.same inside
  unfold State.run at step
  rw [here] at step lives knows
  obtain ⟨unset, failed, known⟩ := knows
  have no : decide (s.rw.rwMagic = rwMagicValue) = false := decide_eq_false unset
  cases o with
  | rwMutex =>
    rw [unmake_eq kept.proper (congrFun lives .rwMutex)] at step
    cases step
    refine kept.ret ?_ (.inr ⟨failed, same⟩)
    rw [no]
    refine live_ext ?_ ?_ ?_ <;> rw [lives] <;> rfl
  | rwCondreaders =>
    simp only [unmake_eq kept.proper (congrFun lives .rwCondreaders), Option.some.injEq] at step
    subst step
    refine kept.goTo inside (live_ext ?_ ?_ ?_) ⟨unset, failed, nofun⟩ <;> rw [lives] <;> rfl
  | rwCondwriters => exact absurd rfl known

/-- **A statement of `destroy`.** -/
theorem Kept.run_destroy (kept : Kept s) {o : Object} {result : ℤ} (here : s.pc = .destroy o)
    (step : s.run result = some s') : Kept s' := by
  have lives := kept.lives
  have knows := kept.knows
  have inside : s.pc ≠ .out := by
    rw [here]
    nofun
  unfold State.run at step
  rw [here] at step lives knows
  cases o with
  | rwMutex =>
    simp only [unmake_eq kept.proper (congrFun lives .rwMutex), Option.some.injEq] at step
    subst step
    refine kept.goTo inside (live_ext ?_ ?_ ?_) knows <;> rw [lives] <;> rfl
  | rwCondreaders =>
    simp only [unmake_eq kept.proper (congrFun lives .rwCondreaders), Option.some.injEq] at step
    subst step
    refine kept.goTo inside (live_ext ?_ ?_ ?_) knows <;> rw [lives] <;> rfl
  | rwCondwriters =>
    simp only [unmake_eq kept.proper (congrFun lives .rwCondwriters), Option.some.injEq] at step
    subst step
    refine kept.goTo inside (live_ext ?_ ?_ ?_) knows <;> rw [lives] <;> rfl

/-- **A statement of the two functions.** -/
theorem Kept.run (kept : Kept s) {result : ℤ} (fresh : Fresh s (.run result))
    (step : s.run result = some s') : Kept s' := by
  have lives := kept.lives
  have knows := kept.knows
  have same := kept.same
  cases here : s.pc with
  | init o => exact kept.run_init here fresh step
  | undo o failure => exact kept.run_undo here step
  | destroy o => exact kept.run_destroy here step
  | out =>
    rw [State.run, here] at step
    cases step
  | attr null =>
    have inside : s.pc ≠ .out := by
      rw [here]
      nofun
    rw [State.run, here] at step
    rw [here] at lives
    cases null with
    | false =>
      cases step
      exact kept.ret lives (.inr ⟨by decide, same inside⟩)
    | true =>
      cases step
      exact kept.goTo inside lives trivial
  | fields =>
    rw [State.run, here] at step
    rw [here] at lives
    cases step
    refine kept.ret ?_ (.inl ⟨rfl, rfl⟩)
    exact lives
  | magic =>
    have inside : s.pc ≠ .out := by
      rw [here]
      nofun
    rw [State.run, here] at step
    rw [here] at lives
    simp only [Option.some.injEq] at step
    subst step
    by_cases magic : s.rw.rwMagic = rwMagicValue
    · rw [if_neg (not_not.mpr magic)]
      refine kept.goTo inside (lives.trans ?_) magic
      rw [decide_eq_true magic]
      rfl
    · rw [if_pos magic]
      refine kept.ret lives ?_
      unfold Answers myPthreadRwlockDestroy
      rw [← same inside, if_pos magic]
  | counts =>
    have inside : s.pc ≠ .out := by
      rw [here]
      nofun
    rw [State.run, here] at step
    rw [here] at lives knows
    have magic : s.rw.rwMagic = rwMagicValue := knows
    simp only [Option.some.injEq] at step
    subst step
    by_cases busy : s.rw.rwRefcount ≠ 0 ∨ s.rw.rwNwaitreaders ≠ 0 ∨ s.rw.rwNwaitwriters ≠ 0
    · rw [if_pos busy]
      refine kept.ret (lives.trans ?_) ?_
      · rw [decide_eq_true magic]
        rfl
      · unfold Answers myPthreadRwlockDestroy
        rw [← same inside, if_neg (not_not.mpr magic), if_pos busy]
    · rw [if_neg busy]
      simp only [not_or, not_not] at busy
      exact kept.goTo inside lives ⟨magic, busy⟩
  | clear =>
    have inside : s.pc ≠ .out := by
      rw [here]
      nofun
    rw [State.run, here] at step
    rw [here] at lives knows
    obtain ⟨magic, refcount, readers, writers⟩ := knows
    cases step
    refine kept.ret ?_ ?_
    · exact lives
    · unfold Answers myPthreadRwlockDestroy
      rw [← same inside, if_neg (not_not.mpr magic), if_neg (by simp [refcount, readers, writers])]

/-- **What one step keeps.** -/
theorem Kept.step (kept : Kept s) {action : Act} (fresh : Fresh s action)
    (step : s.step action = some s') : Kept s' := by
  -- a call changes nothing but where the process stands
  have called : ∀ pc : Pc, (∀ initialised, pc.lives initialised = fun _ => initialised) →
      pc.Knows s.rw → s.call pc = some s' → Kept s' := by
    intro pc lives knows call
    unfold State.call at call
    split at call
    · rename_i outside
      cases call
      refine ⟨kept.proper, ?_, knows, fun _ => rfl, fun _ => rfl, nofun⟩
      rw [kept.lives, outside, lives]
      rfl
    · cases call
  cases action with
  | init null => exact called (.attr null) (fun _ => rfl) trivial step
  | destroy => exact called .magic (fun _ => rfl) trivial step
  | use refcount nwaitreaders nwaitwriters =>
    obtain ⟨⟨outside, _⟩, same⟩ := Option.ite_none_right_eq_some.mp step
    cases same
    refine ⟨kept.proper, kept.lives, ?_, fun inside => absurd outside inside, fun _ => rfl, nofun⟩
    rw [outside]
    trivial
  | run result => exact kept.run fresh step

theorem Kept.sound (kept : Kept s) : Sound s where
  proper := kept.proper
  objects := fun outside o => by
    rw [kept.lives, outside]
    rfl
  answers := kept.answers

/-- **The objects of a lock exist exactly as long as it is initialised**, in all states of exactly
the runs in which `init` makes no mutex for a lock that has one. -/
theorem lifecycle_iff (unset : memory.rwMagic ≠ rwMagicValue) {actions : List Act} :
    (machine memory).Along Sound (start memory) actions ↔
      (machine memory).Admitted Fresh (start memory) actions := by
  have kept : ∀ s, (machine memory).Reachable
      (fun s action => Anything s action ∧ Fresh s action) s → Kept s :=
    fun s reachable => Machine.Reachable.induct (I := Kept) (kept_start unset)
      (fun _ _ _ _ before fresh step => before.step fresh.2 step) reachable
  refine Machine.along_iff_admitted (M := machine memory)
    (fun s reachable => (kept s reachable).sound) ?_ (Machine.admitted_anything _ _)
  intro s action reachable _ sound
  cases action with
  | init null => trivial
  | destroy => trivial
  | use refcount nwaitreaders nwaitwriters => trivial
  | run result =>
    intro here set
    -- the mutex is there, and is made again
    have lives := (kept s reachable).lives
    rw [here, decide_eq_true set] at lives
    have moved : ∃ s', s.run result = some s' ∧ s'.misused = true := by
      unfold State.run
      rw [here]
      refine ⟨_, rfl, ?_⟩
      have twice : (s.misused || s.live .rwMutex) = true := by
        rw [lives]
        exact Bool.or_true _
      split
      · exact twice
      · exact twice
    obtain ⟨s', step, misused⟩ := moved
    have proper := (sound s' step).proper
    rw [misused] at proper
    cases proper

/-- `init` fails at its last object and then succeeds, and `destroy` finds the lock in use and then
succeeds. -/
def secondTry : List Act :=
  [Act.init true, .run 0, .run 0, .run 0, .run 12, .run 0, .run 0] ++
    [Act.init true, .run 0, .run 0, .run 0, .run 0, .run 0, .use 1 0 0] ++
    [Act.destroy, .run 0, .run 0, .use 0 0 0, .destroy] ++ List.replicate 6 (Act.run 0)

/-- It leaves nothing behind; `init` of an initialised lock would have. -/
theorem lifecycle_iff_secondTry :
    (machine ⟨0, 0, 0, 0⟩).Along Sound (start ⟨0, 0, 0, 0⟩) secondTry ∧
    ((machine ⟨0, 0, 0, 0⟩).run (start ⟨0, 0, 0, 0⟩) secondTry).isSome = true ∧
    ¬ (machine ⟨0, 0, 0, 0⟩).Along Sound (start ⟨0, 0, 0, 0⟩)
      (secondTry.take 14 ++ [.init true, .run 0, .run 0]) :=
  ⟨(lifecycle_iff (by decide)).mpr (by decide), by decide,
    fun along => absurd ((lifecycle_iff (by decide)).mp along) (by decide)⟩

end Unpvol2.Rwlock.Lifecycle
