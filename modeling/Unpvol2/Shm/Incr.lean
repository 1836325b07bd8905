/-
**`incr1`, `incr2` and `incr2private`: a parent and a child that count.**

Both processes run `nloop` rounds of `printf("...: %d\n", count++)` between `sem_wait` and
`sem_post` of one semaphore. What `count` is differs: a global variable in `incr1`, of which the
child gets a copy, a page that both map in `incr2` (`MAP_SHARED`), and in `incr2private` a page of
which each gets its own when it writes it (`MAP_PRIVATE`). The semaphore is in shared memory in all
three. One step is one statement, and `count++` is a load and a store.

* `page_numbers` — the processes that share a counter print `0`, `1`, `2` and so on.
* `incr2_counts` — so with the page shared every number is printed once.
* `incr1_copies` — and otherwise every number is printed by both.
-/

import Unpvol2.Lib.Tickets

set_option linter.unusedSectionVars false

namespace Unpvol2.Shm

open C Interleaving

/-! ### The programs -/

inductive Program
  | incr1
  | incr2
  | incr2private
deriving DecidableEq

/-- The processes behind `fork`. -/
inductive Process
  | parent
  | child
deriving DecidableEq

/-- A page that both processes map, or a process's own. -/
inductive Page
  | common
  | own (p : Process)
deriving DecidableEq

/-- The page that holds the counter of a process. -/
def Program.page : Program → Process → Page
  | .incr2, _ => .common
  | .incr1, p | .incr2private, p => .own p

/-- The statement a process stands at. -/
inductive Pc
  /-- `i < nloop` -/
  | test
  /-- `sem_wait(mutex)` -/
  | wait
  /-- the load of `count++` -/
  | load
  /-- its store, `value` having been read -/
  | store (value : ℤ)
  /-- `printf` -/
  | print (value : ℤ)
  /-- `sem_post(mutex)` -/
  | post
  | exited
deriving DecidableEq

/-- A process and its `i`. -/
structure Loop where
  pc : Pc
  i : ℤ
deriving DecidableEq

structure State where
  /-- `count`, or `*ptr` -/
  count : Page → ℤ
  mutex : ℕ
  process : Process → Loop
  stdout : List (Process × ℤ)

namespace State

def goto (s : State) (p : Process) (pc : Pc) : State :=
  { s with process := Function.update s.process p { s.process p with pc := pc } }

/-- The next statement of process `p`. -/
def step (program : Program) (nloop : ℤ) (s : State) (p : Process) : Option State :=
  let page := program.page p
  match (s.process p).pc with
  | .test => some (s.goto p (if (s.process p).i < nloop then .wait else .exited))
  | .wait => if 0 < s.mutex then some { s.goto p .load with mutex := s.mutex - 1 } else none
  | .load => some (s.goto p (.store (s.count page)))
  | .store value =>
    some { s.goto p (.print value) with
      count := Function.update s.count page (int32 (value + 1)) }
  | .print value => some { s.goto p .post with stdout := s.stdout ++ [(p, value)] }
  | .post =>
    some { s with
      mutex := s.mutex + 1
      process := Function.update s.process p ⟨.test, (s.process p).i + 1⟩ }
  | .exited => none

end State

/-- Behind `fork`. -/
def forked : State := ⟨fun _ => 0, 1, fun _ => ⟨.test, 0⟩, []⟩

def machine (program : Program) (nloop : ℤ) : Machine State Process :=
  ⟨forked, State.step program nloop⟩

/-! ### The list of the steps -/

/-- The steps of process `p`, case by case. -/
inductive Step (program : Program) (nloop : ℤ) (s : State) (p : Process) : State → Prop
  | more (here : (s.process p).pc = .test) (more : (s.process p).i < nloop) :
      Step program nloop s p (s.goto p .wait)
  | done (here : (s.process p).pc = .test) (most : nloop ≤ (s.process p).i) :
      Step program nloop s p (s.goto p .exited)
  | wait (here : (s.process p).pc = .wait) (positive : 0 < s.mutex) :
      Step program nloop s p { s.goto p .load with mutex := s.mutex - 1 }
  | load (here : (s.process p).pc = .load) :
      Step program nloop s p (s.goto p (.store (s.count (program.page p))))
  | store (value : ℤ) (here : (s.process p).pc = .store value) :
      Step program nloop s p
        { s.goto p (.print value) with
          count := Function.update s.count (program.page p) (int32 (value + 1)) }
  | print (value : ℤ) (here : (s.process p).pc = .print value) :
      Step program nloop s p { s.goto p .post with stdout := s.stdout ++ [(p, value)] }
  | post (here : (s.process p).pc = .post) :
      Step program nloop s p
        { s with
          mutex := s.mutex + 1
          process := Function.update s.process p ⟨.test, (s.process p).i + 1⟩ }

theorem step_cases {program : Program} {nloop : ℤ} {s s' : State} {p : Process}
    (step : s.step program nloop p = some s') : Step program nloop s p s' := by
  unfold State.step at step
  dsimp only at step
  split at step <;> rename_i here
  · cases step
    split
    · exact .more here ‹_›
    · rename_i most
      exact .done here (Int.not_lt.mp most)
  · simp only [Option.ite_none_right_eq_some, Option.some.injEq] at step
    obtain ⟨positive, rfl⟩ := step
    exact .wait here positive
  · cases step
    exact .load here
  · cases step
    exact .store _ here
  · cases step
    exact .print _ here
  · cases step
    exact .post here
  · cases step

/-! ### The numbers -/

/-- A process draws numbers from its page. -/
def Pc.draws : Pc → Tickets.Pc
  | .test | .wait | .exited => .wait
  | .load => .load
  | .store value => .store value
  | .print value => .print value
  | .post => .post

/-- The numbers printed by the processes of a page. -/
def State.lines (program : Program) (s : State) (page : Page) : List ℤ :=
  (s.stdout.filter fun line => program.page line.1 = page).map Prod.snd

def State.view (program : Program) (s : State) : Tickets.State Page Unit Process where
  counter := s.count
  sem := fun _ => s.mutex
  drawer := fun p => some (program.page p, (s.process p).pc.draws)
  shown := s.lines program

/-- All pages have one semaphore. -/
def lock (_ : Page) : Unit := ()

section View

variable {program : Program} {nloop : ℤ} {s s' : State} {p : Process} {x : Loop}

theorem lines_print (s : State) (p : Process) (value : ℤ) :
    State.lines program { s with stdout := s.stdout ++ [(p, value)] } =
      Function.update (s.lines program) (program.page p)
        (s.lines program (program.page p) ++ [value]) := by
  funext page
  unfold State.lines
  dsimp only
  rw [List.filter_append, List.map_append]
  by_cases same : page = program.page p
  · rw [same, Function.update_self]
    simp only [decide_true, List.filter_cons_of_pos, List.filter_nil, List.map_cons, List.map_nil]
  · rw [Function.update_of_ne same,
      List.filter_cons_of_neg (by rw [decide_eq_true_eq]; exact fun eq => same eq.symm),
      List.filter_nil, List.map_nil, List.append_nil]

/-- One process moves. -/
theorem view_moved {v : Tickets.State Page Unit Process}
    (process : s'.process = Function.update s.process p x)
    (drawer : v.drawer =
      Function.update (s.view program).drawer p (some (program.page p, x.pc.draws)))
    (counter : v.counter = s'.count) (sem : v.sem = fun _ => s'.mutex)
    (shown : v.shown = s'.lines program) : v = s'.view program := by
  have same : (s'.view program).drawer = v.drawer := by
    rw [drawer]
    funext q
    show some (program.page q, (s'.process q).pc.draws) = _
    rw [process]
    by_cases same : q = p
    · rw [same, Function.update_self, Function.update_self]
    · rw [Function.update_of_ne same, Function.update_of_ne same]
      rfl
  cases v
  dsimp only at same counter sem shown
  rw [← same, counter, sem, shown]
  rfl

/-- **Each statement is a step of the drawing, or none.** -/
theorem draws_step (step : Step program nloop s p s') :
    s'.view program = s.view program ∨
      (s.view program).step lock (.step p) = some (s'.view program) := by
  have mutex : ∀ value, Function.update (s.view program).sem (lock (program.page p)) value =
      fun _ => value := fun value => by
    funext u
    cases u
    exact Function.update_self ..
  have stands : ∀ {pc}, (s.process p).pc = pc →
      (s.view program).drawer p = some (program.page p, pc.draws) := fun here =>
    congrArg (fun pc : Pc => some (program.page p, pc.draws)) here
  cases step with
  | more here | done here =>
    have stays := Function.eq_update_iff.mpr ⟨stands here, fun _ _ => rfl⟩
    exact .inl (view_moved rfl stays rfl rfl rfl).symm
  | wait here positive =>
    refine .inr ((Tickets.step_wait (stands here) positive).trans (congrArg some ?_))
    exact view_moved rfl rfl rfl (mutex _) rfl
  | load here =>
    refine .inr ((Tickets.step_load (stands here)).trans (congrArg some ?_))
    exact view_moved rfl rfl rfl rfl rfl
  | store value here =>
    refine .inr ((Tickets.step_store (stands here)).trans (congrArg some ?_))
    exact view_moved rfl rfl rfl rfl rfl
  | print value here =>
    refine .inr ((Tickets.step_print (stands here)).trans (congrArg some ?_))
    exact view_moved rfl rfl rfl rfl (lines_print s p value).symm
  | post here =>
    refine .inr ((Tickets.step_post (stands here)).trans (congrArg some ?_))
    exact view_moved rfl rfl rfl (mutex _) rfl

end View

theorem drawn_of_reachable {program : Program} {nloop : ℤ} {s : State}
    (reachable : (machine program nloop).Reachable Anything s) :
    Tickets.Drawn lock (s.view program) := by
  have image : (Tickets.machine lock fun p => some (program.page p)).Reachable Anything
      (s.view program) := by
    refine reachable.simulate (State.view program) ?_ ?_
    · rfl
    · intro s p s' _ _ step
      exact (draws_step (step_cases step)).imp_right fun moved => ⟨.step p, trivial, moved⟩
  exact Tickets.drawn_of_reachable image

/-- **The processes that share a counter print `0`, `1`, `2` and so on.** -/
theorem page_numbers {program : Program} {nloop : ℤ} {s : State}
    (reachable : (machine program nloop).Reachable Anything s) (page : Page) :
    s.lines program page = Tickets.numbersTo (s.lines program page).length :=
  (drawn_of_reachable reachable).numbered page

/-! ### The rounds -/

/-- The loop counter fits the statement. -/
def Loop.Fits (nloop : ℤ) (x : Loop) : Prop :=
  match x.pc with
  | .test => 0 ≤ x.i ∧ x.i ≤ nloop.toNat
  | .exited => x.i = nloop.toNat
  | .wait | .load | .store _ | .print _ | .post => 0 ≤ x.i ∧ x.i < nloop

/-- The lines a process has printed, by where it stands. -/
def Loop.lines (x : Loop) : ℤ :=
  match x.pc with
  | .post => x.i + 1
  | _ => x.i

/-- The number of lines of a process on the standard output. -/
def State.printed (s : State) (p : Process) : ℕ := s.stdout.countP fun line => line.1 = p

structure Rounds (nloop : ℤ) (s : State) : Prop where
  fits : ∀ p, (s.process p).Fits nloop
  printed : ∀ p, (s.printed p : ℤ) = (s.process p).lines

/-- The statements a process has left. -/
def Loop.left (nloop : ℤ) (x : Loop) : ℤ :=
  match x.pc with
  | .test => 7 * (nloop.toNat - x.i) + 1
  | .wait => 7 * (nloop.toNat - x.i)
  | .load => 7 * (nloop.toNat - x.i) - 1
  | .store _ => 7 * (nloop.toNat - x.i) - 2
  | .print _ => 7 * (nloop.toNat - x.i) - 3
  | .post => 7 * (nloop.toNat - x.i) - 4
  | .exited => 0

def State.left (nloop : ℤ) (s : State) : ℕ :=
  ((s.process .parent).left nloop + (s.process .child).left nloop).toNat

theorem rounds_start (nloop : ℤ) : Rounds nloop forked :=
  ⟨fun _ => ⟨Int.le_refl _, Int.natCast_nonneg _⟩, fun _ => rfl⟩

section Rounds

variable {program : Program} {nloop : ℤ} {s s' : State} {p : Process} {x : Loop}

theorem Loop.Fits.left_nonneg (fits : x.Fits nloop) : 0 ≤ x.left nloop := by
  unfold Loop.Fits at fits
  unfold Loop.left
  cases here : x.pc with
  | test | wait | load | store | print | post =>
    rw [here] at fits
    dsimp only at fits ⊢
    omega
  | exited => exact Int.le_refl 0

/-- What one process has to show after its statement. -/
theorem Rounds.moved (rounds : Rounds nloop s)
    (process : s'.process = Function.update s.process p x) (fits : x.Fits nloop)
    (printed : (s'.printed p : ℤ) = x.lines) (others : ∀ q, q ≠ p → s'.printed q = s.printed q)
    (less : x.left nloop < (s.process p).left nloop) :
    Rounds nloop s' ∧ s'.left nloop < s.left nloop := by
  refine ⟨⟨fun q => ?_, fun q => ?_⟩, ?_⟩
  · rw [process]
    by_cases same : q = p
    · rw [same, Function.update_self]
      exact fits
    · rw [Function.update_of_ne same]
      exact rounds.fits q
  · rw [process]
    by_cases same : q = p
    · rw [same, Function.update_self]
      exact printed
    · rw [Function.update_of_ne same, others q same]
      exact rounds.printed q
  · have parent := (rounds.fits .parent).left_nonneg
    have child := (rounds.fits .child).left_nonneg
    have own := fits.left_nonneg
    unfold State.left
    rw [process]
    cases p with
    | parent =>
      rw [Function.update_self, Function.update_of_ne (by decide)]
      omega
    | child =>
      rw [Function.update_of_ne (by decide), Function.update_self]
      omega

/-- **Every statement keeps the rounds, and leaves fewer statements.** -/
theorem Rounds.step (rounds : Rounds nloop s) (step : Step program nloop s p s') :
    Rounds nloop s' ∧ s'.left nloop < s.left nloop := by
  have fits := rounds.fits p
  have printed := rounds.printed p
  unfold Loop.Fits at fits
  unfold Loop.lines at printed
  have left : ∀ {pc}, (s.process p).pc = pc →
      (s.process p).left nloop = (⟨pc, (s.process p).i⟩ : Loop).left nloop := fun here =>
    congrArg (fun pc => (⟨pc, (s.process p).i⟩ : Loop).left nloop) here
  cases step with
  | more here more =>
    rw [here] at fits printed
    dsimp only at fits printed
    refine rounds.moved rfl ⟨fits.1, more⟩ printed (fun _ _ => rfl) ?_
    rw [left here]
    simp only [Loop.left]
    omega
  | done here most =>
    rw [here] at fits printed
    dsimp only at fits printed
    refine rounds.moved rfl ?_ printed (fun _ _ => rfl) ?_
    · show (s.process p).i = nloop.toNat
      omega
    · rw [left here]
      simp only [Loop.left]
      omega
  | wait here | load here | store value here =>
    rw [here] at fits printed
    dsimp only at fits printed
    refine rounds.moved rfl fits printed (fun _ _ => rfl) ?_
    rw [left here]
    simp only [Loop.left]
    omega
  | print value here =>
    rw [here] at fits printed
    dsimp only at fits printed
    refine rounds.moved rfl fits ?_ (fun q ne => ?_) ?_
    · show ((List.countP _ (s.stdout ++ [(p, value)]) : ℕ) : ℤ) = (s.process p).i + 1
      rw [List.countP_append, List.countP_singleton, if_pos (decide_eq_true rfl), ← printed]
      rfl
    · show List.countP _ (s.stdout ++ [(p, value)]) = _
      rw [List.countP_append, List.countP_singleton,
        if_neg (by rw [decide_eq_true_eq]; exact fun same => ne same.symm)]
      rfl
    · rw [left here]
      simp only [Loop.left]
      omega
  | post here =>
    rw [here] at fits printed
    dsimp only at fits printed
    refine rounds.moved rfl ?_ printed (fun _ _ => rfl) ?_
    · show 0 ≤ (s.process p).i + 1 ∧ (s.process p).i + 1 ≤ nloop.toNat
      omega
    · rw [left here]
      simp only [Loop.left]
      omega

end Rounds

theorem rounds_of_reachable {program : Program} {nloop : ℤ} {s : State}
    (reachable : (machine program nloop).Reachable Anything s) : Rounds nloop s :=
  reachable.induct (rounds_start nloop) fun _ _ _ _ rounds _ step =>
    (rounds.step (step_cases step)).1

/-- **Every run is finite.** -/
theorem length_le {program : Program} {nloop : ℤ} {actions : List Process} {s : State}
    (ran : (machine program nloop).run forked actions = some s) :
    actions.length ≤ 2 * (7 * nloop.toNat + 1) := by
  have bounded := Machine.run_length_le (State.left nloop)
    (fun s p s' rounds step => (Rounds.step rounds (step_cases step)).1)
    (fun s p s' rounds step => (Rounds.step rounds (step_cases step)).2) (rounds_start nloop) ran
  have first : forked.left nloop = 2 * (7 * nloop.toNat + 1) := by
    simp only [State.left, forked, Loop.left]
    omega
  exact bounded.trans first.le

/-! ### The end -/

/-- No process can take a step. -/
def Stuck (program : Program) (nloop : ℤ) (s : State) : Prop :=
  ∀ p, s.step program nloop p = none

/-- **Where no process can step, both have exited.** -/
theorem Stuck.exited {program : Program} {nloop : ℤ} {s : State} (stuck : Stuck program nloop s)
    (drawn : Tickets.Drawn lock (s.view program)) (p : Process) : (s.process p).pc = .exited := by
  have stands : ∀ q, (s.process q).pc = .exited ∨ (s.process q).pc = .wait ∧ s.mutex = 0 := by
    intro q
    have halted := stuck q
    unfold State.step at halted
    dsimp only at halted
    split at halted <;> rename_i here
    case h_2 =>
      split at halted
      · cases halted
      · rename_i empty
        exact .inr ⟨here, Nat.eq_zero_of_not_pos empty⟩
    case h_7 => exact .inl here
    all_goals cases halted
  refine (stands p).resolve_right fun ⟨_, zero⟩ => ?_
  obtain ⟨q, inside⟩ := (drawn.binary ()).holder zero
  have drawing : (s.process q).pc.draws.inside = true := by
    rw [Tickets.inside_own (s := s.view program) rfl] at inside
    exact (Bool.and_eq_true _ _ ▸ inside).1
  rcases stands q with here | ⟨here, _⟩ <;> rw [here] at drawing <;> cases drawing

/-- The lines of a process that has exited. -/
theorem Rounds.exited {nloop : ℤ} {s : State} {p : Process} (rounds : Rounds nloop s)
    (here : (s.process p).pc = .exited) : s.printed p = nloop.toNat := by
  have fits := rounds.fits p
  have printed := rounds.printed p
  unfold Loop.Fits at fits
  unfold Loop.lines at printed
  rw [here] at fits printed
  dsimp only at fits printed
  omega

/-- The numbers a process has printed. -/
def State.linesOf (s : State) (p : Process) : List ℤ :=
  (s.stdout.filter fun line => line.1 = p).map Prod.snd

/-- The counter of a page whose processes have exited. -/
theorem count_of_exited {program : Program} {s : State}
    (drawn : Tickets.Drawn lock (s.view program)) (exited : ∀ p, (s.process p).pc = .exited)
    (page : Page) : s.count page = int32 (s.lines program page).length := by
  refine drawn.quiet page fun p value here => ?_
  have here : some (program.page p, (s.process p).pc.draws) = some (page, .print value) := here
  rw [exited p] at here
  cases here

/-- **`incr2` counts**: the two processes together print `0`, `1`, `2` and so on. Every run is
finite, and where no process can step both have exited, `2 * nloop` numbers have been printed, and
the counter says so. -/
theorem incr2_counts {nloop : ℤ} {actions : List Process} {s : State}
    (ran : (machine .incr2 nloop).run forked actions = some s) :
    actions.length ≤ 2 * (7 * nloop.toNat + 1) ∧
      s.stdout.map Prod.snd = Tickets.numbersTo s.stdout.length ∧
      (Stuck .incr2 nloop s → (∀ p, (s.process p).pc = .exited) ∧
        s.stdout.length = 2 * nloop.toNat ∧ s.count .common = int32 (2 * nloop.toNat : ℕ)) := by
  have reachable : (machine .incr2 nloop).Reachable Anything s :=
    Machine.reaches_of_run ran (Machine.admitted_anything _ _)
  have all : s.lines .incr2 .common = s.stdout.map Prod.snd :=
    congrArg (List.map Prod.snd) (List.filter_eq_self.mpr fun _ _ => rfl)
  have drawn := drawn_of_reachable reachable
  have numbered := page_numbers reachable .common
  rw [all, List.length_map] at numbered
  refine ⟨length_le ran, numbered, fun stuck => ?_⟩
  have exited := stuck.exited drawn
  have rounds := rounds_of_reachable reachable
  have length : s.stdout.length = 2 * nloop.toNat := by
    have split : s.stdout.length = s.printed .parent + s.printed .child := by
      rw [List.length_eq_countP_add_countP fun line => decide (line.1 = Process.parent)]
      refine congrArg (s.printed .parent + ·) (List.countP_congr fun line _ => ?_)
      cases line.1 <;> decide
    rw [split, rounds.exited (exited .parent), rounds.exited (exited .child), Nat.two_mul]
  have count := count_of_exited drawn exited .common
  rw [all, List.length_map, length] at count
  exact ⟨exited, length, count⟩

/-- One round each, the child first. -/
def childFirst : List Process := List.replicate 7 .child ++ List.replicate 7 .parent

theorem incr2_counts_childFirst :
    ((machine .incr2 1).after childFirst).stdout.map Prod.snd =
      Tickets.numbersTo ((machine .incr2 1).after childFirst).stdout.length ∧
    ((machine .incr2 1).after childFirst).stdout.map Prod.snd = [0, 1] :=
  ⟨(incr2_counts (Machine.run_after (by decide))).2.1, by decide⟩

/-- **`incr1` and `incr2private` count twice**: each process prints `0`, `1`, `2` and so on by
itself. Every run is finite, and where no process can step each has printed the `nloop` numbers from
`0` on. -/
theorem incr1_copies {program : Program} {nloop : ℤ} (copied : program ≠ .incr2)
    {actions : List Process} {s : State}
    (ran : (machine program nloop).run forked actions = some s) :
    actions.length ≤ 2 * (7 * nloop.toNat + 1) ∧
      (∀ p, s.linesOf p = Tickets.numbersTo (s.printed p)) ∧
      (Stuck program nloop s → ∀ p, (s.process p).pc = .exited ∧
        s.linesOf p = Tickets.numbersTo nloop.toNat ∧
        s.count (.own p) = int32 nloop.toNat) := by
  have reachable : (machine program nloop).Reachable Anything s :=
    Machine.reaches_of_run ran (Machine.admitted_anything _ _)
  have page : ∀ p, program.page p = .own p := fun p => by
    cases program with
    | incr2 => exact absurd rfl copied
    | incr1 | incr2private => rfl
  have own : ∀ p, s.lines program (.own p) = s.linesOf p := fun p => by
    refine congrArg (List.map Prod.snd) (List.filter_congr fun line _ => ?_)
    rw [page]
    exact decide_eq_decide.mpr ⟨Page.own.inj, congrArg Page.own⟩
  have length : ∀ p, (s.linesOf p).length = s.printed p := fun p => by
    unfold State.linesOf State.printed
    rw [List.length_map, List.countP_eq_length_filter]
  have numbered : ∀ p, s.linesOf p = Tickets.numbersTo (s.printed p) := fun p => by
    have drawn := page_numbers reachable (.own p)
    rw [own, length] at drawn
    exact drawn
  have drawn := drawn_of_reachable reachable
  have rounds := rounds_of_reachable reachable
  refine ⟨length_le ran, numbered, fun stuck p => ?_⟩
  have exited := stuck.exited drawn
  have printed := rounds.exited (exited p)
  refine ⟨exited p, printed ▸ numbered p, ?_⟩
  have count := count_of_exited drawn exited (.own p)
  rw [own, length, printed] at count
  exact count

theorem incr1_copies_childFirst :
    ((machine .incr1 1).after childFirst).linesOf .parent =
      Tickets.numbersTo (((machine .incr1 1).after childFirst).printed .parent) ∧
    ((machine .incr1 1).after childFirst).stdout.map Prod.snd = [0, 0] :=
  ⟨(incr1_copies (by decide) (Machine.run_after (by decide))).2.1 .parent, by decide⟩

end Unpvol2.Shm
