/-
**Processes that go on without the lock.**

`my_lock` does not look at what `fcntl` returns: when the lock is refused with -1 the process reads
and writes the file all the same.

* `State.Safe` — at most one process is inside, no number is printed twice, and none is lost.
* `Orderly` — a step that lets no process in while another one is inside. A refused process may
  come in when nobody is inside; but it owns nothing, so the lock may be granted to another one
  before it leaves.
* `safe_iff` — **exactly the runs of orderly steps are safe.**
-/

import Unpvol2.Lockmain.Numbers

namespace Unpvol2.Lockmain

open C Interleaving

variable {π : Type} [DecidableEq π]

/-! ### The condition -/

/-- The lock is refused only while no process is inside, and granted only while none that it was
refused to is. -/
def Orderly (s : State π) : Act π → Prop
  | .run p => (s.process p).pc = .lock → ∀ q, s.inside q = true → s.owner = some q
  | .interrupt p => (s.process p).pc = .lock → ∀ q, s.inside q = false

/-! ### Who is inside -/

/-- One process is inside at most, and the owner of the record lock is. -/
structure Entered (s : State π) : Prop where
  alone : s.Alone
  owner : ∀ p, s.owner = some p → s.inside p = true

section Steps

variable {s s' : State π} {p : π} {x : Process}

omit [DecidableEq π] in
theorem entered_start (file : List Char) (stack : π → ℤ) : Entered (start file stack) :=
  ⟨fun _ _ inside => Bool.noConfusion inside, nofun⟩

/-- A process comes in while nobody is inside. -/
theorem Entered.enter (empty : ∀ q, s.inside q = false)
    (process : s'.process = Function.update s.process p x) (enters : x.pc.inside = true)
    (owner : ∀ q, s'.owner = some q → q = p) : Entered s' := by
  obtain ⟨own, others⟩ := inside_of_update process
  have only : ∀ q, s'.inside q = true → q = p := by
    intro q inside
    by_contra other
    rw [others q other, empty q] at inside
    cases inside
  refine ⟨fun q r first second => (only q first).trans (only r second).symm, fun q owns => ?_⟩
  rw [owner q owns]
  exact own.trans enters

/-- A process leaves, or stays outside, and owns the lock no more. -/
theorem Entered.leave (entered : Entered s)
    (process : s'.process = Function.update s.process p x) (leaves : x.pc.inside = false)
    (owner : s'.owner = s.ownerWithout p) : Entered s' := by
  obtain ⟨own, others⟩ := inside_of_update process
  have ne : ∀ q, s'.inside q = true → q ≠ p := by
    rintro q inside rfl
    rw [own, leaves] at inside
    cases inside
  have before : ∀ q, s'.inside q = true → s.inside q = true := by
    intro q inside
    rw [← others q (ne q inside)]
    exact inside
  refine ⟨fun q r first second => entered.alone (before q first) (before r second),
    fun q owns => ?_⟩
  rw [owner] at owns
  unfold State.ownerWithout at owns
  split at owns
  · cases owns
  · rename_i other
    have stays : q ≠ p := fun same => other (same ▸ owns)
    rw [others q stays]
    exact entered.owner q owns

/-- A process moves on where it is, inside or outside. -/
theorem Entered.keep (entered : Entered s)
    (process : s'.process = Function.update s.process p x)
    (same : x.pc.inside = (s.process p).pc.inside) (owner : s'.owner = s.owner) : Entered s' := by
  obtain ⟨own, others⟩ := inside_of_update process
  have unchanged : ∀ q, s'.inside q = s.inside q := by
    intro q
    by_cases mover : q = p
    · rw [mover]
      exact own.trans same
    · exact others q mover
  refine ⟨fun q r first second => entered.alone ?_ ?_, fun q owns => ?_⟩
  · rw [← unchanged q]
    exact first
  · rw [← unchanged r]
    exact second
  · rw [unchanged q]
    exact entered.owner q (owner.symm.trans owns)

omit [DecidableEq π] in
/-- Where only owners are inside and the lock may be granted, nobody is inside. -/
theorem Entered.empty (entered : Entered s) (here : (s.process p).pc = .lock)
    (free : s.owner = none ∨ s.owner = some p)
    (orderly : ∀ q, s.inside q = true → s.owner = some q) (q : π) : s.inside q = false := by
  by_contra within
  have owns := orderly q (Bool.of_not_eq_false within)
  have inside : s.inside p = true := by
    rcases free with none | own
    · cases none.symm.trans owns
    · exact entered.owner p own
  unfold State.inside at inside
  rw [here] at inside
  cases inside

/-- **Orderly steps let one process in at a time.** -/
theorem Entered.step (entered : Entered s) (orderly : Orderly s (.run p))
    (step : Step .fcntl s p s') : Entered s' := by
  cases step with
  | granted here _ free =>
    exact Entered.enter (p := p) (entered.empty here free (orderly here)) rfl rfl
      fun q owns => (Option.some.inj owns).symm
  | again _ lockopen | created _ lockopen => cases lockopen
  | exit here | unlock here => exact entered.leave (p := p) rfl rfl rfl
  | more here | closeLock here | seekRead here | read here | scan here | print here | format here
  | seekWrite here | write here | next here =>
    exact entered.keep (p := p) rfl (by rw [here]; rfl) rfl

/-- A refused process goes in alone. -/
theorem Entered.interrupt (entered : Entered s) (orderly : Orderly s (.interrupt p))
    (here : (s.process p).pc = .lock) : Entered (s.goTo p .seekRead) := by
  have empty : ∀ q, s.inside q = false := orderly here
  refine Entered.enter (p := p) empty rfl rfl fun q owns => ?_
  have inside := entered.owner q owns
  rw [empty q] at inside
  cases inside

theorem interrupt_cases {s s' : State π} {p : π} (step : s.interrupt .fcntl p = some s') :
    (s.process p).pc = .lock ∧ s' = s.goTo p .seekRead := by
  unfold State.interrupt at step
  simp only [true_and, Option.ite_none_right_eq_some, Option.some.injEq] at step
  exact ⟨step.1, step.2.symm⟩

theorem entered_of_reachable {file : List Char} {stack : π → ℤ}
    (reachable : (machine .fcntl file stack).Reachable Orderly s) :
    Entered s := by
  refine reachable.induct (entered_start file stack) ?_
  intro s action s' _ entered orderly step
  cases action with
  | run p => exact entered.step orderly (step_cases step)
  | interrupt p =>
    obtain ⟨here, rfl⟩ := interrupt_cases step
    exact entered.interrupt orderly here

/-- A process that comes in is alone only if nobody was inside. -/
theorem empty_of_alone {s' : State π} {p : π} (here : (s.process p).pc = .lock)
    (process : s'.process = Function.update s.process p { s.process p with pc := .seekRead })
    (alone : s'.Alone) (q : π) : s.inside q = false := by
  obtain ⟨own, others⟩ := inside_of_update process
  by_contra within
  have ne : q ≠ p := by
    rintro rfl
    unfold State.inside at within
    rw [here] at within
    exact within rfl
  exact ne (alone ((others q ne).trans (Bool.of_not_eq_false within)) own)

end Steps

/-! ### The numbers -/

variable [Fintype π]

/-- **What the lock is for**: at most one process is inside; and if the file said `v` at first, the
numbers printed are `v`, `v + 1`, ..., none of them twice, and the file counts all of them when no
process is inside. -/
structure State.Safe (file : List Char) (s : State π) : Prop where
  alone : s.Alone
  numbers : ∀ v, fileLong maxline file = some v → v + rounds * Fintype.card π < 2 ^ 63 →
    s.printed.Nodup ∧ s.printed = (List.range s.printed.length).map (fun k : ℕ => v + k) ∧
      ((∀ p, s.inside p = false) → fileLong maxline s.file = some (v + s.printed.length))

section Runs

variable {file : List Char} {stack : π → ℤ} {s : State π}

/-- A refused process goes on as one that has the lock. -/
theorem Counting.interrupt {v : ℤ} {p : π} (counting : Counting v s)
    (here : (s.process p).pc = .lock) : Counting v (s.goTo p .seekRead) := by
  have inRounds := counting.inRounds p
  refine counting.move (p := p) rfl rfl rfl (by rw [here]; rfl) trivial ?_
    ⟨inRounds.le, fun _ => inRounds.looping (by rw [here]; rfl), nofun⟩
  unfold Process.left
  rw [here]
  rfl

theorem counting_of_orderly {v : ℤ} (parses : fileLong maxline file = some v)
    (fits : v + rounds * Fintype.card π < 2 ^ 63)
    (reachable : (machine .fcntl file stack).Reachable Orderly s) : Counting v s := by
  refine reachable.induct (counting_start parses stack) ?_
  intro s action s' before counting _ step
  cases action with
  | run p =>
    exact counting.step (entered_of_reachable before).alone (fileLong_range parses).1 fits
      (step_cases step)
  | interrupt p =>
    obtain ⟨here, rfl⟩ := interrupt_cases step
    exact counting.interrupt here

/-- **Orderly runs are safe.** -/
theorem safe_of_orderly (reachable : (machine .fcntl file stack).Reachable Orderly s) :
    s.Safe file where
  alone := (entered_of_reachable reachable).alone
  numbers := by
    intro v parses fits
    have counting := counting_of_orderly parses fits reachable
    refine ⟨counting.nodup, counting.numbers, fun empty => counting.file fun p => ?_⟩
    have outside : (s.process p).pc.inside = false := empty p
    revert outside
    cases (s.process p).pc <;> decide

/-- **A run is safe if and only if its steps are orderly.** -/
theorem safe_iff (file : List Char) (stack : π → ℤ) (actions : List (Act π)) :
    (machine .fcntl file stack).Along (State.Safe file) (start file stack) actions ↔
      (machine .fcntl file stack).Admitted Orderly (start file stack) actions := by
  have orderly : ∀ s, (machine .fcntl file stack).Reachable
      (fun s action => Anything s action ∧ Orderly s action) s →
      (machine .fcntl file stack).Reachable Orderly s :=
    fun s => Machine.Reachable.mono fun _ _ => And.right
  refine Machine.along_iff_admitted (M := machine .fcntl file stack)
    (fun s reachable => safe_of_orderly (orderly s reachable)) ?_
    (Machine.admitted_anything _ actions)
  intro s action reachable _ safe
  have entered := entered_of_reachable (orderly s reachable)
  cases action with
  | interrupt p =>
    intro here
    have step : (machine .fcntl file stack).step s (.interrupt p) = some (s.goTo p .seekRead) :=
      if_pos ⟨rfl, here⟩
    exact empty_of_alone here rfl (safe _ step).alone
  | run p =>
    intro here q inside
    cases owner : s.owner with
    | some r => rw [entered.alone inside (entered.owner r owner)]
    | none =>
      have step : (machine .fcntl file stack).step s (.run p) =
          some { s.goTo p .seekRead with owner := some p } := by
        show s.run .fcntl p = _
        unfold State.run
        simp only [here]
        exact if_pos (Or.inl owner)
      have empty := empty_of_alone here rfl (safe _ step).alone q
      rw [empty] at inside
      cases inside

/-- The second process is refused the lock while the first has printed its number. -/
def refused (first second : π) : List (Act π) :=
  List.replicate 6 (.run first) ++ [.run second, .interrupt second] ++
    List.replicate 4 (.run second)

/-- **Both print 1.** -/
theorem refused_increment : ¬ ∀ s, (machine .fcntl "1\n".toList fun _ : Fin 2 => 0).Reachable
    Anything s → s.Alone ∧ s.printed.Nodup := by
  intro safe
  have reachable : (machine .fcntl "1\n".toList fun _ : Fin 2 => 0).Reachable Anything
      ((machine .fcntl "1\n".toList fun _ : Fin 2 => 0).after (refused 0 1)) :=
    Machine.reachable_after (by decide) (by decide)
  exact absurd (safe _ reachable).2 (by decide)

end Runs

end Unpvol2.Lockmain
