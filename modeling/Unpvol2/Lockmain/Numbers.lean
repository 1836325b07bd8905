/-
**The sequence numbers of `lockmain` are unique and have no gaps.**

* `Locked` — either kind of lock is a mutex that is held by exactly the process between its
  `my_lock` and its `my_unlock`. For `fcntl` the holder is the owner of the record lock; for
  `lockopen` nobody records it, and the lock file exists exactly when there is one.
* `Process.Phase` — what the holder knows: the number that is next, which the file says when nobody
  is about to write it, then its line, its `seqno`, and its line again.
* `Counting` — the numbers printed are `v`, `v + 1`, ..., and each process has its rounds left.

The file is written without being truncated; `fileLong_write` says that the old bytes left behind
the new line do not matter.
-/

import Mathlib.Data.List.Range
import Unpvol2.Lib.Mutex
import Unpvol2.Lib.Threads
import Unpvol2.Lockmain.Model

set_option linter.unusedSectionVars false

namespace Unpvol2.Lockmain

open C Interleaving

variable {π : Type} [DecidableEq π]

/-! ### The list of the steps -/

/-- The steps whose locks are granted, case by case. -/
inductive Step (lock : Lock) (s : State π) (p : π) : State π → Prop
  | more (here : (s.process p).pc = .test) (more : (s.process p).i < rounds) :
      Step lock s p (s.goTo p .lock)
  | exit (here : (s.process p).pc = .test) (all : rounds ≤ (s.process p).i) :
      Step lock s p { s.goTo p .exited with owner := s.ownerWithout p }
  | granted (here : (s.process p).pc = .lock) (fcntl : lock = .fcntl)
      (free : s.owner = none ∨ s.owner = some p) :
      Step lock s p { s.goTo p .seekRead with owner := some p }
  | again (here : (s.process p).pc = .lock) (lockopen : lock = .lockopen)
      (taken : s.lockfile = true) : Step lock s p s
  | created (here : (s.process p).pc = .lock) (lockopen : lock = .lockopen)
      (free : s.lockfile = false) :
      Step lock s p { s.goTo p .closeLock with lockfile := true }
  | closeLock (here : (s.process p).pc = .closeLock) : Step lock s p (s.goTo p .seekRead)
  | seekRead (here : (s.process p).pc = .seekRead) :
      Step lock s p (s.set p { s.process p with pc := .read, offset := 0 })
  | read (here : (s.process p).pc = .read) (offset : ℕ) :
      Step lock s p (s.set p { s.process p with
        pc := .scan, offset := offset,
        line := untilNul (readAt s.file (s.process p).offset maxline) })
  | scan (here : (s.process p).pc = .scan) :
      Step lock s p (s.set p { s.process p with
        pc := .print
        seqno := ((scanLong (s.process p).line).map Prod.fst).getD (s.process p).seqno })
  | print (here : (s.process p).pc = .print) :
      Step lock s p { s.goTo p .format with printed := s.printed ++ [(s.process p).seqno] }
  | format (here : (s.process p).pc = .format) :
      Step lock s p (s.set p { s.process p with
        pc := .seekWrite
        seqno := int64 ((s.process p).seqno + 1)
        line := (printInt (int64 ((s.process p).seqno + 1)) ++ ['\n']).take maxline })
  | seekWrite (here : (s.process p).pc = .seekWrite) :
      Step lock s p (s.set p { s.process p with pc := .write, offset := 0 })
  | write (here : (s.process p).pc = .write) (offset : ℕ) :
      Step lock s p { s.set p { s.process p with pc := .unlock, offset := offset } with
        file := writeAt s.file (s.process p).offset (s.process p).line }
  | unlock (here : (s.process p).pc = .unlock) : Step lock s p (s.myUnlock lock p)
  | next (here : (s.process p).pc = .next) :
      Step lock s p (s.set p { s.process p with pc := .test, i := (s.process p).i + 1 })

theorem myLock_cases {lock : Lock} {s s' : State π} {p : π} (here : (s.process p).pc = .lock)
    (step : s.myLock lock p = some s') : Step lock s p s' := by
  unfold State.myLock at step
  cases lock with
  | fcntl =>
    simp only [Option.ite_none_right_eq_some, Option.some.injEq] at step
    obtain ⟨free, rfl⟩ := step
    exact .granted here rfl free
  | lockopen =>
    simp only at step
    split at step
    · cases step
      exact .again here rfl ‹_›
    · cases step
      exact .created here rfl (eq_false_of_ne_true ‹_›)

/-- **The inversion of the step function.** -/
theorem step_cases {lock : Lock} {s s' : State π} {p : π} (step : s.run lock p = some s') :
    Step lock s p s' := by
  unfold State.run at step
  simp only at step
  split at step <;> rename_i here
  · split at step
    · cases step
      exact .more here ‹_›
    · cases step
      exact .exit here (Nat.not_lt.mp ‹_›)
  · exact myLock_cases here step
  all_goals cases step
  · exact .closeLock here
  · exact .seekRead here
  · exact .read here _
  · exact .scan here
  · exact .print here
  · exact .format here
  · exact .seekWrite here
  · exact .write here _
  · exact .unlock here
  · exact .next here

/-! ### The locks -/

/-- The process is between its `my_lock` and its `my_unlock`. -/
def Pc.inside : Pc → Bool
  | .test | .lock | .next | .exited => false
  | _ => true

def State.inside (s : State π) (p : π) : Bool := (s.process p).pc.inside

/-- At most one process is inside. -/
def State.Alone (s : State π) : Prop := ∀ ⦃p q⦄, s.inside p = true → s.inside q = true → p = q

/-- What a lock keeps of the mutex it implements. -/
def State.Implements (lock : Lock) (s : State π) (mutex : Option π) : Prop :=
  match lock with
  | .fcntl => s.owner = mutex
  | .lockopen => s.lockfile = mutex.isSome ∧ s.owner = none

/-- The lock is a mutex that is held by exactly the process inside. -/
def Locked (lock : Lock) (s : State π) : Prop :=
  ∃ mutex, Owns mutex s.inside ∧ s.Implements lock mutex

theorem locked_start (lock : Lock) (file : List Char) (stack : π → ℤ) :
    Locked lock (start file stack) := by
  refine ⟨none, Owns.init fun _ => rfl, ?_⟩
  cases lock with
  | fcntl => rfl
  | lockopen => exact ⟨rfl, rfl⟩

section Locks

variable {lock : Lock} {s s' : State π} {p : π} {x : Process}

/-- The other processes stand where they stood. -/
theorem inside_of_update (process : s'.process = Function.update s.process p x) :
    s'.inside p = x.pc.inside ∧ ∀ q, q ≠ p → s'.inside q = s.inside q := by
  unfold State.inside
  rw [process]
  exact ⟨by rw [Function.update_self], fun q ne => by rw [Function.update_of_ne ne]⟩

/-- A process locks the mutex. -/
theorem owns_enter (owns : Owns (none : Option π) s.inside)
    (process : s'.process = Function.update s.process p x) (enters : x.pc.inside = true) :
    Owns (some p) s'.inside := by
  obtain ⟨own, others⟩ := inside_of_update process
  exact owns.lock (own.trans enters) others

/-- A process unlocks the mutex. -/
theorem owns_leave {mutex : Option π} (owns : Owns mutex s.inside) (inside : s.inside p = true)
    (process : s'.process = Function.update s.process p x) (leaves : x.pc.inside = false) :
    Owns none s'.inside := by
  obtain ⟨own, others⟩ := inside_of_update process
  exact owns.unlock inside (own.trans leaves) others

/-- **At most one process is inside.** -/
theorem Locked.alone (locked : Locked lock s) : s.Alone := by
  intro p q first second
  obtain ⟨mutex, owns, _⟩ := locked
  exact owns.unique first second

/-- With `p` inside, the others write nothing and know nothing. -/
theorem State.Alone.others (alone : s.Alone) (inside : s.inside p = true) {q : π} (ne : q ≠ p) :
    (s.process q).pc.inside = false := by
  by_contra within
  exact ne (alone (Bool.of_not_eq_false within) inside)

/-- A step that leaves the lock alone. -/
theorem Locked.keep (locked : Locked lock s) (process : s'.process = Function.update s.process p x)
    (owner : s'.owner = s.owner) (lockfile : s'.lockfile = s.lockfile)
    (same : x.pc.inside = (s.process p).pc.inside) : Locked lock s' := by
  obtain ⟨mutex, owns, implements⟩ := locked
  obtain ⟨own, others⟩ := inside_of_update process
  refine ⟨mutex, owns.keep fun q => ?_, ?_⟩
  · by_cases mover : q = p
    · rw [mover, own, same]
      rfl
    · exact others q mover
  · unfold State.Implements at implements ⊢
    rw [owner, lockfile]
    exact implements

/-- A process that is not inside owns no record lock. -/
theorem Locked.ownerWithout (locked : Locked lock s) (outside : s.inside p = false) :
    s.ownerWithout p = s.owner := by
  obtain ⟨mutex, owns, implements⟩ := locked
  refine if_neg fun own => ?_
  cases lock with
  | fcntl =>
    have inside := (owns p).mpr (implements.symm.trans own)
    exact absurd (outside.symm.trans inside) Bool.false_ne_true
  | lockopen =>
    rw [implements.2] at own
    cases own

/-- **Every step keeps the lock a mutex.** -/
theorem Locked.step (locked : Locked lock s) (step : Step lock s p s') : Locked lock s' := by
  cases step with
  | again => exact locked
  | exit here all =>
    have outside : s.inside p = false := by
      unfold State.inside
      rw [here]
      rfl
    exact locked.keep (p := p) rfl (locked.ownerWithout outside) rfl (by rw [here]; rfl)
  | granted here fcntl free =>
    subst fcntl
    obtain ⟨mutex, owns, implements⟩ := locked
    have implements : s.owner = mutex := implements
    have none : mutex = none := by
      rw [← implements]
      rcases free with free | own
      · exact free
      · have inside : s.inside p = true := (owns p).mpr (implements.symm.trans own)
        unfold State.inside at inside
        rw [here] at inside
        cases inside
    rw [none] at owns
    exact ⟨some p, owns_enter owns rfl rfl, rfl⟩
  | created here lockopen free =>
    subst lockopen
    obtain ⟨mutex, owns, present, unowned⟩ := locked
    have none : mutex = none := by
      rw [free] at present
      exact Option.isSome_eq_false_iff.mp present.symm |> Option.isNone_iff_eq_none.mp
    rw [none] at owns
    exact ⟨some p, owns_enter owns rfl rfl, rfl, unowned⟩
  | unlock here =>
    obtain ⟨mutex, owns, implements⟩ := locked
    have inside : s.inside p = true := by
      unfold State.inside
      rw [here]
      rfl
    cases lock with
    | fcntl =>
      have holder : s.owner = some p := implements.trans ((owns p).mp inside)
      exact ⟨none, owns_leave owns inside rfl rfl, if_pos holder⟩
    | lockopen => exact ⟨none, owns_leave owns inside rfl rfl, rfl, implements.2⟩
  | more here | closeLock here | seekRead here | read here | scan here | print here | format here
  | seekWrite here | write here | next here =>
    exact locked.keep (p := p) rfl rfl rfl (by rw [here]; rfl)

end Locks

theorem locked_of_reachable {lock : Lock} {file : List Char} {stack : π → ℤ} {s : State π}
    (reachable : (machine lock file stack).Reachable Granted s) : Locked lock s := by
  refine reachable.induct (locked_start lock file stack) ?_
  intro s action s' _ locked granted step
  cases action with
  | run p => exact locked.step (step_cases step)
  | interrupt p => exact granted.elim

/-! ### The numbers -/

/-- The process has printed the number in the file, and not yet replaced it. -/
def Pc.writing : Pc → Bool
  | .format | .seekWrite | .write => true
  | _ => false

/-- The process has printed its number of this round. -/
def Pc.printed : Pc → ℕ
  | .format | .seekWrite | .write | .unlock | .next => 1
  | _ => 0

/-- The process is in the body of its loop. -/
def Pc.looping : Pc → Bool
  | .test | .exited => false
  | _ => true

namespace Process

/-- What a process inside knows of the number that is next. -/
def Phase (number : ℤ) (x : Process) : Prop :=
  match x.pc with
  | .read => x.offset = 0
  | .scan => (scanLong x.line).map Prod.fst = some number
  | .print => x.seqno = number
  | .format => x.seqno = number - 1
  | .seekWrite => x.line = printInt number ++ ['\n']
  | .write => x.line = printInt number ++ ['\n'] ∧ x.offset = 0
  | _ => True

theorem Phase.outside {x : Process} (outside : x.pc.inside = false) (number : ℤ) :
    x.Phase number := by
  unfold Phase
  split <;> first | trivial | (rename_i here; rw [here] at outside; cases outside)

/-- The numbers a process has still to print. -/
def left (x : Process) : ℤ := rounds - x.i - x.pc.printed

/-- The process is in its rounds. -/
structure InRounds (x : Process) : Prop where
  le : x.i ≤ rounds
  looping : x.pc.looping = true → x.i < rounds
  exited : x.pc = .exited → x.i = rounds

theorem InRounds.left_nonneg {x : Process} (inRounds : x.InRounds) : 0 ≤ x.left := by
  have le := inRounds.le
  have looping := inRounds.looping
  unfold left
  by_cases printed : x.pc.printed = 0
  · omega
  · have inside : x.pc.looping = true ∧ x.pc.printed = 1 := by
      revert printed
      cases x.pc <;> decide
    have more := looping inside.1
    omega

end Process

variable [Fintype π]

/-- The numbers printed, and who knows which one is next. -/
structure Counting (v : ℤ) (s : State π) : Prop where
  numbers : s.printed = (List.range s.printed.length).map fun k : ℕ => v + k
  file : (∀ p, (s.process p).pc.writing = false) →
    fileLong maxline s.file = some (v + s.printed.length)
  phase : ∀ p, (s.process p).Phase (v + s.printed.length)
  left : s.printed.length + total Process.left s.process = rounds * Fintype.card π
  inRounds : ∀ p, (s.process p).InRounds

theorem counting_start {v : ℤ} {file : List Char} (parses : fileLong maxline file = some v)
    (stack : π → ℤ) : Counting v (start file stack) where
  numbers := rfl
  file := fun _ => by
    show fileLong maxline file = some (v + (0 : ℕ))
    rw [parses]
    simp
  phase := fun _ => trivial
  left := by
    have each : ∀ p, Process.left ((start file stack).process p) = rounds := fun _ => rfl
    unfold total
    rw [Finset.sum_congr rfl fun p _ => each p]
    simp [start, mul_comm]
  inRounds := fun _ => ⟨Nat.zero_le _, nofun, nofun⟩

section Moves

variable {v : ℤ} {s s' : State π} {p : π} {x : Process}

/-- A step that neither prints nor writes. -/
theorem Counting.move (counting : Counting v s)
    (process : s'.process = Function.update s.process p x) (printed : s'.printed = s.printed)
    (file : s'.file = s.file) (writing : (s.process p).pc.writing = x.pc.writing)
    (phase : x.Phase (v + s.printed.length)) (left : x.left = (s.process p).left)
    (inRounds : x.InRounds) : Counting v s' := by
  obtain ⟨numbers, text, phases, law, all⟩ := counting
  refine ⟨?_, fun none => ?_, fun q => ?_, ?_, fun q => ?_⟩
  · rw [printed]
    exact numbers
  · rw [file, printed]
    refine text fun q => ?_
    have here := none q
    rw [process] at here
    by_cases same : q = p
    · rw [same, Function.update_self] at here
      rw [same, writing]
      exact here
    · rw [Function.update_of_ne same] at here
      exact here
  · rw [process, printed]
    by_cases same : q = p
    · rw [same, Function.update_self]
      exact phase
    · rw [Function.update_of_ne same]
      exact phases q
  · rw [process, printed, total_update]
    omega
  · rw [process]
    by_cases same : q = p
    · rw [same, Function.update_self]
      exact inRounds
    · rw [Function.update_of_ne same]
      exact all q

/-- **A number is printed.** -/
theorem Counting.print (counting : Counting v s) (alone : s.Alone)
    (here : (s.process p).pc = .print) :
    Counting v { s.goTo p .format with printed := s.printed ++ [(s.process p).seqno] } := by
  have inside : s.inside p = true := by
    unfold State.inside
    rw [here]
    rfl
  have number : (s.process p).seqno = v + s.printed.length := by
    have phase := counting.phase p
    unfold Process.Phase at phase
    rw [here] at phase
    exact phase
  have round := (counting.inRounds p).looping (by rw [here]; rfl)
  have length : (s.printed ++ [(s.process p).seqno]).length = s.printed.length + 1 :=
    List.length_append
  refine ⟨?_, fun none => ?_, fun q => ?_, ?_, fun q => ?_⟩
  · show s.printed ++ [(s.process p).seqno] = (List.range (s.printed ++ [_]).length).map _
    rw [length, List.range_succ, List.map_append, ← counting.numbers, number]
    rfl
  · have writing := none p
    rw [show (_ : State π).process p = _ from Function.update_self ..] at writing
    cases writing
  · show (Function.update s.process p { s.process p with pc := .format } q).Phase
      (v + (s.printed ++ [(s.process p).seqno]).length)
    by_cases same : q = p
    · rw [same, Function.update_self, length]
      show (s.process p).seqno = v + (s.printed.length + 1 : ℕ) - 1
      omega
    · rw [Function.update_of_ne same]
      exact Process.Phase.outside (alone.others inside same) _
  · show ((s.printed ++ [(s.process p).seqno]).length : ℤ) + total Process.left
      (Function.update s.process p { s.process p with pc := .format }) = _
    have law := counting.left
    have before : (s.process p).left = rounds - (s.process p).i - 0 := by
      unfold Process.left
      rw [here]
      rfl
    have after : Process.left { s.process p with pc := .format } =
        rounds - (s.process p).i - 1 := rfl
    rw [length, total_update, before, after]
    omega
  · show (Function.update s.process p { s.process p with pc := .format } q).InRounds
    by_cases same : q = p
    · rw [same, Function.update_self]
      exact ⟨(counting.inRounds p).le, fun _ => round, nofun⟩
    · rw [Function.update_of_ne same]
      exact counting.inRounds q

/-- **The next number is written.** -/
theorem Counting.write (counting : Counting v s) (here : (s.process p).pc = .write)
    (offset : ℕ) (low : -2 ^ 63 ≤ v) (high : v + rounds * Fintype.card π < 2 ^ 63) :
    Counting v { s.set p { s.process p with pc := .unlock, offset := offset } with
      file := writeAt s.file (s.process p).offset (s.process p).line } := by
  have phase := counting.phase p
  unfold Process.Phase at phase
  rw [here] at phase
  obtain ⟨line, start⟩ := phase
  have law := counting.left
  have rest : 0 ≤ total Process.left s.process :=
    Finset.sum_nonneg fun q _ => (counting.inRounds q).left_nonneg
  have round := (counting.inRounds p).looping (by rw [here]; rfl)
  refine ⟨counting.numbers, fun _ => ?_, fun q => ?_, ?_, fun q => ?_⟩
  · show fileLong maxline (writeAt s.file (s.process p).offset (s.process p).line) = _
    rw [line, start]
    exact fileLong_write (by decide) s.file (by omega) (by omega)
  · show (Function.update s.process p _ q).Phase _
    by_cases same : q = p
    · rw [same, Function.update_self]
      trivial
    · rw [Function.update_of_ne same]
      exact counting.phase q
  · show (s.printed.length : ℤ) + total Process.left (Function.update s.process p _) = _
    have before : (s.process p).left = rounds - (s.process p).i - 1 := by
      unfold Process.left
      rw [here]
      rfl
    rw [total_update, before]
    show (s.printed.length : ℤ) + (total Process.left s.process - _ +
      (rounds - (s.process p).i - 1)) = _
    omega
  · show (Function.update s.process p _ q).InRounds
    by_cases same : q = p
    · rw [same, Function.update_self]
      exact ⟨(counting.inRounds p).le, fun _ => round, nofun⟩
    · rw [Function.update_of_ne same]
      exact counting.inRounds q

/-- What the process inside reads, when nobody is about to write. -/
theorem Counting.reads (counting : Counting v s) (alone : s.Alone)
    (inside : s.inside p = true) (quiet : (s.process p).pc.writing = false) :
    fileLong maxline s.file = some (v + s.printed.length) := by
  refine counting.file fun q => ?_
  by_cases same : q = p
  · rw [same]
    exact quiet
  · have outside := alone.others inside same
    revert outside
    cases (s.process q).pc <;> decide

/-- `snprintf(line, sizeof(line), "%ld\n", n)`. -/
def numberLine (n : ℤ) : List Char := (printInt n ++ ['\n']).take maxline

/-- A number is one line. -/
theorem numberLine_eq {n : ℤ} (low : -2 ^ 63 ≤ n) (high : n < 2 ^ 63) :
    numberLine n = printInt n ++ ['\n'] := by
  have length := length_printInt_le low high
  refine List.take_of_length_le ?_
  rw [List.length_append, List.length_singleton]
  unfold maxline
  omega

/-- The line with the next number. -/
theorem line_eq {number : ℤ} (low : -2 ^ 63 ≤ number) (high : number < 2 ^ 63) :
    (printInt (int64 (number - 1 + 1)) ++ ['\n']).take maxline = printInt number ++ ['\n'] := by
  rw [Int.sub_add_cancel, int64_of_range low high]
  exact numberLine_eq low high

/-- **Every step keeps count.** -/
theorem Counting.step {lock : Lock} (counting : Counting v s) (alone : s.Alone)
    (low : -2 ^ 63 ≤ v) (high : v + rounds * Fintype.card π < 2 ^ 63) (step : Step lock s p s') :
    Counting v s' := by
  have phase := counting.phase p
  have inRounds := counting.inRounds p
  have quiet : ∀ pc, (s.process p).pc.printed = pc.printed →
      Process.left { s.process p with pc := pc } = (s.process p).left := by
    intro pc same
    unfold Process.left
    rw [same]
  have inside : ∀ pc, (s.process p).pc = pc → pc.inside = true → s.inside p = true := by
    intro pc here inside
    unfold State.inside
    rw [here]
    exact inside
  cases step with
  | more here more =>
    exact counting.move (p := p) rfl rfl rfl (by rw [here]; rfl) trivial
      (quiet _ (by rw [here]; rfl)) ⟨inRounds.le, fun _ => more, nofun⟩
  | exit here all =>
    exact counting.move (p := p) rfl rfl rfl (by rw [here]; rfl) trivial
      (quiet _ (by rw [here]; rfl)) ⟨inRounds.le, nofun, fun _ => Nat.le_antisymm inRounds.le all⟩
  | again => exact counting
  | granted here | created here | closeLock here =>
    exact counting.move (p := p) rfl rfl rfl (by rw [here]; rfl) trivial
      (quiet _ (by rw [here]; rfl))
      ⟨inRounds.le, fun _ => inRounds.looping (by rw [here]; rfl), nofun⟩
  | seekRead here =>
    exact counting.move (p := p) rfl rfl rfl (by rw [here]; rfl) rfl
      (quiet .read (by rw [here]; rfl))
      ⟨inRounds.le, fun _ => inRounds.looping (by rw [here]; rfl), nofun⟩
  | read here =>
    have parses := counting.reads alone (inside _ here rfl) (by rw [here]; rfl)
    unfold Process.Phase at phase
    rw [here] at phase
    refine counting.move (p := p) rfl rfl rfl (by rw [here]; rfl) ?_
      (quiet .scan (by rw [here]; rfl))
      ⟨inRounds.le, fun _ => inRounds.looping (by rw [here]; rfl), nofun⟩
    show (scanLong (untilNul (readAt s.file (s.process p).offset maxline))).map Prod.fst = _
    rw [show (s.process p).offset = 0 from phase]
    exact parses
  | scan here =>
    unfold Process.Phase at phase
    rw [here] at phase
    refine counting.move (p := p) rfl rfl rfl (by rw [here]; rfl) ?_
      (quiet .print (by rw [here]; rfl))
      ⟨inRounds.le, fun _ => inRounds.looping (by rw [here]; rfl), nofun⟩
    show ((scanLong (s.process p).line).map Prod.fst).getD (s.process p).seqno = _
    rw [show (scanLong (s.process p).line).map Prod.fst = _ from phase]
    rfl
  | print here => exact counting.print alone here
  | format here =>
    have law := counting.left
    have rest : 0 ≤ total Process.left s.process :=
      Finset.sum_nonneg fun q _ => (counting.inRounds q).left_nonneg
    unfold Process.Phase at phase
    rw [here] at phase
    refine counting.move (p := p) rfl rfl rfl (by rw [here]; rfl) ?_
      (quiet .seekWrite (by rw [here]; rfl))
      ⟨inRounds.le, fun _ => inRounds.looping (by rw [here]; rfl), nofun⟩
    show (printInt (int64 ((s.process p).seqno + 1)) ++ ['\n']).take maxline = _
    rw [show (s.process p).seqno = _ from phase]
    exact line_eq (by omega) (by omega)
  | seekWrite here =>
    unfold Process.Phase at phase
    rw [here] at phase
    exact counting.move (p := p) rfl rfl rfl (by rw [here]; rfl) ⟨phase, rfl⟩
      (quiet .write (by rw [here]; rfl))
      ⟨inRounds.le, fun _ => inRounds.looping (by rw [here]; rfl), nofun⟩
  | write here offset => exact counting.write here offset low high
  | unlock here =>
    cases lock <;>
      exact counting.move (p := p) rfl rfl rfl (by rw [here]; rfl) trivial
        (quiet .next (by rw [here]; rfl))
        ⟨inRounds.le, fun _ => inRounds.looping (by rw [here]; rfl), nofun⟩
  | next here =>
    have round := inRounds.looping (by rw [here]; rfl)
    refine counting.move (p := p) rfl rfl rfl (by rw [here]; rfl) trivial ?_ ⟨round, nofun, nofun⟩
    show (rounds : ℤ) - ((s.process p).i + 1 : ℕ) - (0 : ℕ) =
      rounds - (s.process p).i - (s.process p).pc.printed
    rw [here]
    simp only [Pc.printed]
    omega

end Moves

section Reachable

variable {lock : Lock} {v : ℤ} {file : List Char} {stack : π → ℤ} {s : State π}

theorem counting_of_reachable (parses : fileLong maxline file = some v)
    (fits : v + rounds * Fintype.card π < 2 ^ 63)
    (reachable : (machine lock file stack).Reachable Granted s) : Counting v s := by
  refine reachable.induct (counting_start parses stack) ?_
  intro s action s' before counting granted step
  cases action with
  | run p =>
    exact counting.step (locked_of_reachable before).alone (fileLong_range parses).1 fits
      (step_cases step)
  | interrupt p => exact granted.elim

/-- No number is printed twice. -/
theorem Counting.nodup (counting : Counting v s) : s.printed.Nodup := by
  rw [counting.numbers]
  refine List.nodup_range.map fun k m same => ?_
  have same : v + (k : ℤ) = v + m := same
  omega

/-- Where all have exited, all numbers are printed, and the file says the next one. -/
theorem Counting.finished (counting : Counting v s)
    (exited : ∀ p, (s.process p).pc = .exited) :
    s.printed.length = rounds * Fintype.card π ∧
      fileLong maxline s.file = some (v + rounds * Fintype.card π) := by
  have none : total Process.left s.process = 0 := total_eq_zero fun p => by
    have all := (counting.inRounds p).exited (exited p)
    unfold Process.left
    rw [exited p, all]
    simp [Pc.printed]
  have law := counting.left
  have length : s.printed.length = rounds * Fintype.card π := by omega
  refine ⟨length, ?_⟩
  have parses := counting.file fun p => by rw [exited p]; rfl
  rw [length] at parses
  push_cast at parses
  exact parses

/-- **The sequence numbers are unique and have no gaps**, under either lock: those printed so far
are `v`, `v + 1`, ..., at most 20 for each process, and when all processes have exited all of them
are printed and the file says the number after them. -/
theorem numbers_unique (lock : Lock) {v : ℤ} {file : List Char} (stack : π → ℤ)
    (parses : fileLong maxline file = some v) (fits : v + rounds * Fintype.card π < 2 ^ 63)
    {s : State π} (reachable : (machine lock file stack).Reachable Granted s) :
    s.printed.Nodup ∧ s.printed = (List.range s.printed.length).map (fun k : ℕ => v + k) ∧
      s.printed.length ≤ rounds * Fintype.card π ∧
      ((∀ p, (s.process p).pc = .exited) → s.printed.length = rounds * Fintype.card π ∧
        fileLong maxline s.file = some (v + rounds * Fintype.card π)) := by
  have counting := counting_of_reachable parses fits reachable
  refine ⟨counting.nodup, counting.numbers, ?_, counting.finished⟩
  have law := counting.left
  have rest : 0 ≤ total Process.left s.process :=
    Finset.sum_nonneg fun q _ => (counting.inRounds q).left_nonneg
  omega

/-- A process prints 2, and the other one waits for the lock and prints 3. -/
def twoRounds (first second : π) : List (Act π) :=
  List.replicate 11 (Act.run first) ++ List.replicate 6 (Act.run second)

theorem numbers_unique_twoRounds :
    let s := (machine .fcntl "2\n".toList fun _ => 0).after (twoRounds (0 : Fin 2) (1 : Fin 2))
    s.printed.Nodup ∧ s.printed = [2, 3] :=
  ⟨(numbers_unique .fcntl (v := 2) (fun _ => 0) (by decide) (by decide)
    (Machine.reachable_after (M := machine .fcntl "2\n".toList fun _ => 0) (by decide)
      (by decide))).1, by decide⟩

end Reachable

end Unpvol2.Lockmain
