/-
**`lockmain` when processes are killed.**

A signal may end a process anywhere. The system takes its record lock from it, and closes its
descriptors; a lock file stays. So the two locks differ:

* `fcntl_killed` — with `fcntl` the others go on. A process that is killed between its `printf` and
  its `write` leaves its number in the file, and the next one prints it again: **the numbers come in
  order and without gaps, and there is at most one repetition for each process killed.**
* `lockopen_killed` — with `lockopen` no number is ever printed twice, but once a process has been
  killed between its `my_lock` and its `my_unlock` **none is printed any more.**
-/

import Mathlib.Data.Int.Interval
import Unpvol2.Lockmain.Numbers

set_option linter.unusedSectionVars false

namespace Unpvol2.Lockmain

open C Interleaving

variable {π : Type} [DecidableEq π]

/-! ### Processes that are killed -/

/-- Which process moves, or is killed. -/
inductive Event (π : Type)
  | run (p : π)
  | kill (p : π)

namespace State

/-- `p` is killed: it has no record lock any more, and takes no further step. -/
def kill (s : State π) (p : π) : Option (State π) :=
  if (s.process p).pc = .exited then none
  else some { s.goTo p .exited with owner := s.ownerWithout p }

def event (lock : Lock) (s : State π) : Event π → Option (State π)
  | .run p => s.run lock p
  | .kill p => s.kill p

end State

/-- The processes with one kind of lock, in a world where they may be killed. -/
def killable (lock : Lock) (file : List Char) (stack : π → ℤ) : Machine (State π) (Event π) :=
  ⟨start file stack, State.event lock⟩

/-- The number of processes killed. -/
def kills (events : List (Event π)) : ℕ :=
  events.countP fun
    | .kill _ => true
    | .run _ => false

theorem kill_cases {s s' : State π} {p : π} (killed : s.kill p = some s') :
    (s.process p).pc ≠ .exited ∧ s' = { s.goTo p .exited with owner := s.ownerWithout p } := by
  unfold State.kill at killed
  split at killed
  · cases killed
  · exact ⟨‹_›, (Option.some.inj killed).symm⟩

/-- A process is killed outside its bracket. -/
theorem Locked.kill_outside {lock : Lock} {s : State π} {p : π} (locked : Locked lock s)
    (outside : s.inside p = false) :
    Locked lock { s.goTo p .exited with owner := s.ownerWithout p } :=
  locked.keep (p := p) rfl (locked.ownerWithout outside) rfl outside.symm

/-- **The record lock goes with its owner.** -/
theorem Locked.kill {s : State π} {p : π} (locked : Locked .fcntl s) :
    Locked .fcntl { s.goTo p .exited with owner := s.ownerWithout p } := by
  cases inside : s.inside p with
  | true =>
    obtain ⟨mutex, owns, implements⟩ := locked
    have holder : s.owner = some p := implements.trans ((owns p).mp inside)
    exact ⟨none, owns_leave owns inside rfl rfl, if_pos holder⟩
  | false => exact locked.kill_outside inside

/-! ### The numbers with `fcntl` -/

namespace Process

/-- The numbers a process may still print. -/
def due (x : Process) : ℤ := if x.pc = .exited then 0 else x.left

/-- The process is in its rounds, or dead. -/
structure Going (x : Process) : Prop where
  le : x.i ≤ rounds
  looping : x.pc.looping = true → x.i < rounds

theorem Going.due_nonneg {x : Process} (going : x.Going) : 0 ≤ x.due := by
  have le := going.le
  have looping := going.looping
  unfold due left
  split
  · exact Int.le_refl 0
  · by_cases printed : x.pc.printed = 0
    · omega
    · have inside : x.pc.looping = true ∧ x.pc.printed = 1 := by
        revert printed
        cases x.pc <;> decide
      have more := looping inside.1
      omega

end Process

variable [Fintype π]

/-- `next` is the number that is printed next: the one in the file, or, when a process has printed
that one and is about to replace it, the one after it. The numbers from `v` up to `v + m` have been
printed, in order. A process that was killed when it had printed its number and not replaced it has
made `next` a number that has been printed. -/
structure Numbering (v next : ℤ) (m deaths : ℕ) (s : State π) : Prop where
  low : v ≤ next
  quiet : (∀ p, (s.process p).pc.writing = false) → fileLong maxline s.file = some next
  writer : ∀ p, (s.process p).pc.writing = true →
    v < next ∧ fileLong maxline s.file = some (next - 1)
  phase : ∀ p, (s.process p).Phase next
  ordered : s.printed.Pairwise (· ≤ ·)
  mem : ∀ k, k ∈ s.printed ↔ v ≤ k ∧ k < v + m
  few : m ≤ s.printed.length
  credit : (next = v + m ∧ s.printed.length ≤ m + deaths) ∨
    (next + 1 = v + m ∧ (∀ p, (s.process p).pc.writing = false) ∧
      s.printed.length + 1 ≤ m + deaths)
  room : s.printed.length + total Process.due s.process ≤ rounds * Fintype.card π
  going : ∀ p, (s.process p).Going

theorem numbering_start {v : ℤ} {file : List Char} (parses : fileLong maxline file = some v)
    (stack : π → ℤ) : Numbering v v 0 0 (start file stack) where
  low := Int.le_refl v
  quiet := fun _ => parses
  writer := fun _ => nofun
  phase := fun _ => trivial
  ordered := .nil
  mem := fun k => by
    show k ∈ [] ↔ _
    simp
  few := Nat.zero_le _
  credit := .inl ⟨by simp, Nat.le_refl 0⟩
  room := by
    have each : ∀ p, Process.due ((start file stack).process p) = rounds := fun _ => rfl
    unfold total
    rw [Finset.sum_congr rfl fun p _ => each p]
    simp [start, mul_comm]
  going := fun _ => ⟨Nat.zero_le _, nofun⟩

section Moves

variable {v next : ℤ} {m deaths : ℕ} {s s' : State π} {p : π} {x : Process}

theorem Numbering.due_nonneg (numbering : Numbering v next m deaths s) :
    0 ≤ total Process.due s.process :=
  Finset.sum_nonneg fun q _ => (numbering.going q).due_nonneg

/-- The next number fits into a `long`. -/
theorem Numbering.next_le (numbering : Numbering v next m deaths s) :
    next ≤ v + rounds * Fintype.card π := by
  have rest := numbering.due_nonneg
  have room := numbering.room
  have few := numbering.few
  rcases numbering.credit with ⟨same, _⟩ | ⟨same, _⟩ <;> omega

/-- A step that neither prints nor writes. -/
theorem Numbering.move (numbering : Numbering v next m deaths s)
    (process : s'.process = Function.update s.process p x) (printed : s'.printed = s.printed)
    (file : s'.file = s.file) (writing : x.pc.writing = (s.process p).pc.writing)
    (phase : x.Phase next) (due : x.due ≤ (s.process p).due) (going : x.Going) :
    Numbering v next m deaths s' := by
  have same : ∀ q, (s'.process q).pc.writing = (s.process q).pc.writing := by
    intro q
    rw [process]
    by_cases own : q = p
    · rw [own, Function.update_self, writing]
    · rw [Function.update_of_ne own]
  refine ⟨numbering.low, ?_, ?_, ?_, ?_, ?_, ?_, ?_, ?_, ?_⟩
  · simp only [same, file]
    exact numbering.quiet
  · simp only [same, file]
    exact numbering.writer
  · intro q
    rw [process]
    by_cases own : q = p
    · rw [own, Function.update_self]
      exact phase
    · rw [Function.update_of_ne own]
      exact numbering.phase q
  · rw [printed]
    exact numbering.ordered
  · rw [printed]
    exact numbering.mem
  · rw [printed]
    exact numbering.few
  · simp only [same, printed]
    exact numbering.credit
  · have room := numbering.room
    rw [process, printed, total_update]
    omega
  · intro q
    rw [process]
    by_cases own : q = p
    · rw [own, Function.update_self]
      exact going
    · rw [Function.update_of_ne own]
      exact numbering.going q

/-- Where a process stands inside, nobody else writes. -/
theorem State.Alone.quiet (alone : s.Alone) (inside : s.inside p = true) {q : π} (ne : q ≠ p) :
    (s.process q).pc.writing = false := by
  have outside := alone.others inside ne
  revert outside
  cases (s.process q).pc <;> decide

/-- **A number is printed**: a new one, or the one that a dead process has not replaced. -/
theorem Numbering.print (numbering : Numbering v next m deaths s) (alone : s.Alone)
    (here : (s.process p).pc = .print) :
    ∃ m', Numbering v (next + 1) m' deaths
      { s.goTo p .format with printed := s.printed ++ [(s.process p).seqno] } := by
  have inside : s.inside p = true := by
    unfold State.inside
    rw [here]
    rfl
  have number : (s.process p).seqno = next := by
    have phase := numbering.phase p
    unfold Process.Phase at phase
    rw [here] at phase
    exact phase
  have quiet : fileLong maxline s.file = some next := by
    refine numbering.quiet fun q => ?_
    by_cases same : q = p
    · rw [same, here]
      rfl
    · exact alone.quiet inside same
  have round := (numbering.going p).looping (by rw [here]; rfl)
  rw [number]
  have low := numbering.low
  have few := numbering.few
  have length : (s.printed ++ [next]).length = s.printed.length + 1 := List.length_append
  -- a new number, or an old one that somebody's death has paid for
  obtain ⟨m', paid, more⟩ : ∃ m', next + 1 = v + (m' : ℕ) ∧ m ≤ m' ∧
      m' ≤ s.printed.length + 1 ∧ s.printed.length + 1 ≤ m' + deaths := by
    rcases numbering.credit with ⟨same, most⟩ | ⟨same, _, most⟩
    · exact ⟨m + 1, by omega, by omega, by omega, by omega⟩
    · exact ⟨m, by omega, by omega, by omega, by omega⟩
  have before : ∀ k ∈ s.printed, k ≤ next := by
    intro k member
    have range := (numbering.mem k).mp member
    omega
  have all : ∀ k, k ∈ s.printed ++ [next] ↔ v ≤ k ∧ k < v + m' := by
    intro k
    rw [List.mem_append, List.mem_singleton, numbering.mem k]
    rcases numbering.credit with ⟨same, _⟩ | ⟨same, _⟩ <;> omega
  refine ⟨m', by omega, fun none => ?_, fun q writing => ⟨by omega, ?_⟩, fun q => ?_, ?_, all, ?_,
    .inl ⟨paid, ?_⟩, ?_, fun q => ?_⟩
  · have writing := none p
    rw [show (_ : State π).process p = _ from Function.update_self ..] at writing
    cases writing
  · rw [Int.add_sub_cancel]
    exact quiet
  · show (Function.update s.process p { s.process p with pc := .format } q).Phase (next + 1)
    by_cases same : q = p
    · rw [same, Function.update_self]
      show (s.process p).seqno = next + 1 - 1
      omega
    · rw [Function.update_of_ne same]
      exact Process.Phase.outside (alone.others inside same) _
  · refine List.pairwise_append.mpr ⟨numbering.ordered, List.pairwise_singleton _ _, ?_⟩
    intro k member k' last
    rw [List.mem_singleton.mp last]
    exact before k member
  · show m' ≤ (s.printed ++ [next]).length
    omega
  · show (s.printed ++ [next]).length ≤ m' + deaths
    omega
  · show ((s.printed ++ [next]).length : ℤ) + total Process.due
      (Function.update s.process p { s.process p with pc := .format }) ≤ _
    have room := numbering.room
    have before : (s.process p).due = rounds - (s.process p).i - 0 := by
      unfold Process.due Process.left
      rw [here]
      rfl
    have after : Process.due { s.process p with pc := .format } =
        rounds - (s.process p).i - 1 := rfl
    rw [length, total_update, before, after]
    omega
  · show (Function.update s.process p { s.process p with pc := .format } q).Going
    by_cases same : q = p
    · rw [same, Function.update_self]
      exact ⟨(numbering.going p).le, fun _ => round⟩
    · rw [Function.update_of_ne same]
      exact numbering.going q

/-- **The next number is written.** -/
theorem Numbering.write (numbering : Numbering v next m deaths s) (alone : s.Alone)
    (here : (s.process p).pc = .write) (offset : ℕ) (low : -2 ^ 63 ≤ v)
    (high : v + rounds * Fintype.card π < 2 ^ 63) :
    Numbering v next m deaths { s.set p { s.process p with pc := .unlock, offset := offset } with
      file := writeAt s.file (s.process p).offset (s.process p).line } := by
  have inside : s.inside p = true := by
    unfold State.inside
    rw [here]
    rfl
  have phase := numbering.phase p
  unfold Process.Phase at phase
  rw [here] at phase
  obtain ⟨line, start⟩ := phase
  have most := numbering.next_le
  have least := numbering.low
  have round := (numbering.going p).looping (by rw [here]; rfl)
  have nobody : ∀ q, (Function.update s.process p
      { s.process p with pc := .unlock, offset := offset } q).pc.writing = false := by
    intro q
    by_cases same : q = p
    · rw [same, Function.update_self]
      rfl
    · rw [Function.update_of_ne same]
      exact alone.quiet inside same
  refine ⟨numbering.low, fun _ => ?_, fun q writing => ?_, fun q => ?_, numbering.ordered,
    numbering.mem, numbering.few, .inl ?_, ?_, fun q => ?_⟩
  · show fileLong maxline (writeAt s.file (s.process p).offset (s.process p).line) = _
    rw [line, start]
    exact fileLong_write (by decide) s.file (by omega) (by omega)
  · have writing : (Function.update s.process p _ q).pc.writing = true := writing
    rw [nobody q] at writing
    cases writing
  · show (Function.update s.process p _ q).Phase _
    by_cases same : q = p
    · rw [same, Function.update_self]
      trivial
    · rw [Function.update_of_ne same]
      exact numbering.phase q
  · rcases numbering.credit with paid | ⟨_, quiet, _⟩
    · exact paid
    · have writing := quiet p
      rw [here] at writing
      cases writing
  · show (s.printed.length : ℤ) + total Process.due (Function.update s.process p _) ≤ _
    have room := numbering.room
    have before : (s.process p).due = rounds - (s.process p).i - 1 := by
      unfold Process.due Process.left
      rw [here]
      rfl
    have after : Process.due { s.process p with pc := .unlock, offset := offset } =
        rounds - (s.process p).i - 1 := rfl
    rw [total_update, before, after]
    omega
  · show (Function.update s.process p _ q).Going
    by_cases same : q = p
    · rw [same, Function.update_self]
      exact ⟨(numbering.going p).le, fun _ => round⟩
    · rw [Function.update_of_ne same]
      exact numbering.going q

/-- **Every step keeps the numbers in order.** -/
theorem Numbering.step {lock : Lock} (numbering : Numbering v next m deaths s) (alone : s.Alone)
    (low : -2 ^ 63 ≤ v) (high : v + rounds * Fintype.card π < 2 ^ 63) (step : Step lock s p s') :
    ∃ next' m', Numbering v next' m' deaths s' := by
  have phase := numbering.phase p
  have going := numbering.going p
  have least := numbering.low
  have most := numbering.next_le
  -- what the process is still due, as long as it does not print
  have due : ∀ x : Process, (s.process p).pc ≠ .exited → x.pc ≠ .exited →
      x.i = (s.process p).i → x.pc.printed = (s.process p).pc.printed →
      x.due ≤ (s.process p).due := by
    intro x here there same printed
    unfold Process.due Process.left
    rw [if_neg here, if_neg there, same, printed]
  unfold Process.Phase at phase
  cases step with
  | more here more =>
    exact ⟨next, m, numbering.move (p := p) rfl rfl rfl (by rw [here]; rfl) trivial
      (due _ (by simp [here]) nofun rfl (by rw [here]; rfl)) ⟨going.le, fun _ => more⟩⟩
  | exit here all =>
    refine ⟨next, m, numbering.move (p := p) rfl rfl rfl (by rw [here]; rfl) trivial ?_
      ⟨going.le, nofun⟩⟩
    exact going.due_nonneg
  | again => exact ⟨next, m, numbering⟩
  | granted here | created here | closeLock here =>
    exact ⟨next, m, numbering.move (p := p) rfl rfl rfl (by rw [here]; rfl) trivial
      (due _ (by simp [here]) nofun rfl (by rw [here]; rfl))
      ⟨going.le, fun _ => going.looping (by rw [here]; rfl)⟩⟩
  | seekRead here =>
    exact ⟨next, m, numbering.move (p := p) rfl rfl rfl (by rw [here]; rfl) rfl
      (due _ (by simp [here]) nofun rfl (by rw [here]; rfl))
      ⟨going.le, fun _ => going.looping (by rw [here]; rfl)⟩⟩
  | read here offset =>
    have inside : s.inside p = true := by
      unfold State.inside
      rw [here]
      rfl
    have parses : fileLong maxline s.file = some next := by
      refine numbering.quiet fun q => ?_
      by_cases same : q = p
      · rw [same, here]
        rfl
      · exact alone.quiet inside same
    rw [here] at phase
    refine ⟨next, m, numbering.move (p := p) rfl rfl rfl (by rw [here]; rfl) ?_
      (due _ (by simp [here]) nofun rfl (by rw [here]; rfl))
      ⟨going.le, fun _ => going.looping (by rw [here]; rfl)⟩⟩
    show (scanLong (untilNul (readAt s.file (s.process p).offset maxline))).map Prod.fst = _
    rw [show (s.process p).offset = 0 from phase]
    exact parses
  | scan here =>
    rw [here] at phase
    refine ⟨next, m, numbering.move (p := p) rfl rfl rfl (by rw [here]; rfl) ?_
      (due _ (by simp [here]) nofun rfl (by rw [here]; rfl))
      ⟨going.le, fun _ => going.looping (by rw [here]; rfl)⟩⟩
    show ((scanLong (s.process p).line).map Prod.fst).getD (s.process p).seqno = _
    rw [show (scanLong (s.process p).line).map Prod.fst = _ from phase]
    rfl
  | print here => exact ⟨next + 1, numbering.print alone here⟩
  | format here =>
    rw [here] at phase
    refine ⟨next, m, numbering.move (p := p) rfl rfl rfl (by rw [here]; rfl) ?_
      (due _ (by simp [here]) nofun rfl (by rw [here]; rfl))
      ⟨going.le, fun _ => going.looping (by rw [here]; rfl)⟩⟩
    show (printInt (int64 ((s.process p).seqno + 1)) ++ ['\n']).take maxline = _
    rw [show (s.process p).seqno = _ from phase]
    exact line_eq (by omega) (by omega)
  | seekWrite here =>
    rw [here] at phase
    exact ⟨next, m, numbering.move (p := p) rfl rfl rfl (by rw [here]; rfl) ⟨phase, rfl⟩
      (due _ (by simp [here]) nofun rfl (by rw [here]; rfl))
      ⟨going.le, fun _ => going.looping (by rw [here]; rfl)⟩⟩
  | write here offset => exact ⟨next, m, numbering.write alone here offset low high⟩
  | unlock here =>
    refine ⟨next, m, ?_⟩
    cases lock <;>
      exact numbering.move (p := p) rfl rfl rfl (by rw [here]; rfl) trivial
        (due _ (by simp [here]) nofun rfl (by rw [here]; rfl))
        ⟨going.le, fun _ => going.looping (by rw [here]; rfl)⟩
  | next here =>
    have round := going.looping (by rw [here]; rfl)
    refine ⟨next, m, numbering.move (p := p) rfl rfl rfl (by rw [here]; rfl) trivial ?_
      ⟨round, nofun⟩⟩
    unfold Process.due Process.left
    rw [here]
    simp only [Pc.printed]
    show ((rounds : ℤ) - ((s.process p).i + 1 : ℕ) - (0 : ℕ)) ≤ rounds - (s.process p).i - (1 : ℕ)
    omega

/-- A process is killed that is not about to replace its number. -/
theorem Numbering.kill_quiet (numbering : Numbering v next m deaths s)
    (quiet : (s.process p).pc.writing = false) (owner : Option π) :
    Numbering v next m deaths { s.goTo p .exited with owner := owner } :=
  numbering.move (p := p) rfl rfl rfl quiet.symm trivial (numbering.going p).due_nonneg
    ⟨(numbering.going p).le, nofun⟩

/-- **A process is killed**: where it was about to replace its number, the number stays. -/
theorem Numbering.kill (numbering : Numbering v next m deaths s) (alone : s.Alone)
    (owner : Option π) :
    ∃ next', Numbering v next' m (deaths + 1) { s.goTo p .exited with owner := owner } := by
  cases writing : (s.process p).pc.writing with
  | false =>
    have moved := numbering.kill_quiet writing owner
    refine ⟨next, { moved with credit := ?_ }⟩
    rcases moved.credit with ⟨same, most⟩ | ⟨same, quiet, most⟩
    · exact .inl ⟨same, by omega⟩
    · exact .inr ⟨same, quiet, by omega⟩
  | true =>
    have inside : s.inside p = true := by
      have here := writing
      unfold State.inside
      revert here
      cases (s.process p).pc <;> decide
    obtain ⟨later, file⟩ := numbering.writer p writing
    have nobody : ∀ q, (Function.update s.process p
        { s.process p with pc := .exited } q).pc.writing = false := by
      intro q
      by_cases same : q = p
      · rw [same, Function.update_self]
        rfl
      · rw [Function.update_of_ne same]
        exact alone.quiet inside same
    refine ⟨next - 1, by omega, fun _ => file, fun q there => ?_, fun q => ?_, numbering.ordered,
      numbering.mem, numbering.few, .inr ?_, ?_, fun q => ?_⟩
    · have there : (Function.update s.process p _ q).pc.writing = true := there
      rw [nobody q] at there
      cases there
    · show (Function.update s.process p _ q).Phase _
      by_cases same : q = p
      · rw [same, Function.update_self]
        trivial
      · rw [Function.update_of_ne same]
        exact Process.Phase.outside (alone.others inside same) _
    · rcases numbering.credit with ⟨same, most⟩ | ⟨_, quiet, _⟩
      · refine ⟨by omega, nobody, ?_⟩
        show s.printed.length + 1 ≤ m + (deaths + 1)
        omega
      · rw [quiet p] at writing
        cases writing
    · show (s.printed.length : ℤ) + total Process.due (Function.update s.process p _) ≤ _
      have room := numbering.room
      have due : Process.due { s.process p with pc := .exited } ≤ (s.process p).due :=
        (numbering.going p).due_nonneg
      rw [total_update]
      omega
    · show (Function.update s.process p _ q).Going
      by_cases same : q = p
      · rw [same, Function.update_self]
        exact ⟨(numbering.going p).le, nofun⟩
      · rw [Function.update_of_ne same]
        exact numbering.going q

end Moves

section Fcntl

variable {v : ℤ} {file : List Char} {stack : π → ℤ} {s s' : State π}

/-- What a run of steps and kills keeps. -/
theorem numbering_run {deaths : ℕ} {events : List (Event π)} (low : -2 ^ 63 ≤ v)
    (high : v + rounds * Fintype.card π < 2 ^ 63) (locked : Locked .fcntl s)
    (numbering : ∃ next m, Numbering v next m deaths s)
    (ran : (killable .fcntl file stack).run s events = some s') :
    Locked .fcntl s' ∧ ∃ next m, Numbering v next m (deaths + kills events) s' := by
  induction events generalizing s deaths with
  | nil =>
    cases ran
    exact ⟨locked, numbering⟩
  | cons event rest ih =>
    obtain ⟨after, step, later⟩ := Option.bind_eq_some_iff.mp ran
    obtain ⟨next, m, numbering⟩ := numbering
    cases event with
    | run p =>
      have step := step_cases step
      exact ih (locked.step step) (numbering.step locked.alone low high step) later
    | kill p =>
      obtain ⟨_, rfl⟩ := kill_cases step
      obtain ⟨next', killed⟩ := numbering.kill (p := p) locked.alone (s.ownerWithout p)
      have kept := ih locked.kill ⟨next', m, killed⟩ later
      have count : deaths + 1 + kills rest = deaths + kills (Event.kill p :: rest) := by
        show _ = deaths + List.countP _ _
        rw [List.countP_cons_of_pos rfl]
        show deaths + 1 + List.countP _ rest = _
        omega
      rw [count] at kept
      exact kept

/-- A process that cannot move is over, or waits for the record lock. -/
theorem run_eq_none {p : π} (stuck : s.run .fcntl p = none) :
    (s.process p).pc = .exited ∨ ((s.process p).pc = .lock ∧ s.owner ≠ none) := by
  unfold State.run at stuck
  cases here : (s.process p).pc with
  | exited => exact .inl rfl
  | lock =>
    simp only [here, State.myLock, ite_eq_right_iff, reduceCtorEq, imp_false, not_or] at stuck
    exact .inr ⟨rfl, stuck.1⟩
  | test =>
    simp only [here] at stuck
    split at stuck <;> cases stuck
  | _ =>
    simp only [here] at stuck
    cases stuck

/-- **Where no process can move all are over**: the owner of the lock could go on. -/
theorem Locked.ended (locked : Locked .fcntl s) (stuck : ∀ p, s.run .fcntl p = none) (p : π) :
    (s.process p).pc = .exited := by
  obtain ⟨mutex, owns, implements⟩ := locked
  have implements : s.owner = mutex := implements
  refine (run_eq_none (stuck p)).resolve_right fun ⟨_, held⟩ => ?_
  obtain ⟨q, owner⟩ := Option.ne_none_iff_exists'.mp held
  have inside : (s.process q).pc.inside = true := (owns q).mpr (implements.symm.trans owner)
  rcases run_eq_none (stuck q) with here | ⟨here, _⟩ <;> rw [here] at inside <;> cases inside

/-- **With `fcntl` the numbers come in order and without gaps, and each death costs at most one
repetition**; when no process can move, all have exited or been killed. -/
theorem fcntl_killed {events : List (Event π)} (parses : fileLong maxline file = some v)
    (fits : v + rounds * Fintype.card π < 2 ^ 63)
    (ran : (killable .fcntl file stack).run (start file stack) events = some s) :
    s.printed.Pairwise (· ≤ ·) ∧
      (∃ m : ℕ, (∀ k, k ∈ s.printed ↔ v ≤ k ∧ k < v + m) ∧
        m ≤ s.printed.length ∧ s.printed.length ≤ m + kills events) ∧
      ((∀ p, s.run .fcntl p = none) → ∀ p, (s.process p).pc = .exited) := by
  obtain ⟨locked, next, m, numbering⟩ :=
    numbering_run (fileLong_range parses).1 fits (locked_start .fcntl file stack)
      ⟨v, 0, numbering_start parses stack⟩ ran
  refine ⟨numbering.ordered, ⟨m, numbering.mem, numbering.few, ?_⟩, locked.ended⟩
  rcases numbering.credit with ⟨_, most⟩ | ⟨_, _, most⟩ <;> omega

/-- The first process is killed when it has printed its number. -/
def killedPrinting (first second : π) : List (Event π) :=
  List.replicate 6 (.run first) ++ [.kill first] ++ List.replicate 6 (.run second)

theorem fcntl_killed_printing :
    ((killable .fcntl "2\n".toList fun _ => 0).after
      (killedPrinting (0 : Fin 2) (1 : Fin 2))).printed = [2, 2] ∧
    ∃ m : ℕ, m ≤ [(2 : ℤ), 2].length ∧ [(2 : ℤ), 2].length ≤ m + 1 := by
  have printed : ((killable .fcntl "2\n".toList fun _ => 0).after
      (killedPrinting (0 : Fin 2) (1 : Fin 2))).printed = [2, 2] := by decide
  obtain ⟨_, ⟨m, _, few, most⟩, _⟩ := @fcntl_killed (Fin 2) _ _ 2 "2\n".toList (fun _ => 0) _
    (killedPrinting 0 1) (by decide) (by decide) (Machine.run_after (by decide))
  rw [printed] at few most
  exact ⟨printed, m, few, most⟩

end Fcntl

/-! ### The lock file -/

section Lockopen

variable {v : ℤ} {file : List Char} {stack : π → ℤ} {s s' : State π} {p : π}

/-- The lock file exists, and nobody is inside to remove it. -/
structure Barred (s : State π) : Prop where
  lockfile : s.lockfile = true
  outside : ∀ p, s.inside p = false

/-- **Nobody gets past a lock file that is left over.** -/
theorem Barred.step (barred : Barred s) (step : Step .lockopen s p s') :
    Barred s' ∧ s'.printed = s.printed := by
  have outside := barred.outside
  have own := outside p
  unfold State.inside at own
  -- the process goes from one place outside to another
  have moves : ∀ {s' : State π} {x : Process}, s'.process = Function.update s.process p x →
      s'.lockfile = s.lockfile → s'.printed = s.printed → x.pc.inside = false →
      Barred s' ∧ s'.printed = s.printed := by
    intro s' x process lockfile printed still
    obtain ⟨own, others⟩ := inside_of_update process
    refine ⟨⟨lockfile.trans barred.lockfile, fun q => ?_⟩, printed⟩
    by_cases same : q = p
    · rw [same, own]
      exact still
    · rw [others q same]
      exact outside q
  cases step with
  | more here | exit here | next here => exact moves rfl rfl rfl rfl
  | again => exact ⟨barred, rfl⟩
  | granted here fcntl => cases fcntl
  | created here lockopen free =>
    rw [barred.lockfile] at free
    cases free
  | closeLock here | seekRead here | read here | scan here | print here | format here
  | seekWrite here | write here | unlock here =>
    rw [here] at own
    cases own

/-- Who has exited is not inside, and nobody else has moved. -/
theorem inside_exited (s : State π) (p : π) :
    (s.goTo p .exited).inside p = false ∧
      ∀ q, q ≠ p → (s.goTo p .exited).inside q = s.inside q := by
  have process : (s.goTo p .exited).process =
      Function.update s.process p { s.process p with pc := .exited } := rfl
  exact inside_of_update process

/-- A death among those outside changes nothing. -/
theorem Barred.kill (barred : Barred s) (owner : Option π) :
    Barred { s.goTo p .exited with owner := owner } := by
  refine ⟨barred.lockfile, fun q => ?_⟩
  obtain ⟨own, others⟩ := inside_exited s p
  by_cases same : q = p
  · rw [same]
    exact own
  · exact (others q same).trans (barred.outside q)

theorem Barred.run {events : List (Event π)} (barred : Barred s)
    (ran : (killable .lockopen file stack).run s events = some s') :
    Barred s' ∧ s'.printed = s.printed := by
  induction events generalizing s with
  | nil =>
    cases ran
    exact ⟨barred, rfl⟩
  | cons event events ih =>
    obtain ⟨after, step, rest⟩ := Option.bind_eq_some_iff.mp ran
    cases event with
    | run p =>
      obtain ⟨still, printed⟩ := barred.step (step_cases step)
      obtain ⟨last, later⟩ := ih still rest
      exact ⟨last, later.trans printed⟩
    | kill p =>
      obtain ⟨_, rfl⟩ := kill_cases step
      obtain ⟨last, later⟩ := ih (barred.kill (s.ownerWithout p)) rest
      exact ⟨last, later⟩

/-- **A death inside leaves the lock file to nobody.** -/
theorem Locked.barred (locked : Locked .lockopen s) (inside : s.inside p = true)
    (owner : Option π) : Barred { s.goTo p .exited with owner := owner } := by
  have alone := locked.alone
  obtain ⟨mutex, owns, present, _⟩ := locked
  refine ⟨?_, fun q => ?_⟩
  · show s.lockfile = true
    rw [present, (owns p).mp inside]
    rfl
  · obtain ⟨own, others⟩ := inside_exited s p
    by_cases same : q = p
    · rw [same]
      exact own
    · exact (others q same).trans (alone.others inside same)

/-- The numbers so far are `v`, `v + 1` and so on, and the lock works or is barred. -/
theorem lockopen_run {events : List (Event π)} (low : -2 ^ 63 ≤ v)
    (high : v + rounds * Fintype.card π < 2 ^ 63) (locked : Locked .lockopen s)
    (numbering : ∃ next m, Numbering v next m 0 s)
    (ran : (killable .lockopen file stack).run s events = some s') :
    (∃ (before : State π) (next : ℤ) (m : ℕ), Numbering v next m 0 before ∧
        before.printed = s'.printed) ∧
      (Locked .lockopen s' ∨ Barred s') := by
  induction events generalizing s with
  | nil =>
    cases ran
    obtain ⟨next, m, numbering⟩ := numbering
    exact ⟨⟨_, next, m, numbering, rfl⟩, .inl locked⟩
  | cons event rest ih =>
    obtain ⟨after, step, later⟩ := Option.bind_eq_some_iff.mp ran
    obtain ⟨next, m, numbering⟩ := numbering
    cases event with
    | run p =>
      have step := step_cases step
      exact ih (locked.step step) (numbering.step locked.alone low high step) later
    | kill p =>
      obtain ⟨_, rfl⟩ := kill_cases step
      cases inside : s.inside p with
      | true =>
        obtain ⟨last, printed⟩ := (locked.barred inside _).run later
        exact ⟨⟨s, next, m, numbering, printed.symm⟩, .inr last⟩
      | false =>
        have quiet : (s.process p).pc.writing = false := by
          have here := inside
          unfold State.inside at here
          revert here
          cases (s.process p).pc <;> decide
        exact ih (locked.kill_outside inside) ⟨next, m, numbering.kill_quiet quiet _⟩ later

/-- With no death to pay for one, there is no repetition. -/
theorem Numbering.nodup {next : ℤ} {m : ℕ} (numbering : Numbering v next m 0 s) :
    s.printed.Nodup ∧ m = s.printed.length := by
  have length : m = s.printed.length := by
    have few := numbering.few
    rcases numbering.credit with ⟨_, most⟩ | ⟨_, _, most⟩ <;> omega
  have all : s.printed.toFinset = Finset.Ico v (v + m) := by
    ext k
    rw [List.mem_toFinset, numbering.mem, Finset.mem_Ico]
  have card := congrArg Finset.card all
  rw [Int.card_Ico, show (v + m - v).toNat = m by omega, length] at card
  exact ⟨Multiset.toFinset_card_eq_card_iff_nodup.mp card, length⟩

/-- **With `lockopen` no number is printed twice, and a death inside ends it all**: no process
prints again, and none gets inside. -/
theorem lockopen_killed {events : List (Event π)} (parses : fileLong maxline file = some v)
    (fits : v + rounds * Fintype.card π < 2 ^ 63)
    (ran : (killable .lockopen file stack).run (start file stack) events = some s) :
    (s.printed.Nodup ∧ s.printed.Pairwise (· ≤ ·) ∧
      ∀ k, k ∈ s.printed ↔ v ≤ k ∧ k < v + s.printed.length) ∧
    ∀ p later s', s.inside p = true →
      (killable .lockopen file stack).run s (.kill p :: later) = some s' →
      s'.printed = s.printed ∧ s'.lockfile = true ∧ ∀ q, s'.inside q = false := by
  obtain ⟨⟨before, next, m, numbering, printed⟩, lock⟩ :=
    lockopen_run (fileLong_range parses).1 fits (locked_start .lockopen file stack)
      ⟨v, 0, numbering_start parses stack⟩ ran
  obtain ⟨nodup, length⟩ := numbering.nodup
  have mem := numbering.mem
  rw [length] at mem
  rw [printed] at nodup mem
  refine ⟨⟨nodup, printed ▸ numbering.ordered, mem⟩, fun p later s' inside killed => ?_⟩
  obtain ⟨after, step, later⟩ := Option.bind_eq_some_iff.mp killed
  obtain ⟨_, rfl⟩ := kill_cases step
  have locked : Locked .lockopen s := lock.resolve_right fun barred => by
    rw [barred.outside p] at inside
    cases inside
  obtain ⟨last, same⟩ := (locked.barred inside _).run later
  exact ⟨same, last.lockfile, last.outside⟩

/-- The first process is killed when it has printed its number, and the other one tries the lock. -/
theorem lockopen_killed_printing :
    ((killable .lockopen "2\n".toList fun _ => 0).after
      (List.replicate 7 (.run (0 : Fin 2)) ++ [.kill 0] ++ List.replicate 9 (.run 1))).printed =
      [2] := by
  have ran : (killable .lockopen "2\n".toList fun _ => 0).run
      ((killable .lockopen "2\n".toList fun _ => 0).after (List.replicate 7 (.run (0 : Fin 2))))
      (.kill 0 :: List.replicate 9 (.run 1)) =
      some ((killable .lockopen "2\n".toList fun _ => 0).after
        (List.replicate 7 (.run (0 : Fin 2)) ++ [.kill 0] ++ List.replicate 9 (.run 1))) := by
    rfl
  have same := (@lockopen_killed (Fin 2) _ _ 2 "2\n".toList (fun _ => 0) _
    (List.replicate 7 (.run 0)) (by decide) (by decide) (Machine.run_after (by decide))).2 0 _ _
    (by decide) ran
  rw [same.1]
  decide

end Lockopen

end Unpvol2.Lockmain
