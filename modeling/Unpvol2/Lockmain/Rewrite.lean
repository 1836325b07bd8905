/-
**The sequence file is rewritten in place.**

A process writes its line over the start of the file and leaves what lies behind it, so the next
process reads the new line and a piece of older ones. `rewritten` says what the statements of one
process make of that: the number written is the number read, and a round counts one up.
-/

import Unpvol2.Lockmain.Numbers

namespace Unpvol2.Lockmain

open C Interleaving

variable {π : Type} [DecidableEq π]

/-! ### The statements of one process -/

section Statements

variable {s : State π} {p : π} (lock : Lock) (file : List Char) (stack : π → ℤ)

/-- `lseek`, `read` and `sscanf`. -/
theorem run_reads (here : (s.process p).pc = .seekRead) :
    ∃ s', (machine lock file stack).run s (List.replicate 3 (.run p)) = some s' ∧
      s'.file = s.file ∧ s'.printed = s.printed ∧ (s'.process p).pc = .print ∧
      (s'.process p).seqno = (fileLong maxline s.file).getD (s.process p).seqno := by
  refine ⟨?after, ?ran, ?_⟩
  case ran =>
    simp only [machine, Machine.run, List.replicate, State.step, State.run, State.set, here,
      Function.update_self, Option.bind_some]
    rfl
  simp only [Function.update_self, true_and]
  rfl

/-- `printf`, `seqno++` and `snprintf`. -/
theorem run_counts (here : (s.process p).pc = .print) :
    ∃ s', (machine lock file stack).run s (List.replicate 2 (.run p)) = some s' ∧
      s'.file = s.file ∧ s'.printed = s.printed ++ [(s.process p).seqno] ∧
      (s'.process p).pc = .seekWrite ∧
      (s'.process p).line = numberLine (int64 ((s.process p).seqno + 1)) := by
  refine ⟨?after, ?ran, ?_⟩
  case ran =>
    simp only [machine, Machine.run, List.replicate, State.step, State.run, State.goTo, State.set,
      here, Function.update_self, Option.bind_some]
    rfl
  simp only [Function.update_self, true_and]
  rfl

/-- `lseek` and `write`. -/
theorem run_writes (here : (s.process p).pc = .seekWrite) :
    ∃ s', (machine lock file stack).run s (List.replicate 2 (.run p)) = some s' ∧
      s'.file = writeAt s.file 0 (s.process p).line ∧ s'.printed = s.printed ∧
      (s'.process p).pc = .unlock := by
  refine ⟨?after, ?ran, ?_⟩
  case ran =>
    simp only [machine, Machine.run, List.replicate, State.step, State.run, State.set, here,
      Function.update_self, Option.bind_some]
    rfl
  simp only [Function.update_self, true_and]

/-! ### What is read back -/

/-- A process that writes a number leaves a file that says it. -/
theorem run_writes_number {n : ℤ} (low : -2 ^ 63 ≤ n) (high : n < 2 ^ 63)
    (here : (s.process p).pc = .seekWrite) (line : (s.process p).line = numberLine n) :
    ∃ s', (machine lock file stack).run s (List.replicate 2 (.run p)) = some s' ∧
      fileLong maxline s'.file = some n ∧ s'.printed = s.printed ∧
      (s'.process p).pc = .unlock := by
  obtain ⟨s', ran, written, rest⟩ := run_writes lock file stack here
  refine ⟨s', ran, ?_, rest⟩
  rw [written, line, numberLine_eq low high]
  exact fileLong_write (by decide) s.file low high

/-- **The number written over the file is the number read**, whatever the file was: the process
that reads it next, from whatever state the others have brought about without writing, has it in
its `seqno`. -/
theorem read_back {n : ℤ} (low : -2 ^ 63 ≤ n) (high : n < 2 ^ 63)
    (here : (s.process p).pc = .seekWrite) (line : (s.process p).line = numberLine n) :
    ∃ written, (machine lock file stack).run s (List.replicate 2 (.run p)) = some written ∧
      ∀ (t : State π) (q : π), t.file = written.file → (t.process q).pc = .seekRead →
        ∃ t', (machine lock file stack).run t (List.replicate 3 (.run q)) = some t' ∧
          (t'.process q).pc = .print ∧ (t'.process q).seqno = n := by
  obtain ⟨written, ran, left, _⟩ := run_writes_number lock file stack low high here line
  refine ⟨written, ran, fun t q same reads => ?_⟩
  obtain ⟨t', ran', _, _, there, number⟩ := run_reads lock file stack reads
  refine ⟨t', ran', there, ?_⟩
  rw [number, same, left]
  rfl

/-- **A round counts one up**: on a file that says `v` it prints `v` and leaves `v + 1`. -/
theorem counts_up {v : ℤ} (parses : fileLong maxline s.file = some v) (room : v < 2 ^ 63 - 1)
    (here : (s.process p).pc = .seekRead) :
    ∃ s', (machine lock file stack).run s (List.replicate 7 (.run p)) = some s' ∧
      (s'.process p).pc = .unlock ∧ s'.printed = s.printed ++ [v] ∧
      fileLong maxline s'.file = some (v + 1) := by
  have low := (fileLong_range parses).1
  obtain ⟨s₁, read, same, silent, printing, number⟩ := run_reads lock file stack here
  rw [parses] at number
  have number : (s₁.process p).seqno = v := number
  obtain ⟨s₂, counted, _, printed, writing, line⟩ := run_counts lock file stack printing
  rw [number, int64_of_range (by omega) (by omega)] at line
  obtain ⟨s₃, wrote, next, last, unlocking⟩ :=
    run_writes_number lock file stack (by omega) (by omega) writing line
  refine ⟨s₃, ?_, unlocking, ?_, next⟩
  · show (machine lock file stack).run s
      (List.replicate 3 (.run p) ++ (List.replicate 2 (.run p) ++ List.replicate 2 (.run p))) = _
    rw [Machine.run_append, read, Option.bind_some, Machine.run_append, counted,
      Option.bind_some, wrote]
  · rw [last, printed, silent, number]

end Statements

/-- **The file is rewritten in place and read back exactly.** Every `long` that a process writes
over the file, whatever it held, is the number that the process that reads it next has in its
`seqno`; and a round on a file that says `v` prints `v` and leaves a file that says `v + 1`. -/
theorem rewritten (lock : Lock) (file : List Char) (stack : π → ℤ) (s : State π) (p : π) :
    (∀ n, -2 ^ 63 ≤ n → n < 2 ^ 63 → (s.process p).pc = .seekWrite →
      (s.process p).line = numberLine n →
      ∃ written, (machine lock file stack).run s (List.replicate 2 (.run p)) = some written ∧
        ∀ (t : State π) (q : π), t.file = written.file → (t.process q).pc = .seekRead →
          ∃ t', (machine lock file stack).run t (List.replicate 3 (.run q)) = some t' ∧
            (t'.process q).pc = .print ∧ (t'.process q).seqno = n) ∧
    ∀ v, fileLong maxline s.file = some v → v < 2 ^ 63 - 1 → (s.process p).pc = .seekRead →
      ∃ s', (machine lock file stack).run s (List.replicate 7 (.run p)) = some s' ∧
        (s'.process p).pc = .unlock ∧ s'.printed = s.printed ++ [v] ∧
        fileLong maxline s'.file = some (v + 1) :=
  ⟨fun _ low high here line => read_back lock file stack low high here line,
    fun _ parses room here => counts_up lock file stack parses room here⟩

/-- A process that has come to `my_lock` and been granted the lock. -/
def entering (p : π) : List (Act π) := [.run p, .run p]

/-- On a file that says -10 the line that is written is shorter than the one that is read. -/
theorem rewritten_negative :
    ∃ s', (machine .fcntl [] fun _ => 0).run
        ((machine .fcntl "-10\n".toList fun _ => 0).after (entering (0 : Fin 1)))
        (List.replicate 7 (.run 0)) = some s' ∧ fileLong maxline s'.file = some (-9) := by
  obtain ⟨s', ran, _, _, next⟩ := (rewritten .fcntl [] (fun _ => 0)
    ((machine .fcntl "-10\n".toList fun _ => 0).after (entering (0 : Fin 1))) 0).2 (-10)
    (by decide) (by decide) (by decide)
  exact ⟨s', ran, next⟩

end Unpvol2.Lockmain
