/-
**Regular files.**

A file is its bytes. `readAt` and `writeAt` are `read` and `write` at an offset: a `read` returns
what there is up to the count, a `write` replaces the bytes it covers, leaves those behind it where
they are, and fills what lies between the end of the file and the offset with zeros.
-/

import Unpvol2.Lib.Stdio

namespace C

/-- What `read` returns. -/
def readAt (file : List Char) (offset count : ℕ) : List Char :=
  (file.drop offset).take count

/-- The file after a `write`. -/
def writeAt (file : List Char) (offset : ℕ) (text : List Char) : List Char :=
  file.take offset ++ List.replicate (offset - file.length) nul ++ text ++
    file.drop (offset + text.length)

/-- A write at the start of the file leaves its text there, and old bytes behind it. -/
theorem writeAt_zero (file text : List Char) :
    writeAt file 0 text = text ++ file.drop text.length := by
  unfold writeAt
  rw [List.take_zero, Nat.zero_sub, List.replicate_zero, Nat.zero_add, List.append_assoc]
  rfl

/-! ### A number in a file -/

/-- The number a program reads from the start of the file with `%ld`, in a line of `count` bytes. -/
def fileLong (count : ℕ) (file : List Char) : Option ℤ :=
  (scanLong (untilNul (file.take count))).map Prod.fst

theorem fileLong_range {count : ℕ} {file : List Char} {n : ℤ}
    (parses : fileLong count file = some n) : -2 ^ 63 ≤ n ∧ n < 2 ^ 63 := by
  obtain ⟨scanned, found, rfl⟩ := Option.map_eq_some_iff.mp parses
  exact scanLong_range found

/-- **A number that is written over the start of a file is read back**, whatever bytes of the old
file are left behind it. -/
theorem fileLong_write {count : ℕ} (room : 21 ≤ count) (file : List Char) {n : ℤ}
    (low : -2 ^ 63 ≤ n) (high : n < 2 ^ 63) :
    fileLong count (writeAt file 0 (printInt n ++ ['\n'])) = some n := by
  have length := length_printInt_le low high
  have ended : nul ∉ printInt n ++ ['\n'] := by
    intro member
    rcases List.mem_append.mp member with digits | newline
    · exact nul_not_mem_printInt n digits
    · exact absurd (List.mem_singleton.mp newline) (by decide)
  unfold fileLong
  rw [writeAt_zero, List.take_append, List.take_of_length_le (by simp; omega),
    untilNul_of_not_mem ended, List.append_assoc, List.singleton_append,
    scanLong_printInt low high (by decide)]
  rfl

end C
