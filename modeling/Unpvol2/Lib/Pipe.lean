/-
**Pipes and FIFOs of bytes.**

A pipe has room for `capacity` items, and each of its ends is open in some processes. One call moves
any number of items there are, or there is room for: a `read` blocks while the pipe is empty, a
`write` while it is full, and goes on until it has written all. A `read` from an empty pipe returns
0 once no process has the end for writing open, and a `write` fails once none has the end for
reading open.

* `read_some`, `write_some` — what a call that moves items does.
* `read_zero` — **what a `read` that returns 0 has found.**
* `exists_read`, `exists_write` — when there is a call.
-/

import Mathlib.Data.Finset.Basic
import Mathlib.Tactic.Common

/-- A pipe between processes `ι`. -/
structure Pipe (ι β : Type*) where
  capacity : ℕ
  /-- who has the end for reading open -/
  readers : Finset ι
  /-- who has the end for writing open -/
  writers : Finset ι
  data : List β

namespace Pipe

variable {ι β : Type*}

/-- `n` items of those a `write` has still to write. -/
def write (f : Pipe ι β) (items : List β) (n : ℕ) : Option (Pipe ι β) :=
  if 0 < n ∧ n ≤ items.length ∧ f.data.length + n ≤ f.capacity then
    some { f with data := f.data ++ items.take n }
  else none

section Write

variable {f f' : Pipe ι β} {n : ℕ} {items : List β}

/-- What a `write` moves into the pipe. -/
theorem write_some (step : f.write items n = some f') :
    f'.data = f.data ++ items.take n ∧ 0 < n ∧ n ≤ items.length := by
  unfold write at step
  split_ifs at step with room
  cases step
  exact ⟨rfl, room.1, room.2.1⟩

/-- A `write` opens and closes nothing. -/
theorem write_ends (step : f.write items n = some f') :
    f'.capacity = f.capacity ∧ f'.readers = f.readers ∧ f'.writers = f.writers := by
  unfold write at step
  split_ifs at step
  cases step
  exact ⟨rfl, rfl, rfl⟩

/-- Where there is room a `write` goes on. -/
theorem exists_write (some : items ≠ []) (room : f.data.length < f.capacity) :
    f.write items 1 = .some { f with data := f.data ++ items.take 1 } :=
  if_pos ⟨Nat.one_pos, List.length_pos_iff.mpr some, room⟩

end Write

variable [DecidableEq ι]

def closeRead (f : Pipe ι β) (i : ι) : Pipe ι β := { f with readers := f.readers.erase i }

def closeWrite (f : Pipe ι β) (i : ι) : Pipe ι β := { f with writers := f.writers.erase i }

/-- The process ends. -/
def leave (f : Pipe ι β) (i : ι) : Pipe ι β := (f.closeRead i).closeWrite i

/-- A `read` of up to `count` items that returns `n`, the items, and what it leaves. -/
def read (f : Pipe ι β) (count n : ℕ) : Option (List β × Pipe ι β) :=
  match f.data with
  | [] => if f.writers = ∅ ∧ n = 0 then some ([], f) else none
  | _ :: _ =>
    if 0 < n ∧ n ≤ count ∧ n ≤ f.data.length then
      some (f.data.take n, { f with data := f.data.drop n })
    else none

variable {f f' : Pipe ι β} {count n : ℕ} {items : List β}

/-- What a `read` moves out of the pipe. -/
theorem read_some (step : f.read count n = some (items, f')) :
    f.data = items ++ f'.data ∧ items.length = n ∧ n ≤ count := by
  unfold read at step
  split at step
  · split_ifs at step with ended
    cases step
    obtain ⟨_, rfl⟩ := ended
    exact ⟨rfl, rfl, Nat.zero_le _⟩
  · split_ifs at step with some
    cases step
    obtain ⟨_, short, there⟩ := some
    exact ⟨(List.take_append_drop n f.data).symm, List.length_take_of_le there, short⟩

/-- A `read` opens and closes nothing. -/
theorem read_ends (step : f.read count n = some (items, f')) :
    f'.capacity = f.capacity ∧ f'.readers = f.readers ∧ f'.writers = f.writers := by
  unfold read at step
  split at step
  · split_ifs at step
    cases step
    exact ⟨rfl, rfl, rfl⟩
  · split_ifs at step
    cases step
    exact ⟨rfl, rfl, rfl⟩

/-- **The end of the file**: there is nothing to read and nobody who could write. -/
theorem read_zero (step : f.read count 0 = some (items, f')) : f.data = [] ∧ f.writers = ∅ := by
  unfold read at step
  split at step
  · rename_i empty
    split_ifs at step with ended
    exact ⟨empty, ended.1⟩
  · split_ifs at step with some
    exact absurd some.1 (Nat.lt_irrefl 0)

/-- A `read` may return all there is. -/
theorem exists_read (some : f.data ≠ []) (short : f.data.length ≤ count) :
    f.read count f.data.length = .some (f.data, { f with data := [] }) := by
  unfold read
  split
  · rename_i empty
    exact absurd empty some
  · rw [if_pos ⟨List.length_pos_iff.mpr some, short, le_refl _⟩, List.take_length,
      List.drop_length]

/-- A `read` may return one item. -/
theorem exists_read_one (some : f.data ≠ []) (positive : 0 < count) :
    f.read count 1 = .some (f.data.take 1, { f with data := f.data.drop 1 }) := by
  unfold read
  split
  · rename_i empty
    exact absurd empty some
  · exact if_pos ⟨Nat.one_pos, positive, List.length_pos_iff.mpr some⟩

theorem read_atEnd (empty : f.data = []) (writers : f.writers = ∅) :
    f.read count 0 = some ([], f) := by
  unfold read
  rw [empty]
  exact if_pos ⟨writers, rfl⟩

end Pipe
