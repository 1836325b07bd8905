/-
**FIFOs.**

A FIFO counts the descriptors open for reading and for writing. A process inside `open` counts as
having its descriptor; it gets on at once if the other side exists, and else as soon as the other
side has been opened once more: so it looks at `readOpens` or `writeOpens`, which count all opens
there have been.

Reading from an empty FIFO is the end of file when no descriptor is open for writing, writing fails
when none is open for reading, and the close of the last descriptor discards what is unread. There
is room for whatever is written.
-/

import Mathlib.Data.List.Basic
import Mathlib.Tactic.Common

/-- A FIFO of items that are written and read as a whole. -/
structure Fifo (β : Type*) where
  readers : ℕ
  writers : ℕ
  readOpens : ℕ
  writeOpens : ℕ
  data : List β

namespace Fifo

variable {β : Type*} (f : Fifo β)

/-- As `mkfifo` makes it. -/
def fresh : Fifo β := ⟨0, 0, 0, 0, []⟩

def openRead : Fifo β := { f with readers := f.readers + 1, readOpens := f.readOpens + 1 }

def openWrite : Fifo β := { f with writers := f.writers + 1, writeOpens := f.writeOpens + 1 }

/-- `fork` has copied a descriptor for reading. -/
def dupRead : Fifo β := { f with readers := f.readers + 1 }

/-- Nothing unread survives the last descriptor. -/
def settle : Fifo β := if f.readers = 0 ∧ f.writers = 0 then { f with data := [] } else f

def closeRead : Fifo β := settle { f with readers := f.readers - 1 }

def closeWrite : Fifo β := settle { f with writers := f.writers - 1 }

def write (items : List β) : Fifo β := { f with data := f.data ++ items }

def drop (n : ℕ) : Fifo β := { f with data := f.data.drop n }

/-- A `read` now returns 0. -/
def AtEnd : Prop := f.data = [] ∧ f.writers = 0

/-- The close of a descriptor for reading leaves unread items to somebody. -/
def KeepsRead : Prop := f.readers ≤ 1 → f.writers = 0 → f.data = []

/-- The close of a descriptor for writing leaves unread items to somebody. -/
def KeepsWrite : Prop := f.writers ≤ 1 → f.readers = 0 → f.data = []

instance [DecidableEq β] : Decidable f.AtEnd := inferInstanceAs (Decidable (_ ∧ _))

instance [DecidableEq β] : Decidable f.KeepsRead := inferInstanceAs (Decidable (_ → _))

instance [DecidableEq β] : Decidable f.KeepsWrite := inferInstanceAs (Decidable (_ → _))

section Settle

@[simp] theorem settle_readers : f.settle.readers = f.readers := by
  unfold settle
  split <;> rfl

@[simp] theorem settle_writers : f.settle.writers = f.writers := by
  unfold settle
  split <;> rfl

@[simp] theorem settle_readOpens : f.settle.readOpens = f.readOpens := by
  unfold settle
  split <;> rfl

@[simp] theorem settle_writeOpens : f.settle.writeOpens = f.writeOpens := by
  unfold settle
  split <;> rfl

@[simp] theorem closeRead_readers : f.closeRead.readers = f.readers - 1 := settle_readers _

@[simp] theorem closeRead_writers : f.closeRead.writers = f.writers := settle_writers _

@[simp] theorem closeRead_readOpens : f.closeRead.readOpens = f.readOpens := settle_readOpens _

@[simp] theorem closeRead_writeOpens : f.closeRead.writeOpens = f.writeOpens := settle_writeOpens _

@[simp] theorem closeWrite_readers : f.closeWrite.readers = f.readers := settle_readers _

@[simp] theorem closeWrite_writers : f.closeWrite.writers = f.writers - 1 := settle_writers _

@[simp] theorem closeWrite_readOpens : f.closeWrite.readOpens = f.readOpens := settle_readOpens _

@[simp] theorem closeWrite_writeOpens : f.closeWrite.writeOpens = f.writeOpens :=
  settle_writeOpens _

end Settle

variable {f}

/-- A close that leaves the unread items to somebody changes none of them. -/
theorem closeRead_data (keeps : f.KeepsRead) : f.closeRead.data = f.data := by
  unfold closeRead settle
  split
  case isTrue last =>
    have zero : f.readers - 1 = 0 := last.1
    exact (keeps (by omega) last.2).symm
  case isFalse => rfl

theorem closeWrite_data (keeps : f.KeepsWrite) : f.closeWrite.data = f.data := by
  unfold closeWrite settle
  split
  case isTrue last =>
    have zero : f.writers - 1 = 0 := last.2
    exact (keeps (by omega) last.1).symm
  case isFalse => rfl

/-- Any other close discards some, and all of them. -/
theorem closeRead_discards (discards : ¬ f.KeepsRead) : f.data ≠ [] ∧ f.closeRead.data = [] := by
  unfold KeepsRead at discards
  push Not at discards
  obtain ⟨few, none, unread⟩ := discards
  have last : f.readers - 1 = 0 ∧ f.writers = 0 := ⟨by omega, none⟩
  unfold closeRead settle
  rw [if_pos last]
  exact ⟨unread, rfl⟩

theorem closeWrite_discards (discards : ¬ f.KeepsWrite) : f.data ≠ [] ∧ f.closeWrite.data = [] := by
  unfold KeepsWrite at discards
  push Not at discards
  obtain ⟨few, none, unread⟩ := discards
  have last : f.readers = 0 ∧ f.writers - 1 = 0 := ⟨none, by omega⟩
  unfold closeWrite settle
  rw [if_pos last]
  exact ⟨unread, rfl⟩

end Fifo
