/-
**Integers and strings of C.**

* `int32`, `int64` — the value a two's complement `int` or `long` holds.
* `Holds mem off text n` — the first `n` bytes of the string `text`, its final NUL included, lie at
  `off`. `strcpy` makes `n` grow byte by byte (`Holds.write`), a write elsewhere leaves it alone
  (`Holds.write_away`), and a reader gets the string back once all is there (`read_eq`).
* `decimal` — `%d` and `%ld` of a value that is not negative; it has no NUL.
-/

import Mathlib.Algebra.Group.Int.Defs
import Mathlib.Algebra.Group.Nat.Defs
import Mathlib.Data.List.Basic
import Mathlib.Logic.Function.Basic
import Mathlib.Tactic.Common

namespace C

/-! ### Integers -/

/-- The value an `int` holds after an assignment that wraps to 32 bits. -/
def int32 (value : ℤ) : ℤ := value.bmod (2 ^ 32)

/-- The value a `long` holds after an assignment that wraps to 64 bits. -/
def int64 (value : ℤ) : ℤ := value.bmod (2 ^ 64)

theorem int32_of_range {value : ℤ} (low : -2 ^ 31 ≤ value) (high : value < 2 ^ 31) :
    int32 value = value := by
  unfold int32
  rw [Int.bmod_eq_of_le] <;> omega

theorem int32_of_lt {value : ℤ} (nonneg : 0 ≤ value) (small : value < 2 ^ 31) :
    int32 value = value :=
  int32_of_range (by omega) small

theorem int32_range (value : ℤ) : -2 ^ 31 ≤ int32 value ∧ int32 value < 2 ^ 31 := by
  unfold int32
  have low := Int.le_bmod (x := value) (m := 2 ^ 32) (by decide)
  have high := Int.bmod_lt (x := value) (m := 2 ^ 32) (by decide)
  omega

theorem int64_of_range {value : ℤ} (low : -2 ^ 63 ≤ value) (high : value < 2 ^ 63) :
    int64 value = value := by
  unfold int64
  rw [Int.bmod_eq_of_le] <;> omega

/-! ### Strings in memory -/

/-- The byte that ends a string. -/
def nul : Char := Char.ofNat 0

/-- The bytes of a string, the final NUL included. -/
def byte (text : List Char) (j : ℕ) : Char := text.getD j nul

/-- The string at `off`, looking at no more than `size` bytes. -/
def read (mem : ℕ → Char) (off : ℕ) : ℕ → List Char
  | 0 => []
  | size + 1 => if mem off = nul then [] else mem off :: read mem (off + 1) size

/-- The first `n` bytes of the string lie at `off`. -/
def Holds (mem : ℕ → Char) (off : ℕ) (text : List Char) (n : ℕ) : Prop :=
  ∀ j < n, mem (off + j) = byte text j

variable {mem : ℕ → Char} {off n : ℕ} {text : List Char}

theorem Holds.zero : Holds mem off text 0 :=
  fun _ below => absurd below (Nat.not_lt_zero _)

theorem Holds.mono {n' : ℕ} (holds : Holds mem off text n) (le : n' ≤ n) : Holds mem off text n' :=
  fun j below => holds j (Nat.lt_of_lt_of_le below le)

/-- The next byte is written. -/
theorem Holds.write (holds : Holds mem off text n) :
    Holds (Function.update mem (off + n) (byte text n)) off text (n + 1) := by
  intro j below
  by_cases last : j = n
  · rw [last, Function.update_self]
  · have ne : off + j ≠ off + n := by omega
    rw [Function.update_of_ne ne]
    exact holds j (by omega)

/-- A byte elsewhere is written. -/
theorem Holds.write_away {address : ℕ} {value : Char} (holds : Holds mem off text n)
    (away : address < off ∨ off + n ≤ address) :
    Holds (Function.update mem address value) off text n := by
  intro j below
  have ne : off + j ≠ address := by omega
  rw [Function.update_of_ne ne]
  exact holds j below

/-- **A complete string is read back.** -/
theorem read_eq {size : ℕ} (holds : Holds mem off text (text.length + 1)) (ended : nul ∉ text)
    (room : text.length < size) : read mem off size = text := by
  induction text generalizing off size with
  | nil =>
    cases size with
    | zero => rfl
    | succ size =>
      have first : mem off = nul := holds 0 (Nat.zero_lt_one)
      unfold read
      rw [if_pos first]
  | cons c rest ih =>
    cases size with
    | zero => exact absurd room (Nat.not_lt_zero _)
    | succ size =>
      have first : mem off = c := holds 0 (Nat.succ_pos _)
      have tail : Holds mem (off + 1) rest (rest.length + 1) := by
        intro j below
        have next := holds (j + 1) (Nat.succ_lt_succ below)
        rw [Nat.add_assoc, Nat.add_comm 1 j]
        exact next
      have visible : c ≠ nul := fun same => ended (same ▸ List.mem_cons_self)
      unfold read
      rw [first, if_neg visible]
      rw [ih tail (fun member => ended (List.mem_cons_of_mem c member))
        (Nat.lt_of_succ_lt_succ room)]

/-! ### Formats -/

/-- `%d` and `%ld` of a value that is not negative. -/
def decimal (n : ℕ) : List Char := Nat.toDigits 10 n

theorem nul_not_mem_decimal (n : ℕ) : nul ∉ decimal n := by
  intro member
  have digit : nul.isDigit = true := Nat.isDigit_of_mem_toDigits (by decide) (by decide) member
  exact absurd digit (by decide)

end C
