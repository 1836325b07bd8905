/-
**Ring buffers.**

A ring buffer has `size` places, and the items that go through it are numbered from the start of the
run: item `n` has the place `n % size`. Between the counts `lo` of items taken and `hi` of items put
lie the items in the buffer.

* `Stores item buff lo hi` — they lie in their places.
* `Stores.put` — there is room for the next item while fewer than `size` are in the buffer.
* `Stores.get`, `Stores.drop` — the next item is found, and its place given up.
* `Stores.away` — the place of the next item holds none of the others, so whoever fills it step by
  step disturbs nobody.
-/

import Mathlib.Algebra.GroupWithZero.Nat
import Mathlib.Logic.Function.Basic
import Mathlib.Tactic.Common

namespace Interleaving

variable {size : ℕ} [NeZero size] {β : Type*}

/-- Two items of one round have two places. -/
theorem place_ne {k n : ℕ} (below : k < n) (near : n < k + size) :
    Fin.ofNat size k ≠ Fin.ofNat size n := by
  intro same
  have mods : k % size = n % size := congrArg Fin.val same
  have distance : (n - k) % size = 0 := Nat.sub_mod_eq_zero_of_mod_eq mods.symm
  rw [Nat.mod_eq_of_lt (by omega)] at distance
  omega

/-- The items from `lo` up to `hi` lie in their places; `item n` says what item `n` looks like. -/
def Stores (item : ℕ → β → Prop) (buff : Fin size → β) (lo hi : ℕ) : Prop :=
  ∀ k, lo ≤ k → k < hi → item k (buff (Fin.ofNat size k))

variable {item item' : ℕ → β → Prop} {buff : Fin size → β} {lo hi : ℕ}

theorem Stores.empty (item : ℕ → β → Prop) (buff : Fin size → β) (n : ℕ) :
    Stores item buff n n :=
  fun _ above below => absurd below (Nat.not_lt_of_le above)

/-- **The next item is found in its place.** -/
theorem Stores.get (stores : Stores item buff lo hi) (some : lo < hi) :
    item lo (buff (Fin.ofNat size lo)) :=
  stores lo (Nat.le_refl lo) some

/-- An item is taken. -/
theorem Stores.drop (stores : Stores item buff lo hi) : Stores item buff (lo + 1) hi :=
  fun k above below => stores k (Nat.le_of_succ_le above) below

/-- **Writing the place of the next item leaves the others alone.** -/
theorem Stores.away (stores : Stores item buff lo hi) (room : hi < lo + size) (value : β) :
    Stores item (Function.update buff (Fin.ofNat size hi) value) lo hi := by
  intro k above below
  rw [Function.update_of_ne (place_ne below (by omega))]
  exact stores k above below

/-- The next item lies in its place. -/
theorem Stores.grow (stores : Stores item buff lo hi) (here : item hi (buff (Fin.ofNat size hi))) :
    Stores item buff lo (hi + 1) := by
  intro k above below
  rcases Nat.lt_succ_iff_lt_or_eq.mp below with old | rfl
  · exact stores k above old
  · exact here

/-- **The next item is put into its place.** -/
theorem Stores.put (stores : Stores item buff lo hi) (room : hi < lo + size) {value : β}
    (new : item hi value) :
    Stores item (Function.update buff (Fin.ofNat size hi) value) lo (hi + 1) :=
  (stores.away room value).grow (by rw [Function.update_self]; exact new)

/-- The items in the buffer may be described differently. -/
theorem Stores.mono (stores : Stores item buff lo hi)
    (weaker : ∀ k value, k < hi → item k value → item' k value) : Stores item' buff lo hi :=
  fun k above below => weaker k _ below (stores k above below)

end Interleaving
