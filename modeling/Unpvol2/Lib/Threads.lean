/-
**Sums over the threads of a system.**

A system keeps one record per thread, `r : ι → κ`, and a step changes the record of one thread.
What the invariants say about all threads together is a sum of a weight of the records:

* `total w r` — the sum; `total_update` says what changing one record does to it.
* `count here r` — how many records satisfy a test, the sum of a `0`/`1` weight.
* `total_rewrite` — changing every record without changing its weight changes nothing.
-/

import Mathlib.Algebra.BigOperators.Ring.Finset
import Mathlib.Algebra.Order.BigOperators.Group.Finset
import Mathlib.Data.Fintype.Basic
import Mathlib.Data.Fintype.Card

namespace Interleaving

variable {ι κ : Type*} [Fintype ι]

/-- The sum of a weight over the records of all threads. -/
def total (w : κ → ℤ) (r : ι → κ) : ℤ :=
  ∑ thread, w (r thread)

/-- The number of threads whose record passes a test. -/
def count (here : κ → Bool) (r : ι → κ) : ℤ :=
  total (fun x => if here x then 1 else 0) r

/-! ### One thread moves -/

section Update

variable [DecidableEq ι]

/-- **One thread's move changes the sum by that thread's change of weight.** -/
theorem total_update (w : κ → ℤ) (r : ι → κ) (thread : ι) (new : κ) :
    total w (Function.update r thread new) =
      total w r - w (r thread) + w new := by
  have rest : ∀ other ∈ Finset.univ.erase thread,
      w (Function.update r thread new other) = w (r other) := by
    intro other member
    rw [Function.update_of_ne (Finset.ne_of_mem_erase member)]
  unfold total
  rw [← Finset.add_sum_erase Finset.univ _ (Finset.mem_univ thread),
    ← Finset.add_sum_erase Finset.univ (fun other => w (r other))
      (Finset.mem_univ thread), Finset.sum_congr rfl rest, Function.update_self]
  omega

omit [Fintype ι] in
/-- After one thread's move a record is an old one or the new one. -/
theorem update_or {P : κ → Prop} {r : ι → κ} {thread other : ι} {new : κ}
    (holds : P (Function.update r thread new other)) : P (r other) ∨ P new := by
  by_cases same : other = thread
  · rw [same, Function.update_self] at holds
    exact Or.inr holds
  · rw [Function.update_of_ne same] at holds
    exact Or.inl holds

theorem count_update (here : κ → Bool) (r : ι → κ) (thread : ι) (new : κ) :
    count here (Function.update r thread new) =
      count here r - (if here (r thread) then 1 else 0) + (if here new then 1 else 0) :=
  total_update _ r thread new

end Update

/-- Rewriting every record without changing a weight keeps the sum. -/
theorem total_rewrite (w : κ → ℤ) {r r' : ι → κ}
    (same : ∀ thread, w (r' thread) = w (r thread)) :
    total w r' = total w r :=
  Finset.sum_congr rfl fun thread _ => same thread

/-! ### Sums of weights that are never negative -/

theorem total_nonneg {w : κ → ℤ} (nonneg : ∀ x, 0 ≤ w x) (r : ι → κ) :
    0 ≤ total w r :=
  Finset.sum_nonneg fun _ _ => nonneg _

/-- One thread weighs at most as much as all threads. -/
theorem le_total {w : κ → ℤ} {r : ι → κ} (nonneg : ∀ t, 0 ≤ w (r t))
    (thread : ι) : w (r thread) ≤ total w r :=
  Finset.single_le_sum (f := fun t => w (r t)) (fun t _ => nonneg t)
    (Finset.mem_univ thread)

/-- Two threads weigh at most as much as all threads. -/
theorem add_le_total [DecidableEq ι] {w : κ → ℤ} {r : ι → κ} (nonneg : ∀ t, 0 ≤ w (r t))
    {t u : ι} (ne : t ≠ u) : w (r t) + w (r u) ≤ total w r := by
  have pair : ∑ x ∈ {t, u}, w (r x) = w (r t) + w (r u) := Finset.sum_pair ne
  rw [← pair]
  exact Finset.sum_le_sum_of_subset_of_nonneg (Finset.subset_univ _) fun x _ _ => nonneg x

theorem count_nonneg (here : κ → Bool) (r : ι → κ) : 0 ≤ count here r :=
  total_nonneg (fun x => by split <;> omega) r

theorem one_le_count {here : κ → Bool} {r : ι → κ} {t : ι}
    (found : here (r t) = true) : 1 ≤ count here r := by
  have bound := le_total (w := fun x => if here x then 1 else 0) (r := r)
    (fun t => by split <;> omega) t
  simp only [found, if_true] at bound
  exact bound

/-- A sum of weights is zero when every weight is. -/
theorem total_eq_zero {w : κ → ℤ} {r : ι → κ} (zero : ∀ t, w (r t) = 0) :
    total w r = 0 :=
  Finset.sum_eq_zero fun t _ => zero t

theorem count_eq_zero_iff {here : κ → Bool} {r : ι → κ} :
    count here r = 0 ↔ ∀ thread, here (r thread) = false := by
  constructor
  · intro zero thread
    by_contra found
    have := one_le_count (r := r) (Bool.eq_true_of_not_eq_false found)
    omega
  · intro none
    exact total_eq_zero fun thread => by rw [none thread]; rfl

/-- The count is the number of elements of the set of threads that pass the test. -/
theorem count_eq_card (here : κ → Bool) (r : ι → κ) :
    count here r = ((Finset.univ.filter fun t => here (r t) = true).card : ℤ) := by
  unfold count total
  rw [Finset.card_filter]
  push_cast
  rfl

/-- At most one thread passes a test that no two threads pass. -/
theorem count_le_one [DecidableEq ι] {here : κ → Bool} {r : ι → κ}
    (unique : ∀ t u, here (r t) = true → here (r u) = true → t = u) : count here r ≤ 1 := by
  rw [count_eq_card]
  have small : (Finset.univ.filter fun t => here (r t) = true).card ≤ 1 := by
    rw [Finset.card_le_one]
    intro t found u found'
    exact unique t u (Finset.mem_filter.mp found).2 (Finset.mem_filter.mp found').2
  exact_mod_cast small

/-- A weaker test finds more threads. -/
theorem count_le_count {κ' : Type*} {here : κ → Bool} {here' : κ' → Bool} {r : ι → κ} {r' : ι → κ'}
    (weaker : ∀ t, here (r t) = true → here' (r' t) = true) : count here r ≤ count here' r' := by
  refine Finset.sum_le_sum fun t _ => ?_
  show (if here (r t) then (1 : ℤ) else 0) ≤ if here' (r' t) then 1 else 0
  by_cases found : here (r t) = true
  · rw [if_pos found, if_pos (weaker t found)]
  · rw [if_neg found]
    split <;> omega

/-- A positive count has a thread to show. -/
theorem exists_of_count_pos {here : κ → Bool} {r : ι → κ} (positive : 0 < count here r) :
    ∃ thread, here (r thread) = true := by
  by_contra missing
  push Not at missing
  have zero := count_eq_zero_iff.mpr fun thread => Bool.eq_false_of_not_eq_true (missing thread)
  omega

/-! ### Threads with numbers -/

/-- **One of the first `n` threads moves**, and its weight changes. -/
theorem sum_range_change {β : Type*} [AddCommMonoid β] {f g : ℕ → β} {n j : ℕ} (below : j < n)
    (others : ∀ k, k ≠ j → g k = f k) :
    ∑ k ∈ Finset.range n, g k + f j = ∑ k ∈ Finset.range n, f k + g j := by
  have member : j ∈ Finset.range n := Finset.mem_range.mpr below
  have rest : ∑ k ∈ (Finset.range n).erase j, g k = ∑ k ∈ (Finset.range n).erase j, f k :=
    Finset.sum_congr rfl fun k member => others k (Finset.ne_of_mem_erase member)
  rw [← Finset.add_sum_erase _ g member, ← Finset.add_sum_erase _ f member, rest, add_right_comm,
    add_comm (g j), add_right_comm]

/-- A thread past the first `n` moves. -/
theorem sum_range_past {β : Type*} [AddCommMonoid β] {f g : ℕ → β} {n : ℕ}
    (same : ∀ k < n, g k = f k) : ∑ k ∈ Finset.range n, g k = ∑ k ∈ Finset.range n, f k :=
  Finset.sum_congr rfl fun k member => same k (Finset.mem_range.mp member)

end Interleaving
