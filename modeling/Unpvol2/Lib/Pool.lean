/-
**Threads that are started as the system runs.**

The threads of the system are a list, a new one is started at its end, and a thread's number is its
place. A step replaces one entry (`List.set`), and `pool_split` says what that is for everything
that is counted or collected over the list.
-/

import Mathlib.Data.List.Basic
import Mathlib.Tactic.Common

namespace Interleaving

variable {κ : Type*} {pool : List κ} {k : ℕ} {x : κ}

/-- **One thread moves**, and the threads before and after it do not. -/
theorem pool_split (found : pool[k]? = some x) (new : κ) :
    ∃ before after, before.length = k ∧ pool = before ++ x :: after ∧
      pool.set k new = before ++ new :: after := by
  obtain ⟨bound, here⟩ := List.getElem?_eq_some_iff.mp found
  obtain ⟨before, after, split, length, moved⟩ := @List.exists_of_set _ k new pool bound
  rw [here] at split
  exact ⟨before, after, length, split, moved⟩

/-- The number of threads that pass a test. -/
theorem pool_countP (found : pool[k]? = some x) (here : κ → Bool) (new : κ) :
    (pool.set k new).countP here + (here x).toNat = pool.countP here + (here new).toNat := by
  obtain ⟨before, after, _, split, moved⟩ := pool_split found new
  rw [moved, split]
  simp only [List.countP_append, List.countP_cons]
  cases here x <;> cases here new <;> simp <;> omega

/-- A thread other than the one that moves stays in the pool, and the one that moves is there. -/
theorem pool_mem (found : pool[k]? = some x) (new : κ) {y : κ} (member : y ∈ pool) :
    y = x ∨ y ∈ pool.set k new := by
  obtain ⟨before, after, _, split, moved⟩ := pool_split found new
  rw [split, List.mem_append, List.mem_cons] at member
  rw [moved, List.mem_append, List.mem_cons]
  tauto

theorem pool_mem_new (found : pool[k]? = some x) (new : κ) : new ∈ pool.set k new := by
  obtain ⟨before, after, _, _, moved⟩ := pool_split found new
  rw [moved]
  exact List.mem_append_right _ List.mem_cons_self

end Interleaving
