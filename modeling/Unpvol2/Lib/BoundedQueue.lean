/-
**Bounded queues.**

A queue of at most `size` items. `put` needs room and adds an item at the end, `get` takes the item
at the front; `get x` is possible where that item is `x`.

* `Leaves` — the numbers from `0` on are put in turn and got in turn: which of them are in the queue
  (`Leaves.put`, `Leaves.get`).
-/

import Unpvol2.Lib.Machine

namespace Interleaving.BoundedQueue

variable {β : Type*}

inductive Op (β : Type*)
  | put (x : β)
  | get (x : β)
deriving DecidableEq

variable [DecidableEq β]

def step (size : ℕ) (queue : List β) : Op β → Option (List β)
  | .put x => if queue.length < size then some (queue ++ [x]) else none
  | .get x =>
    match queue with
    | [] => none
    | y :: rest => if y = x then some rest else none

/-- The queue, empty at first. -/
def machine (size : ℕ) : Machine (List β) (Op β) := ⟨[], step size⟩

def Op.get? : Op β → Option β
  | .put _ => none
  | .get x => some x

/-! ### Queues of consecutive numbers -/

/-- The numbers below `lo` have been got, and those from there up to `hi` are in the queue. -/
structure Leaves (size : ℕ) (ops : List (Op ℕ)) (lo hi : ℕ) : Prop where
  le : lo ≤ hi
  ran : (machine size).run [] ops = some (List.range' lo (hi - lo))
  gets : ops.filterMap Op.get? = List.range lo

variable {size lo hi : ℕ} {ops : List (Op ℕ)}

theorem Leaves.none (size : ℕ) : Leaves size [] 0 0 := ⟨Nat.le_refl 0, rfl, rfl⟩

theorem Leaves.put (leaves : Leaves size ops lo hi) (room : hi < lo + size) :
    Leaves size (ops ++ [.put hi]) lo (hi + 1) where
  le := Nat.le_succ_of_le leaves.le
  ran := by
    have le := leaves.le
    have short : (List.range' lo (hi - lo)).length < size := by
      rw [List.length_range']
      omega
    have next : List.range' lo (hi + 1 - lo) = List.range' lo (hi - lo) ++ [hi] := by
      rw [show hi + 1 - lo = hi - lo + 1 by omega, List.range'_concat, Nat.one_mul,
        Nat.add_sub_cancel' le]
    rw [Machine.run_append, leaves.ran, next]
    show ((machine size).step _ (.put hi)).bind _ = _
    simp only [machine, BoundedQueue.step, if_pos short]
    rfl
  gets := by
    rw [List.filterMap_append, leaves.gets]
    exact List.append_nil _

theorem Leaves.get (leaves : Leaves size ops lo hi) (some : lo < hi) :
    Leaves size (ops ++ [.get lo]) (lo + 1) hi where
  le := some
  ran := by
    rw [Machine.run_append, leaves.ran, show hi - lo = hi - (lo + 1) + 1 by omega,
      List.range'_succ]
    show ((machine size).step _ (.get lo)).bind _ = _
    simp only [machine, BoundedQueue.step, if_true]
    rfl
  gets := by
    rw [List.filterMap_append, leaves.gets, List.range_succ]
    rfl

end Interleaving.BoundedQueue
