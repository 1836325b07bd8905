/-
**Bounded priority queues.**

A queue of at most `size` items in the order of their arrival. `get x` is possible where `x` is the
oldest item of the highest key.

* `insert` — what an implementation does that keeps the items sorted: the new one goes behind all
  those of its key or a higher one.
* `Stores` — such a list holds a queue: it is sorted, and the items of each key are in the order of
  their arrival. `Stores.put` and `Stores.get`: **the sorted list takes the same steps as the
  queue.**
-/

import Mathlib.Data.List.MinMax
import Mathlib.Order.Basic
import Unpvol2.Lib.Machine

namespace Interleaving.PriorityQueue

variable {α κ : Type*}

inductive Op (α : Type*)
  | put (x : α)
  | get (x : α)
deriving DecidableEq

section Queue

variable [DecidableEq α] [LinearOrder κ] (key : α → κ)

def step (size : ℕ) (queue : List α) : Op α → Option (List α)
  | .put x => if queue.length < size then some (queue ++ [x]) else none
  | .get x => if queue.argmax key = some x then some (queue.erase x) else none

/-- The queue, empty at first. -/
def machine (size : ℕ) : Machine (List α) (Op α) := ⟨[], step key size⟩

end Queue

/-! ### Sorted lists -/

section Sorted

variable [LinearOrder κ] (key : α → κ)

/-- Behind all items of its key or a higher one. -/
def insert (x : α) : List α → List α
  | [] => [x]
  | first :: rest => if key x ≤ key first then first :: insert x rest else x :: first :: rest

/-- The items of one key. -/
def lane (k : κ) (items : List α) : List α := items.filter fun x => key x = k

/-- The list holds the queue. -/
structure Stores (queue stored : List α) : Prop where
  sorted : stored.Pairwise fun x y => key y ≤ key x
  lanes : ∀ k, lane key k stored = lane key k queue

variable {key} {x : α} {items queue stored : List α}

theorem lane_append (k : κ) (items more : List α) :
    lane key k (items ++ more) = lane key k items ++ lane key k more :=
  List.filter_append ..

theorem lane_of_ne {k : κ} (ne : key x ≠ k) : lane key k [x] = [] :=
  List.filter_cons_of_neg fun same => ne (of_decide_eq_true same)

theorem insert_perm (x : α) (items : List α) : (insert key x items).Perm (x :: items) := by
  induction items with
  | nil => exact .refl _
  | cons first rest ih =>
    unfold insert
    split
    · exact (ih.cons first).trans (.swap x first rest)
    · exact .refl _

theorem insert_sorted (sorted : items.Pairwise fun x y => key y ≤ key x) :
    (insert key x items).Pairwise fun x y => key y ≤ key x := by
  induction items with
  | nil => exact List.pairwise_singleton ..
  | cons first rest ih =>
    obtain ⟨high, sorted⟩ := List.pairwise_cons.mp sorted
    unfold insert
    split
    · refine List.pairwise_cons.mpr ⟨fun y mem => ?_, ih sorted⟩
      rcases List.mem_cons.mp ((insert_perm x rest).mem_iff.mp mem) with rfl | mem
      · assumption
      · exact high y mem
    · have low : key first ≤ key x := le_of_not_ge ‹_›
      refine List.pairwise_cons.mpr ⟨fun y mem => ?_, List.pairwise_cons.mpr ⟨high, sorted⟩⟩
      rcases List.mem_cons.mp mem with rfl | mem
      · exact low
      · exact (high y mem).trans low

/-- **A new item is the last one of its key**, and the other keys do not see it. -/
theorem lane_insert (sorted : items.Pairwise fun x y => key y ≤ key x) (k : κ) :
    lane key k (insert key x items) = lane key k items ++ lane key k [x] := by
  induction items with
  | nil => rfl
  | cons first rest ih =>
    obtain ⟨high, sorted⟩ := List.pairwise_cons.mp sorted
    unfold insert
    split
    · have here : lane key k (first :: insert key x rest) =
          lane key k [first] ++ lane key k (insert key x rest) := lane_append k [first] _
      rw [here, ih sorted, ← List.append_assoc, ← lane_append]
      rfl
    · -- nothing behind the place has the key of `x`
      have here : lane key k (x :: first :: rest) = lane key k [x] ++ lane key k (first :: rest) :=
        lane_append k [x] _
      rw [here]
      by_cases same : key x = k
      · have none : lane key k (first :: rest) = [] := by
          refine List.filter_eq_nil_iff.mpr fun y mem => ?_
          have le : key y ≤ key first := by
            rcases List.mem_cons.mp mem with rfl | mem
            · exact le_refl _
            · exact high y mem
          have lt : key y < k := same ▸ le.trans_lt (lt_of_not_ge ‹_›)
          exact fun eq => lt.ne (of_decide_eq_true eq)
        rw [none, List.append_nil]
        rfl
      · rw [lane_of_ne same, List.append_nil]
        rfl

/-- Two lists with the same lanes have the same items. -/
theorem Stores.perm (stores : Stores key queue stored) : stored.Perm queue := by
  classical
  refine List.perm_iff_count.mpr fun x => ?_
  have all : ∀ items, List.count x (lane key (key x) items) = List.count x items := fun _ =>
    List.count_filter (decide_eq_true rfl)
  rw [← all, stores.lanes, all]

theorem Stores.nil : Stores key ([] : List α) [] := ⟨.nil, fun _ => rfl⟩

/-- Nothing of a higher key in front, and the oldest of its own. -/
theorem Stores.split (stores : Stores key queue (x :: stored)) :
    ∃ before after, queue = before ++ x :: after ∧ (∀ y ∈ before, key y ≠ key x) ∧
      ∀ y ∈ queue, key y ≤ key x := by
  have same := stores.lanes (key x)
  have first : lane key (key x) (x :: stored) = x :: lane key (key x) stored :=
    List.filter_cons_of_pos (decide_eq_true rfl)
  rw [first] at same
  obtain ⟨before, after, rfl, older, _, _⟩ := List.filter_eq_cons_iff.mp same.symm
  refine ⟨before, after, rfl, fun y mem same => older y mem (decide_eq_true same),
    fun y mem => ?_⟩
  rcases List.mem_cons.mp (stores.perm.mem_iff.mpr mem) with rfl | mem
  · exact le_refl _
  · exact (List.pairwise_cons.mp stores.sorted).1 y mem

variable [DecidableEq α] {size : ℕ}

/-- **The implementation takes an item in.** -/
theorem Stores.put (stores : Stores key queue stored) (room : stored.length < size) :
    (machine key size).step queue (.put x) = some (queue ++ [x]) ∧
      Stores key (queue ++ [x]) (insert key x stored) := by
  refine ⟨if_pos (stores.perm.length_eq ▸ room), insert_sorted stores.sorted, fun k => ?_⟩
  rw [lane_insert stores.sorted, stores.lanes, ← lane_append]

/-- **What it gives out is what the queue gives out.** -/
theorem Stores.get (stores : Stores key queue (x :: stored)) :
    (machine key size).step queue (.get x) = some (queue.erase x) ∧
      Stores key (queue.erase x) stored := by
  obtain ⟨before, after, rfl, older, high⟩ := stores.split
  have absent : x ∉ before := fun mem => older x mem rfl
  have erased : (before ++ x :: after).erase x = before ++ after := by
    rw [List.erase_append_right _ absent, List.erase_cons_head]
  refine ⟨if_pos (List.argmax_eq_some_iff.mpr ⟨by simp, high, fun y mem le => ?_⟩),
    (List.pairwise_cons.mp stores.sorted).2, fun k => ?_⟩
  · -- an item of the same key does not stand before it
    have behind : y ∉ before := fun mem => older y mem (le_antisymm (high y (by simp [mem])) le)
    rw [List.idxOf_append_of_notMem absent, List.idxOf_append_of_notMem behind,
      List.idxOf_cons_self]
    exact Nat.add_le_add_left (Nat.zero_le _) _
  · have lanes := stores.lanes k
    rw [erased, lane_append]
    have here : lane key k (x :: stored) = lane key k [x] ++ lane key k stored :=
      lane_append k [x] _
    have there : lane key k (before ++ x :: after) =
        lane key k before ++ (lane key k [x] ++ lane key k after) := by
      rw [lane_append]
      exact congrArg _ (lane_append k [x] _)
    rw [here, there] at lanes
    by_cases same : key x = k
    · have none : lane key k before = [] := List.filter_eq_nil_iff.mpr fun y mem eq =>
        older y mem ((of_decide_eq_true eq).trans same.symm)
      rw [none] at lanes ⊢
      exact List.append_cancel_left lanes
    · rw [lane_of_ne same] at lanes
      exact lanes

end Sorted

end Interleaving.PriorityQueue
