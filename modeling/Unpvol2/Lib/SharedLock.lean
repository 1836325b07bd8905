/-
**A read-write lock, as an atomic object.**

Threads hold the lock on one of two sides: many on the shared one, or a single one on the exclusive
one. `lock` waits until its side is free, `trylock` gives up with `busy` where it is not, or, on the
shared side, where somebody waits for the exclusive one; `unlock` gives a lock back. A call may also
fail, with one of the `errors`, and then it has changed nothing.
-/

import Mathlib.Algebra.Group.Int.Defs
import Mathlib.Data.Fintype.Defs
import Mathlib.Order.Basic
import Unpvol2.Lib.Atomic

namespace Interleaving.SharedLock

variable {ι : Type*} [DecidableEq ι]

inductive Side
  | shared
  | exclusive
deriving DecidableEq

inductive Call
  | lock (side : Side)
  | trylock (side : Side)
  | unlock
deriving DecidableEq

/-- The number of locks each thread holds on each side. -/
abbrev Held (ι : Type*) := ι → Side → ℕ

namespace Held

/-- What the other side leaves room for. -/
def Free (held : Held ι) : Side → Prop
  | .shared => ∀ u, held u .exclusive = 0
  | .exclusive => ∀ u side, held u side = 0

omit [DecidableEq ι] in
instance [Fintype ι] (held : Held ι) (side : Side) : Decidable (held.Free side) :=
  match side with
  | .shared => inferInstanceAs (Decidable (∀ u, held u .exclusive = 0))
  | .exclusive =>
    decidable_of_iff (∀ u, held u .shared = 0 ∧ held u .exclusive = 0)
      ⟨fun none u side => match side with
        | .shared => (none u).1
        | .exclusive => (none u).2,
      fun none u => ⟨none u .shared, none u .exclusive⟩⟩

def set (held : Held ι) (t : ι) (side : Side) (n : ℕ) : Held ι :=
  Function.update held t (Function.update (held t) side n)

theorem set_self (held : Held ι) (t : ι) (side : Side) (n : ℕ) : held.set t side n t side = n := by
  rw [set, Function.update_self, Function.update_self]

theorem set_of_ne {held : Held ι} {t u : ι} {side side' : Side} (ne : u ≠ t ∨ side' ≠ side)
    (n : ℕ) : held.set t side n u side' = held u side' := by
  unfold set
  by_cases same : u = t
  · subst same
    rw [Function.update_self, Function.update_of_ne (ne.resolve_left fun other => other rfl)]
  · rw [Function.update_of_ne same]

/-- A grant of one side leaves the other one as it is, everywhere. -/
theorem set_side {held : Held ι} {side side' : Side} (ne : side' ≠ side) (t u : ι) (n : ℕ) :
    held.set t side n u side' = held u side' :=
  set_of_ne (.inr ne) n

/-- At most one exclusive lock is out, and no shared one with it. -/
structure Exclusive (held : Held ι) : Prop where
  most : ∀ t, held t .exclusive ≤ 1
  one : ∀ t u, held t .exclusive ≠ 0 → held u .exclusive ≠ 0 → t = u
  alone : ∀ t u, held t .exclusive ≠ 0 → held u .shared = 0

end Held

variable (busy : ℤ) (errors : ℤ → Prop)

/-- What each call may do. -/
inductive Effect (phase : ι → Phase Call ℤ) (held : Held ι) (t : ι) : Call → ℤ → Held ι → Prop
  | lock (side : Side) (free : held.Free side) :
      Effect phase held t (.lock side) 0 (held.set t side (held t side + 1))
  | trylock (side : Side) (free : held.Free side) :
      Effect phase held t (.trylock side) 0 (held.set t side (held t side + 1))
  | refuse (side : Side)
      (why : ¬ held.Free side ∨ side = .shared ∧ ∃ u, phase u = .pending (.lock .exclusive)) :
      Effect phase held t (.trylock side) busy held
  | unlock (side : Side) (holds : 0 < held t side) :
      Effect phase held t .unlock 0 (held.set t side (held t side - 1))
  | fail (call : Call) (result : ℤ) (failed : result ≠ 0) (error : errors result) :
      Effect phase held t call result held

/-- The lock, held by nobody at first. -/
def sharedLock : Object (Held ι) ι Call ℤ := ⟨fun _ _ => 0, Effect busy errors⟩

omit [DecidableEq ι] in
theorem exclusive_start : Held.Exclusive (fun _ _ => 0 : Held ι) :=
  ⟨fun _ => Nat.zero_le _, fun _ _ held => absurd rfl held, fun _ _ held => absurd rfl held⟩

/-- A lock is handed out only where its side is free. -/
theorem Held.Free.grant {held : Held ι} {side : Side} (free : held.Free side) (t : ι) :
    (held.set t side (held t side + 1)).Exclusive := by
  cases side with
  | shared =>
    have same : ∀ u, held.set t .shared (held t .shared + 1) u .exclusive = 0 := by
      intro u
      rw [Held.set_side (by decide)]
      exact free u
    refine ⟨fun u => ?_, fun u _ out => absurd (same u) out, fun u _ out => absurd (same u) out⟩
    rw [same u]
    exact Nat.zero_le _
  | exclusive =>
    have own : held.set t .exclusive (held t .exclusive + 1) t .exclusive = 1 := by
      rw [Held.set_self, free t .exclusive]
    have other : ∀ u, u ≠ t → held.set t .exclusive (held t .exclusive + 1) u .exclusive = 0 := by
      intro u ne
      rw [Held.set_of_ne (.inl ne)]
      exact free u .exclusive
    have holder : ∀ u, held.set t .exclusive (held t .exclusive + 1) u .exclusive ≠ 0 → u = t := by
      intro u out
      by_contra ne
      exact out (other u ne)
    refine ⟨fun u => ?_, fun u v out out' => (holder u out).trans (holder v out').symm,
      fun _ v _ => ?_⟩
    · by_cases same : u = t
      · rw [same]
        exact Nat.le_of_eq own
      · rw [other u same]
        exact Nat.zero_le _
    · rw [Held.set_side (by decide)]
      exact free v .shared

/-- Giving a lock back keeps the exclusion. -/
theorem Held.Exclusive.release {held : Held ι} (exclusive : held.Exclusive) (t : ι) (side : Side) :
    (held.set t side (held t side - 1)).Exclusive := by
  have le : ∀ u side', held.set t side (held t side - 1) u side' ≤ held u side' := by
    intro u side'
    by_cases own : u = t ∧ side' = side
    · rw [own.1, own.2, Held.set_self]
      exact Nat.sub_le _ _
    · exact Nat.le_of_eq (Held.set_of_ne (not_and_or.mp own) _)
  have out : ∀ {u side'}, held.set t side (held t side - 1) u side' ≠ 0 → held u side' ≠ 0 := by
    intro u side' held' none
    exact held' (Nat.le_zero.mp (none ▸ le u side'))
  refine ⟨fun u => Nat.le_trans (le u _) (exclusive.most u),
    fun u v first second => exclusive.one u v (out first) (out second), fun u v first => ?_⟩
  have before := le v .shared
  rw [exclusive.alone u v (out first)] at before
  exact Nat.le_zero.mp before

/-- **The exclusion of the lock**, in every run. -/
theorem exclusive_of_reachable {ok : Object.State (Held ι) ι Call ℤ → _ → Prop}
    {s : Object.State (Held ι) ι Call ℤ}
    (reachable : (sharedLock busy errors).machine.Reachable ok s) : s.object.Exclusive := by
  refine Object.induct exclusive_start ?_ reachable
  intro phase held t call result held' exclusive effect
  cases effect with
  | lock side free | trylock side free => exact free.grant t
  | unlock side holds => exact exclusive.release t side
  | refuse | fail => exact exclusive

end Interleaving.SharedLock
