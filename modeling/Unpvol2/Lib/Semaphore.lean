/-
**Semaphores used as mutexes.**

A semaphore with value `1` at first, waited for before and posted after a critical section, has the
value `0` while a thread is inside and the value `1` while none is. Unlike a mutex it does not know
who that thread is.
-/

import Mathlib.Logic.Basic
import Mathlib.Tactic.Common

namespace Interleaving

variable {τ : Type*}

/-- The value is `1` and nobody is inside, or it is `0` and one thread is. -/
def Binary (value : ℕ) (inside : τ → Bool) : Prop :=
  (value = 1 ∧ ∀ t, inside t = false) ∨ (value = 0 ∧ ∃ t, ∀ u, inside u = true ↔ u = t)

variable {value : ℕ} {inside inside' : τ → Bool} {t u : τ}

theorem Binary.init (outside : ∀ t, inside t = false) : Binary 1 inside :=
  .inl ⟨rfl, outside⟩

theorem Binary.busy (binary : Binary value inside) (here : inside t = true) : value = 0 := by
  rcases binary with ⟨_, outside⟩ | ⟨zero, _⟩
  · rw [outside t] at here
    cases here
  · exact zero

theorem Binary.free (binary : Binary value inside) (positive : 0 < value) (t : τ) :
    inside t = false := by
  by_contra here
  have zero := binary.busy (Bool.of_not_eq_false here)
  omega

theorem Binary.unique (binary : Binary value inside) (first : inside t = true)
    (second : inside u = true) : t = u := by
  rcases binary with ⟨_, outside⟩ | ⟨_, holder, only⟩
  · rw [outside t] at first
    cases first
  · exact ((only t).mp first).trans ((only u).mp second).symm

/-- With one thread inside, another is outside. -/
theorem Binary.outside (binary : Binary value inside) (first : inside t = true) (other : u ≠ t) :
    inside u = false := by
  by_contra second
  exact other (binary.unique (Bool.of_not_eq_false second) first)

theorem Binary.holder (binary : Binary value inside) (zero : value = 0) :
    ∃ t, inside t = true := by
  rcases binary with ⟨one, _⟩ | ⟨_, t, only⟩
  · omega
  · exact ⟨t, (only t).mpr rfl⟩

/-- Threads move, and none enters or leaves. -/
theorem Binary.keep (binary : Binary value inside) (same : ∀ u, inside' u = inside u) :
    Binary value inside' := by
  rw [funext same]
  exact binary

/-- **`t` passes `sem_wait`.** -/
theorem Binary.wait (binary : Binary value inside) (positive : 0 < value)
    (enters : inside' t = true) (others : ∀ u, u ≠ t → inside' u = inside u) :
    Binary (value - 1) inside' := by
  have free := binary.free positive
  right
  refine ⟨?_, t, fun u => ⟨fun here => ?_, fun same => same ▸ enters⟩⟩
  · rcases binary with ⟨one, _⟩ | ⟨zero, _⟩ <;> omega
  · by_contra other
    rw [others u other, free u] at here
    cases here

/-- **`t` calls `sem_post`.** -/
theorem Binary.post (binary : Binary value inside) (here : inside t = true)
    (leaves : inside' t = false) (others : ∀ u, u ≠ t → inside' u = inside u) :
    Binary (value + 1) inside' := by
  left
  refine ⟨congrArg (· + 1) (binary.busy here), fun u => ?_⟩
  by_cases same : u = t
  · rw [same, leaves]
  · rw [others u same, binary.outside here same]

end Interleaving
