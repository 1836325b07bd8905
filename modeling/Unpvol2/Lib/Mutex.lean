/-
**Mutexes with an owner.**

A mutex is the thread that holds it, if any. `Owns` says that it is held by exactly the thread that
stands inside its critical section; a thread that locks it, unlocks it or moves on without either
keeps that (`Owns.lock`, `Owns.unlock`, `Owns.keep`).
-/

import Mathlib.Logic.Basic
import Mathlib.Tactic.Common

namespace Interleaving

variable {τ : Type*}

/-- The mutex is held by exactly the thread that is inside. -/
def Owns (mutex : Option τ) (inside : τ → Bool) : Prop :=
  ∀ t, inside t = true ↔ mutex = some t

variable {mutex : Option τ} {inside inside' : τ → Bool} {t u : τ}

/-- A mutex that nobody has locked. -/
theorem Owns.init (outside : ∀ t, inside t = false) : Owns none inside := by
  intro t
  rw [outside]
  exact ⟨nofun, nofun⟩

theorem Owns.unique (owns : Owns mutex inside) (first : inside t = true)
    (second : inside u = true) : t = u :=
  Option.some.inj (((owns t).mp first).symm.trans ((owns u).mp second))

/-- With one thread inside, another is outside. -/
theorem Owns.outside (owns : Owns mutex inside) (first : inside t = true) (other : u ≠ t) :
    inside u = false := by
  by_contra second
  exact other (owns.unique (Bool.of_not_eq_false second) first)

theorem Owns.free (owns : Owns (none : Option τ) inside) (t : τ) : inside t = false := by
  by_contra here
  cases (owns t).mp (Bool.of_not_eq_false here)

/-- Threads move, and none enters or leaves. -/
theorem Owns.keep (owns : Owns mutex inside) (same : ∀ u, inside' u = inside u) :
    Owns mutex inside' := fun u => by
  rw [same]
  exact owns u

/-- **`t` locks the mutex.** -/
theorem Owns.lock (owns : Owns (none : Option τ) inside) (enters : inside' t = true)
    (others : ∀ u, u ≠ t → inside' u = inside u) : Owns (some t) inside' := by
  intro u
  constructor
  · intro here
    by_contra other
    have ne : u ≠ t := fun same => other (by rw [same])
    rw [others u ne, owns.free u] at here
    cases here
  · intro holder
    cases holder
    exact enters

/-- **`t` unlocks the mutex.** -/
theorem Owns.unlock (owns : Owns mutex inside) (here : inside t = true)
    (leaves : inside' t = false) (others : ∀ u, u ≠ t → inside' u = inside u) :
    Owns none inside' := by
  intro u
  constructor
  · intro still
    by_cases same : u = t
    · rw [same, leaves] at still
      cases still
    · rw [others u same, owns.outside here same] at still
      cases still
  · intro impossible
    cases impossible

end Interleaving
