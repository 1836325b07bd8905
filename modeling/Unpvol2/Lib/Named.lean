/-
**Objects that are opened by name.**

Objects are made under a name, opened by it and changed, and the name can be unlinked: then it is
free for a new object, and the old one stays with those who have it open. `Named` numbers the
objects in the order in which they are made; none is forgotten.

* `Named.Sound` — names lead to objects, and every object has a property; every operation keeps it
  (`Sound.create`, `Sound.unlink`, `Sound.set`).
* `Named.get_create`, `Named.get_set` — what an operation does to one object.
-/

import Mathlib.Data.List.Basic
import Mathlib.Logic.Function.Basic

set_option linter.unusedSectionVars false

namespace Interleaving

/-- The objects that have been made, and the one each name leads to. -/
structure Named (ν ω : Type*) where
  name : ν → Option ℕ
  objects : List ω

namespace Named

variable {ν ω : Type*} [DecidableEq ν] {N : Named ν ω} {k l : ℕ} {x y : ω}

def empty : Named ν ω := ⟨fun _ => none, []⟩

/-- The object `k`. -/
def get (N : Named ν ω) (k : ℕ) : Option ω := N.objects[k]?

/-- A new object is made under the name. -/
def create (N : Named ν ω) (name : ν) (x : ω) : Named ν ω :=
  ⟨Function.update N.name name (some N.objects.length), N.objects ++ [x]⟩

/-- The name is free again. -/
def unlink (N : Named ν ω) (name : ν) : Named ν ω :=
  { N with name := Function.update N.name name none }

/-- The object `k` is `x` from now on. -/
def set (N : Named ν ω) (k : ℕ) (x : ω) : Named ν ω := { N with objects := N.objects.set k x }

/-! ### One object -/

/-- An object that is there stays when another is made. -/
theorem get_create (there : N.get k = some x) (name : ν) (y : ω) :
    (N.create name y).get k = some x := by
  have low := (List.getElem?_eq_some_iff.mp there).1
  exact (List.getElem?_append_left low).trans there

theorem get_set_self (there : N.get k = some x) (y : ω) : (N.set k y).get k = some y :=
  List.getElem?_set_self (List.getElem?_eq_some_iff.mp there).1

theorem get_set_ne (ne : l ≠ k) (y : ω) : (N.set k y).get l = N.get l :=
  List.getElem?_set_ne (Ne.symm ne)

/-- A change of an object, seen from any object. -/
theorem get_set {P : ω → Prop} (there : N.get l = some x) (same : P x)
    (changed : l = k → P y) : ∃ x', (N.set k y).get l = some x' ∧ P x' := by
  by_cases eq : l = k
  · subst eq
    exact ⟨y, get_set_self there y, changed rfl⟩
  · exact ⟨x, (get_set_ne eq y).trans there, same⟩

/-! ### All objects -/

/-- Names lead to objects, and every object has the property `P`. -/
structure Sound (P : ℕ → ω → Prop) (N : Named ν ω) : Prop where
  names : ∀ name k, N.name name = some k → (N.get k).isSome = true
  objects : ∀ k x, N.get k = some x → P k x

variable {P : ℕ → ω → Prop}

theorem sound_empty : Sound P (empty : Named ν ω) where
  names := fun _ _ leads => by cases leads
  objects := fun _ _ there => by cases there

/-- **An object is made.** -/
theorem Sound.create (sound : Sound P N) (name : ν) (new : P N.objects.length x) :
    Sound P (N.create name x) := by
  refine ⟨fun other k leads => ?_, fun k y there => ?_⟩
  · have leads : Function.update N.name name (some N.objects.length) other = some k := leads
    by_cases same : other = name
    · rw [same, Function.update_self] at leads
      cases leads
      exact Option.isSome_iff_exists.mpr ⟨x, List.getElem?_concat_length⟩
    · rw [Function.update_of_ne same] at leads
      obtain ⟨y, there⟩ := Option.isSome_iff_exists.mp (sound.names other k leads)
      exact Option.isSome_iff_exists.mpr ⟨y, get_create there name x⟩
  · have there : (N.objects ++ [x])[k]? = some y := there
    rcases Nat.lt_or_ge k N.objects.length with low | high
    · rw [List.getElem?_append_left low] at there
      exact sound.objects k y there
    · rw [List.getElem?_append_right high, List.getElem?_singleton] at there
      obtain ⟨last, same⟩ := Option.ite_none_right_eq_some.mp there
      cases same
      have last : k = N.objects.length := by omega
      exact last ▸ new

/-- **A name is unlinked.** -/
theorem Sound.unlink (sound : Sound P N) (name : ν) : Sound P (N.unlink name) := by
  refine ⟨fun other k leads => ?_, sound.objects⟩
  have leads : Function.update N.name name none other = some k := leads
  by_cases same : other = name
  · rw [same, Function.update_self] at leads
    cases leads
  · rw [Function.update_of_ne same] at leads
    exact sound.names other k leads

/-- **An object changes.** -/
theorem Sound.set (sound : Sound P N) (there : N.get k = some x) (keeps : P k y) :
    Sound P (N.set k y) := by
  refine ⟨fun other l leads => ?_, fun l z here => ?_⟩
  · obtain ⟨z, here⟩ := Option.isSome_iff_exists.mp (sound.names other l leads)
    obtain ⟨z', here', _⟩ := get_set (P := fun _ => True) (k := k) (y := y) here trivial fun _ =>
      trivial
    exact Option.isSome_iff_exists.mpr ⟨z', here'⟩
  · by_cases eq : l = k
    · subst eq
      rw [get_set_self there] at here
      cases here
      exact keeps
    · rw [get_set_ne eq] at here
      exact sound.objects l z here

end Named

end Interleaving
