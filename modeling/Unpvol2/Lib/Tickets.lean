/-
**Numbers drawn from counters.**

Each process draws numbers from one counter: it waits for the counter's semaphore, reads the
counter, writes the next number into it, shows the number it has read, and posts the semaphore. A
process takes its counter when it joins. Several counters may have one semaphore, but a counter has
only one, `lock c`: with two semaphores for one counter two processes can read one number.

* `Drawn.numbered` — **what is shown of a counter is `0`, `1`, `2` and so on**, each once and in
  order, until an `int` wraps.
-/

import Mathlib.Data.List.Range
import Mathlib.Logic.Function.Basic
import Unpvol2.Lib.C
import Unpvol2.Lib.Machine
import Unpvol2.Lib.Semaphore

set_option linter.unusedSectionVars false

namespace Interleaving.Tickets

open C

/-- Where a process stands in its round. -/
inductive Pc
  | wait
  | load
  | store (value : ℤ)
  | print (value : ℤ)
  | post
deriving DecidableEq

def Pc.inside : Pc → Bool
  | .wait => false
  | .load | .store _ | .print _ | .post => true

variable {κ σ π : Type*}

/-- The counters, the semaphores, the processes that have joined, and what has been shown. -/
structure State (κ σ π : Type*) where
  counter : κ → ℤ
  sem : σ → ℕ
  drawer : π → Option (κ × Pc)
  shown : κ → List ℤ

inductive Act (κ π : Type*)
  | join (p : π) (c : κ)
  | step (p : π)

variable [DecidableEq κ] [DecidableEq σ] [DecidableEq π] (lock : κ → σ)

def State.move (s : State κ σ π) (p : π) (c : κ) (pc : Pc) : State κ σ π :=
  { s with drawer := Function.update s.drawer p (some (c, pc)) }

def State.step (s : State κ σ π) : Act κ π → Option (State κ σ π)
  | .join p c =>
    match s.drawer p with
    | none => some (s.move p c .wait)
    | some _ => none
  | .step p =>
    match s.drawer p with
    | some (c, .wait) =>
      if 0 < s.sem (lock c) then
        some { s.move p c .load with
          sem := Function.update s.sem (lock c) (s.sem (lock c) - 1) }
      else none
    | some (c, .load) => some (s.move p c (.store (s.counter c)))
    | some (c, .store value) =>
      some { s.move p c (.print value) with
        counter := Function.update s.counter c (int32 (value + 1)) }
    | some (c, .print value) =>
      some { s.move p c .post with
        shown := Function.update s.shown c (s.shown c ++ [value]) }
    | some (c, .post) =>
      some { s.move p c .wait with
        sem := Function.update s.sem (lock c) (s.sem (lock c) + 1) }
    | none => none

/-- The counters at `0`; those who have joined are about to draw. -/
def start (joined : π → Option κ) : State κ σ π :=
  ⟨fun _ => 0, fun _ => 1, fun p => (joined p).map fun c => (c, .wait), fun _ => []⟩

def machine (joined : π → Option κ) : Machine (State κ σ π) (Act κ π) :=
  ⟨start joined, State.step lock⟩

section

variable {lock} {s : State κ σ π} {p : π} {c : κ} {value : ℤ}

theorem step_join (c : κ) (here : s.drawer p = none) :
    s.step lock (.join p c) = some (s.move p c .wait) := by
  simp only [State.step, here]

theorem step_wait (here : s.drawer p = some (c, .wait)) (positive : 0 < s.sem (lock c)) :
    s.step lock (.step p) = some { s.move p c .load with
      sem := Function.update s.sem (lock c) (s.sem (lock c) - 1) } := by
  simp only [State.step, here, if_pos positive]

theorem step_load (here : s.drawer p = some (c, .load)) :
    s.step lock (.step p) = some (s.move p c (.store (s.counter c))) := by
  simp only [State.step, here]

theorem step_store (here : s.drawer p = some (c, .store value)) :
    s.step lock (.step p) = some { s.move p c (.print value) with
      counter := Function.update s.counter c (int32 (value + 1)) } := by
  simp only [State.step, here]

theorem step_print (here : s.drawer p = some (c, .print value)) :
    s.step lock (.step p) = some { s.move p c .post with
      shown := Function.update s.shown c (s.shown c ++ [value]) } := by
  simp only [State.step, here]

theorem step_post (here : s.drawer p = some (c, .post)) :
    s.step lock (.step p) = some { s.move p c .wait with
      sem := Function.update s.sem (lock c) (s.sem (lock c) + 1) } := by
  simp only [State.step, here]

end

/-! ### The invariant -/

/-- The process has passed `sem_wait` of semaphore `l` and has not posted it. -/
def State.inside (s : State κ σ π) (l : σ) (p : π) : Bool :=
  match s.drawer p with
  | some (c, pc) => pc.inside && decide (lock c = l)
  | none => false

variable {lock}

/-- The numbers that have been drawn, as an `int` tells them. -/
def numbersTo (n : ℕ) : List ℤ := (List.range n).map fun k : ℕ => int32 k

theorem numbersTo_succ (n : ℕ) : numbersTo (n + 1) = numbersTo n ++ [int32 n] := by
  unfold numbersTo
  rw [List.range_succ, List.map_append]
  rfl

theorem int32_zero : int32 (0 : ℕ) = 0 :=
  int32_of_range (by decide) (by decide)

theorem int32_succ (n : ℕ) : int32 (int32 n + 1) = int32 (n + 1 : ℕ) := by
  unfold int32
  rw [Int.bmod_add_bmod]
  rfl

structure Drawn (lock : κ → σ) (s : State κ σ π) : Prop where
  binary : ∀ l, Binary (s.sem l) (s.inside lock l)
  numbered : ∀ c, s.shown c = numbersTo (s.shown c).length
  loaded : ∀ p c value, s.drawer p = some (c, .store value) → value = s.counter c
  printing : ∀ p c value, s.drawer p = some (c, .print value) →
    value = int32 (s.shown c).length ∧ s.counter c = int32 ((s.shown c).length + 1 : ℕ)
  quiet : ∀ c, (∀ p value, s.drawer p ≠ some (c, .print value)) →
    s.counter c = int32 (s.shown c).length

/-- At first nobody is inside. -/
theorem start_drawer {joined : π → Option κ} {p : π} {c : κ} {pc : Pc}
    (here : (start joined : State κ σ π).drawer p = some (c, pc)) : pc = .wait := by
  obtain ⟨_, _, found⟩ := Option.map_eq_some_iff.mp here
  cases found
  rfl

theorem drawn_start (joined : π → Option κ) : Drawn lock (start joined : State κ σ π) where
  binary := fun l => Binary.init fun p => by
    unfold State.inside
    split
    · rename_i here
      rw [start_drawer here]
      rfl
    · rfl
  numbered := fun _ => rfl
  loaded := fun p c value here => by cases start_drawer here
  printing := fun p c value here => by cases start_drawer here
  quiet := fun _ _ => int32_zero.symm

section Steps

variable {s s' : State κ σ π} {p : π} {c : κ} {pc pc' : Pc}

theorem inside_own (here : s.drawer p = some (c, pc)) (l : σ) :
    s.inside lock l p = (pc.inside && decide (lock c = l)) := by
  unfold State.inside
  rw [here]

/-- Only the process that moves enters or leaves. -/
theorem inside_others (drawer : s'.drawer = Function.update s.drawer p (some (c, pc))) (l : σ) :
    ∀ q, q ≠ p → s'.inside lock l q = s.inside lock l q := by
  intro q ne
  unfold State.inside
  rw [drawer, Function.update_of_ne ne]

theorem drawer_own (drawer : s'.drawer = Function.update s.drawer p (some (c, pc))) :
    s'.drawer p = some (c, pc) := by
  rw [drawer, Function.update_self]

/-- The semaphores, where none is waited for or posted. -/
theorem Drawn.keepBinary (drawn : Drawn lock s)
    (drawer : s'.drawer = Function.update s.drawer p (some (c, pc))) (sem : s'.sem = s.sem)
    (same : ∀ l, s.inside lock l p = (pc.inside && decide (lock c = l))) (l : σ) :
    Binary (s'.sem l) (s'.inside lock l) := by
  rw [sem]
  refine (drawn.binary l).keep fun q => ?_
  by_cases own : q = p
  · rw [own, inside_own (drawer_own drawer), same]
  · exact inside_others drawer l q own

/-- **Nobody else is at the counter** of a process that is inside. -/
theorem Drawn.alone (drawn : Drawn lock s) (here : s.drawer p = some (c, pc))
    (inside : pc.inside = true) {q : π} {pc' : Pc} (there : s.drawer q = some (c, pc'))
    (inside' : pc'.inside = true) : q = p := by
  have first : s.inside lock (lock c) p = true := by
    rw [inside_own here, inside, decide_eq_true rfl]
    rfl
  have second : s.inside lock (lock c) q = true := by
    rw [inside_own there, inside', decide_eq_true rfl]
    rfl
  exact (drawn.binary (lock c)).unique second first

/-- The process waits for its semaphore, or posts it: the others are not touched. -/
theorem Drawn.otherBinary (drawn : Drawn lock s)
    (drawer : s'.drawer = Function.update s.drawer p (some (c, pc'))) {value : ℕ}
    (sem : s'.sem = Function.update s.sem (lock c) value) (here : s.drawer p = some (c, pc)) (l : σ)
    (other : l ≠ lock c) : Binary (s'.sem l) (s'.inside lock l) := by
  rw [sem, Function.update_of_ne other]
  refine (drawn.binary l).keep fun q => ?_
  by_cases own : q = p
  · rw [own, inside_own (drawer_own drawer), inside_own here, decide_eq_false (Ne.symm other),
      Bool.and_false, Bool.and_false]
  · exact inside_others drawer l q own

/-- A process that is neither about to store nor about to show a number moves, and the counters and
what has been shown stay. -/
theorem Drawn.moved (drawn : Drawn lock s) (binary : ∀ l, Binary (s'.sem l) (s'.inside lock l))
    (drawer : s'.drawer = Function.update s.drawer p (some (c, pc')))
    (counter : s'.counter = s.counter) (shown : s'.shown = s.shown)
    (before : ∀ d value, s.drawer p ≠ some (d, .print value))
    (loaded : ∀ value, pc' = .store value → value = s.counter c)
    (after : ∀ value, pc' ≠ .print value) : Drawn lock s' := by
  have others : ∀ {q d x}, s'.drawer q = some (d, x) →
      (q = p ∧ d = c ∧ x = pc') ∨ s.drawer q = some (d, x) := by
    intro q d x there
    rw [drawer] at there
    by_cases own : q = p
    · rw [own, Function.update_self] at there
      cases there
      exact .inl ⟨own, rfl, rfl⟩
    · rw [Function.update_of_ne own] at there
      exact .inr there
  refine ⟨binary, ?_, fun q d value there => ?_, fun q d value there => ?_, fun d nobody => ?_⟩
  · rw [shown]
    exact drawn.numbered
  · rw [counter]
    rcases others there with ⟨_, rfl, now⟩ | there
    · exact loaded value now.symm
    · exact drawn.loaded q d value there
  · rw [counter, shown]
    rcases others there with ⟨_, _, now⟩ | there
    · exact absurd now.symm (after value)
    · exact drawn.printing q d value there
  · rw [counter, shown]
    refine drawn.quiet d fun q value there => ?_
    by_cases own : q = p
    · exact before d value (own ▸ there)
    · refine nobody q value ?_
      rw [drawer, Function.update_of_ne own]
      exact there

/-- **The counter is written**: nobody has drawn since it was read. -/
theorem Drawn.store (drawn : Drawn lock s) {value : ℤ}
    (here : s.drawer p = some (c, .store value)) :
    Drawn lock { s.move p c (.print value) with
      counter := Function.update s.counter c (int32 (value + 1)) } := by
  have alone : ∀ {q x}, s.drawer q = some (c, x) → x.inside = true → q = p := fun there inside =>
    drawn.alone here rfl there inside
  have current : s.counter c = int32 (s.shown c).length := by
    refine drawn.quiet c fun q value there => ?_
    have own := alone there rfl
    rw [own, here] at there
    cases there
  have own : (s.move p c (.print value)).drawer p = some (c, .print value) :=
    Function.update_self ..
  have away : ∀ {q}, q ≠ p → (s.move p c (.print value)).drawer q = s.drawer q := fun ne =>
    Function.update_of_ne ne ..
  have read : value = int32 (s.shown c).length := (drawn.loaded p c value here).trans current
  have written : int32 (value + 1) = int32 ((s.shown c).length + 1 : ℕ) := by
    rw [read]
    exact int32_succ _
  refine ⟨drawn.keepBinary rfl rfl fun l => inside_own here l, drawn.numbered,
    fun q d v there => ?_, fun q d v there => ?_, fun d nobody => ?_⟩
  · have there : (s.move p c (.print value)).drawer q = some (d, .store v) := there
    by_cases mover : q = p
    · rw [mover, own] at there
      cases there
    · rw [away mover] at there
      have other : d ≠ c := fun same => mover (alone (same ▸ there) rfl)
      show v = Function.update s.counter c _ d
      rw [Function.update_of_ne other]
      exact drawn.loaded q d v there
  · have there : (s.move p c (.print value)).drawer q = some (d, .print v) := there
    show v = int32 (s.shown d).length ∧
      Function.update s.counter c _ d = int32 ((s.shown d).length + 1 : ℕ)
    by_cases mover : q = p
    · rw [mover, own] at there
      cases there
      rw [Function.update_self]
      exact ⟨read, written⟩
    · rw [away mover] at there
      have other : d ≠ c := fun same => mover (alone (same ▸ there) rfl)
      rw [Function.update_of_ne other]
      exact drawn.printing q d v there
  · have other : d ≠ c := by
      rintro rfl
      exact nobody p value own
    show Function.update s.counter c _ d = _
    rw [Function.update_of_ne other]
    refine drawn.quiet d fun q v there => ?_
    have mover : q ≠ p := by
      rintro rfl
      rw [here] at there
      cases there
    exact nobody q v ((away mover).trans there)

/-- **The number is shown**, and it is the next one. -/
theorem Drawn.print (drawn : Drawn lock s) {value : ℤ}
    (here : s.drawer p = some (c, .print value)) :
    Drawn lock { s.move p c .post with
      shown := Function.update s.shown c (s.shown c ++ [value]) } := by
  obtain ⟨next, counter⟩ := drawn.printing p c value here
  have alone : ∀ {q x}, s.drawer q = some (c, x) → x.inside = true → q = p := fun there inside =>
    drawn.alone here rfl there inside
  have own : (s.move p c .post).drawer p = some (c, .post) := Function.update_self ..
  have away : ∀ {q}, q ≠ p → (s.move p c .post).drawer q = s.drawer q := fun ne =>
    Function.update_of_ne ne ..
  have length : (s.shown c ++ [value]).length = (s.shown c).length + 1 := List.length_append
  refine ⟨drawn.keepBinary rfl rfl fun l => inside_own here l, fun d => ?_,
    fun q d v there => ?_, fun q d v there => ?_, fun d nobody => ?_⟩
  · show Function.update s.shown c _ d = numbersTo (Function.update s.shown c _ d).length
    by_cases same : d = c
    · rw [same, Function.update_self, length, numbersTo_succ, ← drawn.numbered c, next]
    · rw [Function.update_of_ne same]
      exact drawn.numbered d
  · have there : (s.move p c .post).drawer q = some (d, .store v) := there
    by_cases mover : q = p
    · rw [mover, own] at there
      cases there
    · rw [away mover] at there
      exact drawn.loaded q d v there
  · have there : (s.move p c .post).drawer q = some (d, .print v) := there
    by_cases mover : q = p
    · rw [mover, own] at there
      cases there
    · rw [away mover] at there
      have other : d ≠ c := fun same => mover (alone (same ▸ there) rfl)
      show v = int32 (Function.update s.shown c _ d).length ∧
        s.counter d = int32 ((Function.update s.shown c _ d).length + 1 : ℕ)
      rw [Function.update_of_ne other]
      exact drawn.printing q d v there
  · show s.counter d = int32 (Function.update s.shown c _ d).length
    by_cases same : d = c
    · rw [same, Function.update_self, length]
      exact counter
    · rw [Function.update_of_ne same]
      refine drawn.quiet d fun q v there => ?_
      have mover : q ≠ p := by
        rintro rfl
        rw [here] at there
        cases there
        exact same rfl
      exact nobody q v ((away mover).trans there)

/-- **Every step keeps it.** -/
theorem Drawn.step {action : Act κ π} (drawn : Drawn lock s) (step : s.step lock action = some s') :
    Drawn lock s' := by
  unfold State.step at step
  split at step
  case h_1 p d =>
    split at step
    case h_1 here =>
      cases step
      have outside : ∀ l, s.inside lock l p = false := fun l => by
        unfold State.inside
        rw [here]
      exact drawn.moved (drawn.keepBinary rfl rfl outside) rfl rfl rfl
        (fun _ _ there => by rw [here] at there; cases there) nofun nofun
    case h_2 => cases step
  case h_2 p =>
    split at step
    case h_1 c here =>
      split at step
      case isTrue positive =>
        cases step
        refine drawn.moved (fun l => ?_) rfl rfl rfl
          (fun _ _ there => by rw [here] at there; cases there) nofun nofun
        by_cases mine : l = lock c
        · rw [mine]
          show Binary (Function.update s.sem (lock c) _ (lock c)) _
          rw [Function.update_self]
          refine (drawn.binary (lock c)).wait (t := p) positive ?_ (inside_others rfl _)
          rw [inside_own (drawer_own rfl), decide_eq_true rfl]
          rfl
        · exact drawn.otherBinary rfl rfl here l mine
      case isFalse => cases step
    case h_2 c here =>
      cases step
      refine drawn.moved (drawn.keepBinary rfl rfl fun l => inside_own here l) rfl rfl rfl
        (fun _ _ there => by rw [here] at there; cases there) ?_ nofun
      rintro value ⟨⟩
      rfl
    case h_3 c value here =>
      cases step
      exact drawn.store here
    case h_4 c value here =>
      cases step
      exact drawn.print here
    case h_5 c here =>
      cases step
      refine drawn.moved (fun l => ?_) rfl rfl rfl
        (fun _ _ there => by rw [here] at there; cases there) nofun nofun
      by_cases mine : l = lock c
      · rw [mine]
        show Binary (Function.update s.sem (lock c) _ (lock c)) _
        rw [Function.update_self]
        refine (drawn.binary (lock c)).post (t := p) ?_ ?_ (inside_others rfl _)
        · rw [inside_own here, decide_eq_true rfl]
          rfl
        · rw [inside_own (drawer_own rfl)]
          rfl
      · exact drawn.otherBinary rfl rfl here l mine
    case h_6 => cases step

end Steps

/-- **The numbers of a counter are drawn in order**, each once. -/
theorem drawn_of_reachable {joined : π → Option κ} {ok : State κ σ π → Act κ π → Prop}
    {s : State κ σ π} (reachable : (machine lock joined).Reachable ok s) : Drawn lock s :=
  reachable.induct (drawn_start joined) fun _ _ _ _ drawn _ step => drawn.step step

end Interleaving.Tickets
