/-
**A process of `prodcons1` that dies leaves its names behind.**

As long as nobody runs `semunlink`, a name leads to the semaphore of the process that took it until
that process removes it (`Leads`): one with items to put gets to its `sem_unlink` only with all
three semaphores, so it removes no name but its own.

* `stale_names` — a name whose process has been killed is taken for ever, and **no process that
  comes to it later ends**: each is killed as well.
-/

import Unpvol2.Prodcons1.Runs

set_option linter.unusedSectionVars false

namespace Unpvol2.Prodcons1

open Interleaving

variable {ι : Type} [DecidableEq ι] {nitems : ι → ℤ} {s s' : State ι}

/-- Nobody removes a name by hand. -/
def NoUnlink (_ : State ι) : Act ι → Prop
  | .semunlink _ => False
  | _ => True

instance (s : State ι) : DecidablePred (NoUnlink s)
  | .semunlink _ => isFalse id
  | .main _ | .produce _ | .consume _ | .kill _ => isTrue trivial

/-- `main` has not removed the name. -/
def MainPc.keeps : MainPc → Name → Bool
  | .unlink .nempty, name => decide (name ≠ .mutex)
  | .unlink .nstored, name => decide (name = .nstored)
  | .exited, _ => false
  | _, _ => true

/-- A process has only semaphores that its `main` has asked for. -/
def Process.Asked (x : Process) : Prop :=
  ∀ name, x.opened name = true → x.main.has name = true

theorem Process.Asked.step {n : ℤ} {x x' : Process} {move : Move} (asked : x.Asked)
    (step : Process.Step n x move x') : x'.Asked := by
  intro name opened
  cases step with
  | openSem name' here =>
    by_cases same : name = name'
    · subst same
      cases name <;> rfl
    · have has := asked name ((Function.update_of_ne same _ _).symm.trans opened)
      rw [here] at has
      cases name <;> cases name' <;> first | exact absurd rfl same | rfl | cases has
  | failed name' here =>
    have has := asked name opened
    rw [here] at has
    cases name <;> cases name' <;> first | rfl | cases has
  | unlink taken name' here =>
    cases name' <;> rfl
  | createProduce | createConsume | joinProduce | joinConsume => rfl
  | _ => exact asked name opened

/-- **A name leads to the process that has made its semaphore**, until that process removes it. -/
structure Leads (s : State ι) : Prop where
  asked : ∀ p, (s.process p).Asked
  leads : ∀ p name, (s.process p).opened name = true → (s.process p).main.keeps name = true →
    s.name name = some p

theorem leads_start : Leads (start : State ι) :=
  ⟨fun p name opened => (by cases opened), fun p name opened => (by cases opened)⟩

/-- A step of one process, seen from the names. -/
theorem Leads.moved (leads : Leads s) {p : ι} {x : Process} {names : Name → Option ι}
    (asked : x.Asked)
    (own : ∀ name, x.opened name = true → x.main.keeps name = true → names name = some p)
    (others : ∀ q name, q ≠ p → s.name name = some q → names name = some q) :
    Leads ⟨names, Function.update s.process p x⟩ := by
  refine ⟨fun q => ?_, fun q name => ?_⟩ <;> by_cases same : q = p
  · subst same
    show Process.Asked (Function.update s.process q x q)
    rw [Function.update_self]
    exact asked
  · show Process.Asked (Function.update s.process p x q)
    rw [Function.update_of_ne same]
    exact leads.asked q
  · subst same
    show (Function.update s.process q x q).opened name = true →
      (Function.update s.process q x q).main.keeps name = true → names name = some q
    rw [Function.update_self]
    exact own name
  · show (Function.update s.process p x q).opened name = true →
      (Function.update s.process p x q).main.keeps name = true → names name = some q
    rw [Function.update_of_ne same]
    exact fun opened kept => others q name same (leads.leads q name opened kept)

/-- A thread or a signal moves. -/
theorem Leads.threads (leads : Leads s) {p : ι} {x : Process} {move : Move}
    (step : Process.Step (nitems p) (s.process p) move x) (thread : ∀ taken, move ≠ .main taken) :
    Leads { s with process := Function.update s.process p x } := by
  refine leads.moved ((leads.asked p).step step) ?_ fun q name _ found => found
  cases step with
  | openSem | failed | createProduce | createConsume | joinProduce | joinConsume | unlink =>
    exact absurd rfl (thread _)
  | _ => exact leads.leads p

/-- **Nobody but its process removes a name.** -/
theorem Leads.names (leads : Leads s) {p q : ι} {name : Name} (positive : 0 < nitems p)
    (kept : (s.process p).Kept (nitems p)) (ne : q ≠ p) (found : s.name name = some q) :
    (s.process p).main.names p s.name name = some q := by
  cases here : (s.process p).main with
  | openSem opens =>
    show (if s.name opens = none then Function.update s.name opens (some p) else s.name) name = _
    split
    · rename_i free
      have other : name ≠ opens := fun same => by
        rw [same, free] at found
        cases found
      rw [Function.update_of_ne other]
      exact found
    · exact found
  | unlink removes =>
    -- whoever is here has made the semaphore itself
    have own : s.name removes = some p := by
      refine leads.leads p removes ?_ (by rw [here]; cases removes <;> rfl)
      have returned := kept.range.joinedProduce (by rw [here]; rfl)
      have all := kept.range.produced returned
      exact kept.opens.put (by omega) removes
    have other : name ≠ removes := fun same => by
      rw [same, own] at found
      exact ne (Option.some.inj found).symm
    exact (Function.update_of_ne other _ _).trans found
  | createProduce | createConsume | joinProduce | joinConsume | exited => exact found

/-- `main` moves. -/
theorem Leads.main (leads : Leads s) {p : ι} {x : Process} (positive : 0 < nitems p)
    (kept : (s.process p).Kept (nitems p))
    (step : Process.Step (nitems p) (s.process p)
      (.main ((s.process p).main.taken s.name)) x) :
    Leads ⟨(s.process p).main.names p s.name, Function.update s.process p x⟩ := by
  refine leads.moved ((leads.asked p).step step) ?_ fun q name ne =>
    leads.names positive kept ne
  have lead := leads.leads p
  generalize told : (s.process p).main.taken s.name = taken at step
  cases step with
  | openSem name here =>
    rw [here] at told lead ⊢
    have free : s.name name = none := Option.not_isSome_iff_eq_none.mp (Bool.eq_false_iff.mp told)
    have names : (MainPc.openSem name).names p s.name = Function.update s.name name (some p) :=
      if_pos free
    rw [names]
    intro other opened _
    by_cases same : other = name
    · rw [same, Function.update_self]
    · rw [Function.update_of_ne same]
      exact lead other ((Function.update_of_ne same _ _).symm.trans opened) rfl
  | failed name here =>
    rw [here] at told lead ⊢
    have used : s.name name ≠ none := Option.isSome_iff_ne_none.mp told
    have names : (MainPc.openSem name).names p s.name = s.name := if_neg used
    rw [names]
    exact fun other opened _ => lead other opened rfl
  | unlink taken name here =>
    rw [here] at lead ⊢
    intro other opened kept
    have later : other ≠ name ∧ (MainPc.unlink name).keeps other = true := by
      have kept : name.unlinks.keeps other = true := kept
      revert kept
      cases name <;> cases other <;> decide
    exact (Function.update_of_ne later.1 _ _).trans (lead other opened later.2)
  | createProduce taken here | createConsume taken here | joinProduce taken here
  | joinConsume taken here =>
    rw [here] at lead ⊢
    exact fun name opened _ => lead name opened rfl
  | die move doomed => exact doomed.elim

/-- A process that does not have the semaphore does not get it. -/
theorem lacks_step {n : ℤ} {x x' : Process} {move : Move} {name : Name}
    (lacks : x.opened name = false) (step : Process.Step n x move x')
    (told : x.main = .openSem name → move ≠ .main false) : x'.opened name = false := by
  cases step with
  | openSem other here =>
    have ne : name ≠ other := fun same => told (same ▸ here) rfl
    exact (Function.update_of_ne ne _ _).trans lacks
  | _ => exact lacks

/-- The name is taken, its process is dead, and process `q` does not have the semaphore. -/
structure Stale (s : State ι) (name : Name) (p q : ι) : Prop where
  dead : (s.process p).killed = true
  owned : s.name name = some p
  lacks : (s.process q).opened name = false

section Stale

variable (positive : ∀ p, 0 < nitems p)

include positive

theorem reachable_leads (reachable : (machine nitems).Reachable NoUnlink s) : Leads s := by
  refine reachable.induct leads_start ?_
  intro s action s' reachable leads allowed step
  have thread : ∀ {p : ι} {move : Move} {s' : State ι}, s.move nitems p move = some s' →
      (∀ taken, move ≠ .main taken) → Leads s' := by
    intro p move s' moved thread
    obtain ⟨x, step, rfl⟩ := move_cases moved
    exact leads.threads (Process.step_cases step).2 thread
  cases action with
  | main p =>
    obtain ⟨s'', moved, rfl⟩ := Option.map_eq_some_iff.mp step
    obtain ⟨x, ran, rfl⟩ := move_cases moved
    exact leads.main (positive p) (reachable_kept reachable p) (Process.step_cases ran).2
  | produce p | consume p | kill p => exact thread step fun _ same => by cases same
  | semunlink name => exact allowed.elim

theorem Stale.step {name : Name} {p q : ι} {action : Act ι} (stale : Stale s name p q)
    (reachable : (machine nitems).Reachable NoUnlink s) (allowed : NoUnlink s action)
    (step : (machine nitems).step s action = some s') : Stale s' name p q := by
  have leads := reachable_leads positive reachable
  -- a step of another process, with the names after it
  have other : ∀ {r : ι} {move : Move} {x : Process} {names : Name → Option ι},
      (s.process r).step (nitems r) move = some x → (r ≠ p → names name = some p) →
      ((s.process r).main = .openSem name → move ≠ .main false) →
      Stale ⟨names, Function.update s.process r x⟩ name p q := by
    intro r move x names step names told
    have alive : r ≠ p := by
      rintro rfl
      have running := (Process.step_cases step).1
      unfold Process.ended at running
      rw [stale.dead] at running
      cases running
    refine ⟨?_, names alive, ?_⟩
    · show (Function.update s.process r x p).killed = true
      rw [Function.update_of_ne alive.symm]
      exact stale.dead
    · show (Function.update s.process r x q).opened name = false
      by_cases same : q = r
      · subst same
        rw [Function.update_self]
        exact lacks_step stale.lacks (Process.step_cases step).2 told
      · rw [Function.update_of_ne same]
        exact stale.lacks
  cases action with
  | main r =>
    obtain ⟨s'', moved, rfl⟩ := Option.map_eq_some_iff.mp step
    obtain ⟨x, ran, rfl⟩ := move_cases moved
    refine other ran (fun alive => leads.names (positive r) (reachable_kept reachable r)
      alive.symm stale.owned) fun here => ?_
    rw [here]
    show Move.main (s.name name).isSome ≠ .main false
    rw [stale.owned]
    exact nofun
  | produce r | consume r | kill r =>
    obtain ⟨x, ran, rfl⟩ := move_cases step
    exact other ran (fun _ => stale.owned) fun _ same => by cases same
  | semunlink name => exact allowed.elim

/-- **A name that a dead process has left stays taken, and whoever comes to it later does not end
either**: it stands still only once it has been killed too. -/
theorem stale_names {name : Name} {p q : ι} (reachable : (machine nitems).Reachable NoUnlink s)
    (dead : (s.process p).killed = true) (owned : s.name name = some p)
    (before : (s.process q).main.has name = false)
    (run : (machine nitems).Reaches NoUnlink s s') :
    s'.name name = some p ∧ (s'.process q).main ≠ .exited ∧
      (Stuck nitems s' → (s'.process q).killed = true) := by
  have lacks : (s.process q).opened name = false := by
    by_contra has
    rw [(reachable_leads positive reachable).asked q name (Bool.of_not_eq_false has)] at before
    cases before
  obtain ⟨reachable', stale⟩ :
      (machine nitems).Reachable NoUnlink s' ∧ Stale s' name p q := by
    refine run.induct (I := fun s => (machine nitems).Reachable NoUnlink s ∧ Stale s name p q) ?_
      ⟨reachable, dead, owned, lacks⟩
    rintro s action s' ⟨reachable, stale⟩ allowed step
    exact ⟨reachable.next allowed step, stale.step positive reachable allowed step⟩
  have works := prodcons1_runs (reachable'.mono fun _ _ _ => trivial) q
  have going : (s'.process q).main ≠ .exited := fun exited => by
    have lacks := stale.lacks
    rw [(works.2.1 exited).1 (positive q) name] at lacks
    cases lacks
  exact ⟨stale.owned, going, fun stuck => (works.2.2 stuck).resolve_left going⟩

end Stale

/-- The first process is killed when it has made one semaphore, and the second one comes. -/
def killedEarly (p : ι) : List (Act ι) := [.main p, .kill p]

def comesLater (q : ι) : List (Act ι) := List.replicate 5 (.main q) ++ List.replicate 3 (.produce q)

theorem stale_names_killedEarly :
    (((machine fun _ : Fin 2 => 1).after (killedEarly 0 ++ comesLater 1)).process 1).main ≠
      .exited := by
  have ran : (machine fun _ : Fin 2 => 1).run ((machine fun _ : Fin 2 => 1).after (killedEarly 0))
      (comesLater 1) =
        some ((machine fun _ : Fin 2 => 1).after (killedEarly 0 ++ comesLater 1)) := by
    rfl
  exact (stale_names (fun _ => by decide) (Machine.reachable_after (by decide) (by decide))
    (by decide : (((machine fun _ : Fin 2 => 1).after (killedEarly 0)).process 0).killed = true)
    (by decide : ((machine fun _ : Fin 2 => 1).after (killedEarly 0)).name .mutex = some 0)
    (by decide : (((machine fun _ : Fin 2 => 1).after (killedEarly 0)).process 1).main.has .mutex =
      false)
    (Machine.reaches_of_run ran (by decide))).2.1

end Unpvol2.Prodcons1
