/-
**What the server reports of the overflows.**

`noverflow` is a `long`, and the server keeps it in the `int`s `temp` and `lastnoverflow`: it prints
`temp`, and compares `temp` with what it has printed last.

* `Watch` — the counts as they are in memory when the server reads them, iteration by iteration.
* `Truthful` — what is printed is the count, the counts printed increase, and no change is missed.
* `Representable` — the count is an `int`, and not below one that has been printed; the latter only
  fails once the `long` itself has wrapped.
* `truthful_iff` — **exactly the runs whose counts are representable are reported truthfully.**
-/

import Unpvol2.Ring.Tokens

set_option linter.unusedSectionVars false

namespace Unpvol2.Ring

open C Interleaving

variable {ι : Type} [DecidableEq ι]

/-! ### The observer -/

/-- An iteration of the server: `ptr->noverflow` as it was read, as it was at the last read that was
printed, and what is printed now. -/
structure Iteration where
  count : ℤ
  shown : ℤ
  printed : Option ℤ
deriving DecidableEq

/-- The count at the server's last read and at the last one that was printed, and the iterations so
far. -/
structure Watch where
  count : ℤ
  shown : ℤ
  iterations : List Iteration

/-- The server moves. -/
def Watch.serverMoves (w : Watch) (s s' : State ι) : Watch :=
  match s.server.pc with
  | .overflowRead => { w with count := s.noverflow }
  | .overflowTest =>
    let printed := s'.overflows[s.overflows.length]?
    ⟨w.count, if printed.isSome then w.count else w.shown,
      w.iterations ++ [⟨w.count, w.shown, printed⟩]⟩
  | _ => w

def Watch.note (w : Watch) (s : State ι) (action : Act ι) (s' : State ι) : Watch :=
  match action with
  | .client _ => w
  | .server => w.serverMoves s s'

/-- The ring under observation. -/
def reports (args : ι → Args) : Machine (State ι × Watch) (Act ι) :=
  (machine args).watched ⟨0, 0, []⟩ Watch.note

/-! ### The property and the condition -/

/-- **The server tells the truth**: it prints counts as they were read, larger and larger ones, and
prints whenever the count is another one than at the last print. -/
structure Truthful (s : State ι × Watch) : Prop where
  prints : ∀ x ∈ s.2.iterations, ∀ v, x.printed = some v → v = x.count
  increasing : s.1.overflows.Pairwise (· < ·)
  notices : ∀ x ∈ s.2.iterations, x.count ≠ x.shown → x.printed.isSome = true

/-- The count that is tested is the value of an `int`, and not below one that has been printed. -/
def Representable (s : State ι × Watch) : Act ι → Prop
  | .client _ => True
  | .server => s.1.server.pc = .overflowTest →
      -2 ^ 31 ≤ s.2.count ∧ s.2.count < 2 ^ 31 ∧ ∀ v ∈ s.1.overflows, v ≤ s.2.count

/-! ### The invariant -/

/-- The server has read the count, and not yet tested it. -/
def ServerPc.counted : ServerPc → Bool
  | .overflowPost | .overflowTest => true
  | _ => false

/-- What the server knows of the counts, when it has told the truth so far. -/
structure Reports (s : State ι × Watch) : Prop where
  truthful : Truthful s
  shown : s.1.server.lastnoverflow = s.2.shown
  below : ∀ v ∈ s.1.overflows, v ≤ s.2.shown ∧ s.2.shown ∈ s.1.overflows
  temp : s.1.server.pc.counted = true → s.1.server.temp = int32 s.2.count

theorem reports_start (args : ι → Args) : Reports (reports args).init where
  truthful := ⟨nofun, List.Pairwise.nil, nofun⟩
  shown := rfl
  below := nofun
  temp := nofun

section Steps

variable {s t : State ι × Watch}

/-- A step that reports nothing. -/
theorem Reports.keep (reports : Reports s) (iterations : t.2.iterations = s.2.iterations)
    (shown : t.2.shown = s.2.shown) (overflows : t.1.overflows = s.1.overflows)
    (last : t.1.server.lastnoverflow = s.1.server.lastnoverflow)
    (temp : t.1.server.pc.counted = true → t.1.server.temp = int32 t.2.count) : Reports t where
  truthful := by
    obtain ⟨prints, increasing, notices⟩ := reports.truthful
    refine ⟨?_, ?_, ?_⟩
    · rw [iterations]
      exact prints
    · rw [overflows]
      exact increasing
    · rw [iterations]
      exact notices
  shown := by
    rw [last, shown]
    exact reports.shown
  below := by
    rw [overflows, shown]
    exact reports.below
  temp := temp

theorem step_overflowTest (args : ι → Args) {s : State ι} (here : s.server.pc = .overflowTest) :
    (machine args).step s .server = some s.overflowTest := by
  show s.serverStep = _
  unfold State.serverStep
  rw [here]

/-- What the test of the counts makes of the observation. -/
theorem overflowTest_note (here : s.1.server.pc = .overflowTest) :
    s.2.note s.1 .server s.1.overflowTest =
      if s.1.server.temp ≠ s.1.server.lastnoverflow then
        ⟨s.2.count, s.2.count,
          s.2.iterations ++ [⟨s.2.count, s.2.shown, some s.1.server.temp⟩]⟩
      else ⟨s.2.count, s.2.shown, s.2.iterations ++ [⟨s.2.count, s.2.shown, none⟩]⟩ := by
  unfold Watch.note Watch.serverMoves State.overflowTest
  simp only [here]
  split
  · simp
  · simp [State.serverTo]

/-- The state after the server has told the truth once more. -/
theorem Reports.printed (reports : Reports s) (here : s.1.server.pc = .overflowTest)
    (other : s.1.server.temp ≠ s.1.server.lastnoverflow)
    (representable : Representable s .server) :
    Reports (s.1.overflowTest, s.2.note s.1 .server s.1.overflowTest) := by
  obtain ⟨low, high, above⟩ := representable here
  have temp : s.1.server.temp = s.2.count := by
    rw [reports.temp (by rw [here]; rfl)]
    exact int32_of_range low high
  have larger : ∀ v ∈ s.1.overflows, v < s.1.server.temp := by
    intro v member
    obtain ⟨le, there⟩ := reports.below v member
    have latest := above _ there
    have ne := reports.shown ▸ other
    omega
  obtain ⟨prints, increasing, notices⟩ := reports.truthful
  rw [overflowTest_note here, if_pos other]
  unfold State.overflowTest
  rw [if_pos other]
  refine ⟨⟨?_, ?_, ?_⟩, ?_, ?_, nofun⟩
  · intro x member v shown
    rcases List.mem_append.mp member with old | new
    · exact prints x old v shown
    · cases List.mem_singleton.mp new
      cases shown
      exact temp
  · refine List.pairwise_append.mpr ⟨increasing, List.pairwise_singleton _ _, ?_⟩
    intro v member u new
    cases List.mem_singleton.mp new
    exact larger v member
  · intro x member ne
    rcases List.mem_append.mp member with old | new
    · exact notices x old ne
    · cases List.mem_singleton.mp new
      rfl
  · exact temp
  · intro v member
    refine ⟨?_, ?_⟩
    · show v ≤ s.2.count
      rcases List.mem_append.mp member with old | new
      · exact above v old
      · rw [List.mem_singleton.mp new, temp]
    · show s.2.count ∈ s.1.overflows ++ [s.1.server.temp]
      rw [temp]
      exact List.mem_append_right _ (List.mem_singleton_self _)

/-- The state after the server has found no change. -/
theorem Reports.unchanged (reports : Reports s) (here : s.1.server.pc = .overflowTest)
    (same : s.1.server.temp = s.1.server.lastnoverflow) (representable : Representable s .server) :
    Reports (s.1.overflowTest, s.2.note s.1 .server s.1.overflowTest) := by
  obtain ⟨low, high, _⟩ := representable here
  have count : s.2.count = s.2.shown := by
    rw [← reports.shown, ← same, reports.temp (by rw [here]; rfl)]
    exact (int32_of_range low high).symm
  obtain ⟨prints, increasing, notices⟩ := reports.truthful
  have silent : ¬ s.1.server.temp ≠ s.1.server.lastnoverflow := not_not.mpr same
  rw [overflowTest_note here, if_neg silent]
  unfold State.overflowTest
  rw [if_neg silent]
  refine ⟨⟨?_, increasing, ?_⟩, reports.shown, reports.below, nofun⟩
  · intro x member v shown
    rcases List.mem_append.mp member with old | new
    · exact prints x old v shown
    · cases List.mem_singleton.mp new
      cases shown
  · intro x member ne
    rcases List.mem_append.mp member with old | new
    · exact notices x old ne
    · cases List.mem_singleton.mp new
      exact absurd count ne

/-- **Every step of representable counts keeps the reports true.** -/
theorem Reports.step {action : Act ι} (reports : Reports s) (representable : Representable s action)
    (step : Step s.1 action t.1) (note : t.2 = s.2.note s.1 action t.1) : Reports t := by
  obtain ⟨s', w'⟩ := t
  have note : w' = s.2.note s.1 action s' := note
  have quiet : s.1.server.pc ≠ .overflowRead → s.1.server.pc ≠ .overflowTest →
      s.2.note s.1 .server s' = s.2 := by
    intro reads tests
    show s.2.serverMoves s.1 s' = s.2
    unfold Watch.serverMoves
    split
    · exact absurd ‹_› reads
    · exact absurd ‹_› tests
    · rfl
  cases step with
  | compose | exit | take | overflow | overflowWait | overflowLoad | overflowStore | overflowPost
  | lock | grab | unlock | copy | post =>
    cases note
    exact reports.keep rfl rfl rfl rfl reports.temp
  | serverTake here | serverLock here | print here | serverUnlock here | postEmpty here
  | serverOverflowWait here =>
    rw [quiet (by rw [here]; nofun) (by rw [here]; nofun)] at note
    cases note
    exact reports.keep rfl rfl rfl rfl nofun
  | serverOverflowRead here =>
    unfold Watch.note Watch.serverMoves at note
    simp only [here] at note
    cases note
    exact reports.keep rfl rfl rfl rfl fun _ => rfl
  | serverOverflowPost here =>
    rw [quiet (by rw [here]; nofun) (by rw [here]; nofun)] at note
    cases note
    exact reports.keep rfl rfl rfl rfl fun _ => reports.temp (by rw [here]; rfl)
  | serverOverflowTest here =>
    cases note
    by_cases same : s.1.server.temp = s.1.server.lastnoverflow
    · exact reports.unchanged here same representable
    · exact reports.printed here same representable

/-- What the next iteration has to say of its count, if it is to be true. -/
theorem representable_of_truthful (reports : Reports s) (here : s.1.server.pc = .overflowTest)
    (truthful : Truthful (s.1.overflowTest, s.2.note s.1 .server s.1.overflowTest)) :
    -2 ^ 31 ≤ s.2.count ∧ s.2.count < 2 ^ 31 ∧ ∀ v ∈ s.1.overflows, v ≤ s.2.count := by
  have temp := reports.temp (by rw [here]; rfl)
  obtain ⟨low, high⟩ := int32_range s.2.count
  obtain ⟨prints, increasing, notices⟩ := truthful
  rw [overflowTest_note here] at prints notices
  by_cases same : s.1.server.temp = s.1.server.lastnoverflow
  · have silent : ¬ s.1.server.temp ≠ s.1.server.lastnoverflow := not_not.mpr same
    rw [if_neg silent] at notices
    have count : s.2.count = s.2.shown := by
      by_contra ne
      cases notices ⟨s.2.count, s.2.shown, none⟩
        (List.mem_append_right _ (List.mem_singleton_self _)) ne
    have value : s.2.count = int32 s.2.count := by
      rw [← temp, same, reports.shown]
      exact count
    refine ⟨by omega, by omega, fun v member => ?_⟩
    rw [count]
    exact (reports.below v member).1
  · rw [if_pos same] at prints
    have value : s.1.server.temp = s.2.count :=
      prints ⟨s.2.count, s.2.shown, some s.1.server.temp⟩
        (List.mem_append_right _ (List.mem_singleton_self _)) _ rfl
    unfold State.overflowTest at increasing
    rw [if_pos same] at increasing
    have larger := (List.pairwise_append.mp increasing).2.2
    refine ⟨by omega, by omega, fun v member => ?_⟩
    have below := larger v member _ (List.mem_singleton_self _)
    omega

end Steps

/-! ### The result -/

theorem reports_of_reachable {args : ι → Args} {s : State ι × Watch}
    (reachable : (reports args).Reachable Representable s) : Reports s := by
  refine reachable.induct (reports_start args) ?_
  intro s action t _ told representable step
  obtain ⟨step, note⟩ := Machine.watched_step step
  exact told.step representable (step_cases step) note

/-- **The server reports truthfully in exactly the runs in which every count it tests is
representable.** -/
theorem truthful_iff (args : ι → Args) (actions : List (Act ι)) :
    (reports args).Along Truthful (reports args).init actions ↔
      (reports args).Admitted Representable (reports args).init actions := by
  have admitted : ∀ s, (reports args).Reachable
      (fun s action => Anything s action ∧ Representable s action) s → Reports s :=
    fun s reachable =>
      reports_of_reachable (Machine.Reachable.mono (fun _ _ => And.right) reachable)
  refine Machine.along_iff_admitted (fun s reachable => (admitted s reachable).truthful) ?_
    (Machine.admitted_anything _ actions)
  intro s action reachable _ truthful
  cases action with
  | client c => trivial
  | server =>
    intro here
    exact representable_of_truthful (admitted s reachable) here
      (truthful _ (Machine.step_watched s.2 (step_overflowTest args here)))

/-! ### A count that no `int` holds -/

section Overflow

/-- `t` is `s` after `n` overflows of client `c`. -/
structure Overflowed (c : ι) (n : ℕ) (s t : State ι) : Prop where
  noverflow : t.noverflow = s.noverflow + n
  nempty : t.nempty = 0
  noverflowmutex : t.noverflowmutex = 1
  server : t.server = s.server
  pc : t.pc c = .loop
  i : (t.client c).i = (s.client c).i + n
  nloop : (t.client c).nloop = (s.client c).nloop
  others : ∀ d, d ≠ c → t.client d = s.client d

variable (args : ι → Args) {s : State ι} {c : ι} {w : Watch}

/-- A round of a client that finds the ring full. -/
theorem run_overflow (here : s.pc c = .loop) (more : ((s.client c).i : ℤ) < (s.client c).nloop)
    (full : s.nempty = 0) (free : s.noverflowmutex = 1) (nonneg : 0 ≤ s.noverflow)
    (small : s.noverflow + 1 < 2 ^ 63) :
    ∃ t, (reports args).run (s, w) (List.replicate 6 (.client c)) = some (t, w) ∧
      Overflowed c 1 s t := by
  have here : (s.client c).pc = .loop := here
  refine ⟨?after, ?ran, ?_⟩
  case ran =>
    simp only [reports, machine, Machine.watched, Machine.run, List.replicate, State.step,
      State.clientStep, Watch.note, here, more, State.compose, State.clientTo, State.round,
      State.pc, full, free, Function.update_self, Function.update_idem, Option.map_some,
      Option.bind_some, if_true, Nat.lt_irrefl, if_false, Nat.one_pos, Nat.sub_self, Nat.zero_add]
    rfl
  refine ⟨int64_of_range (by omega) small, rfl, rfl, rfl, ?_, ?_, ?_, fun d ne => ?_⟩
  · simp only [State.pc, Function.update_self]
  · simp only [Function.update_self]
  · simp only [Function.update_self]
  · simp only [Function.update_of_ne ne]

theorem Overflowed.next {n : ℕ} {t u : State ι} (first : Overflowed c n s t)
    (second : Overflowed c 1 t u) : Overflowed c (n + 1) s u where
  noverflow := by
    rw [second.noverflow, first.noverflow]
    push_cast
    omega
  nempty := second.nempty
  noverflowmutex := second.noverflowmutex
  server := second.server.trans first.server
  pc := second.pc
  i := by
    rw [second.i, first.i]
    omega
  nloop := second.nloop.trans first.nloop
  others := fun d ne => (second.others d ne).trans (first.others d ne)

/-- **A client goes on to overflow**, as often as it has rounds left. -/
theorem reaches_overflows (here : s.pc c = .loop) (full : s.nempty = 0)
    (free : s.noverflowmutex = 1) (nonneg : 0 ≤ s.noverflow) (n : ℕ)
    (more : ((s.client c).i : ℤ) + n ≤ (s.client c).nloop) (small : s.noverflow + n < 2 ^ 63) :
    ∃ t, (reports args).Reaches Anything (s, w) (t, w) ∧ Overflowed c n s t := by
  induction n with
  | zero =>
    refine ⟨s, Machine.Reaches.refl _, ?_, full, free, rfl, here, rfl, rfl, fun _ _ => rfl⟩
    simp
  | succ n ih =>
    push_cast at more small
    obtain ⟨t, reaches, overflowed⟩ := ih (by omega) (by omega)
    have noverflow := overflowed.noverflow
    have i := overflowed.i
    obtain ⟨u, ran, next⟩ := run_overflow args (w := w) overflowed.pc
      (by rw [overflowed.nloop]; omega) overflowed.nempty overflowed.noverflowmutex (by omega)
      (by omega)
    exact ⟨u, reaches.trans (Machine.reaches_of_run ran (Machine.admitted_anything _ _)),
      overflowed.next next⟩

/-- The server reads the count. -/
theorem run_read (here : s.server.pc = .overflowWait) (free : s.noverflowmutex = 1) :
    (reports args).run (s, w) (List.replicate 3 .server) =
      some ({ s with
          server := { s.server with pc := .overflowTest, temp := int32 s.noverflow }
          noverflowmutex := 1 }, { w with count := s.noverflow }) := by
  simp only [reports, machine, Machine.watched, Machine.run, List.replicate, State.step,
    State.serverStep, Watch.note, Watch.serverMoves, here, State.serverTo, free, Nat.one_pos,
    if_true, Option.map_some, Option.bind_some, Nat.sub_self, Nat.zero_add]

/-- **A count that is no `int` is not reported truthfully.** -/
theorem not_truthful {t : State ι} (here : t.server.pc = .overflowTest)
    (none : t.server.lastnoverflow = 0) (temp : t.server.temp = int32 w.count)
    (count : w.count = 2 ^ 31) :
    ¬ Truthful (t.overflowTest, w.note t .server t.overflowTest) := by
  rintro ⟨prints, _, _⟩
  have wrapped : int32 (2 ^ 31) = -2 ^ 31 := by decide
  have other : t.server.temp ≠ t.server.lastnoverflow := by
    rw [temp, count, none, wrapped]
    decide
  rw [overflowTest_note (s := (t, w)) here, if_pos other] at prints
  have value := prints ⟨w.count, w.shown, some t.server.temp⟩
    (List.mem_append_right _ (List.mem_singleton_self _)) _ rfl
  rw [temp, count, wrapped] at value
  have value : (-2 ^ 31 : ℤ) = 2 ^ 31 := value
  omega

/-- The server comes to a count that is no `int`. -/
theorem reaches_not_truthful (here : s.server.pc = .overflowWait)
    (none : s.server.lastnoverflow = 0) (free : s.noverflowmutex = 1)
    (count : s.noverflow = 2 ^ 31) :
    ∃ t, (reports args).Reaches Anything (s, w) t ∧ ¬ Truthful t := by
  have read := run_read args (w := w) here free
  refine ⟨_, (Machine.reaches_of_run read (Machine.admitted_anything _ _)).tail trivial
    (Machine.step_watched _ (step_overflowTest args rfl)), ?_⟩
  exact not_truthful rfl none rfl count

end Overflow

/-- Sixteen clients that take all tokens, one that takes a token again, one that overflows as often
as an `int` of rounds allows, and one that overflows once. -/
def longLoops : Fin 19 → Args := fun c => ⟨c + 1, if c.val = 17 then 2 ^ 31 - 1 else 1⟩

/-- The sixteen clients take the tokens and the first of them sends its message; the server prints
it and gives the token back; the next client takes it. -/
def filled : List (Act (Fin 19)) :=
  List.replicate 23 (Act.client 0) ++
    ((List.finRange 15).flatMap fun c =>
      List.replicate 2 (Act.client (c.castLE (by decide) + 1))) ++
    List.replicate 5 Act.server ++ List.replicate 2 (Act.client 16)

/-- What the server and the two clients with rounds left find in the full ring. -/
theorem after_filled :
    let s := (reports longLoops).after filled
    (s.1.pc 17 = .loop ∧ (s.1.client 17).i = 0 ∧ (s.1.client 17).nloop = 2 ^ 31 - 1) ∧
      (s.1.pc 18 = .loop ∧ (s.1.client 18).i = 0 ∧ (s.1.client 18).nloop = 1) ∧
      s.1.nempty = 0 ∧ s.1.noverflowmutex = 1 ∧ s.1.noverflow = 0 ∧
      s.1.server = ⟨.overflowWait, 1, 0, 0⟩ := by
  decide +kernel

/-- **The server prints -2147483648** where there have been 2147483648 overflows. -/
theorem wrapped_count : ¬ ∀ (args : Fin 19 → Args) (s : State (Fin 19) × Watch),
    (reports args).Reachable Anything s → Truthful s := by
  intro truthful
  have reachable : (reports longLoops).Reachable Anything ((reports longLoops).after filled) :=
    Machine.reachable_after (by decide +kernel) (Machine.admitted_anything _ _)
  have found := after_filled
  generalize (reports longLoops).after filled = s at reachable found
  obtain ⟨s, w⟩ := s
  dsimp only at found
  obtain ⟨⟨here, i, nloop⟩, ⟨here', i', nloop'⟩, full, free, none, server⟩ := found
  obtain ⟨t, first, long⟩ := reaches_overflows longLoops (w := w) here full free
    (le_of_eq none.symm) (2 ^ 31 - 1) (by omega) (by omega)
  have kept : t.client 18 = s.client 18 := long.others 18 (by decide)
  obtain ⟨u, second, once⟩ := reaches_overflows longLoops (c := 18) (w := w)
    ((congrArg Client.pc kept).trans here') long.nempty long.noverflowmutex
    (by rw [long.noverflow]; omega) 1 (by rw [kept]; omega) (by rw [long.noverflow]; omega)
  have count : u.noverflow = 2 ^ 31 := by
    rw [once.noverflow, long.noverflow, none]
    decide
  have waits : u.server = ⟨.overflowWait, 1, 0, 0⟩ :=
    once.server.trans (long.server.trans server)
  obtain ⟨v, third, untrue⟩ := reaches_not_truthful longLoops (w := w)
    (congrArg Server.pc waits) (congrArg Server.lastnoverflow waits) once.noverflowmutex count
  exact untrue (truthful longLoops v (((reachable.trans first).trans second).trans third))

end Unpvol2.Ring
