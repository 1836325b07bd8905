/-
**The runs of `prodcons1` and of `prodcons2`.**

* `prodcons1_runs` — any number of processes, started and killed at any time, with names that are
  taken or removed at any time: the lines of each are what a queue of `NBUFF` places shows, one that
  ends had its semaphores and has put and fetched all its items, and **none hangs**.
* `prodcons2_runs` — with its own semaphores the process does not die, each of its runs is finite,
  and **the runs end with all items put and fetched**.
-/

import Unpvol2.Prodcons1.Kept

namespace Unpvol2.Prodcons1

open Interleaving
open BoundedQueue (Leaves)

/-! ### Nobody waits for ever -/

namespace Process

variable {nitems : ℤ} {x x' : Process} {move : Move}

/-- No thread of the process can move. -/
def Stuck (nitems : ℤ) (x : Process) : Prop :=
  x.step nitems (.main false) = none ∧ x.step nitems .produce = none ∧
    x.step nitems .consume = none

theorem wait_eq_none {name : Name} {next : Process} (waits : x.wait name next = none) :
    x.opened name = true ∧ x.sem name = 0 := by
  unfold wait at waits
  split at waits
  · split at waits
    · cases waits
    · exact ⟨‹_›, Nat.eq_zero_of_not_pos ‹_›⟩
  · cases waits

/-- Where a producer that cannot move stands. -/
theorem produce_eq_none (stuck : x.produce nitems = none) :
    x.producer.pc = .notYet ∨ x.producer.pc = .returned ∨
      (x.producer.pc = .waitEmpty ∧ x.opened .nempty = true ∧ x.sem .nempty = 0) ∨
      (x.producer.pc = .waitMutex ∧ x.opened .mutex = true ∧ x.sem .mutex = 0) := by
  cases here : x.producer.pc with
  | notYet => exact .inl rfl
  | returned => exact .inr (.inl rfl)
  | waitEmpty =>
    simp only [produce, here] at stuck
    exact .inr (.inr (.inl ⟨rfl, wait_eq_none stuck⟩))
  | waitMutex =>
    simp only [produce, here] at stuck
    exact .inr (.inr (.inr ⟨rfl, wait_eq_none stuck⟩))
  | test | store | print | postMutex | postStored =>
    simp only [produce, here] at stuck
    cases stuck

theorem consume_eq_none (stuck : x.consume nitems = none) :
    x.consumer.pc = .notYet ∨ x.consumer.pc = .returned ∨
      (x.consumer.pc = .waitStored ∧ x.opened .nstored = true ∧ x.sem .nstored = 0) ∨
      (x.consumer.pc = .waitMutex ∧ x.opened .mutex = true ∧ x.sem .mutex = 0) := by
  cases here : x.consumer.pc with
  | notYet => exact .inl rfl
  | returned => exact .inr (.inl rfl)
  | waitStored =>
    simp only [consume, here] at stuck
    exact .inr (.inr (.inl ⟨rfl, wait_eq_none stuck⟩))
  | waitMutex =>
    simp only [consume, here] at stuck
    exact .inr (.inr (.inr ⟨rfl, wait_eq_none stuck⟩))
  | test | compare | print | postMutex | postEmpty =>
    simp only [consume, here] at stuck
    cases stuck

/-- Where a `main` that cannot move stands. -/
theorem main_eq_none {taken : Bool} (stuck : x.mainStep taken = none) :
    (x.main = .joinProduce ∧ x.producer.pc ≠ .returned) ∨
      (x.main = .joinConsume ∧ x.consumer.pc ≠ .returned) ∨ x.main = .exited := by
  cases here : x.main with
  | joinProduce =>
    simp only [mainStep, here, ite_eq_right_iff, reduceCtorEq, imp_false] at stuck
    exact .inl ⟨rfl, stuck⟩
  | joinConsume =>
    simp only [mainStep, here, ite_eq_right_iff, reduceCtorEq, imp_false] at stuck
    exact .inr (.inl ⟨rfl, stuck⟩)
  | exited => exact .inr (.inr rfl)
  | openSem name | unlink name =>
    simp only [mainStep, here] at stuck
    cases name <;> cases stuck
  | createProduce | createConsume =>
    simp only [mainStep, here] at stuck
    cases stuck

/-- A stuck thread of either kind is outside its section, so the mutex is free. -/
theorem Kept.mutex_free (kept : Kept nitems x) (produce : x.produce nitems = none)
    (consume : x.consume nitems = none) (opened : x.opened .mutex = true) : x.sem .mutex = 1 := by
  have one := kept.counts.mutex opened
  have outside : x.producer.pc.inside = 0 := by
    rcases produce_eq_none produce with here | here | ⟨here, _⟩ | ⟨here, _⟩ <;> rw [here] <;> rfl
  have outside' : x.consumer.pc.inside = 0 := by
    rcases consume_eq_none consume with here | here | ⟨here, _⟩ | ⟨here, _⟩ <;> rw [here] <;> rfl
  omega

/-- **A process in which no thread can move is over.** -/
theorem Kept.ended_of_stuck (kept : Kept nitems x) (stuck : Stuck nitems x) : x.ended = true := by
  by_contra running
  have running : ¬ x.ended = true := running
  obtain ⟨main, produce, consume⟩ := stuck
  unfold Process.step at main produce consume
  rw [if_neg running] at main produce consume
  dsimp only at main produce consume
  -- a thread that waits for `mutex` finds it free
  have free := kept.mutex_free produce consume
  have producer : x.producer.pc = .notYet ∨ x.producer.pc = .returned ∨
      (x.producer.pc = .waitEmpty ∧ x.opened .nempty = true ∧ x.sem .nempty = 0) := by
    rcases produce_eq_none produce with here | here | here | ⟨_, opened, zero⟩
    · exact .inl here
    · exact .inr (.inl here)
    · exact .inr (.inr here)
    · rw [free opened] at zero
      cases zero
  have consumer : x.consumer.pc = .notYet ∨ x.consumer.pc = .returned ∨
      (x.consumer.pc = .waitStored ∧ x.opened .nstored = true ∧ x.sem .nstored = 0) := by
    rcases consume_eq_none consume with here | here | here | ⟨_, opened, zero⟩
    · exact .inl here
    · exact .inr (.inl here)
    · exact .inr (.inr here)
    · rw [free opened] at zero
      cases zero
  rcases main_eq_none main with ⟨here, going⟩ | ⟨here, going⟩ | here
  · have born := kept.range.produces (by rw [here]; rfl)
    have born' := kept.range.consumes (by rw [here]; rfl)
    rcases producer with none | done | ⟨pc, opened, zero⟩
    · exact born none
    · exact going done
    · -- the buffer is full, so the consumer has something to fetch
      have full := kept.counts.nempty opened
      have more := kept.range.more (by rw [pc]; rfl)
      rw [pc, zero] at full
      have full : 0 + x.producer.i + 0 = 10 + x.consumer.i := full
      rcases consumer with none | done | ⟨pc', opened', zero'⟩
      · exact born' none
      · have all := kept.range.consumed done
        omega
      · have empty := kept.counts.nstored opened'
        rw [pc', zero'] at empty
        have empty : 0 + x.consumer.i + 0 = x.producer.i := empty
        omega
  · have born' := kept.range.consumes (by rw [here]; rfl)
    have returned := kept.range.joinedProduce (by rw [here]; rfl)
    have all := kept.range.produced returned
    rcases consumer with none | done | ⟨pc', opened', zero'⟩
    · exact born' none
    · exact going done
    · have more := kept.range.more' (by rw [pc']; rfl)
      have empty := kept.counts.nstored opened'
      rw [pc', zero'] at empty
      have empty : 0 + x.consumer.i + 0 = x.producer.i := empty
      omega
  · refine running ?_
    unfold ended
    rw [here]
    exact Bool.or_true _

/-! ### What a process has done at its end -/

/-- **A process that ends has put and fetched all its items.** -/
theorem Kept.finished (kept : Kept nitems x) (exited : x.main = .exited) :
    (0 < nitems → ∀ name, x.opened name = true) ∧
      ∃ ops, x.stdout = ops.map Line.of ∧ Leaves nbuff ops nitems.toNat nitems.toNat := by
  have put := kept.range.joinedProduce (by rw [exited]; rfl)
  have got := kept.range.joined (by rw [exited]; rfl)
  have all := kept.range.produced put
  have all' := kept.range.consumed got
  have most := kept.range.put
  have most' := kept.range.got
  refine ⟨fun positive => kept.opens.put (by omega), ?_⟩
  obtain ⟨ops, same, leaves⟩ := kept.filled.printed
  refine ⟨ops, same, ?_⟩
  rw [put, got] at leaves
  have lo : x.consumer.i + ConsumePc.printed .returned = nitems.toNat :=
    show x.consumer.i + 0 = _ by omega
  have hi : x.producer.i + ProducePc.printed .returned = nitems.toNat :=
    show x.producer.i + 0 = _ by omega
  rw [lo, hi] at leaves
  exact leaves

end Process

/-! ### `prodcons1` -/

section Prodcons1

variable {ι : Type} [DecidableEq ι] {nitems : ι → ℤ} {s s' : State ι} {ok : State ι → Act ι → Prop}

/-- The process that moves, and its step. -/
theorem move_cases {p : ι} {move : Move} (moved : s.move nitems p move = some s') :
    ∃ x, (s.process p).step (nitems p) move = some x ∧
      s' = { s with process := Function.update s.process p x } := by
  obtain ⟨x, step, rfl⟩ := Option.map_eq_some_iff.mp moved
  exact ⟨x, step, rfl⟩

/-- Each action is a step of one process, or none. -/
theorem step_process {action : Act ι} (step : s.step nitems action = some s') (p : ι) :
    s'.process p = s.process p ∨
      ∃ move, (s.process p).step (nitems p) move = some (s'.process p) := by
  have one : ∀ {q : ι} {move : Move} {s' : State ι}, s.move nitems q move = some s' →
      s'.process p = s.process p ∨
        ∃ move, (s.process p).step (nitems p) move = some (s'.process p) := by
    intro q move s' moved
    obtain ⟨x, step, rfl⟩ := move_cases moved
    by_cases same : p = q
    · subst same
      have own : Function.update s.process p x p = x := Function.update_self ..
      exact .inr ⟨move, step.trans (congrArg some own.symm)⟩
    · exact .inl (Function.update_of_ne same _ _)
  cases action with
  | main q =>
    obtain ⟨s'', moved, rfl⟩ := Option.map_eq_some_iff.mp step
    have found := one moved
    exact found
  | produce q | consume q | kill q => exact one step
  | semunlink name =>
    cases step
    exact .inl rfl

theorem reachable_kept (reachable : (machine nitems).Reachable ok s) (p : ι) :
    (s.process p).Kept (nitems p) := by
  refine reachable.induct (I := fun s => (s.process p).Kept (nitems p)) (Process.kept_start _) ?_
  intro s action s' _ kept _ step
  rcases step_process step p with same | ⟨move, moved⟩
  · show (s'.process p).Kept (nitems p)
    rw [same]
    exact kept
  · exact kept.step (Process.step_cases moved).2

/-- No process can take a step of its own. -/
def Stuck (nitems : ι → ℤ) (s : State ι) : Prop :=
  ∀ p, s.step nitems (.main p) = none ∧ s.step nitems (.produce p) = none ∧
    s.step nitems (.consume p) = none

theorem Stuck.process (stuck : Stuck nitems s) (p : ι) : (s.process p).Stuck (nitems p) := by
  obtain ⟨main, produce, consume⟩ := stuck p
  refine ⟨?_, Option.map_eq_none_iff.mp produce, Option.map_eq_none_iff.mp consume⟩
  have main := Option.map_eq_none_iff.mp (Option.map_eq_none_iff.mp main)
  unfold Process.step at main ⊢
  split at main
  · rw [if_pos ‹_›]
  · rw [if_neg ‹_›]
    dsimp only at main ⊢
    -- whether a name is taken does not decide whether `main` can move
    rcases Process.main_eq_none main with ⟨here, going⟩ | ⟨here, going⟩ | here
    · simp only [Process.mainStep, here, if_neg going]
    · simp only [Process.mainStep, here, if_neg going]
    · simp only [Process.mainStep, here]

/-- **Every process works or dies**: its lines are those of a queue, it ends only with all three
semaphores and all its items, and it does not hang. -/
theorem prodcons1_runs (reachable : (machine nitems).Reachable Anything s) (p : ι) :
    (∃ ops lo hi, (s.process p).stdout = ops.map Line.of ∧ Leaves nbuff ops lo hi) ∧
      ((s.process p).main = .exited →
        (0 < nitems p → ∀ name, (s.process p).opened name = true) ∧
          ∃ ops, (s.process p).stdout = ops.map Line.of ∧
            Leaves nbuff ops (nitems p).toNat (nitems p).toNat) ∧
      (Stuck nitems s → (s.process p).main = .exited ∨ (s.process p).killed = true) := by
  have kept := reachable_kept reachable p
  refine ⟨?_, kept.finished, fun stuck => ?_⟩
  · obtain ⟨ops, same, leaves⟩ := kept.filled.printed
    exact ⟨ops, _, _, same, leaves⟩
  · have ended := kept.ended_of_stuck (stuck.process p)
    unfold Process.ended at ended
    rw [Bool.or_eq_true, decide_eq_true_eq] at ended
    exact ended.symm

/-- The first process makes all three semaphores, and puts and fetches two items. The second one
finds the names taken and dies in its first `sem_wait`. -/
def secondDies (first second : ι) : List (Act ι) :=
  List.replicate 5 (Act.main first) ++ List.replicate 5 (Act.main second) ++
    List.replicate 12 (Act.produce first) ++ List.replicate 2 (Act.produce second) ++
    List.replicate 2 (Act.consume first) ++ List.replicate 2 (Act.produce first) ++
    List.replicate 5 (Act.consume first) ++ [Act.produce first] ++
    List.replicate 8 (Act.consume first) ++ List.replicate 5 (Act.main first)

theorem prodcons1_runs_secondDies :
    let s := (machine fun _ : Fin 2 => 2).after (secondDies 0 1)
    (s.process 1).killed = true ∧ (s.process 0).stdout = [.put 0, .put 1, .get 0, .get 1] ∧
      (∀ name, (s.process 0).opened name = true) ∧
      ∃ ops, (s.process 0).stdout = ops.map Line.of ∧ Leaves nbuff ops 2 2 := by
  have reachable : (machine fun _ : Fin 2 => 2).Reachable Anything
      ((machine fun _ : Fin 2 => 2).after (secondDies 0 1)) :=
    Machine.reachable_after (by decide +kernel) (Machine.admitted_anything _ _)
  obtain ⟨-, finished, -⟩ := prodcons1_runs reachable 0
  obtain ⟨opened, lines⟩ := finished (by decide +kernel)
  exact ⟨by decide +kernel, by decide +kernel, opened (by decide), lines⟩

end Prodcons1

/-! ### `prodcons2` -/

/-- The statements `main` has before it. -/
def MainPc.left : MainPc → ℤ
  | .openSem .mutex => 10
  | .openSem .nempty => 9
  | .openSem .nstored => 8
  | .createProduce => 7
  | .createConsume => 6
  | .joinProduce => 5
  | .joinConsume => 4
  | .unlink .mutex => 3
  | .unlink .nempty => 2
  | .unlink .nstored => 1
  | .exited => 0

/-- The statements of a round that the producer has behind it; a return is one more. -/
def ProducePc.past : ProducePc → ℤ
  | .notYet | .test => 0
  | .waitEmpty | .returned => 1
  | .waitMutex => 2
  | .store => 3
  | .print => 4
  | .postMutex => 5
  | .postStored => 6

def ConsumePc.past : ConsumePc → ℤ
  | .notYet | .test => 0
  | .waitStored | .returned => 1
  | .waitMutex => 2
  | .compare => 3
  | .print _ => 4
  | .postMutex => 5
  | .postEmpty => 6

namespace Process

variable {nitems : ℤ} {x x' : Process} {move : Move}

/-- The statements the process still has before it, at most: a round has seven. -/
def left (nitems : ℤ) (x : Process) : ℤ :=
  x.main.left + (7 * (nitems.toNat - x.producer.i) + 1 - x.producer.pc.past) +
    (7 * (nitems.toNat - x.consumer.i) + 1 - x.consumer.pc.past)

theorem Range.left_nonneg (range : Range nitems x) : 0 ≤ x.left nitems := by
  obtain ⟨opened, sem, buff, main, ⟨pc, i⟩, ⟨pc', i'⟩, stdout, killed⟩ := x
  have main : 0 ≤ main.left := by
    cases main <;> try (rename_i name; cases name)
    all_goals decide
  have put : i ≤ nitems.toNat := range.put
  have got : i' ≤ nitems.toNat := range.got
  have more : pc.busy = true → (i : ℤ) < nitems := range.more
  have more' : pc'.busy = true → (i' : ℤ) < nitems := range.more'
  have producer : 0 ≤ 7 * ((nitems.toNat : ℤ) - i) + 1 - pc.past := by
    cases busy : pc.busy with
    | true =>
      have room := more busy
      have past : pc.past ≤ 6 := by cases pc <;> decide
      omega
    | false =>
      have past : pc.past ≤ 1 := by cases pc <;> first | decide | cases busy
      omega
  have consumer : 0 ≤ 7 * ((nitems.toNat : ℤ) - i') + 1 - pc'.past := by
    cases busy : pc'.busy with
    | true =>
      have room := more' busy
      have past : pc'.past ≤ 6 := by cases pc' <;> simp only [ConsumePc.past] <;> decide
      omega
    | false =>
      have past : pc'.past ≤ 1 := by cases pc' <;> first | decide | cases busy
      omega
  unfold left
  dsimp only
  omega

/-- Every step of a thread takes a statement off. -/
theorem Step.left_lt (step : Step nitems x move x') (opens : Opens x)
    (lives : ¬ x.Doomed move) : x'.left nitems < x.left nitems := by
  obtain ⟨opened, sem, buff, main, ⟨pc, i⟩, ⟨pc', i'⟩, stdout, killed⟩ := x
  cases step with
  | openSem name here | failed name here | unlink taken name here =>
    subst here
    cases name <;> simp only [left, Name.opens, Name.unlinks, MainPc.left] <;> omega
  | createProduce taken here =>
    subst here
    cases opens.noProducer rfl
    simp only [left, produceTo, MainPc.left, ProducePc.past]
    omega
  | createConsume taken here =>
    subst here
    cases opens.noConsumer rfl
    simp only [left, consumeTo, MainPc.left, ConsumePc.past]
    omega
  | joinProduce taken here | joinConsume taken here =>
    subst here
    simp only [left, MainPc.left]
    omega
  | produceMore here | produceEnd here | waitEmpty here | produceLock here | store here | put here
  | produceUnlock here | postStored here =>
    subst here
    simp only [left, produceTo, setSem, ProducePc.past]
    omega
  | consumeMore here | consumeEnd here | waitStored here | consumeLock here | compare here
  | differs here | get here | consumeUnlock here | postEmpty here =>
    subst here
    simp only [left, consumeTo, setSem, ConsumePc.past]
    omega
  | die move doomed => exact absurd doomed lives

end Process

section Prodcons2

variable {nitems : ℤ} {x x' : Process}

/-- `main` has made the semaphore. -/
def MainPc.has : MainPc → Name → Bool
  | .openSem .mutex, _ => false
  | .openSem .nempty, name => decide (name = .mutex)
  | .openSem .nstored, name => decide (name ≠ .nstored)
  | _, _ => true

theorem has_of_begun {main : MainPc} (begun : main.beforeProduce = false) (name : Name) :
    main.has name = true := by
  cases main <;> first | rfl | cases begun

/-- A process that has every semaphore it has asked for. -/
structure Whole (nitems : ℤ) (x : Process) : Prop where
  kept : x.Kept nitems
  lives : x.killed = false
  opened : ∀ name, x.main.has name = true → x.opened name = true

/-- **No thread calls a semaphore that is missing.** -/
theorem Whole.lives_on (whole : Whole nitems x) (thread : Thread) : ¬ x.Doomed thread.move := by
  have all : x.main.beforeProduce = false → ∀ name, x.opened name = true :=
    fun begun name => whole.opened name (has_of_begun begun name)
  cases thread with
  | main => exact id
  | produce =>
    rintro ⟨begun, name, lacks⟩
    have past : x.main.beforeProduce = false := by
      by_contra before
      rw [whole.kept.opens.noProducer (Bool.of_not_eq_false before)] at begun
      exact begun rfl
    rw [all past name] at lacks
    cases lacks
  | consume =>
    rintro ⟨begun, name, lacks⟩
    have past : x.main.beforeConsume = false := by
      by_contra before
      rw [whole.kept.opens.noConsumer (Bool.of_not_eq_false before)] at begun
      exact begun rfl
    have earlier : x.main.beforeProduce = false := by
      cases here : x.main <;> rw [here] at past <;> first | rfl | cases past
    rw [all earlier name] at lacks
    cases lacks

theorem Whole.step (whole : Whole nitems x) {thread : Thread}
    (step : x.step nitems thread.move = some x') : Whole nitems x' := by
  have step := (Process.step_cases step).2
  have lives_on := whole.lives_on thread
  refine ⟨whole.kept.step step, ?_, ?_⟩
  · have lives := whole.lives
    generalize thread.move = move at step lives_on
    cases step with
    | die move doomed => exact absurd doomed lives_on
    | _ => exact lives
  · have opened := whole.opened
    generalize named : thread.move = move at step lives_on
    cases step with
    | openSem name here =>
      intro other has
      by_cases same : other = name
      · rw [same]
        exact Function.update_self ..
      · refine (Function.update_of_ne same _ _).trans (opened other ?_)
        rw [here]
        cases name <;> cases other <;> first | exact absurd rfl same | rfl | cases has
    | failed name here => cases thread <;> cases named
    | createProduce taken here | createConsume taken here | joinProduce taken here
    | joinConsume taken here | unlink taken name here =>
      intro other _
      exact opened other (by rw [here]; rfl)
    | die move doomed => exact absurd doomed lives_on
    | _ => exact opened

theorem whole_start (nitems : ℤ) : Whole nitems Process.start :=
  ⟨Process.kept_start nitems, rfl, fun _ has => by cases has⟩

/-- **`prodcons2` ends, and has then put and fetched all its items**, whoever moves when. -/
theorem prodcons2_runs {threads : List Thread}
    (ran : (prodcons2 nitems).run (prodcons2 nitems).init threads = some x) :
    threads.length ≤ 14 * nitems.toNat + 12 ∧ x.killed = false ∧
      (∃ ops lo hi, x.stdout = ops.map Line.of ∧ Leaves nbuff ops lo hi) ∧
      ((∀ thread, (prodcons2 nitems).step x thread = none) → x.main = .exited ∧
        ∃ ops, x.stdout = ops.map Line.of ∧ Leaves nbuff ops nitems.toNat nitems.toNat) := by
  have whole : Whole nitems x := by
    refine Machine.Reaches.induct (I := Whole nitems) (fun s thread s' whole _ step =>
      whole.step step) (Machine.reaches_of_run ran (Machine.admitted_anything _ _))
      (whole_start nitems)
  have shorter := Machine.run_length_add_le (I := Whole nitems) (Process.left nitems)
    (fun s thread s' whole step => whole.step step)
    (fun s thread s' whole step => (Process.step_cases step).2.left_lt whole.kept.opens
      (whole.lives_on thread)) (whole_start nitems) ran
  have rest := whole.kept.range.left_nonneg
  have all : Process.left nitems Process.start = 14 * nitems.toNat + 12 := by
    show 10 + (7 * ((nitems.toNat : ℤ) - (0 : ℕ)) + 1 - 0) +
      (7 * ((nitems.toNat : ℤ) - (0 : ℕ)) + 1 - 0) = _
    omega
  refine ⟨?_, whole.lives, ?_, fun stuck => ?_⟩
  · have shorter : threads.length + x.left nitems ≤ Process.left nitems Process.start := shorter
    omega
  · obtain ⟨ops, same, leaves⟩ := whole.kept.filled.printed
    exact ⟨ops, _, _, same, leaves⟩
  · have ended := whole.kept.ended_of_stuck ⟨stuck .main, stuck .produce, stuck .consume⟩
    unfold Process.ended at ended
    rw [whole.lives, Bool.false_or, decide_eq_true_eq] at ended
    exact ⟨ended, (whole.kept.finished ended).2⟩

/-- One item: the producer runs first, then the consumer. -/
def oneItem : List Thread :=
  List.replicate 5 .main ++ List.replicate 8 .produce ++ List.replicate 8 .consume ++
    List.replicate 5 .main

theorem prodcons2_runs_oneItem : ((prodcons2 1).after oneItem).main = .exited ∧
    ∃ ops, ((prodcons2 1).after oneItem).stdout = ops.map Line.of ∧ Leaves nbuff ops 1 1 :=
  (@prodcons2_runs 1 _ oneItem (Machine.run_after (by decide))).2.2.2
    fun thread => by cases thread <;> rfl

end Prodcons2

end Unpvol2.Prodcons1
