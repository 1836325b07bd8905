/-
**How `prodcons2` and `prodcons3` end.**

* `left_step` — every statement lowers what the threads have left to do, but for a look of the
  consumer that finds nothing ready.
* `Blocked.waits` — where only such a look could follow, `main` has exited or the consumer waits for
  an item that no producer will store.
* `prodcons2_checks`, `prodcons3_checks` — what the programs have printed and when they end.
-/

import Unpvol2.Prodcons2.Printed

namespace Unpvol2.Prodcons2

open Interleaving

variable {program : Program} {nitems nthreads : ℤ}

/-! ### What is left to do -/

/-- The statements `main` has left. -/
def Main.left (program : Program) (nthreads : ℤ) (x : Main) : ℕ :=
  let n := nthreads.toNat
  let last :=
    match program with
    | .prodcons2 => 2
    | .prodcons3 => 1
  match x.pc with
  | .testCreate => 3 * n + 4 + 7 * (n - x.i)
  | .zero => 3 * n + 3 + 7 * (n - x.i)
  | .create => 3 * n + 2 + 7 * (n - x.i)
  | .createConsumer =>
    match program with
    | .prodcons2 => 2
    | .prodcons3 => 3 * n + 3
  | .testJoin => 3 * (n - x.i) + 1 + last
  | .join => 3 * (n - x.i) + last
  | .print => 3 * (n - x.i) - 1 + last
  | .joinConsumer => 1
  | .exited => 0

/-- The statements a producer has left if it stores nothing any more. -/
def ProducePc.left : ProducePc → ℕ
  | .unborn | .returned => 0
  | .unlockEnd | .incNput => 1
  | .store => 2
  | .test => 3
  | .lock => 4
  | .count => 5
  | .unlock => 6
  | .incNval => 7

/-- The statements the consumer has left if it finds every item ready. -/
def Consumer.left (nitems : ℤ) (x : Consumer) : ℕ :=
  let items := 6 * (nitems.toNat - x.i)
  match x.pc with
  | .unborn | .test | .unlockAgain => items + 1
  | .lock => items
  | .testReady => items - 1
  | .unlockReady => items - 2
  | .read => items - 3
  | .next => items - 4
  | .returned => 0

def State.left (program : Program) (nitems nthreads : ℤ) (s : State) : ℕ :=
  s.main.left program nthreads + ∑ k ∈ Finset.range nthreads.toNat, (s.producer k).left +
    7 * (nitems.toNat - s.nput) + s.consumer.left nitems

section Moves

variable {s s' : State} {k : ℕ} {pc : ProducePc}

/-- `main` moves. -/
theorem left_main (producer : s'.producer = s.producer) (nput : s'.nput = s.nput)
    (consumer : s'.consumer.left nitems = s.consumer.left nitems) (waits : s'.waits = s.waits)
    (less : s'.main.left program nthreads < s.main.left program nthreads) :
    s'.left program nitems nthreads + 3 * s.waits <
      s.left program nitems nthreads + 3 * s'.waits := by
  unfold State.left
  rw [producer, nput, consumer, waits]
  omega

/-- The consumer moves. -/
theorem left_consume (main : s'.main = s.main) (producer : s'.producer = s.producer)
    (nput : s'.nput = s.nput)
    (less : s'.consumer.left nitems + 3 * s.waits < s.consumer.left nitems + 3 * s'.waits) :
    s'.left program nitems nthreads + 3 * s.waits <
      s.left program nitems nthreads + 3 * s'.waits := by
  unfold State.left
  rw [main, producer, nput]
  omega

/-- A producer moves. -/
theorem left_produce (created : Created program nthreads s) (born : s.producer k ≠ .unborn)
    (main : s'.main = s.main) (producer : s'.producer = Function.update s.producer k pc)
    (consumer : s'.consumer = s.consumer) (waits : s'.waits = s.waits)
    (less : pc.left + 7 * (nitems.toNat - s'.nput) <
      (s.producer k).left + 7 * (nitems.toNat - s.nput)) :
    s'.left program nitems nthreads + 3 * s.waits <
      s.left program nitems nthreads + 3 * s'.waits := by
  have below : k < nthreads.toNat := by
    refine Nat.lt_of_not_le fun past => born ((created.born k).mpr ?_)
    exact (created_le created).trans past
  have change := sum_range_change (f := fun j => (s.producer j).left)
    (g := fun j => (s'.producer j).left) below fun j ne => by
      rw [producer, Function.update_of_ne ne]
  rw [producer, Function.update_self, ← producer] at change
  unfold State.left
  rw [main, consumer, waits]
  omega

/-- **Every statement leaves less to do**, but for a look that finds nothing ready. -/
theorem left_step {action : Act} (reads : Reads program nitems s) (put : Put nitems s)
    (owned : Owned s) (created : Created program nthreads s)
    (step : Step program nitems nthreads s action s') :
    s'.left program nitems nthreads + 3 * s.waits <
      s.left program nitems nthreads + 3 * s'.waits := by
  have fits := created.fits
  unfold Main.Fits at fits
  have unread := reads.fits
  unfold Consumer.Fits at unread
  cases step with
  | moreThreads here | zero here | moreJoins here | join here =>
    refine left_main rfl rfl rfl rfl ?_
    rw [here] at fits
    unfold Main.left
    rw [here]
    dsimp only [State.mainTo] at fits ⊢
    omega
  | allCreated here all =>
    refine left_main rfl rfl rfl rfl ?_
    unfold Main.left
    rw [here]
    cases program <;> dsimp only [Program.created] <;> omega
  | create here =>
    rw [here] at fits
    have unborn : s.producer s.main.i = .unborn := by
      refine (created.born _).mpr ?_
      unfold Main.created
      rw [here]
    have change := sum_range_change (f := fun k => (s.producer k).left)
      (g := fun k => (Function.update s.producer s.main.i .lock k).left)
      (show s.main.i < nthreads.toNat from fits) fun k ne => by rw [Function.update_of_ne ne]
    rw [Function.update_self, unborn] at change
    unfold State.left Main.left
    rw [here]
    dsimp only [State.produceTo, ProducePc.left] at fits change ⊢
    omega
  | createConsumer here =>
    have unborn : s.consumer.pc = .unborn := created.consuming.mpr (by rw [here]; rfl)
    rw [here] at fits
    refine left_main rfl rfl ?_ rfl ?_
    · unfold Consumer.left
      rw [unborn]
      rfl
    · unfold Main.left
      rw [here]
      cases program with
      | prodcons2 => exact Nat.one_lt_two
      | prodcons3 =>
        show 3 * (nthreads.toNat - s.main.i) + 1 + 1 < 3 * nthreads.toNat + 3
        omega
  | allJoined here all =>
    refine left_main rfl rfl rfl rfl ?_
    unfold Main.left
    rw [here]
    cases program <;> dsimp only [State.mainTo, Program.joined] <;> omega
  | print here =>
    refine left_main rfl rfl rfl rfl ?_
    rw [here] at fits
    unfold Main.left
    rw [here]
    dsimp only at fits ⊢
    omega
  | joinConsumer here =>
    refine left_main rfl rfl rfl rfl ?_
    unfold Main.left
    rw [here]
    exact Nat.one_pos
  | lock k here | full k here | notFull k here | unlockEnd k here | store k here | incNval k here
  | unlock k here | count k here =>
    exact left_produce created (by rw [here]; exact nofun) rfl rfl rfl rfl
      (Nat.add_lt_add_right (by rw [here]; decide) _)
  | incNput k here =>
    have mutex : s.mutex = some (.producer k) := (owned (.producer k)).mp (by
      show (s.producer k).inside = true
      rw [here]
      rfl)
    have room := put.room .incNput ((stage_of_holder mutex).trans (congrArg some here)) rfl
    refine left_produce created (by rw [here]; exact nofun) rfl rfl rfl rfl ?_
    rw [here]
    show 7 + 7 * (nitems.toNat - (s.nput + 1)) < 1 + 7 * (nitems.toNat - s.nput)
    omega
  | moreItems here more =>
    refine left_consume rfl rfl rfl ?_
    unfold Consumer.left
    rw [here]
    cases program <;> dsimp only [State.consumeTo, Program.wanted] <;> omega
  | allRead here | notReady here =>
    refine left_consume rfl rfl rfl ?_
    rw [here] at unread
    unfold Consumer.left
    rw [here]
    dsimp only [State.consumeTo] at unread ⊢
    omega
  | lockReady here | ready here | unlockReady here | unlockAgain here | wrong here | right here
  | next here =>
    refine left_consume rfl rfl rfl ?_
    rw [here] at unread
    unfold Consumer.left
    rw [here]
    dsimp only [State.consumeTo] at unread ⊢
    omega

end Moves

/-! ### The end -/

/-- The consumer is about to look for an item that is not there. -/
def Looks (s : State) : Prop := s.consumer.pc = .lock ∧ s.nput ≤ s.consumer.i

/-- No thread can step, but for a look that would find nothing. -/
def Blocked (program : Program) (nitems nthreads : ℤ) (s : State) : Prop :=
  ∀ action, (action = .consume → ¬ Looks s) → s.step program nitems nthreads action = none

/-- No thread can step. -/
def Stuck (program : Program) (nitems nthreads : ℤ) (s : State) : Prop :=
  ∀ action, s.step program nitems nthreads action = none

/-- What holds in every state the program comes to. -/
structure Sound (program : Program) (nitems nthreads : ℤ) (s : State) : Prop where
  owned : Owned s
  created : Created program nthreads s
  put : Put nitems s
  counted : Counted nthreads s
  reads : Reads program nitems s
  printed : Printed program nthreads s

theorem sound_start (count : ℕ → ℤ) : Sound program nitems nthreads (start count) :=
  ⟨owned_start count, created_start count, put_start count, counted_start count,
    reads_start count, printed_start count⟩

section

variable {s s' : State}

theorem Sound.step {action : Act} (sound : Sound program nitems nthreads s)
    (step : Step program nitems nthreads s action s') : Sound program nitems nthreads s' :=
  ⟨sound.owned.next sound.created step, sound.created.step step,
    sound.put.step sound.owned sound.created step, sound.counted.step sound.created step,
    sound.reads.step sound.created step,
    sound.printed.step sound.reads sound.put sound.owned sound.created sound.counted step⟩

/-- A producer that cannot step waits for the mutex, has returned or is not there. -/
theorem Blocked.producer (blocked : Blocked program nitems nthreads s)
    (sound : Sound program nitems nthreads s) (most : nitems ≤ maxnitems) (k : ℕ) :
    s.producer k = .unborn ∨ (s.producer k = .lock ∧ s.mutex ≠ none) ∨
      s.producer k = .returned := by
  have halted : s.produce nitems k = none := blocked (.produce k) nofun
  unfold State.produce at halted
  split at halted <;> rename_i here
  · exact .inl here
  · refine .inr (.inl ⟨here, fun free => ?_⟩)
    rw [if_pos free] at halted
    cases halted
  · cases halted
  · cases halted
  · have mutex : s.mutex = some (.producer k) := (sound.owned (.producer k)).mp (by
      show (s.producer k).inside = true
      rw [here]
      rfl)
    have room := sound.put.room .store ((stage_of_holder mutex).trans (congrArg some here)) rfl
    rw [if_pos (by omega)] at halted
    cases halted
  · cases halted
  · cases halted
  · cases halted
  · cases halted
  · exact .inr (.inr here)

/-- A consumer that cannot step waits for the mutex or an item, has returned or is not there. -/
theorem Blocked.consumer (blocked : Blocked program nitems nthreads s)
    (sound : Sound program nitems nthreads s) (most : nitems ≤ maxnitems) :
    s.consumer.pc = .unborn ∨ (s.consumer.pc = .lock ∧ (s.mutex ≠ none ∨ Looks s)) ∨
      s.consumer.pc = .returned := by
  by_cases looks : Looks s
  · exact .inr (.inl ⟨looks.1, .inr looks⟩)
  have halted : s.consume program nitems = none := blocked .consume fun _ => looks
  have fits := sound.reads.fits
  unfold Consumer.Fits at fits
  unfold State.consume at halted
  dsimp only at halted
  split at halted <;> rename_i here
  · exact .inl here
  · cases halted
  · refine .inr (.inl ⟨here, .inl fun free => ?_⟩)
    rw [if_pos free] at halted
    cases halted
  · cases halted
  · cases halted
  · cases halted
  · rw [here] at fits
    dsimp only at fits
    rw [if_pos (by omega)] at halted
    cases halted
  · cases halted
  · exact .inr (.inr here)

/-- **Where only a look could follow, `main` has exited or waits for the consumer**, which waits for
an item that no producer will store. -/
theorem Blocked.waits (blocked : Blocked program nitems nthreads s)
    (sound : Sound program nitems nthreads s) (most : nitems ≤ maxnitems) :
    s.main.pc = .exited ∨ (Looks s ∧ s.mutex = none ∧ s.main.pc = .joinConsumer) := by
  have producer := blocked.producer sound most
  have consumer := blocked.consumer sound most
  have free : s.mutex = none := by
    by_contra held
    obtain ⟨t, holder⟩ := Option.ne_none_iff_exists'.mp held
    have inside := (sound.owned t).mpr holder
    cases t with
    | producer k =>
      have inside : (s.producer k).inside = true := inside
      rcases producer k with here | ⟨here, _⟩ | here <;> rw [here] at inside <;> cases inside
    | consumer =>
      have inside : s.consumer.pc.inside = true := inside
      rcases consumer with here | ⟨here, _⟩ | here <;> rw [here] at inside <;> cases inside
  have halted : s.mainStep program nthreads = none := blocked .main nofun
  unfold State.mainStep at halted
  dsimp only at halted
  split at halted <;> rename_i here
  case h_6 =>
    have fits := sound.created.fits
    unfold Main.Fits at fits
    rw [here] at fits
    rcases producer s.main.i with unborn | ⟨_, held⟩ | ended
    · have past := (sound.created.born _).mp unborn
      unfold Main.created at past
      rw [here] at past
      exact absurd past (Nat.not_le_of_lt fits)
    · exact absurd free held
    · rw [if_pos ended] at halted
      cases halted
  case h_8 =>
    rcases consumer with unborn | ⟨_, held | looks⟩ | ended
    · have waiting := sound.created.consuming.mp unborn
      rw [here] at waiting
      cases waiting
    · exact absurd free held
    · exact .inr ⟨looks, free, here⟩
    · rw [if_pos ended] at halted
      cases halted
  case h_9 => exact .inl here
  all_goals cases halted

/-- **A program that cannot go on has exited.** -/
theorem Stuck.exited (stuck : Stuck program nitems nthreads s)
    (sound : Sound program nitems nthreads s) (most : nitems ≤ maxnitems) :
    s.main.pc = .exited := by
  have blocked : Blocked program nitems nthreads s := fun action _ => stuck action
  refine (blocked.waits sound most).resolve_right fun ⟨looks, free, _⟩ => ?_
  have halted : s.consume program nitems = none := stuck .consume
  unfold State.consume at halted
  rw [looks.1] at halted
  dsimp only at halted
  rw [if_pos free] at halted
  cases halted

/-- A look that finds nothing costs three statements. -/
def State.spin (s : State) : ℕ :=
  if s.consumer.pc = .testReady ∧ s.nput ≤ s.consumer.i then 3 else 0

/-- A statement other than the first of a vain look lowers what is left with the look. -/
theorem spin_step {action : Act} (fruitful : action = .consume → ¬ Looks s)
    (step : Step program nitems nthreads s action s') :
    s'.spin + 3 * s'.waits ≤ s.spin + 3 * s.waits := by
  have quiet : ∀ {x : State}, x.consumer.pc ≠ .testReady → x.spin = 0 := fun other =>
    if_neg fun both => other both.1
  cases step with
  | moreThreads | allCreated | zero | create | moreJoins | allJoined | join | print | joinConsumer
  | lock | full | notFull | unlockEnd | store | incNval | unlock | count => exact Nat.le_refl _
  | incNput k here =>
    refine Nat.add_le_add_right ?_ _
    unfold State.spin
    show (if s.consumer.pc = .testReady ∧ s.nput + 1 ≤ s.consumer.i then 3 else 0) ≤ _
    split
    · rename_i both
      rw [if_pos ⟨both.1, Nat.le_of_succ_le both.2⟩]
    · exact Nat.zero_le _
  | createConsumer | allRead | ready | unlockReady | unlockAgain | wrong | right | next =>
    rw [quiet fun there => by cases there]
    exact Nat.add_le_add_right (Nat.zero_le _) _
  | moreItems =>
    rw [quiet (by cases program <;> exact nofun)]
    exact Nat.add_le_add_right (Nat.zero_le _) _
  | lockReady here free =>
    have there : ¬ s.nput ≤ s.consumer.i := fun none => fruitful rfl ⟨here, none⟩
    refine Nat.add_le_add_right ?_ _
    unfold State.spin
    rw [if_neg fun both => there both.2]
    exact Nat.zero_le _
  | notReady here none =>
    have now : s.spin = 3 := if_pos ⟨here, none⟩
    rw [now, quiet (fun there => by cases there)]
    show 0 + 3 * (s.waits + 1) ≤ 3 + 3 * s.waits
    omega

end

/-- The numbers of statements of the program without vain looks. -/
def bound (nitems nthreads : ℤ) : ℕ := 10 * nthreads.toNat + 13 * nitems.toNat + 5

theorem left_start (count : ℕ → ℤ) :
    (start count).left program nitems nthreads = bound nitems nthreads := by
  have none : ∑ k ∈ Finset.range nthreads.toNat, ((start count).producer k).left = 0 :=
    Finset.sum_eq_zero fun _ _ => rfl
  unfold State.left bound
  rw [none]
  show 3 * nthreads.toNat + 4 + 7 * (nthreads.toNat - 0) + 0 + 7 * (nitems.toNat - 0) +
    (6 * (nitems.toNat - 0) + 1) = _
  omega

section

variable {items threads : ℤ} {count : ℕ → ℤ} {s : State} {actions : List Act}

theorem nitemsOf_le (items : ℤ) : nitemsOf items ≤ maxnitems := Int.min_le_right _ _

/-- The invariants of a run, and its length. -/
theorem sound_of_run
    (ran : (machine program items threads count).run (start count) actions = some s) :
    Sound program (nitemsOf items) (nthreadsOf threads) s ∧
      actions.length + s.left program (nitemsOf items) (nthreadsOf threads) ≤
        bound (nitemsOf items) (nthreadsOf threads) + 3 * s.waits := by
  have reachable : (machine program items threads count).Reachable Anything s :=
    Machine.reaches_of_run ran (Machine.admitted_anything _ _)
  have sound : Sound program (nitemsOf items) (nthreadsOf threads) s :=
    reachable.induct (sound_start count) fun _ _ _ _ sound _ step => sound.step (step_cases step)
  have length := Machine.run_length_add_le
    (I := Sound program (nitemsOf items) (nthreadsOf threads))
    (fun s => s.left program (nitemsOf items) (nthreadsOf threads) - 3 * s.waits)
    (fun _ _ _ sound step => sound.step (step_cases step))
    (fun s action s' sound step => by
      have less := left_step sound.reads sound.put sound.owned sound.created (step_cases step)
      omega) (sound_start count) ran
  rw [left_start] at length
  refine ⟨sound, ?_⟩
  have none : (start count).waits = 0 := rfl
  omega

/-- What `main` has printed when it exits, and what the entries add up to. -/
theorem Sound.ended (sound : Sound program nitems nthreads s) (exited : s.main.pc = .exited) :
    s.stdout = counts s nthreads.toNat ++ wrong nthreads nitems.toNat ∧
      ∑ k ∈ Finset.range nthreads.toNat, s.count k = s.nput := by
  have returned := sound.created.exited exited
  have reads : s.consumer.reads = nitems.toNat := by
    have fits := sound.reads.fits
    unfold Consumer.Fits at fits
    unfold Consumer.reads
    rw [returned] at fits ⊢
    exact fits
  have lines : s.main.lines program nthreads = nthreads.toNat := by
    unfold Main.lines
    rw [exited]
  have printed := sound.printed
  unfold Printed at printed
  rw [lines, reads] at printed
  have counted := sound.counted
  unfold Counted Main.created at counted
  rw [exited] at counted
  refine ⟨printed, Eq.trans (sum_range_past fun k below => ?_) counted⟩
  unfold State.made
  rw [sound.created.joined k (below.trans_eq lines.symm)]
  exact (Int.add_zero _).symm

/-- With a producer, all items have been stored. -/
theorem Sound.full (sound : Sound program nitems nthreads s) (exited : s.main.pc = .exited)
    (somebody : 0 < nthreads) : s.nput = nitems.toNat := by
  have lines : s.main.lines program nthreads = nthreads.toNat := by
    unfold Main.lines
    rw [exited]
  have all := sound.put.all sound.created somebody lines
  have most := sound.put.most
  omega

/-- Without a producer nothing is stored, and the consumer compares with zeros. -/
example : ((machine .prodcons2 3 0 fun _ => 7).after (List.replicate 3 .main ++
    List.replicate 10 .consume ++ [.main])).stdout = [.buff 1 0, .buff 2 0] := by
  decide

/-- Short of the exit there is a statement other than a vain look. -/
theorem Sound.progress (sound : Sound program (nitemsOf items) (nthreadsOf threads) s)
    (producer : 0 < nthreadsOf threads ∨ nitemsOf items ≤ 0) (running : s.main.pc ≠ .exited) :
    ∃ action s', Anything s action ∧
      (machine program items threads count).step s action = some s' ∧
      Sound program (nitemsOf items) (nthreadsOf threads) s' ∧
      s'.left program (nitemsOf items) (nthreadsOf threads) + s'.spin <
        s.left program (nitemsOf items) (nthreadsOf threads) + s.spin := by
  by_contra none
  have blocked : Blocked program (nitemsOf items) (nthreadsOf threads) s := by
    intro action fruitful
    by_contra moves
    obtain ⟨next, step⟩ := Option.ne_none_iff_exists'.mp moves
    have cases := step_cases step
    have less := left_step sound.reads sound.put sound.owned sound.created cases
    have spin := spin_step fruitful cases
    exact none ⟨action, next, trivial, step, sound.step cases, by omega⟩
  obtain ⟨looks, _, waits⟩ := (blocked.waits sound (nitemsOf_le items)).resolve_left running
  have fits := sound.reads.fits
  unfold Consumer.Fits at fits
  rw [looks.1] at fits
  dsimp only at fits
  have nothing := looks.2
  rcases producer with somebody | done
  · have lines : s.main.lines program (nthreadsOf threads) = (nthreadsOf threads).toNat := by
      unfold Main.lines
      rw [waits]
    have all := sound.put.all sound.created somebody lines
    omega
  · omega

/-- With a producer the exit of `prodcons3` can always be reached. -/
theorem Sound.exits (sound : Sound program (nitemsOf items) (nthreadsOf threads) s)
    (producer : 0 < nthreadsOf threads ∨ nitemsOf items ≤ 0) :
    ∃ s', (machine program items threads count).Reaches Anything s s' ∧ s'.main.pc = .exited := by
  obtain ⟨s', reaches, exited⟩ := Machine.exists_reaches_of_rank (fun s => s.main.pc = .exited)
    (fun s => s.left program (nitemsOf items) (nthreadsOf threads) + s.spin)
    (fun s sound running => Sound.progress (s := s) sound producer running) sound
  exact ⟨s', reaches, exited.2⟩

/-- **`prodcons3` checks the array while it is filled.** The consumer reads only items that have
been filled, and never prints a line; a run is no longer than its vain looks make it; with a
producer, or without items, the exit can be reached from everywhere, and then the numbers add up;
and otherwise `main` does not exit. -/
theorem prodcons3_checks
    (ran : (machine .prodcons3 items threads count).run (start count) actions = some s) :
    actions.length ≤ bound (nitemsOf items) (nthreadsOf threads) + 3 * s.waits ∧
      (s.consumer.pc = .read →
        s.consumer.i < s.nput ∧ s.buff s.consumer.i = s.consumer.i) ∧
      s.stdout = counts s (s.main.lines .prodcons3 (nthreadsOf threads)) ∧
      (0 < nthreadsOf threads ∨ nitemsOf items ≤ 0 →
        ∃ s', (machine .prodcons3 items threads count).Reaches Anything s s' ∧
          s'.main.pc = .exited) ∧
      (s.main.pc = .exited →
        (0 < nthreadsOf threads ∨ nitemsOf items ≤ 0) ∧
          s.main.lines .prodcons3 (nthreadsOf threads) = (nthreadsOf threads).toNat ∧
          ∑ k ∈ Finset.range (nthreadsOf threads).toNat, s.count k = (nitemsOf items).toNat) := by
  obtain ⟨sound, length⟩ := sound_of_run ran
  have known := sound.reads.known rfl
  refine ⟨by omega, fun here => ?_, ?_, sound.exits, fun exited => ?_⟩
  · have filled := sound.reads.filled here
    exact ⟨filled, sound.put.stored filled⟩
  · have silent : wrong (nthreadsOf threads) s.consumer.reads = [] := by
      unfold wrong
      split
      · rfl
      · rename_i nobody
        have none := nput_of_nobody sound.created sound.counted (Int.not_lt.mp nobody)
        have reads : s.consumer.reads = 0 := by
          unfold Consumer.reads
          unfold Consumer.known at known
          cases here : s.consumer.pc <;> rw [here] at known <;> dsimp only at known ⊢ <;> omega
        rw [reads]
        rfl
    have printed := sound.printed
    unfold Printed at printed
    rw [silent, List.append_nil] at printed
    exact printed
  · have returned := sound.created.exited exited
    obtain ⟨_, sum⟩ := sound.ended exited
    have fits := sound.reads.fits
    unfold Consumer.Fits at fits
    unfold Consumer.known at known
    rw [returned] at fits known
    dsimp only at fits known
    have most := sound.put.most
    refine ⟨?_, by unfold Main.lines; rw [exited], sum.trans (by omega)⟩
    by_cases somebody : 0 < nthreadsOf threads
    · exact .inl somebody
    · have none := nput_of_nobody sound.created sound.counted (Int.not_lt.mp somebody)
      exact .inr (by omega)

theorem prodcons3_checks_oneProducer :
    ((machine .prodcons3 2 1 fun _ => 7).after
      (List.replicate 5 .main ++ List.replicate 8 .consume)).waits = 2 ∧
    ∃ s', (machine .prodcons3 2 1 fun _ => 7).Reaches Anything
      ((machine .prodcons3 2 1 fun _ => 7).after
        (List.replicate 5 .main ++ List.replicate 8 .consume)) s' ∧ s'.main.pc = .exited :=
  ⟨by decide, (@prodcons3_checks 2 1 (fun _ => 7) _ _ (Machine.run_after (by decide))).2.2.2.1
    (.inl (by decide))⟩

end

end Unpvol2.Prodcons2
