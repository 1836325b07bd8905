/-
**What `prodcons2` and `prodcons3` print.**

* `Reads` — the consumer of `prodcons3` only reads what has been filled, and that of `prodcons2`
  only starts when all has been.
* `Printed` — `main` prints the entries of `count[]` in order, and there is a line of the consumer
  only where no producer has been created: the array is empty then.
-/

import Unpvol2.Prodcons2.Filled

namespace Unpvol2.Prodcons2

open Interleaving

variable {program : Program} {nitems nthreads : ℤ}

/-! ### The consumer -/

/-- The consumer is in `consume_wait`. -/
def ConsumePc.waiting : ConsumePc → Bool
  | .lock | .testReady | .unlockReady | .unlockAgain => true
  | .unborn | .test | .read | .next | .returned => false

/-- The loop counter of the consumer fits its statement. -/
def Consumer.Fits (nitems : ℤ) (x : Consumer) : Prop :=
  match x.pc with
  | .unborn => x.i = 0
  | .test => x.i ≤ nitems.toNat
  | .returned => x.i = nitems.toNat
  | .lock | .testReady | .unlockReady | .unlockAgain | .read | .next => x.i < nitems.toNat

/-- The number of items the consumer knows to be ready. -/
def Consumer.known (x : Consumer) : ℕ :=
  match x.pc with
  | .unlockReady | .read | .next => x.i + 1
  | .unborn | .test | .lock | .testReady | .unlockAgain | .returned => x.i

structure Reads (program : Program) (nitems : ℤ) (s : State) : Prop where
  fits : s.consumer.Fits nitems
  plain : program = .prodcons2 → s.consumer.pc.waiting = false ∧ s.waits = 0
  known : program = .prodcons3 → s.consumer.known ≤ s.nput

theorem reads_start (count : ℕ → ℤ) : Reads program nitems (start count) where
  fits := rfl
  plain := fun _ => ⟨rfl, rfl⟩
  known := fun _ => Nat.le_refl _

section Moves

variable {s s' : State}

/-- The producers only add items. -/
theorem Reads.keep (reads : Reads program nitems s) (consumer : s'.consumer = s.consumer)
    (waits : s'.waits = s.waits) (nput : s.nput ≤ s'.nput) : Reads program nitems s' where
  fits := by
    rw [consumer]
    exact reads.fits
  plain := by
    rw [consumer, waits]
    exact reads.plain
  known := by
    rw [consumer]
    exact fun three => (reads.known three).trans nput

theorem Reads.step {action : Act} (reads : Reads program nitems s)
    (created : Created program nthreads s) (step : Step program nitems nthreads s action s') :
    Reads program nitems s' := by
  have fits := reads.fits
  have known := reads.known
  have plain := reads.plain
  unfold Consumer.Fits at fits
  unfold Consumer.known at known
  cases step with
  | moreThreads | allCreated | zero | create | moreJoins | allJoined | join | print | joinConsumer
  | lock | full | notFull | unlockEnd | store | incNval | unlock | count =>
    exact reads.keep rfl rfl (Nat.le_refl _)
  | incNput => exact reads.keep rfl rfl (Nat.le_succ _)
  | createConsumer here =>
    have unborn : s.consumer.pc = .unborn := created.consuming.mpr (by rw [here]; rfl)
    rw [unborn] at fits known
    exact ⟨fits.trans_le (Nat.zero_le _), fun two => ⟨rfl, (plain two).2⟩, known⟩
  | moreItems here more =>
    rw [here] at known
    cases program with
    | prodcons2 =>
      exact ⟨show s.consumer.i < nitems.toNat by omega, fun two => ⟨rfl, (plain two).2⟩, nofun⟩
    | prodcons3 => exact ⟨show s.consumer.i < nitems.toNat by omega, nofun, known⟩
  | allRead here all =>
    rw [here] at fits known
    dsimp only at fits
    exact ⟨show s.consumer.i = nitems.toNat by omega, fun two => ⟨rfl, (plain two).2⟩, known⟩
  | lockReady here | notReady here | unlockAgain here =>
    rw [here] at fits known plain
    exact ⟨fits, fun two => absurd (plain two).1 nofun, known⟩
  | ready here ready =>
    rw [here] at fits plain
    exact ⟨fits, fun two => absurd (plain two).1 nofun, fun _ => ready⟩
  | unlockReady here | wrong here | right here =>
    rw [here] at fits known
    exact ⟨fits, fun two => ⟨rfl, (plain two).2⟩, known⟩
  | next here =>
    rw [here] at fits known
    exact ⟨fits, fun two => ⟨rfl, (plain two).2⟩, known⟩

theorem created_le (created : Created program nthreads s) :
    s.main.created nthreads ≤ nthreads.toNat := by
  have fits := created.fits
  unfold Main.Fits at fits
  unfold Main.created
  cases here : s.main.pc with
  | testCreate | zero | create =>
    rw [here] at fits
    dsimp only at fits ⊢
    omega
  | createConsumer | testJoin | join | print | joinConsumer | exited => exact Nat.le_refl _

/-- Without producers nothing is ever stored. -/
theorem nput_of_nobody (created : Created program nthreads s) (counted : Counted nthreads s)
    (nobody : nthreads ≤ 0) : s.nput = 0 := by
  have none : s.main.created nthreads = 0 := by
    have bound := created_le created
    omega
  unfold Counted at counted
  rw [none] at counted
  exact Int.natCast_eq_zero.mp counted.symm

/-- And the array stays empty. -/
theorem Put.empty (put : Put nitems s) (owned : Owned s) (created : Created program nthreads s)
    (counted : Counted nthreads s) (nobody : nthreads ≤ 0) (i : ℕ) : s.buff i = 0 := by
  have none : s.stage = none := by
    unfold State.stage
    split
    · rename_i k holder
      have inside : (s.producer k).inside = true := (owned (.producer k)).mpr holder
      have unborn : s.producer k = .unborn := by
        refine (created.born k).mpr ?_
        have bound := created_le created
        omega
      rw [unborn] at inside
      cases inside
    · rfl
    · rfl
  rw [put.contents, nput_of_nobody created counted nobody, none]
  rfl

/-- The producers `main` has joined have filled the array. -/
theorem Put.all (put : Put nitems s) (created : Created program nthreads s)
    (somebody : 0 < nthreads) (joined : s.main.lines program nthreads = nthreads.toNat) :
    nitems ≤ s.nput := by
  refine put.ended 0 ?_
  rw [created.joined 0 (by omega)]
  rfl

/-- The items that have been put are in the array. -/
theorem Put.stored (put : Put nitems s) {i : ℕ} (filled : i < s.nput) : s.buff i = i := by
  rw [put.contents, if_pos (by omega)]

/-- **The consumer of `prodcons3` reads only items that have been put.** -/
theorem Reads.filled (reads : Reads .prodcons3 nitems s) (here : s.consumer.pc = .read) :
    s.consumer.i < s.nput := by
  have known := reads.known rfl
  unfold Consumer.known at known
  rw [here] at known
  exact known

/-- **What the consumer reads has been stored**, if there is a producer. -/
theorem Reads.stored (reads : Reads program nitems s) (put : Put nitems s)
    (created : Created program nthreads s) (somebody : 0 < nthreads)
    (here : s.consumer.pc = .read) : s.buff s.consumer.i = s.consumer.i := by
  refine put.stored ?_
  cases program with
  | prodcons3 => exact reads.filled here
  | prodcons2 =>
    have fits := reads.fits
    unfold Consumer.Fits at fits
    rw [here] at fits
    dsimp only at fits
    have consuming : s.main.pc.consuming .prodcons2 = true := by
      refine Bool.of_not_eq_false fun waiting => ?_
      have unborn := created.consuming.mpr waiting
      rw [here] at unborn
      cases unborn
    have joined : s.main.lines .prodcons2 nthreads = nthreads.toNat := by
      unfold Main.lines
      cases stands : s.main.pc with
      | createConsumer | joinConsumer | exited => rfl
      | testCreate | zero | create | testJoin | join | print =>
        rw [stands] at consuming
        cases consuming
    have all := put.all created somebody joined
    omega

end Moves

/-! ### The output -/

/-- The number of items the consumer has compared. -/
def Consumer.reads (x : Consumer) : ℕ :=
  match x.pc with
  | .next => x.i + 1
  | _ => x.i

/-- What the consumer prints: the array is empty where there is no producer. -/
def wrong (nthreads : ℤ) (reads : ℕ) : List Line :=
  if 0 < nthreads then [] else ((List.range reads).filter (· ≠ 0)).map fun i => .buff i 0

/-- The first lines of `main`. -/
def counts (s : State) (lines : ℕ) : List Line :=
  (List.range lines).map fun k => .count k (s.count k)

def Printed (program : Program) (nthreads : ℤ) (s : State) : Prop :=
  s.stdout = counts s (s.main.lines program nthreads) ++ wrong nthreads s.consumer.reads

theorem printed_start (count : ℕ → ℤ) : Printed program nthreads (start count) := by
  show [] = [] ++ wrong nthreads 0
  unfold wrong
  split <;> rfl

section Moves

variable {s s' : State}

/-- What has been printed stays true. -/
theorem Printed.keep (printed : Printed program nthreads s) (stdout : s'.stdout = s.stdout)
    (lines : s'.main.lines program nthreads = s.main.lines program nthreads)
    (reads : s'.consumer.reads = s.consumer.reads)
    (count : ∀ k < s.main.lines program nthreads, s'.count k = s.count k) :
    Printed program nthreads s' := by
  unfold Printed counts
  rw [stdout, lines, reads, printed]
  refine congrArg (· ++ _) (List.map_congr_left fun k member => ?_)
  rw [count k (List.mem_range.mp member)]

theorem wrong_succ (i : ℕ) (nobody : ¬ 0 < nthreads) :
    wrong nthreads (i + 1) = wrong nthreads i ++ if i ≠ 0 then [.buff i 0] else [] := by
  unfold wrong
  rw [if_neg nobody, if_neg nobody, List.range_succ, List.filter_append, List.map_append]
  by_cases zero : i = 0
  · rw [if_neg fun ne => ne zero, List.filter_cons_of_neg fun ne => (of_decide_eq_true ne) zero]
    rfl
  · rw [if_pos zero, List.filter_cons_of_pos (by rw [decide_eq_true_eq]; exact zero)]
    rfl

/-- The consumer goes on behind its comparison. -/
theorem Printed.read (printed : Printed program nthreads s) (reads : Reads program nitems s)
    (put : Put nitems s) (owned : Owned s) (created : Created program nthreads s)
    (counted : Counted nthreads s) (here : s.consumer.pc = .read) (main : s'.main = s.main)
    (count : s'.count = s.count)
    (consumer : s'.consumer = { s.consumer with pc := .next })
    (stdout : s'.stdout = s.stdout ++
      if s.buff s.consumer.i ≠ s.consumer.i then [.buff s.consumer.i (s.buff s.consumer.i)]
      else []) : Printed program nthreads s' := by
  have before : s.consumer.reads = s.consumer.i := by
    unfold Consumer.reads
    rw [here]
  have after : s'.consumer.reads = s.consumer.i + 1 := by
    rw [consumer]
    rfl
  unfold Printed counts
  rw [stdout, main, count, after, printed, before, List.append_assoc]
  refine congrArg (counts s _ ++ ·) ?_
  by_cases somebody : 0 < nthreads
  · rw [if_neg fun wrong => wrong (reads.stored put created somebody here)]
    unfold wrong
    rw [if_pos somebody, if_pos somebody]
    rfl
  · rw [wrong_succ _ somebody, put.empty owned created counted (Int.not_lt.mp somebody)]
    by_cases zero : s.consumer.i = 0
    · rw [zero, if_neg fun ne => ne rfl]
    · rw [if_pos fun eq => zero eq.symm, if_pos zero]

/-- **Every step keeps the form of the output.** -/
theorem Printed.step {action : Act} (printed : Printed program nthreads s)
    (reads : Reads program nitems s) (put : Put nitems s) (owned : Owned s)
    (created : Created program nthreads s) (counted : Counted nthreads s)
    (step : Step program nitems nthreads s action s') : Printed program nthreads s' := by
  cases step with
  | moreThreads here | moreJoins here | join here | joinConsumer here =>
    exact printed.keep rfl (by unfold Main.lines; rw [here]; rfl) rfl fun _ _ => rfl
  | create here =>
    exact printed.keep rfl (by unfold Main.lines; rw [here]) rfl fun _ _ => rfl
  | zero here =>
    have none : s.main.lines program nthreads = 0 := by
      unfold Main.lines
      rw [here]
    exact printed.keep rfl (none ▸ rfl) rfl fun k below => absurd (none ▸ below) (Nat.not_lt_zero k)
  | allCreated here =>
    refine printed.keep rfl ?_ rfl fun _ _ => rfl
    unfold Main.lines
    rw [here]
    cases program <;> rfl
  | createConsumer here =>
    have unborn : s.consumer.pc = .unborn := created.consuming.mpr (by rw [here]; rfl)
    have fits := created.fits
    unfold Main.Fits at fits
    rw [here] at fits
    refine printed.keep rfl ?_ (by unfold Consumer.reads; rw [unborn]; rfl) fun _ _ => rfl
    unfold Main.lines
    rw [here]
    cases program with
    | prodcons2 => rfl
    | prodcons3 => exact fits rfl
  | allJoined here all =>
    have fits := created.fits
    unfold Main.Fits at fits
    rw [here] at fits
    dsimp only at fits
    have last : nthreads.toNat = s.main.i := by omega
    refine printed.keep rfl ?_ rfl fun _ _ => rfl
    unfold Main.lines
    rw [here]
    cases program <;> exact last
  | print here =>
    have lines : s.main.lines program nthreads = s.main.i := by
      unfold Main.lines
      rw [here]
    have somebody : 0 < nthreads := by
      have fits := created.fits
      unfold Main.Fits at fits
      rw [here] at fits
      dsimp only at fits
      omega
    unfold Printed counts wrong at printed ⊢
    rw [if_pos somebody, List.append_nil, lines] at printed
    rw [if_pos somebody, List.append_nil]
    show s.stdout ++ _ = (List.range (s.main.i + 1)).map _
    rw [printed, List.range_succ, List.map_append]
    rfl
  | lock | full | notFull | unlockEnd | store | incNput | incNval | unlock =>
    exact printed.keep rfl rfl rfl fun _ _ => rfl
  | count k here =>
    refine printed.keep rfl rfl rfl fun j below => ?_
    have ended := created.joined j below
    refine Function.update_of_ne (fun same : j = k => ?_) ..
    rw [same, here] at ended
    cases ended
  | moreItems here =>
    refine printed.keep rfl rfl ?_ fun _ _ => rfl
    unfold Consumer.reads
    rw [here]
    cases program <;> rfl
  | allRead here | lockReady here | ready here | notReady here | unlockReady here
  | unlockAgain here =>
    exact printed.keep rfl rfl (by unfold Consumer.reads; rw [here]; rfl) fun _ _ => rfl
  | next here =>
    exact printed.keep rfl rfl (by unfold Consumer.reads; rw [here]) fun _ _ => rfl
  | wrong here ne =>
    refine printed.read reads put owned created counted here rfl rfl rfl ?_
    rw [if_pos ne]
  | right here eq =>
    refine printed.read reads put owned created counted here rfl rfl rfl ?_
    rw [if_neg fun ne => ne eq, List.append_nil]
    rfl

end Moves

end Unpvol2.Prodcons2
