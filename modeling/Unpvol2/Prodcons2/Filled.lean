/-
**What the producers of `prodcons2` and `prodcons3` leave behind.**

* `Created` — which threads `main` has created and which it has joined.
* `Put` — the array is filled in order, each index with its own value, up to `shared.nput`; the
  counters are behind only between the statements of the producer that holds the mutex.
* `Counted` — the entries of `count[]` add up to `shared.nput`, but for the items whose producer has
  not reached `*((int *) arg) += 1`.
-/

import Unpvol2.Lib.Threads
import Unpvol2.Prodcons2.Step

namespace Unpvol2.Prodcons2

open Interleaving

variable {program : Program} {nitems nthreads : ℤ}

/-! ### What `main` has created and joined -/

/-- The number of producers that have been created. -/
def Main.created (nthreads : ℤ) (x : Main) : ℕ :=
  match x.pc with
  | .testCreate | .zero | .create => x.i
  | .createConsumer | .testJoin | .join | .print | .joinConsumer | .exited => nthreads.toNat

/-- The consumer has been created. -/
def MainPc.consuming : Program → MainPc → Bool
  | _, .testCreate | _, .zero | _, .create | _, .createConsumer => false
  | .prodcons2, .testJoin | .prodcons2, .join | .prodcons2, .print => false
  | .prodcons3, .testJoin | .prodcons3, .join | .prodcons3, .print => true
  | _, .joinConsumer | _, .exited => true

/-- The number of producers whose line has been printed. -/
def Main.lines (program : Program) (nthreads : ℤ) (x : Main) : ℕ :=
  match x.pc with
  | .testCreate | .zero | .create => 0
  | .createConsumer =>
    match program with
    | .prodcons2 => nthreads.toNat
    | .prodcons3 => 0
  | .testJoin | .join | .print => x.i
  | .joinConsumer | .exited => nthreads.toNat

/-- The loop counter of `main` fits its statement. -/
def Main.Fits (program : Program) (nthreads : ℤ) (x : Main) : Prop :=
  match x.pc with
  | .testCreate | .testJoin => x.i ≤ nthreads.toNat
  | .zero | .create | .join | .print => x.i < nthreads.toNat
  | .createConsumer => program = .prodcons3 → x.i = 0
  | .joinConsumer | .exited => True

structure Created (program : Program) (nthreads : ℤ) (s : State) : Prop where
  fits : s.main.Fits program nthreads
  born : ∀ k, s.producer k = .unborn ↔ s.main.created nthreads ≤ k
  zeroed : s.main.pc = .create → s.count s.main.i = 0
  joined : ∀ k < s.main.lines program nthreads, s.producer k = .returned
  joining : s.main.pc = .print → s.producer s.main.i = .returned
  consuming : s.consumer.pc = .unborn ↔ s.main.pc.consuming program = false
  exited : s.main.pc = .exited → s.consumer.pc = .returned

theorem created_start (count : ℕ → ℤ) : Created program nthreads (start count) where
  fits := Nat.zero_le _
  born := fun k => ⟨fun _ => Nat.zero_le k, fun _ => rfl⟩
  zeroed := nofun
  joined := fun k below => absurd below (Nat.not_lt_zero k)
  joining := nofun
  consuming := ⟨fun _ => rfl, fun _ => rfl⟩
  exited := nofun

section Moves

variable {s s' : State} {k : ℕ} {pc : ProducePc}

/-- A producer moves on. -/
theorem Created.produce (created : Created program nthreads s) (main : s'.main = s.main)
    (producer : s'.producer = Function.update s.producer k pc) (consumer : s'.consumer = s.consumer)
    (count : ∀ j, j ≠ k → s'.count j = s.count j) (running : s.producer k ≠ .returned)
    (born : s.producer k ≠ .unborn) (born' : pc ≠ .unborn) : Created program nthreads s' where
  fits := by
    rw [main]
    exact created.fits
  born := fun j => by
    rw [main, producer, ← created.born j]
    by_cases mover : j = k
    · rw [mover, Function.update_self]
      exact iff_of_false born' born
    · rw [Function.update_of_ne mover]
  zeroed := by
    rw [main]
    intro here
    have unborn : s.producer s.main.i = .unborn := by
      refine (created.born _).mpr ?_
      unfold Main.created
      rw [here]
    rw [count _ fun same => born (same ▸ unborn)]
    exact created.zeroed here
  joined := by
    rw [main, producer]
    intro j below
    have ended := created.joined j below
    rw [Function.update_of_ne fun same : _ = k => running (same ▸ ended)]
    exact ended
  joining := by
    rw [main, producer]
    intro here
    have ended := created.joining here
    rw [Function.update_of_ne fun same : _ = k => running (same ▸ ended)]
    exact ended
  consuming := by
    rw [main, consumer]
    exact created.consuming
  exited := by
    rw [main, consumer]
    exact created.exited

/-- The consumer moves on. -/
theorem Created.consume (created : Created program nthreads s) (main : s'.main = s.main)
    (producer : s'.producer = s.producer) (count : s'.count = s.count)
    (running : s.consumer.pc ≠ .returned) (born : s.consumer.pc ≠ .unborn)
    (born' : s'.consumer.pc ≠ .unborn) : Created program nthreads s' where
  fits := by
    rw [main]
    exact created.fits
  born := by
    rw [main, producer]
    exact created.born
  zeroed := by
    rw [main, count]
    exact created.zeroed
  joined := by
    rw [main, producer]
    exact created.joined
  joining := by
    rw [main, producer]
    exact created.joining
  consuming := by
    rw [main, ← created.consuming]
    exact iff_of_false born' born
  exited := by
    rw [main]
    exact fun here => absurd (created.exited here) running

/-- `main` goes on, and what it has created and joined stays. -/
theorem Created.main (created : Created program nthreads s) (fits : s'.main.Fits program nthreads)
    (producer : s'.producer = s.producer) (consumer : s'.consumer = s.consumer)
    (same : s'.main.created nthreads = s.main.created nthreads)
    (zeroed : s'.main.pc = .create → s'.count s'.main.i = 0)
    (joined : ∀ k < s'.main.lines program nthreads, s.producer k = .returned)
    (joining : s'.main.pc = .print → s.producer s'.main.i = .returned)
    (consuming : s'.main.pc.consuming program = s.main.pc.consuming program)
    (exited : s'.main.pc = .exited → s.consumer.pc = .returned) : Created program nthreads s' where
  fits := fits
  born := by
    rw [producer, same]
    exact created.born
  zeroed := zeroed
  joined := by
    rw [producer]
    exact joined
  joining := by
    rw [producer]
    exact joining
  consuming := by
    rw [consumer, consuming]
    exact created.consuming
  exited := by
    rw [consumer]
    exact exited

/-- **Every step keeps it.** -/
theorem Created.step {action : Act} (created : Created program nthreads s)
    (step : Step program nitems nthreads s action s') : Created program nthreads s' := by
  have fits := created.fits
  have joined := created.joined
  unfold Main.Fits at fits
  unfold Main.lines at joined
  cases step with
  | moreThreads here more =>
    rw [here] at fits joined
    exact created.main (show s.main.i < nthreads.toNat by omega) rfl rfl
      (by unfold Main.created; rw [here]; rfl) nofun joined nofun (by rw [here]; rfl) nofun
  | allCreated here all =>
    rw [here] at fits joined
    have same : nthreads.toNat = s.main.created nthreads := by
      unfold Main.created
      rw [here]
      dsimp only at fits ⊢
      omega
    cases program with
    | prodcons2 =>
      exact created.main (Nat.zero_le _) rfl rfl same nofun joined nofun (by rw [here]; rfl) nofun
    | prodcons3 =>
      exact created.main (fun _ => rfl) rfl rfl same nofun joined nofun (by rw [here]; rfl) nofun
  | zero here =>
    rw [here] at fits joined
    exact created.main fits rfl rfl (by unfold Main.created; rw [here]; rfl)
      (fun _ => Function.update_self ..) joined nofun (by rw [here]; rfl) nofun
  | create here =>
    rw [here] at fits joined
    have place : s.main.created nthreads = s.main.i := by
      unfold Main.created
      rw [here]
    refine ⟨fits, fun k => ?_, nofun, fun k below => absurd below (Nat.not_lt_zero k), nofun, ?_,
      nofun⟩
    · show Function.update s.producer s.main.i .lock k = .unborn ↔ s.main.i + 1 ≤ k
      have before := created.born k
      rw [place] at before
      by_cases mover : k = s.main.i
      · rw [mover, Function.update_self]
        exact iff_of_false nofun (Nat.not_succ_le_self _)
      · rw [Function.update_of_ne mover, before]
        omega
    · rw [show ((s.produceTo s.main.i .lock).consumer).pc = .unborn ↔ _ from created.consuming,
        here]
      rfl
  | createConsumer here =>
    rw [here] at joined
    have born := created.born
    rw [show s.main.created nthreads = nthreads.toNat by unfold Main.created; rw [here]] at born
    cases program with
    | prodcons2 => exact ⟨trivial, born, nofun, joined, nofun, iff_of_false nofun nofun, nofun⟩
    | prodcons3 =>
      rw [here] at fits
      refine ⟨(fits rfl).trans_le (Nat.zero_le _), born, nofun, fun k below => ?_, nofun,
        iff_of_false nofun nofun, nofun⟩
      exact absurd ((show k < s.main.i from below).trans_eq (fits rfl)) (Nat.not_lt_zero k)
  | moreJoins here more =>
    rw [here] at joined
    exact created.main (show s.main.i < nthreads.toNat by omega) rfl rfl
      (by unfold Main.created; rw [here]; rfl) nofun joined nofun
      (by rw [here]; cases program <;> rfl) nofun
  | allJoined here all =>
    rw [here] at fits joined
    have last : s.main.i = nthreads.toNat := by
      dsimp only at fits
      omega
    have returned : ∀ k < nthreads.toNat, s.producer k = .returned := fun k below =>
      joined k (below.trans_eq last.symm)
    cases program with
    | prodcons2 =>
      exact created.main nofun rfl rfl (by unfold Main.created; rw [here]; rfl) nofun returned nofun
        (by rw [here]; rfl) nofun
    | prodcons3 =>
      exact created.main trivial rfl rfl (by unfold Main.created; rw [here]; rfl) nofun returned
        nofun
        (by rw [here]; rfl) nofun
  | join here ended =>
    rw [here] at fits joined
    exact created.main fits rfl rfl (by unfold Main.created; rw [here]; rfl) nofun joined
      (fun _ => ended) (by rw [here]; cases program <;> rfl) nofun
  | print here =>
    rw [here] at fits joined
    refine created.main fits rfl rfl (by unfold Main.created; rw [here]) nofun (fun k below => ?_)
      nofun (by rw [here]; cases program <;> rfl) nofun
    rcases Nat.lt_succ_iff_lt_or_eq.mp (show k < s.main.i + 1 from below) with before | now
    · exact joined k before
    · rw [now]
      exact created.joining here
  | joinConsumer here ended =>
    rw [here] at joined
    exact created.main trivial rfl rfl (by unfold Main.created; rw [here]; rfl) nofun joined nofun
      (by rw [here]; cases program <;> rfl) fun _ => ended
  | lock k here | full k here | notFull k here | unlockEnd k here | store k here | incNput k here
  | incNval k here | unlock k here =>
    exact created.produce rfl rfl rfl (fun _ _ => rfl) (by rw [here]; exact nofun)
      (by rw [here]; exact nofun) nofun
  | count k here =>
    exact created.produce rfl rfl rfl (fun _ ne => Function.update_of_ne ne ..)
      (by rw [here]; exact nofun) (by rw [here]; exact nofun) nofun
  | moreItems here =>
    refine created.consume rfl rfl rfl (by rw [here]; exact nofun) (by rw [here]; exact nofun) ?_
    cases program <;> exact nofun
  | allRead here | lockReady here | ready here | notReady here | unlockReady here
  | unlockAgain here | wrong here | right here | next here =>
    exact created.consume rfl rfl rfl (by rw [here]; exact nofun) (by rw [here]; exact nofun) nofun

end Moves

/-- `main` creates threads that have not been created yet. -/
theorem Owned.next {s s' : State} {action : Act} (owned : Owned s)
    (created : Created program nthreads s) (step : Step program nitems nthreads s action s') :
    Owned s' := by
  refine owned.step (fun _ here => (created.born _).mpr ?_) (fun _ here => ?_) step
  · unfold Main.created
    rw [here]
  · refine created.consuming.mpr ?_
    rw [here]
    rfl

/-! ### The array -/

/-- Where the producer that holds the mutex stands. -/
def State.stage (s : State) : Option ProducePc :=
  match s.mutex with
  | some (.producer k) => some (s.producer k)
  | some .consumer | none => none

/-- An item has been stored and `shared.nput` not incremented. -/
def storing : Option ProducePc → ℕ
  | some .incNput => 1
  | _ => 0

/-- `shared.nput` has been incremented and `shared.nval` has not. -/
def counting : Option ProducePc → ℕ
  | some .incNval => 1
  | _ => 0

/-- The producer has found room, and `shared.nput` has not been incremented. -/
def ProducePc.storing : ProducePc → Bool
  | .store | .incNput => true
  | _ => false

/-- The producer has seen that the array is full. -/
def ProducePc.ended : ProducePc → Bool
  | .unlockEnd | .returned => true
  | _ => false

structure Put (nitems : ℤ) (s : State) : Prop where
  nval : s.nval + counting s.stage = s.nput
  contents : ∀ k, s.buff k = if k < s.nput + storing s.stage then k else 0
  room : ∀ pc, s.stage = some pc → pc.storing = true → s.nput < nitems
  most : s.nput ≤ nitems.toNat
  ended : ∀ k, (s.producer k).ended = true → nitems ≤ s.nput

theorem put_start (count : ℕ → ℤ) : Put nitems (start count) where
  nval := rfl
  contents := fun _ => rfl
  room := nofun
  most := Nat.zero_le _
  ended := fun _ ended => by cases ended

section Moves

variable {s s' : State} {k : ℕ} {pc : ProducePc}

theorem stage_of_holder (mutex : s.mutex = some (.producer k)) : s.stage = some (s.producer k) := by
  unfold State.stage
  rw [mutex]

theorem stage_of_update (mutex : s'.mutex = some (.producer k))
    (producer : s'.producer = Function.update s.producer k pc) : s'.stage = some pc := by
  rw [stage_of_holder mutex, producer, Function.update_self]

theorem stage_of_free (mutex : s.mutex = none) : s.stage = none := by
  unfold State.stage
  rw [mutex]

/-- A producer outside moves. -/
theorem stage_of_outside (owned : Owned s) (here : (s.producer k).inside = false)
    (mutex : s'.mutex = s.mutex) (producer : s'.producer = Function.update s.producer k pc) :
    s'.stage = s.stage := by
  unfold State.stage
  rw [mutex, producer]
  split
  · rename_i j holder
    have inside : s.inside (.producer j) = true := (owned _).mpr holder
    rw [Function.update_of_ne fun same : j = k => ?_]
    rw [same] at inside
    exact absurd (here.symm.trans inside) Bool.false_ne_true
  · rfl
  · rfl

/-- A step that fills nothing, from one stage to the next. -/
theorem Put.keep (put : Put nitems s) {x y : Option ProducePc} (before : s.stage = x)
    (after : s'.stage = y) (buff : s'.buff = s.buff) (nput : s'.nput = s.nput)
    (nval : s'.nval + counting y = s.nval + counting x) (stored : storing y = storing x)
    (room : ∀ pc, y = some pc → pc.storing = true → s.nput < nitems)
    (ended : ∀ k, (s'.producer k).ended = true → nitems ≤ s.nput) : Put nitems s' where
  nval := by rw [after, nval, nput, ← before, put.nval]
  contents := by
    rw [buff, nput, after, stored, ← before]
    exact put.contents
  room := by
    rw [nput, after]
    exact room
  most := by
    rw [nput]
    exact put.most
  ended := by
    rw [nput]
    exact ended

/-- A step outside the mutex, or of the consumer. -/
theorem Put.outside (put : Put nitems s) (buff : s'.buff = s.buff) (nput : s'.nput = s.nput)
    (nval : s'.nval = s.nval) (stage : s'.stage = s.stage)
    (ended : ∀ k, (s'.producer k).ended = true → nitems ≤ s.nput) : Put nitems s' :=
  put.keep rfl stage buff nput (by rw [nval]) rfl put.room ended

/-- A producer has ended before, or it moves. -/
theorem Put.endedOf (put : Put nitems s) (producer : s'.producer = Function.update s.producer k pc)
    (own : pc.ended = true → nitems ≤ s.nput) (j : ℕ) (now : (s'.producer j).ended = true) :
    nitems ≤ s.nput := by
  rw [producer] at now
  rcases update_or (P := fun pc : ProducePc => pc.ended = true) now with before | mine
  · exact put.ended j before
  · exact own mine

/-- **The store**, to the place behind the filled ones. -/
theorem Put.store (put : Put nitems s) (owned : Owned s) (here : s.producer k = .store) :
    Put nitems { s.produceTo k .incNput with buff := Function.update s.buff s.nput s.nval } := by
  have mutex : s.mutex = some (.producer k) := (owned (.producer k)).mp (by
    show (s.producer k).inside = true
    rw [here]
    rfl)
  have before : s.stage = some .store := (stage_of_holder mutex).trans (congrArg some here)
  have value : s.nval = s.nput := by
    have law := put.nval
    rw [before] at law
    exact law
  have contents := put.contents
  rw [before] at contents
  have after : ∀ buff, State.stage { s.produceTo k .incNput with buff := buff } = some .incNput :=
    fun buff => stage_of_update (s := s) mutex rfl
  refine ⟨?_, fun j => ?_, fun _ _ _ => put.room .store before rfl, put.most,
    put.endedOf rfl nofun⟩
  · rw [after]
    exact value
  · rw [after]
    show Function.update s.buff s.nput s.nval j = if j < s.nput + 1 then j else 0
    by_cases new : j = s.nput
    · rw [new, Function.update_self, value, if_pos (Nat.lt_succ_self _)]
    · rw [Function.update_of_ne new, contents]
      show (if j < s.nput then j else 0) = _
      by_cases below : j < s.nput
      · rw [if_pos below, if_pos (Nat.lt_succ_of_lt below)]
      · rw [if_neg below, if_neg fun lt => below (by omega)]

/-- **`shared.nput++`**: the stored item is one of the filled ones. -/
theorem Put.incNput (put : Put nitems s) (before : s.stage = some .incNput)
    (after : State.stage { s.produceTo k .incNval with nput := s.nput + 1 } = some .incNval) :
    Put nitems { s.produceTo k .incNval with nput := s.nput + 1 } := by
  have value := put.nval
  have contents := put.contents
  have room := put.room .incNput before rfl
  rw [before] at value contents
  refine ⟨?_, ?_, ?_, show s.nput + 1 ≤ nitems.toNat by omega, fun j now => ?_⟩
  · rw [after]
    exact congrArg (· + 1) value
  · rw [after]
    exact contents
  · rw [after]
    rintro _ ⟨⟩ ⟨⟩
  · have ended := put.endedOf rfl (fun now => by cases now) j now
    show nitems ≤ (s.nput + 1 : ℕ)
    omega

/-- **Every step fills the array in order.** -/
theorem Put.step {action : Act} (put : Put nitems s) (owned : Owned s)
    (created : Created program nthreads s) (step : Step program nitems nthreads s action s') :
    Put nitems s' := by
  have holder : ∀ {k pc}, s.producer k = pc → pc.inside = true →
      s.mutex = some (.producer k) ∧ s.stage = some pc := by
    rintro k pc rfl inside
    have mutex := (owned (.producer k)).mp inside
    exact ⟨mutex, stage_of_holder mutex⟩
  cases step with
  | moreThreads | allCreated | zero | createConsumer | moreJoins | allJoined | join | print
  | joinConsumer | moreItems | allRead | ready | notReady | wrong | right | next =>
    exact put.outside rfl rfl rfl rfl put.ended
  | create here =>
    have unborn : s.producer s.main.i = .unborn := by
      refine (created.born _).mpr ?_
      unfold Main.created
      rw [here]
    exact put.outside rfl rfl rfl (stage_of_outside owned (by rw [unborn]; rfl) rfl rfl)
      (put.endedOf rfl nofun)
  | lock k here free =>
    exact put.keep (stage_of_free free) (stage_of_update rfl rfl) rfl rfl rfl rfl
      (by rintro _ ⟨⟩ ⟨⟩) (put.endedOf rfl nofun)
  | full k here all =>
    obtain ⟨mutex, before⟩ := holder here rfl
    exact put.keep before (stage_of_update mutex rfl) rfl rfl rfl rfl (by rintro _ ⟨⟩ ⟨⟩)
      (put.endedOf rfl fun _ => all)
  | notFull k here more =>
    obtain ⟨mutex, before⟩ := holder here rfl
    exact put.keep before (stage_of_update mutex rfl) rfl rfl rfl rfl (fun _ _ _ => more)
      (put.endedOf rfl nofun)
  | unlockEnd k here =>
    exact put.keep (holder here rfl).2 (stage_of_free rfl) rfl rfl rfl rfl nofun
      (put.endedOf rfl fun _ => put.ended k (by rw [here]; rfl))
  | unlock k here =>
    exact put.keep (holder here rfl).2 (stage_of_free rfl) rfl rfl rfl rfl nofun
      (put.endedOf rfl nofun)
  | store k here bound => exact put.store owned here
  | incNput k here =>
    obtain ⟨mutex, before⟩ := holder here rfl
    exact put.incNput before (stage_of_update mutex rfl)
  | incNval k here =>
    obtain ⟨mutex, before⟩ := holder here rfl
    exact put.keep before (stage_of_update mutex rfl) rfl rfl rfl rfl (by rintro _ ⟨⟩ ⟨⟩)
      (put.endedOf rfl nofun)
  | count k here =>
    exact put.outside rfl rfl rfl (stage_of_outside owned (by rw [here]; rfl) rfl rfl)
      (put.endedOf rfl nofun)
  | lockReady here free =>
    exact put.keep (stage_of_free free) rfl rfl rfl rfl rfl nofun put.ended
  | unlockReady here | unlockAgain here =>
    have mutex : s.mutex = some .consumer := (owned .consumer).mp (by
      show s.consumer.pc.inside = true
      rw [here]
      rfl)
    have before : s.stage = none := by
      unfold State.stage
      rw [mutex]
    exact put.keep before (stage_of_free rfl) rfl rfl rfl rfl nofun put.ended

end Moves

/-! ### `count[]` -/

/-- The item of the producer is in `shared.nput` and not in its entry of `count[]`. -/
def ProducePc.uncounted : ProducePc → ℤ
  | .incNval | .unlock | .count => 1
  | .unborn | .lock | .test | .unlockEnd | .store | .incNput | .returned => 0

/-- What the producer has put into the array. -/
def State.made (s : State) (k : ℕ) : ℤ := s.count k + (s.producer k).uncounted

def Counted (nthreads : ℤ) (s : State) : Prop :=
  ∑ k ∈ Finset.range (s.main.created nthreads), s.made k = s.nput

theorem counted_start (count : ℕ → ℤ) : Counted nthreads (start count) := rfl

section Moves

variable {s s' : State} {k : ℕ} {pc : ProducePc}

/-- What the threads have made stays. -/
theorem Counted.keep (counted : Counted nthreads s)
    (same : s'.main.created nthreads = s.main.created nthreads) (nput : s'.nput = s.nput)
    (made : ∀ k < s.main.created nthreads, s'.made k = s.made k) : Counted nthreads s' := by
  unfold Counted
  rw [same, nput, sum_range_past made]
  exact counted

/-- Nor does it depend on where a producer stands, but for the items it has not counted. -/
theorem made_of_update (producer : s'.producer = Function.update s.producer k pc)
    (count : s'.count = s.count) (same : pc.uncounted = (s.producer k).uncounted) (j : ℕ) :
    s'.made j = s.made j := by
  unfold State.made
  rw [producer, count]
  by_cases mover : j = k
  · rw [mover, Function.update_self, same]
  · rw [Function.update_of_ne mover]

/-- A producer moves and counts nothing. -/
theorem Counted.produce (counted : Counted nthreads s) (main : s'.main = s.main)
    (nput : s'.nput = s.nput) (producer : s'.producer = Function.update s.producer k pc)
    (count : s'.count = s.count) (same : pc.uncounted = (s.producer k).uncounted) :
    Counted nthreads s' :=
  counted.keep (congrArg (Main.created nthreads) main) nput fun j _ =>
    made_of_update producer count same j

/-- **Every step keeps the sum.** -/
theorem Counted.step {action : Act} (counted : Counted nthreads s)
    (created : Created program nthreads s) (step : Step program nitems nthreads s action s') :
    Counted nthreads s' := by
  cases step with
  | moreThreads here | moreJoins here | join here | joinConsumer here =>
    exact counted.keep (by unfold Main.created; rw [here]; rfl) rfl fun _ _ => rfl
  | print here =>
    exact counted.keep (by unfold Main.created; rw [here]) rfl fun _ _ => rfl
  | createConsumer here =>
    exact counted.keep (by unfold Main.created; rw [here]; cases program <;> rfl) rfl fun _ _ => rfl
  | allJoined here =>
    exact counted.keep (by unfold Main.created; rw [here]; cases program <;> rfl) rfl fun _ _ => rfl
  | allCreated here all =>
    have fits := created.fits
    unfold Main.Fits at fits
    rw [here] at fits
    dsimp only at fits
    have same : Main.created nthreads ⟨program.created, 0⟩ = s.main.created nthreads := by
      unfold Main.created
      rw [here]
      cases program <;> show nthreads.toNat = s.main.i <;> omega
    exact counted.keep same rfl fun _ _ => rfl
  | zero here =>
    refine counted.keep (by unfold Main.created; rw [here]; rfl) rfl fun k below => ?_
    have ne : k ≠ s.main.i := by
      unfold Main.created at below
      rw [here] at below
      exact Nat.ne_of_lt below
    unfold State.made
    show Function.update s.count s.main.i 0 k + _ = _
    rw [Function.update_of_ne ne]
    rfl
  | create here =>
    have place : s.main.created nthreads = s.main.i := by
      unfold Main.created
      rw [here]
    have counted : ∑ k ∈ Finset.range s.main.i, s.made k = s.nput := place ▸ counted
    show ∑ k ∈ Finset.range (s.main.i + 1), _ = _
    rw [Finset.sum_range_succ, sum_range_past fun k below => ?_, counted]
    · unfold State.made
      show (s.nput : ℤ) + (s.count s.main.i + (Function.update s.producer s.main.i .lock
        s.main.i).uncounted) = s.nput
      rw [created.zeroed here, Function.update_self]
      exact Int.add_zero _
    · unfold State.made
      show _ + (Function.update s.producer s.main.i .lock k).uncounted = _
      rw [Function.update_of_ne (Nat.ne_of_lt below)]
      rfl
  | lock k here | full k here | notFull k here | unlockEnd k here | store k here | incNval k here
  | unlock k here =>
    exact counted.produce rfl rfl rfl rfl (by rw [here]; rfl)
  | incNput k here =>
    have below : k < s.main.created nthreads := by
      refine Nat.lt_of_not_le fun past => ?_
      have unborn := (created.born k).mpr past
      rw [here] at unborn
      cases unborn
    have before : s.made k = s.count k + 0 := by
      unfold State.made
      rw [here]
      rfl
    have after : State.made { s.produceTo k .incNval with nput := s.nput + 1 } k =
        s.count k + 1 := by
      unfold State.made
      show _ + (Function.update s.producer k .incNval k).uncounted = _
      rw [Function.update_self]
      rfl
    have change := sum_range_change (f := s.made)
      (g := State.made { s.produceTo k .incNval with nput := s.nput + 1 }) below fun j ne => by
        unfold State.made
        show _ + (Function.update s.producer k .incNval j).uncounted = _
        rw [Function.update_of_ne ne]
        rfl
    unfold Counted at counted ⊢
    rw [before, after, counted] at change
    show ∑ j ∈ Finset.range (s.main.created nthreads), _ = ((s.nput + 1 : ℕ) : ℤ)
    omega
  | count k here =>
    refine counted.keep rfl rfl fun j _ => ?_
    unfold State.made
    show Function.update s.count k (s.count k + 1) j +
      (Function.update s.producer k .lock j).uncounted = _
    by_cases mover : j = k
    · rw [mover, Function.update_self, Function.update_self, here]
      exact Int.add_zero _
    · rw [Function.update_of_ne mover, Function.update_of_ne mover]
  | moreItems | allRead | lockReady | ready | notReady | unlockReady | unlockAgain | wrong | right
  | next => exact counted

end Moves

end Unpvol2.Prodcons2
