/-
**What the threads of `prodcons1` keep.**

* `Opens` — a thread is behind a `sem_wait` only if the process has the semaphore, and behind a
  whole round only if it has all three.
* `Counts` — one token of `mutex`, `NBUFF` tokens of `nempty`, and as many tokens of `nstored` as
  there are items nobody fetches, each in its semaphore or with a thread.
* `Filled` — the items the consumer has not given back lie in their places, and the lines are what
  a queue of `NBUFF` places shows.
* `Range` — `i` stays within `nitems`, and `main` is behind a join only if the thread has returned.

The fields are about semaphores that the process has: where one is missing, `Opens` says that no
thread has come that far.
-/

import Mathlib.Data.Fintype.Defs
import Unpvol2.Lib.BoundedQueue
import Unpvol2.Lib.RingBuffer
import Unpvol2.Prodcons1.Step

namespace Unpvol2.Prodcons1

open Interleaving
open BoundedQueue (Leaves Op)

/-! ### Where the tokens are -/

namespace ProducePc

/-- The token of `nempty` that the producer has. -/
def took : ProducePc → ℕ
  | .waitMutex | .store | .print | .postMutex | .postStored => 1
  | .notYet | .test | .waitEmpty | .returned => 0

/-- The token of `mutex`. -/
def inside : ProducePc → ℕ
  | .store | .print | .postMutex => 1
  | .notYet | .test | .waitEmpty | .waitMutex | .postStored | .returned => 0

/-- The item is in the buffer. -/
def stored : ProducePc → ℕ
  | .print | .postMutex | .postStored => 1
  | .notYet | .test | .waitEmpty | .waitMutex | .store | .returned => 0

/-- Its line has been printed. -/
def printed : ProducePc → ℕ
  | .postMutex | .postStored => 1
  | .notYet | .test | .waitEmpty | .waitMutex | .store | .print | .returned => 0

/-- The producer has had the mutex in this round. -/
def entered : ProducePc → Bool
  | .store | .print | .postMutex | .postStored => true
  | .notYet | .test | .waitEmpty | .waitMutex | .returned => false

/-- The producer is in a round. -/
def busy : ProducePc → Bool
  | .waitEmpty | .waitMutex | .store | .print | .postMutex | .postStored => true
  | .notYet | .test | .returned => false

end ProducePc

namespace ConsumePc

/-- The token of `nstored` that the consumer has. -/
def took : ConsumePc → ℕ
  | .waitMutex | .compare | .print _ | .postMutex | .postEmpty => 1
  | .notYet | .test | .waitStored | .returned => 0

def inside : ConsumePc → ℕ
  | .compare | .print _ | .postMutex => 1
  | .notYet | .test | .waitStored | .waitMutex | .postEmpty | .returned => 0

def printed : ConsumePc → ℕ
  | .postMutex | .postEmpty => 1
  | .notYet | .test | .waitStored | .waitMutex | .compare | .print _ | .returned => 0

def entered : ConsumePc → Bool
  | .compare | .print _ | .postMutex | .postEmpty => true
  | .notYet | .test | .waitStored | .waitMutex | .returned => false

def busy : ConsumePc → Bool
  | .waitStored | .waitMutex | .compare | .print _ | .postMutex | .postEmpty => true
  | .notYet | .test | .returned => false

end ConsumePc

namespace MainPc

/-- The producer has not been created. -/
def beforeProduce : MainPc → Bool
  | .openSem _ | .createProduce => true
  | .createConsume | .joinProduce | .joinConsume | .unlink _ | .exited => false

/-- The consumer has not been created. -/
def beforeConsume : MainPc → Bool
  | .openSem _ | .createProduce | .createConsume => true
  | .joinProduce | .joinConsume | .unlink _ | .exited => false

/-- The producer has been joined. -/
def joinedProduce : MainPc → Bool
  | .joinConsume | .unlink _ | .exited => true
  | .openSem _ | .createProduce | .createConsume | .joinProduce => false

/-- Both threads have been joined. -/
def joined : MainPc → Bool
  | .unlink _ | .exited => true
  | .openSem _ | .createProduce | .createConsume | .joinProduce | .joinConsume => false

end MainPc

/-! ### The invariant -/

namespace Process

structure Opens (x : Process) : Prop where
  noProducer : x.main.beforeProduce = true → x.producer = ⟨.notYet, 0⟩
  noConsumer : x.main.beforeConsume = true → x.consumer = ⟨.notYet, 0⟩
  nempty : 0 < x.producer.pc.took → x.opened .nempty = true
  mutex : x.producer.pc.entered = true → x.opened .mutex = true
  put : 0 < x.producer.i → ∀ name, x.opened name = true
  nstored : 0 < x.consumer.pc.took → x.opened .nstored = true
  mutex' : x.consumer.pc.entered = true → x.opened .mutex = true
  got : 0 < x.consumer.i → ∀ name, x.opened name = true

structure Counts (x : Process) : Prop where
  mutex : x.opened .mutex = true →
    x.sem .mutex + x.producer.pc.inside + x.consumer.pc.inside = 1
  nempty : x.opened .nempty = true →
    x.sem .nempty + x.producer.i + x.producer.pc.took = nbuff + x.consumer.i
  nstored : x.opened .nstored = true →
    x.sem .nstored + x.consumer.i + x.consumer.pc.took = x.producer.i

end Process

/-- The line of an operation of the queue. -/
def Line.of : Op ℕ → Line
  | .put value => .put value
  | .get value => .get value

namespace Process

structure Filled (x : Process) : Prop where
  stores : Stores (fun k value => value = k) x.buff x.consumer.i
    (x.producer.i + x.producer.pc.stored)
  same : x.consumer.pc ≠ .print true
  printed : ∃ ops, x.stdout = ops.map Line.of ∧
    Leaves nbuff ops (x.consumer.i + x.consumer.pc.printed) (x.producer.i + x.producer.pc.printed)

structure Range (nitems : ℤ) (x : Process) : Prop where
  put : x.producer.i ≤ nitems.toNat
  more : x.producer.pc.busy = true → (x.producer.i : ℤ) < nitems
  produced : x.producer.pc = .returned → nitems ≤ x.producer.i
  got : x.consumer.i ≤ nitems.toNat
  more' : x.consumer.pc.busy = true → (x.consumer.i : ℤ) < nitems
  consumed : x.consumer.pc = .returned → nitems ≤ x.consumer.i
  produces : x.main.beforeProduce = false → x.producer.pc ≠ .notYet
  consumes : x.main.beforeConsume = false → x.consumer.pc ≠ .notYet
  joinedProduce : x.main.joinedProduce = true → x.producer.pc = .returned
  joined : x.main.joined = true → x.consumer.pc = .returned

structure Kept (nitems : ℤ) (x : Process) : Prop where
  opens : x.Opens
  counts : x.Counts
  filled : x.Filled
  range : x.Range nitems

variable {nitems : ℤ} {x x' : Process} {move : Move}

/-! ### What the invariant says about the two counters -/

/-- The consumer is behind the producer. -/
theorem Kept.behind (kept : Kept nitems x) :
    x.consumer.i + x.consumer.pc.took ≤ x.producer.i := by
  cases opened : x.opened .nstored with
  | true =>
    have counts := kept.counts.nstored opened
    omega
  | false =>
    have took : ¬ 0 < x.consumer.pc.took := fun took => by
      rw [kept.opens.nstored took] at opened
      cases opened
    have got : ¬ 0 < x.consumer.i := fun got => by
      rw [kept.opens.got got] at opened
      cases opened
    omega

/-- The producer is at most `NBUFF` items ahead. -/
theorem Kept.ahead (kept : Kept nitems x) :
    x.producer.i + x.producer.pc.took ≤ nbuff + x.consumer.i := by
  cases opened : x.opened .nempty with
  | true =>
    have counts := kept.counts.nempty opened
    omega
  | false =>
    have took : ¬ 0 < x.producer.pc.took := fun took => by
      rw [kept.opens.nempty took] at opened
      cases opened
    have put : ¬ 0 < x.producer.i := fun put => by
      rw [kept.opens.put put] at opened
      cases opened
    omega

/-! ### The start and the steps -/

/-- As long as `main` opens semaphores there are no threads. -/
theorem Opens.fresh (producer : x.producer = ⟨.notYet, 0⟩) (consumer : x.consumer = ⟨.notYet, 0⟩) :
    Opens x := by
  refine ⟨fun _ => producer, fun _ => consumer, ?_, ?_, ?_, ?_, ?_, ?_⟩
  all_goals first | rw [producer] | rw [consumer]
  all_goals exact fun impossible => by cases impossible

theorem Opens.step (opens : Opens x) (step : Step nitems x move x') : Opens x' := by
  obtain ⟨opened, sem, buff, main, ⟨pc, i⟩, ⟨pc', i'⟩, stdout, killed⟩ := x
  cases step with
  | openSem name here | failed name here =>
    subst here
    exact .fresh (opens.noProducer rfl) (opens.noConsumer rfl)
  | createProduce taken here =>
    subst here
    cases opens.noProducer rfl
    exact { opens with noProducer := fun before => by cases before }
  | createConsume taken here =>
    subst here
    cases opens.noConsumer rfl
    exact { opens with
      noProducer := fun before => by cases before
      noConsumer := fun before => by cases before }
  | joinProduce taken here returned | joinConsume taken here returned =>
    subst here
    exact { opens with
      noProducer := fun before => by cases before
      noConsumer := fun before => by cases before }
  | unlink taken name here =>
    subst here
    exact { opens with
      noProducer := fun before => by cases name <;> cases before
      noConsumer := fun before => by cases name <;> cases before }
  | produceMore here | produceEnd here | store here | put here | produceUnlock here =>
    subst here
    exact { opens with noProducer := fun before => by cases opens.noProducer before }
  | waitEmpty here has =>
    subst here
    exact { opens with
      noProducer := fun before => by cases opens.noProducer before
      nempty := fun _ => has }
  | produceLock here has =>
    subst here
    exact { opens with
      noProducer := fun before => by cases opens.noProducer before
      mutex := fun _ => has }
  | postStored here has =>
    subst here
    exact { opens with
      noProducer := fun before => by cases opens.noProducer before
      nempty := fun took => by cases took
      mutex := fun entered => by cases entered
      put := fun _ name => by
        cases name with
        | mutex => exact opens.mutex rfl
        | nempty => exact opens.nempty Nat.one_pos
        | nstored => exact has }
  | consumeMore here | consumeEnd here | compare here | differs here | get here
  | consumeUnlock here =>
    subst here
    exact { opens with noConsumer := fun before => by cases opens.noConsumer before }
  | waitStored here has =>
    subst here
    exact { opens with
      noConsumer := fun before => by cases opens.noConsumer before
      nstored := fun _ => has }
  | consumeLock here has =>
    subst here
    exact { opens with
      noConsumer := fun before => by cases opens.noConsumer before
      mutex' := fun _ => has }
  | postEmpty here has =>
    subst here
    exact { opens with
      noConsumer := fun before => by cases opens.noConsumer before
      nstored := fun took => by cases took
      mutex' := fun entered => by cases entered
      got := fun _ name => by
        cases name with
        | mutex => exact opens.mutex' rfl
        | nempty => exact has
        | nstored => exact opens.nstored Nat.one_pos }
  | die => exact { opens with }

theorem Counts.step (counts : Counts x) (opens : Opens x) (step : Step nitems x move x') :
    Counts x' := by
  obtain ⟨opened, sem, buff, main, ⟨pc, i⟩, ⟨pc', i'⟩, stdout, killed⟩ := x
  cases step with
  | openSem name here =>
    subst here
    cases opens.noProducer rfl
    cases opens.noConsumer rfl
    -- the new semaphore has its first value, and no thread has a token
    cases name with
    | mutex => exact { counts with mutex := fun _ => rfl }
    | nempty => exact { counts with nempty := fun _ => rfl }
    | nstored => exact { counts with nstored := fun _ => rfl }
  | createProduce taken here =>
    subst here
    cases opens.noProducer rfl
    exact { counts with }
  | createConsume taken here =>
    subst here
    cases opens.noConsumer rfl
    exact { counts with }
  | failed | joinProduce | joinConsume | unlink | die => exact { counts with }
  | produceMore here | produceEnd here | store here | put here =>
    subst here
    exact { counts with }
  | waitEmpty here has positive =>
    subst here
    refine { counts with nempty := fun _ => ?_ }
    have before : sem .nempty + i + 0 = nbuff + i' := counts.nempty has
    show sem .nempty - 1 + i + 1 = nbuff + i'
    have : 0 < sem .nempty := positive
    omega
  | produceLock here has positive =>
    subst here
    refine { counts with mutex := fun _ => ?_ }
    have before : sem .mutex + 0 + pc'.inside = 1 := counts.mutex has
    show sem .mutex - 1 + 1 + pc'.inside = 1
    have : 0 < sem .mutex := positive
    omega
  | produceUnlock here has =>
    subst here
    refine { counts with mutex := fun _ => ?_ }
    have before : sem .mutex + 1 + pc'.inside = 1 := counts.mutex has
    show sem .mutex + 1 + 0 + pc'.inside = 1
    omega
  | postStored here has =>
    subst here
    refine { counts with nempty := fun opened => ?_, nstored := fun _ => ?_ }
    · have before : sem .nempty + i + 1 = nbuff + i' := counts.nempty opened
      show sem .nempty + (i + 1) + 0 = nbuff + i'
      omega
    · have before : sem .nstored + i' + pc'.took = i := counts.nstored has
      show sem .nstored + 1 + i' + pc'.took = i + 1
      omega
  | consumeMore here | consumeEnd here | compare here | differs here | get here =>
    subst here
    exact { counts with }
  | waitStored here has positive =>
    subst here
    refine { counts with nstored := fun _ => ?_ }
    have before : sem .nstored + i' + 0 = i := counts.nstored has
    show sem .nstored - 1 + i' + 1 = i
    have : 0 < sem .nstored := positive
    omega
  | consumeLock here has positive =>
    subst here
    refine { counts with mutex := fun _ => ?_ }
    have before : sem .mutex + pc.inside + 0 = 1 := counts.mutex has
    show sem .mutex - 1 + pc.inside + 1 = 1
    have : 0 < sem .mutex := positive
    omega
  | consumeUnlock here has =>
    subst here
    refine { counts with mutex := fun _ => ?_ }
    have before : sem .mutex + pc.inside + 1 = 1 := counts.mutex has
    show sem .mutex + 1 + pc.inside + 0 = 1
    omega
  | postEmpty here has =>
    subst here
    refine { counts with nempty := fun _ => ?_, nstored := fun opened => ?_ }
    · have before : sem .nempty + i + pc.took = nbuff + i' := counts.nempty has
      show sem .nempty + 1 + i + pc.took = nbuff + (i' + 1)
      omega
    · have before : sem .nstored + i' + 1 = i := counts.nstored opened
      show sem .nstored + (i' + 1) + 0 = i
      omega

theorem Range.step (range : Range nitems x) (opens : Opens x) (step : Step nitems x move x') :
    Range nitems x' := by
  obtain ⟨opened, sem, buff, main, ⟨pc, i⟩, ⟨pc', i'⟩, stdout, killed⟩ := x
  cases step with
  | openSem name here | failed name here =>
    subst here
    exact { range with
      produces := fun begun => by cases name <;> cases begun
      consumes := fun begun => by cases name <;> cases begun
      joinedProduce := fun joined => by cases name <;> cases joined
      joined := fun joined => by cases name <;> cases joined }
  | createProduce taken here =>
    subst here
    exact { range with
      produces := fun _ => nofun
      consumes := fun begun => by cases begun
      more := fun busy => by cases busy
      produced := fun returned => by cases returned
      joinedProduce := fun joined => by cases joined
      joined := fun joined => by cases joined }
  | createConsume taken here =>
    subst here
    exact { range with
      produces := fun _ => range.produces rfl
      consumes := fun _ => nofun
      more' := fun busy => by cases busy
      consumed := fun returned => by cases returned
      joinedProduce := fun joined => by cases joined
      joined := fun joined => by cases joined }
  | joinProduce taken here returned =>
    subst here
    exact { range with
      joinedProduce := fun _ => returned
      joined := fun joined => by cases joined }
  | joinConsume taken here returned =>
    subst here
    exact { range with
      joinedProduce := fun _ => range.joinedProduce rfl
      joined := fun _ => returned }
  | unlink taken name here =>
    subst here
    exact { range with
      produces := fun _ => range.produces rfl
      consumes := fun _ => range.consumes rfl
      joinedProduce := fun _ => range.joinedProduce rfl
      joined := fun _ => range.joined rfl }
  | produceMore here more =>
    subst here
    exact { range with
      produces := fun _ => nofun
      more := fun _ => more
      produced := fun returned => by cases returned
      joinedProduce := fun joined => by cases range.joinedProduce joined }
  | produceEnd here all =>
    subst here
    exact { range with
      produces := fun _ => nofun
      more := fun busy => by cases busy
      produced := fun _ => all
      joinedProduce := fun _ => rfl }
  | waitEmpty here | produceLock here | store here | put here | produceUnlock here =>
    subst here
    exact { range with
      produces := fun _ => nofun
      more := fun _ => range.more rfl
      produced := fun returned => by cases returned
      joinedProduce := fun joined => by cases range.joinedProduce joined }
  | postStored here =>
    subst here
    have more : (i : ℤ) < nitems := range.more rfl
    exact { range with
      produces := fun _ => nofun
      put := show i + 1 ≤ nitems.toNat by omega
      more := fun busy => by cases busy
      produced := fun returned => by cases returned
      joinedProduce := fun joined => by cases range.joinedProduce joined }
  | consumeMore here more =>
    subst here
    exact { range with
      consumes := fun _ => nofun
      more' := fun _ => more
      consumed := fun returned => by cases returned
      joined := fun joined => by cases range.joined joined }
  | consumeEnd here all =>
    subst here
    exact { range with
      consumes := fun _ => nofun
      more' := fun busy => by cases busy
      consumed := fun _ => all
      joined := fun _ => rfl }
  | waitStored here | consumeLock here | compare here | differs here | get here
  | consumeUnlock here =>
    subst here
    exact { range with
      consumes := fun _ => nofun
      more' := fun _ => range.more' rfl
      consumed := fun returned => by cases returned
      joined := fun joined => by cases range.joined joined }
  | postEmpty here =>
    subst here
    have more : (i' : ℤ) < nitems := range.more' rfl
    exact { range with
      consumes := fun _ => nofun
      got := show i' + 1 ≤ nitems.toNat by omega
      more' := fun busy => by cases busy
      consumed := fun returned => by cases returned
      joined := fun joined => by cases range.joined joined }
  | die => exact { range with }

theorem Kept.filled_step (kept : Kept nitems x) (step : Step nitems x move x') : Filled x' := by
  have filled := kept.filled
  have behind := kept.behind
  have ahead := kept.ahead
  have opens := kept.opens
  clear kept
  obtain ⟨opened, sem, buff, main, ⟨pc, i⟩, ⟨pc', i'⟩, stdout, killed⟩ := x
  cases step with
  | openSem | failed | joinProduce | joinConsume | unlink | die => exact { filled with }
  | createProduce taken here =>
    subst here
    cases opens.noProducer rfl
    exact { filled with }
  | createConsume taken here =>
    subst here
    cases opens.noConsumer rfl
    exact { filled with same := nofun }
  | produceMore here | produceEnd here | waitEmpty here | produceLock here | produceUnlock here =>
    subst here
    exact { filled with }
  | store here =>
    subst here
    have room : i + 1 ≤ nbuff + i' := ahead
    exact { filled with stores := filled.stores.put (show i + 0 < i' + nbuff by omega) rfl }
  | put here =>
    subst here
    have behind : i' + pc'.took ≤ i := behind
    have room : i + 1 ≤ nbuff + i' := ahead
    have value : buff (slot i) = i := filled.stores i (show i' ≤ i by omega) (Nat.lt_succ_self i)
    obtain ⟨ops, same, leaves⟩ := filled.printed
    refine { filled with printed := ⟨ops ++ [.put i], ?_, leaves.put ?_⟩ }
    · show stdout ++ [.put (buff (slot i))] = _
      rw [value, List.map_append, show stdout = ops.map Line.of from same]
      rfl
    · show i + 0 < i' + pc'.printed + nbuff
      omega
  | postStored here =>
    subst here
    exact { filled with }
  | consumeMore here | consumeEnd here | waitStored here | consumeLock here =>
    subst here
    exact { filled with same := nofun }
  | consumeUnlock here =>
    subst here
    exact { filled with same := nofun }
  | compare here =>
    subst here
    have behind : i' + 1 ≤ i := behind
    have value : buff (slot i') = i' :=
      filled.stores i' (Nat.le_refl i') (show i' < i + pc.stored by omega)
    refine { filled with same := fun differs => ?_ }
    have bad : decide (buff (slot i') ≠ i') = true := ConsumePc.print.inj differs
    exact of_decide_eq_true bad value
  | differs here => exact absurd here filled.same
  | get here =>
    subst here
    have behind : i' + 1 ≤ i := behind
    have value : buff (slot i') = i' :=
      filled.stores i' (Nat.le_refl i') (show i' < i + pc.stored by omega)
    obtain ⟨ops, same, leaves⟩ := filled.printed
    refine { filled with
      same := nofun
      printed := ⟨ops ++ [.get i'], ?_, leaves.get ?_⟩ }
    · show stdout ++ [.get (buff (slot i'))] = _
      rw [value, List.map_append, show stdout = ops.map Line.of from same]
      rfl
    · show i' + 0 < i + pc.printed
      omega
  | postEmpty here =>
    subst here
    exact { filled with
      stores := filled.stores.drop
      same := nofun }

theorem kept_start (nitems : ℤ) : Kept nitems start where
  opens := .fresh rfl rfl
  counts := ⟨nofun, nofun, nofun⟩
  filled := ⟨Stores.empty _ _ 0, nofun, [], rfl, Leaves.none nbuff⟩
  range := ⟨Nat.zero_le _, nofun, nofun, Nat.zero_le _, nofun, nofun, nofun, nofun, nofun, nofun⟩

/-- **Every step keeps the invariant.** -/
theorem Kept.step (kept : Kept nitems x) (step : Step nitems x move x') : Kept nitems x' where
  opens := kept.opens.step step
  counts := kept.counts.step kept.opens step
  filled := kept.filled_step step
  range := kept.range.step kept.opens step

end Process

end Unpvol2.Prodcons1
