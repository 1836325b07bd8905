/-
**Programs that receive after a notification.**

What `mqnotifysig3`, `mqnotifysig4` and `mqnotifysig5` have in common: a first `mq_notify`, then a
loop that waits for a notification, registers again and receives until `EAGAIN`. They differ in how
they wait. A `Receiver` is what the queue sees of such a program, and `Does` what it can do.

* `Armed` — there is a registration, or a notification that has not been answered, or the program is
  about to register again. Every step keeps it.
* `Drained` — a registration on a queue with messages is only there while they are received. Every
  step keeps it, so it is the state of the queue at the first `mq_notify` that counts.
* `Deaf` — a registration on a queue with messages that nobody is about to receive. No step leads
  out of it: a message that arrives notifies only on an empty queue.
* `Program.served_iff` — **a program that is such a receiver waits on an empty queue if and only if
  the queue was empty at its first `mq_notify`.**
-/

import Unpvol2.Lib.Machine
import Unpvol2.Mq.Queue

namespace Unpvol2.Mq

open Interleaving

/-! ### What the queue sees -/

/-- Where a program is in its loop. -/
inductive Phase
  | waiting
  /-- `mq_notify` comes next -/
  | registering
  /-- before the `EAGAIN` -/
  | draining
deriving DecidableEq

structure Receiver where
  queue : Queue
  /-- the notifications that have not been answered -/
  notices : ℕ
  phase : Phase

namespace Receiver

/-- What a program does that is seen at the queue, and what is done to it. -/
inductive Does (r : Receiver) : Receiver → Prop
  /-- the wait is over -/
  | answer {n : ℕ} (here : r.phase = .waiting) (notified : r.notices = n + 1) :
    Does r { r with notices := n, phase := .registering }
  | register (here : r.phase = .registering) :
    Does r { r with queue := r.queue.notify.2, phase := .draining }
  | receive {m : Message} {queue : Queue} (here : r.phase = .draining)
    (received : r.queue.receive = some (m, queue)) : Does r { r with queue := queue }
  | again (here : r.phase = .draining) (empty : r.queue.receive = none) :
    Does r { r with phase := .waiting }
  | send {m : Message} {queue : Queue} {notifies : Bool}
    (sent : r.queue.send m = some (queue, notifies)) :
    Does r { r with queue := queue, notices := r.notices + notifies.toNat }

/-- After the first `mq_notify` on a queue. -/
def start (q : Queue) : Receiver := ⟨q.notify.2, 0, .waiting⟩

/-- There is one registration, notification to answer or `mq_notify` to come. -/
def Armed (r : Receiver) : Prop :=
  r.queue.registered.toNat + r.notices + (if r.phase = .registering then 1 else 0) = 1

/-- What is registered on a queue with messages is about to receive them. -/
def Drained (r : Receiver) : Prop :=
  r.queue.registered = true → r.phase ≠ .draining → r.queue.messages = []

/-- It waits, for a notification that will not be made. -/
structure Deaf (r : Receiver) : Prop where
  waiting : r.phase = .waiting
  quiet : r.notices = 0
  registered : r.queue.registered = true
  messages : r.queue.messages ≠ []

variable {r r' : Receiver}

/-- What is about to register is not registered. -/
theorem Armed.free (armed : r.Armed) (here : r.phase = .registering) :
    r.queue.registered = false := by
  unfold Armed at armed
  rw [if_pos here] at armed
  cases registered : r.queue.registered with
  | false => rfl
  | true =>
    rw [registered, Bool.toNat_true] at armed
    omega

/-- Nor has it a notification to answer. -/
theorem Armed.unnotified (armed : r.Armed) (here : r.phase = .registering) : r.notices = 0 := by
  unfold Armed at armed
  rw [if_pos here] at armed
  omega

/-- What waits and has no notification to answer is registered. -/
theorem Armed.registered (armed : r.Armed) (here : r.phase = .waiting) (quiet : r.notices = 0) :
    r.queue.registered = true := by
  unfold Armed at armed
  rw [here, quiet, if_neg nofun] at armed
  cases registered : r.queue.registered with
  | true => rfl
  | false =>
    rw [registered, Bool.toNat_false] at armed
    omega

/-- There is never a second notification to answer. -/
theorem Armed.notices_le (armed : r.Armed) : r.notices ≤ 1 := by
  unfold Armed at armed
  omega

/-- What is registered has no notification to answer. -/
theorem Armed.quiet (armed : r.Armed) (registered : r.queue.registered = true) :
    r.notices = 0 := by
  unfold Armed at armed
  rw [registered, Bool.toNat_true] at armed
  omega

/-- Only on its way to `mq_notify` does it matter where it is. -/
theorem Armed.goto (armed : r.Armed) (away : r.phase ≠ .registering) {phase : Phase}
    (away' : phase ≠ .registering) : Armed { r with phase := phase } := by
  unfold Armed at armed ⊢
  rw [if_neg away] at armed
  rw [if_neg away']
  exact armed

/-- A message that notifies makes a signal pending, which was not pending before. -/
theorem Armed.sent (armed : r.Armed) {m : Message} {queue : Queue} {notifies : Bool}
    (pending : Bool) (rest : ℕ) (sent : r.queue.send m = some (queue, notifies))
    (notices : r.notices = pending.toNat + rest) :
    r.Does { r with queue := queue, notices := (pending || notifies).toNat + rest } := by
  have does := Does.send sent
  have pending : (pending || notifies).toNat + rest = r.notices + notifies.toNat := by
    rcases (Queue.send_cases sent).2 with ⟨rfl, registered, _⟩ | ⟨rfl, _⟩
    · have quiet := armed.quiet registered
      rw [Bool.or_true, Bool.toNat_true]
      omega
    · rw [Bool.or_false, Bool.toNat_false, notices]
      rfl
  rw [pending]
  exact does

theorem Armed.does (armed : r.Armed) (does : r.Does r') : r'.Armed := by
  have before := armed
  unfold Armed at armed ⊢
  cases does with
  | answer here notified =>
    rw [here, notified, if_neg nofun] at armed
    rw [if_pos rfl]
    omega
  | register here =>
    have free := before.free here
    rw [if_pos here, free, Bool.toNat_false] at armed
    rw [Queue.notify_of_free free, if_neg nofun]
    show Bool.toNat true + r.notices + 0 = 1
    rw [Bool.toNat_true]
    omega
  | receive here received =>
    rw [(Queue.receive_some received).2]
    exact armed
  | again here empty => exact before.goto (by rw [here]; exact nofun) nofun
  | send sent =>
    rcases (Queue.send_cases sent).2 with ⟨rfl, registered, taken, _⟩ | ⟨rfl, same, _⟩
    · rw [registered, Bool.toNat_true] at armed
      rw [taken, Bool.toNat_false, Bool.toNat_true, Nat.zero_add, Nat.add_comm r.notices]
      exact armed
    · rw [same]
      exact armed

theorem Drained.does (drained : r.Drained) (does : r.Does r') : r'.Drained := by
  intro registered outside
  cases does with
  | answer here notified => exact drained registered (by rw [here]; exact nofun)
  | register here => exact absurd rfl outside
  | receive here received => exact absurd here outside
  | again here empty => exact Queue.receive_none empty
  | send sent =>
    rcases (Queue.send_cases sent).2 with ⟨_, _, taken, _⟩ | ⟨_, same, nonempty⟩
    · exact absurd (taken.symm.trans registered) Bool.false_ne_true
    · have before := same.symm.trans registered
      exact absurd (drained before outside) (nonempty before)

theorem Deaf.does (deaf : r.Deaf) (does : r.Does r') : r'.Deaf := by
  obtain ⟨waiting, quiet, registered, messages⟩ := deaf
  cases does with
  | answer here notified => omega
  | register here | receive here received | again here empty =>
    exact Phase.noConfusion (waiting.symm.trans here)
  | @send m queue notifies sent =>
    obtain ⟨added, ⟨_, _, _, empty⟩ | ⟨rfl, same, _⟩⟩ := Queue.send_cases sent
    · exact absurd empty messages
    · refine ⟨waiting, quiet, same.trans registered, fun empty => ?_⟩
      have empty : queue.messages = [] := empty
      rw [empty] at added
      exact absurd added.symm (List.cons_ne_nil _ _ ∘ List.perm_nil.mp)

variable {q : Queue}

theorem armed_start (free : q.registered = false) : (start q).Armed := by
  rw [start, Queue.notify_of_free free]
  rfl

theorem drained_start (empty : q.messages = []) : (start q).Drained := by
  intro _ _
  show q.notify.2.messages = []
  unfold Queue.notify
  split <;> exact empty

/-- **Who registers on a queue with messages is deaf.** -/
theorem deaf_start (free : q.registered = false) (messages : q.messages ≠ []) : (start q).Deaf := by
  rw [start, Queue.notify_of_free free]
  exact ⟨rfl, rfl, rfl, messages⟩

end Receiver

/-! ### Programs -/

/-- A program from its first `mq_notify` on. -/
structure Program (σ α : Type) where
  /-- after the first `mq_notify` on a queue -/
  begin : Queue → σ
  step : σ → α → Option σ
  /-- `main` runs its statement -/
  main : α
  view : σ → Receiver
  /-- blocked in its wait, and no notification pending -/
  Waits : σ → Prop

/-- A program before its first `mq_notify` or after it. -/
inductive Stage (σ : Type)
  /-- the queue it has opened -/
  | opening (q : Queue)
  | running (s : σ)

inductive Startup (α : Type)
  /-- a message arrives before the first `mq_notify` -/
  | arrive (m : Message)
  /-- the first `mq_notify` -/
  | register
  | act (action : α)

namespace Program

variable {σ α : Type} (P : Program σ α)

def startupStep : Stage σ → Startup α → Option (Stage σ)
  | .opening q, .arrive m => (q.send m).map fun sent => .opening sent.1
  | .opening q, .register => some (.running (P.begin q))
  | .running s, .act action => (P.step s action).map .running
  | .opening _, .act _ | .running _, .arrive _ | .running _, .register => none

/-- The program opens a queue that holds the messages. -/
def startup (maxmsg : ℕ) (messages : List Message) : Machine (Stage σ) (Startup α) :=
  ⟨.opening ⟨maxmsg, messages, false⟩, P.startupStep⟩

/-- Blocked with no notification pending, the program leaves no message in the queue. -/
def Served : Stage σ → Prop
  | .opening _ => True
  | .running s => P.Waits s → (P.view s).queue.messages = []

/-- No message arrives between `mq_open` and the first `mq_notify`. -/
def OnTime : Stage σ → Startup α → Prop
  | .opening _, .arrive _ => False
  | _, _ => True

/-- What the program does by itself. -/
def Own : Startup α → Prop
  | .register => True
  | .act action => action = P.main
  | .arrive _ => False

/-- **The program is a receiver**, under an invariant of its own, and with nothing to answer it
comes to its wait. -/
structure Lawful (I : σ → Prop) (rank : σ → ℕ) : Prop where
  begins : ∀ q, q.registered = false → I (P.begin q) ∧ P.view (P.begin q) = .start q
  kept : ∀ s action s', I s → (P.view s).Armed → P.step s action = some s' → I s'
  does : ∀ s action s', I s → (P.view s).Armed → P.step s action = some s' →
    P.view s' = P.view s ∨ (P.view s).Does (P.view s')
  waits : ∀ s, I s → P.Waits s → (P.view s).phase = .waiting ∧ (P.view s).notices = 0
  settles : ∀ s, I s → (P.view s).phase = .waiting → (P.view s).notices = 0 → ¬ P.Waits s →
    ∃ s', P.step s P.main = some s' ∧ P.view s' = P.view s ∧ rank s' < rank s

instance [DecidablePred P.Waits] : DecidablePred P.Served
  | .opening _ => isTrue trivial
  | .running _ => inferInstanceAs (Decidable (P.Waits _ → _))

instance (s : Stage σ) : DecidablePred (OnTime s : Startup α → Prop)
  | .arrive _ =>
    match s with
    | .opening _ => isFalse id
    | .running _ => isTrue trivial
  | .register | .act _ => by cases s <;> exact isTrue trivial

/-- The run is possible. -/
def Possible (maxmsg : ℕ) (messages : List Message) (actions : List (Startup α)) : Prop :=
  ((P.startup maxmsg messages).run (P.startup maxmsg messages).init actions).isSome = true

instance (maxmsg : ℕ) (messages : List Message) : DecidablePred (P.Possible maxmsg messages) :=
  fun _ => inferInstanceAs (Decidable (_ = true))

/-- In every state of the run, and of what the program makes of it by itself, it is `Served`. -/
def ServedAlong (maxmsg : ℕ) (messages : List Message) (actions : List (Startup α)) : Prop :=
  ∀ more, (∀ action ∈ more, P.Own action) →
    (P.startup maxmsg messages).Along P.Served (P.startup maxmsg messages).init (actions ++ more)

/-- The queue is empty from `mq_open` to the first `mq_notify` of the run. -/
def EmptyAtFirst (maxmsg : ℕ) (messages : List Message) (actions : List (Startup α)) : Prop :=
  messages = [] ∧
    (P.startup maxmsg messages).Admitted OnTime (P.startup maxmsg messages).init actions

variable {P} {I : σ → Prop} {rank : σ → ℕ}

/-- The first `mq_notify` finds the queue empty. -/
def Good (P : Program σ α) (I : σ → Prop) : Stage σ → Prop
  | .opening q => q.registered = false ∧ q.messages = []
  | .running s => I s ∧ (P.view s).Armed ∧ (P.view s).Drained

/-- The first `mq_notify` finds messages in the queue. -/
def Late (P : Program σ α) (I : σ → Prop) : Stage σ → Prop
  | .opening q => q.registered = false ∧ q.messages ≠ []
  | .running s => I s ∧ (P.view s).Armed ∧ (P.view s).Deaf

/-- The queue after a message has arrived on it before the first `mq_notify`. -/
theorem late_arrive {q : Queue} {m : Message} {sent : Queue × Bool} (free : q.registered = false)
    (arrives : q.send m = some sent) : Late P I (.opening sent.1) := by
  obtain ⟨queue, notifies⟩ := sent
  obtain ⟨added, ⟨_, registered, _⟩ | ⟨_, same, _⟩⟩ := Queue.send_cases arrives
  · exact absurd (free.symm.trans registered) Bool.false_ne_true
  · refine ⟨same.trans free, fun empty => ?_⟩
    rw [empty] at added
    exact absurd added.symm (List.cons_ne_nil _ _ ∘ List.perm_nil.mp)

/-- What a receiver keeps, the running program keeps. -/
theorem Lawful.act (lawful : P.Lawful I rank) {R : Receiver → Prop}
    (rule : ∀ {r r'}, R r → r.Does r' → R r') {s s' : σ} {action : α}
    (before : I s ∧ (P.view s).Armed ∧ R (P.view s)) (step : P.step s action = some s') :
    I s' ∧ (P.view s').Armed ∧ R (P.view s') := by
  obtain ⟨holds, armed, more⟩ := before
  refine ⟨lawful.kept s action s' holds armed step, ?_⟩
  rcases lawful.does s action s' holds armed step with same | does
  · rw [same]
    exact ⟨armed, more⟩
  · exact ⟨armed.does does, rule more does⟩

theorem Lawful.good_step (lawful : P.Lawful I rank) {s s' : Stage σ} {action : Startup α}
    (good : Good P I s) (onTime : OnTime s action) (step : P.startupStep s action = some s') :
    Good P I s' := by
  cases s with
  | opening q =>
    cases action with
    | arrive m => exact onTime.elim
    | register =>
      cases step
      obtain ⟨holds, view⟩ := lawful.begins q good.1
      refine ⟨holds, ?_⟩
      rw [view]
      exact ⟨Receiver.armed_start good.1, Receiver.drained_start good.2⟩
    | act action => cases step
  | running s =>
    cases action with
    | arrive m | register => cases step
    | act action =>
      obtain ⟨next, moved, rfl⟩ := Option.map_eq_some_iff.mp step
      exact lawful.act Receiver.Drained.does good moved

theorem Lawful.late_step (lawful : P.Lawful I rank) {s s' : Stage σ} {action : Startup α}
    (late : Late P I s) (step : P.startupStep s action = some s') : Late P I s' := by
  cases s with
  | opening q =>
    cases action with
    | arrive m =>
      obtain ⟨sent, arrives, rfl⟩ := Option.map_eq_some_iff.mp step
      exact late_arrive late.1 arrives
    | register =>
      cases step
      obtain ⟨holds, view⟩ := lawful.begins q late.1
      refine ⟨holds, ?_⟩
      rw [view]
      exact ⟨Receiver.armed_start late.1, Receiver.deaf_start late.1 late.2⟩
    | act action => cases step
  | running s =>
    cases action with
    | arrive m | register => cases step
    | act action =>
      obtain ⟨next, moved, rfl⟩ := Option.map_eq_some_iff.mp step
      exact lawful.act Receiver.Deaf.does late moved

theorem Lawful.served_of_good (lawful : P.Lawful I rank) {s : Stage σ} (good : Good P I s) :
    P.Served s := by
  cases s with
  | opening q => trivial
  | running s =>
    obtain ⟨holds, armed, drained⟩ := good
    intro waits
    obtain ⟨waiting, quiet⟩ := lawful.waits s holds waits
    exact drained (armed.registered waiting quiet) (by rw [waiting]; exact nofun)

/-- A late program comes by itself to its wait, with messages in the queue. -/
theorem Lawful.not_served_of_late (lawful : P.Lawful I rank) {s : Stage σ} (late : Late P I s)
    (maxmsg : ℕ) (messages : List Message) :
    ∃ more s', (∀ action ∈ more, P.Own action) ∧
      (P.startup maxmsg messages).run s more = some s' ∧ ¬ P.Served s' := by
  let height : Stage σ → ℕ
    | .opening q => rank (P.begin q) + 1
    | .running s => rank s
  obtain ⟨more, s', own, ran, _, goal⟩ := Machine.exists_run_of_rank
    (M := P.startup maxmsg messages) (I := Late P I) P.Own (fun s => ¬ P.Served s) height
    (fun s late awake => by
      cases s with
      | opening q =>
        refine ⟨.register, .running (P.begin q), trivial, rfl, ?_, Nat.lt_succ_self _⟩
        exact lawful.late_step late (show P.startupStep (.opening q) .register = _ from rfl)
      | running s =>
        have deaf := late.2.2
        have away : ¬ P.Waits s := fun waits => deaf.messages (not_not.mp awake waits)
        obtain ⟨next, step, _, lower⟩ :=
          lawful.settles s late.1 deaf.waiting deaf.quiet away
        refine ⟨.act P.main, .running next, rfl, ?_, ?_, lower⟩
        · exact Option.map_eq_some_iff.mpr ⟨next, step, rfl⟩
        · exact lawful.act Receiver.Deaf.does late step)
    late
  exact ⟨more, s', own, ran, goal⟩

/-- **When a program waits on an empty queue.** Whatever messages arrive and however the steps
follow each other: it does so in every state of a run, and of what it makes of the run by itself, if
and only if the queue is empty from `mq_open` to the first `mq_notify`. -/
theorem Lawful.served_iff (lawful : P.Lawful I rank) {maxmsg : ℕ} {messages : List Message}
    {actions : List (Startup α)} (possible : P.Possible maxmsg messages actions) :
    P.ServedAlong maxmsg messages actions ↔ P.EmptyAtFirst maxmsg messages actions := by
  obtain ⟨s, ran⟩ := Option.isSome_iff_exists.mp possible
  constructor
  · intro served
    have notLate : ¬ Late P I s := fun late => by
      obtain ⟨more, s', own, after, unserved⟩ :=
        lawful.not_served_of_late late maxmsg messages
      exact unserved (((served more own).after ran).last after)
    have kept : ∀ s action s', Late P I s → Anything s action →
        (P.startup maxmsg messages).step s action = some s' → Late P I s' :=
      fun s action s' late _ step => lawful.late_step late step
    rcases eq_or_ne messages [] with empty | nonempty
    · have start : Good P I (P.startup maxmsg messages).init := ⟨rfl, empty⟩
      refine ⟨empty, (Machine.admitted_or_trapped (Late P I) ?_ ?_ kept start
        (Machine.admitted_anything _ actions) ran).resolve_right notLate⟩
      · exact fun s action s' good _ onTime step => lawful.good_step good onTime step
      · intro s action s' good _ late step
        cases s with
        | opening q =>
          cases action with
          | arrive m =>
            obtain ⟨sent, arrives, rfl⟩ := Option.map_eq_some_iff.mp step
            exact late_arrive good.1 arrives
          | register | act action => exact absurd trivial late
        | running s => exact absurd (by cases action <;> trivial) late
    · have late : Late P I (P.startup maxmsg messages).init := ⟨rfl, nonempty⟩
      have reaches := Machine.reaches_of_run ran (Machine.admitted_anything _ actions)
      exact absurd (reaches.induct kept late) notLate
  · rintro ⟨rfl, onTime⟩ more own
    refine Machine.along_of_admitted (fun s' reaches => ?_)
      (Machine.admitted_append onTime fun s' action member => ?_)
    · refine lawful.served_of_good (reaches.induct (I := Good P I) ?_ ⟨rfl, rfl⟩)
      exact fun s action s' good onTime step => lawful.good_step good onTime step
    · have mine := own action member
      cases action with
      | arrive m => exact mine.elim
      | register | act action => cases s' <;> trivial

end Program

end Unpvol2.Mq
