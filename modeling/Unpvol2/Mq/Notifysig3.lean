/-
**`mqnotifysig3`: a signal for the first message, then the queue is drained.**

`main` registers for notification by `SIGUSR1` and waits in `sigsuspend` for the handler to set
`mqflag`. It clears the flag, registers again, receives until `EAGAIN`, and only then unblocks the
signal. Any number of senders put messages on the queue at any time.

A run starts when the first `mq_notify` has registered on an empty queue. One step is a statement
of `main`, the delivery of a pending `SIGUSR1` (which runs the handler and, in `sigsuspend`, lets it
return), or a message sent. A signal that is already pending does not queue a second time. `sent`
and `received` are read by no code: they list the messages `mq_send` has accepted and `mq_receive`
has returned.

* `main_does`, `deliver_does`, `send_does` — what a step is to the queue: a pending `SIGUSR1` and a
  set `mqflag` are notifications to answer.
* `lawful` — from its first `mq_notify` on, on any queue, the program is a receiver. So it is armed:
  exactly one of a registration, a pending `SIGUSR1`, a set `mqflag` and a `main` that stands at
  `mq_notify` is there; and on an empty queue it is drained: a registration on a queue with messages
  is only there while `main` receives.
* `never_sleeps_on_messages` — **suspended, with no signal pending, `main` is registered on an empty
  queue.**
-/

import Unpvol2.Mq.Receiver

namespace Unpvol2.Mq.Notifysig3

open Interleaving

/-! ### The program -/

/-- The statement `main` stands at. -/
inductive Pc
  /-- `sigprocmask(SIG_BLOCK, &newmask, &oldmask)` -/
  | block
  /-- `while (mqflag == 0)` -/
  | test
  /-- at the call of `sigsuspend(&zeromask)` -/
  | suspend
  /-- suspended in it, no signal blocked -/
  | suspended
  /-- `mqflag = 0` -/
  | clear
  /-- `mq_notify(mqd, &sigev)` -/
  | notify
  /-- `mq_receive(mqd, buff, attr.mq_msgsize, NULL)` -/
  | receive
  /-- `printf("read %ld bytes\n", (long) n)` -/
  | print (n : ℕ)
  /-- `sigprocmask(SIG_UNBLOCK, &newmask, NULL)` -/
  | unblock
deriving DecidableEq

structure State where
  queue : Queue
  mqflag : ℤ
  /-- `SIGUSR1` is in the signal mask -/
  blocked : Bool
  /-- `SIGUSR1` is pending -/
  pending : Bool
  pc : Pc
  /-- a call of `mq_notify` has failed -/
  notifyFailed : Bool
  /-- the numbers printed -/
  output : List ℕ
  sent : List Message
  received : List Message

/-- One step. -/
inductive Act
  /-- `main` runs its statement -/
  | main
  /-- `SIGUSR1` is delivered -/
  | deliver
  | send (m : Message)

namespace State

/-- The next statement of `main`. -/
def main (s : State) : Option State :=
  match s.pc with
  | .block => some { s with blocked := true, pc := .test }
  | .test => some { s with pc := if s.mqflag = 0 then .suspend else .clear }
  | .suspend => some { s with pc := .suspended }
  | .suspended => none
  | .clear => some { s with mqflag := 0, pc := .notify }
  | .notify =>
    let registered := s.queue.notify
    some { s with
      queue := registered.2
      notifyFailed := s.notifyFailed || registered.1 ≠ 0
      pc := .receive }
  | .receive =>
    match s.queue.receive with
    | some (m, queue) =>
      some { s with queue := queue, received := s.received ++ [m], pc := .print m.data.length }
    | none => some { s with pc := .unblock }
  | .print n => some { s with output := s.output ++ [n], pc := .receive }
  | .unblock => some { s with blocked := false, pc := .block }

/-- `sig_usr1`. -/
def sigUsr1 (s : State) : State := { s with mqflag := 1 }

/-- A pending `SIGUSR1` is delivered where it is not blocked: the handler runs, and `sigsuspend`
returns with the old mask. -/
def deliver (s : State) : Option State :=
  if s.pending = false then none
  else if s.pc = .suspended then some { s.sigUsr1 with pending := false, pc := .test }
  else if s.blocked = false then some { s.sigUsr1 with pending := false }
  else none

/-- A message arrives. -/
def send (s : State) (m : Message) : Option State :=
  (s.queue.send m).map fun (queue, notifies) =>
    { s with queue := queue, pending := s.pending || notifies, sent := s.sent ++ [m] }

def step (s : State) : Act → Option State
  | .main => s.main
  | .deliver => s.deliver
  | .send m => s.send m

end State

/-- The first `mq_notify` has registered on the empty queue. -/
def start (maxmsg : ℕ) : State where
  queue := ⟨maxmsg, [], true⟩
  mqflag := 0
  blocked := false
  pending := false
  pc := .block
  notifyFailed := false
  output := []
  sent := []
  received := []

/-- `mqnotifysig3` on a queue of `maxmsg` messages. -/
def machine (maxmsg : ℕ) : Machine State Act := ⟨start maxmsg, State.step⟩

/-! ### The receiver -/

def Pc.phase : Pc → Phase
  | .notify => .registering
  | .receive | .print _ => .draining
  | _ => .waiting

def State.view (s : State) : Receiver :=
  ⟨s.queue, s.pending.toNat + (if s.mqflag ≠ 0 then 1 else 0), s.pc.phase⟩

theorem view_phase {s : State} {pc : Pc} (here : s.pc = pc) : s.view.phase = pc.phase :=
  congrArg Pc.phase here

/-- A notification is answered when the flag is cleared. -/
theorem notices_eq_zero {s : State} :
    s.view.notices = 0 ↔ s.pending = false ∧ s.mqflag = 0 := by
  show s.pending.toNat + (if s.mqflag ≠ 0 then 1 else 0) = 0 ↔ _
  rw [Nat.add_eq_zero_iff, Bool.toNat_eq_zero]
  refine and_congr_right fun _ => ?_
  by_cases flag : s.mqflag = 0 <;> simp [flag]

/-- `main` has found the flag clear. -/
def Pc.found : Pc → Bool
  | .suspend | .suspended => true
  | _ => false

/-- The signal is blocked from the test of the flag to the end of the loop, so the flag is still
clear where `main` goes to sleep. -/
structure Masked (s : State) : Prop where
  blocked : s.pc ≠ .block → s.blocked = true
  clear : s.pc.found = true → s.mqflag = 0
  set : s.pc = .clear → s.mqflag ≠ 0

theorem masked_start (maxmsg : ℕ) : Masked (start maxmsg) :=
  ⟨fun away => absurd rfl away, nofun, nofun⟩

variable {s s' : State}

/-- The steps of `main`. -/
theorem main_does (masked : Masked s) (step : s.main = some s') :
    Masked s' ∧ (s'.view = s.view ∨ s.view.Does s'.view) := by
  have same : ∀ {pc : Pc}, pc.phase = s.pc.phase →
      ({ s with pc := pc } : State).view = s.view := by
    intro pc equal
    unfold State.view
    rw [← equal]
  unfold State.main at step
  split at step
  case h_1 here =>
    cases step
    refine ⟨⟨fun _ => rfl, nofun, nofun⟩, Or.inl ?_⟩
    exact same (by rw [here]; rfl)
  case h_2 here =>
    cases step
    have blocked := masked.blocked (by rw [here]; exact nofun)
    by_cases flag : s.mqflag = 0
    · rw [if_pos flag]
      refine ⟨⟨fun _ => blocked, fun _ => flag, nofun⟩, Or.inl ?_⟩
      exact same (by rw [here]; rfl)
    · rw [if_neg flag]
      refine ⟨⟨fun _ => blocked, nofun, fun _ => flag⟩, Or.inl ?_⟩
      exact same (by rw [here]; rfl)
  case h_3 here =>
    cases step
    have blocked := masked.blocked (by rw [here]; exact nofun)
    have flag := masked.clear (by rw [here]; rfl)
    refine ⟨⟨fun _ => blocked, fun _ => flag, nofun⟩, Or.inl ?_⟩
    exact same (by rw [here]; rfl)
  case h_4 here => cases step
  case h_5 here =>
    cases step
    have blocked := masked.blocked (by rw [here]; exact nofun)
    refine ⟨⟨fun _ => blocked, nofun, nofun⟩, Or.inr ?_⟩
    refine .answer (view_phase here) ?_
    show s.pending.toNat + (if s.mqflag ≠ 0 then 1 else 0) = _
    rw [if_pos (masked.set here)]
    rfl
  case h_6 here =>
    cases step
    have blocked := masked.blocked (by rw [here]; exact nofun)
    exact ⟨⟨fun _ => blocked, nofun, nofun⟩, Or.inr (.register (view_phase here))⟩
  case h_7 here =>
    have blocked := masked.blocked (by rw [here]; exact nofun)
    have draining : s.view.phase = .draining := view_phase here
    split at step
    · rename_i received
      cases step
      refine ⟨⟨fun _ => blocked, nofun, nofun⟩, Or.inr ?_⟩
      have does := Receiver.Does.receive draining received
      unfold State.view at does ⊢
      rw [here] at does ⊢
      exact does
    · rename_i empty
      cases step
      exact ⟨⟨fun _ => blocked, nofun, nofun⟩, Or.inr (.again draining empty)⟩
  case h_8 n here =>
    cases step
    have blocked := masked.blocked (by rw [here]; exact nofun)
    refine ⟨⟨fun _ => blocked, nofun, nofun⟩, Or.inl ?_⟩
    unfold State.view
    rw [here]
    rfl
  case h_9 here =>
    cases step
    refine ⟨⟨fun away => absurd rfl away, nofun, nofun⟩, Or.inl ?_⟩
    unfold State.view
    rw [here]
    rfl

/-- A delivery of the signal sets the flag in its place, which is clear. -/
theorem deliver_does (masked : Masked s) (armed : s.view.Armed) (step : s.deliver = some s') :
    Masked s' ∧ s'.view = s.view := by
  unfold State.deliver at step
  split at step
  · cases step
  · rename_i pending
    have pending : s.pending = true := Bool.of_not_eq_false pending
    have single : s.pending.toNat + (if s.mqflag ≠ 0 then 1 else 0) ≤ 1 := armed.notices_le
    rw [pending, Bool.toNat_true] at single
    have notices : Bool.toNat false + (if (1 : ℤ) ≠ 0 then 1 else 0) =
        s.pending.toNat + (if s.mqflag ≠ 0 then 1 else 0) := by
      rw [pending, if_pos Int.one_ne_zero, Bool.toNat_false, Bool.toNat_true]
      omega
    have view : ∀ {pc : Pc}, pc.phase = s.pc.phase →
        ({ s.sigUsr1 with pending := false, pc := pc } : State).view = s.view := by
      intro pc equal
      show Receiver.mk s.queue (Bool.toNat false + (if (1 : ℤ) ≠ 0 then 1 else 0)) pc.phase = _
      rw [notices, equal]
      rfl
    split at step
    · rename_i here
      cases step
      have blocked := masked.blocked (by rw [here]; exact nofun)
      exact ⟨⟨fun _ => blocked, nofun, nofun⟩, view (by rw [here]; rfl)⟩
    · split at step
      · rename_i unmasked
        cases step
        have here : s.pc = .block := by
          by_contra away
          exact absurd (unmasked.symm.trans (masked.blocked away)) Bool.false_ne_true
        refine ⟨⟨masked.blocked, fun found => ?_, fun _ => Int.one_ne_zero⟩, view rfl⟩
        have found : s.pc.found = true := found
        rw [here] at found
        cases found
      · cases step

/-- A message arrives. -/
theorem send_does (masked : Masked s) (armed : s.view.Armed) {m : Message}
    (step : s.send m = some s') : Masked s' ∧ s.view.Does s'.view := by
  obtain ⟨⟨queue, notifies⟩, sent, rfl⟩ := Option.map_eq_some_iff.mp step
  exact ⟨⟨masked.blocked, masked.clear, masked.set⟩, armed.sent s.pending _ sent rfl⟩

/-! ### From the first registration on -/

/-- After the first `mq_notify`, on any queue. -/
def begin (q : Queue) : State :=
  { start q.maxmsg with queue := q.notify.2, notifyFailed := q.notify.1 ≠ 0, sent := q.messages }

def program : Program State Act where
  begin := begin
  step := State.step
  main := .main
  view := State.view
  Waits s := s.pc = .suspended ∧ s.pending = false

instance : DecidablePred program.Waits := fun s =>
  inferInstanceAs (Decidable (s.pc = .suspended ∧ s.pending = false))

/-- The statements left to `sigsuspend`. -/
def rank (s : State) : ℕ :=
  match s.pc with
  | .unblock => 4
  | .block => 3
  | .test => 2
  | .suspend => 1
  | _ => 0

/-- With the flag clear `main` comes to sleep. -/
theorem settles (masked : Masked s) (waiting : s.pc.phase = .waiting)
    (quiet : s.view.notices = 0) (away : ¬ program.Waits s) :
    ∃ s', program.step s program.main = some s' ∧ program.view s' = program.view s ∧
      rank s' < rank s := by
  obtain ⟨quiet, flag⟩ := notices_eq_zero.mp quiet
  have main : ∀ (pc : Pc) (blocked : Bool),
      s.main = some { s with blocked := blocked, pc := pc } → pc.phase = s.pc.phase →
      rank { s with blocked := blocked, pc := pc } < rank s →
      ∃ s', program.step s program.main = some s' ∧ program.view s' = program.view s ∧
        rank s' < rank s := by
    intro pc blocked step phase lower
    refine ⟨_, step, ?_, lower⟩
    show Receiver.mk s.queue _ pc.phase = s.view
    rw [phase]
    rfl
  cases here : s.pc with
  | block =>
    refine main .test true ?_ (by rw [here]; rfl) ?_
    · rw [State.main, here]
    · rw [rank, rank, here]
      exact Nat.lt_succ_self 2
  | test =>
    refine main .suspend s.blocked ?_ (by rw [here]; rfl) ?_
    · rw [State.main, here]
      show some { s with pc := if s.mqflag = 0 then Pc.suspend else .clear } = _
      rw [if_pos flag]
    · rw [rank, rank, here]
      exact Nat.lt_succ_self 1
  | suspend =>
    refine main .suspended s.blocked ?_ (by rw [here]; rfl) ?_
    · rw [State.main, here]
    · rw [rank, rank, here]
      exact Nat.zero_lt_one
  | suspended => exact absurd ⟨here, quiet⟩ away
  | clear => exact absurd flag (masked.set here)
  | unblock =>
    refine main .block false ?_ (by rw [here]; rfl) ?_
    · rw [State.main, here]
    · rw [rank, rank, here]
      exact Nat.lt_succ_self 3
  | notify | receive | print =>
    rw [here] at waiting
    cases waiting

/-- **`mqnotifysig3` is a receiver**, and with the flag clear `main` comes to sleep. -/
theorem lawful : program.Lawful Masked rank where
  begins q free := ⟨⟨fun away => absurd rfl away, nofun, nofun⟩, rfl⟩
  kept s action s' masked armed step := by
    cases action with
    | main => exact (main_does masked step).1
    | deliver => exact (deliver_does masked armed step).1
    | send m => exact (send_does masked armed step).1
  does s action s' masked armed step := by
    cases action with
    | main => exact (main_does masked step).2
    | deliver => exact Or.inl (deliver_does masked armed step).2
    | send m => exact Or.inr (send_does masked armed step).2
  waits s masked waits := by
    obtain ⟨here, quiet⟩ := waits
    exact ⟨view_phase here, notices_eq_zero.mpr ⟨quiet, masked.clear (by rw [here]; rfl)⟩⟩
  settles s masked waiting quiet away := settles masked waiting quiet away

/-! ### The result -/

/-- No `mq_notify` has failed, and each message sent has been received once or is in the queue. -/
structure Logged (s : State) : Prop where
  notifies : s.notifyFailed = false
  perm : (s.received ++ s.queue.messages).Perm s.sent

/-- `main` moves messages from the queue to those it has received. -/
theorem Logged.main (logged : Logged s) (armed : s.view.Armed) (step : s.main = some s') :
    Logged s' := by
  unfold State.main at step
  split at step
  case h_1 | h_2 | h_3 | h_5 | h_8 | h_9 =>
    cases step
    exact ⟨logged.notifies, logged.perm⟩
  case h_4 => cases step
  case h_6 here =>
    cases step
    have free : s.queue.registered = false := armed.free (view_phase here)
    rw [Queue.notify_of_free free]
    exact ⟨(Bool.or_false _).trans logged.notifies, logged.perm⟩
  case h_7 here =>
    split at step
    · rename_i received
      cases step
      refine ⟨logged.notifies, ?_⟩
      have perm := logged.perm
      rw [(Queue.receive_some received).1] at perm
      rw [List.append_assoc]
      exact perm
    · cases step
      exact ⟨logged.notifies, logged.perm⟩

theorem Logged.step (logged : Logged s) (armed : s.view.Armed) {action : Act}
    (step : s.step action = some s') : Logged s' := by
  cases action with
  | main => exact logged.main armed step
  | deliver =>
    have step : s.deliver = some s' := step
    unfold State.deliver at step
    split_ifs at step <;> cases step <;> exact ⟨logged.notifies, logged.perm⟩
  | send m =>
    obtain ⟨⟨queue, notifies⟩, sent, rfl⟩ := Option.map_eq_some_iff.mp step
    refine ⟨logged.notifies, ?_⟩
    have moved := List.Perm.append_left s.received (Queue.send_cases sent).1
    refine moved.trans (List.perm_middle.trans ?_)
    exact (logged.perm.cons m).trans (List.perm_append_singleton m s.sent).symm

/-- What a receiver that starts on an empty queue keeps. -/
theorem reachable_kept {maxmsg : ℕ} (reachable : (machine maxmsg).Reachable Anything s) :
    (Masked s ∧ s.view.Armed ∧ s.view.Drained) ∧ Logged s := by
  have armed : (start maxmsg).view.Armed :=
    Receiver.armed_start (q := ⟨maxmsg, [], false⟩) rfl
  have drained : (start maxmsg).view.Drained :=
    Receiver.drained_start (q := ⟨maxmsg, [], false⟩) rfl
  refine reachable.induct (I := fun s => (Masked s ∧ s.view.Armed ∧ s.view.Drained) ∧ Logged s)
    ⟨⟨masked_start maxmsg, armed, drained⟩, rfl, List.Perm.refl _⟩ ?_
  rintro s action s' _ ⟨kept, logged⟩ _ step
  exact ⟨lawful.act Receiver.Drained.does kept step, logged.step kept.2.1 step⟩

/-- **`main` never sleeps on messages.** Suspended with nothing under way it is registered on an
empty queue; it never registers twice; and what has been sent has been received once or is in the
queue. -/
theorem never_sleeps_on_messages {maxmsg : ℕ}
    (reachable : (machine maxmsg).Reachable Anything s) :
    (s.pc = .suspended → s.mqflag = 0 → s.pending = false →
      s.queue.messages = [] ∧ s.queue.registered = true) ∧
      (s.pc = .notify → s.queue.registered = false) ∧ s.notifyFailed = false ∧
      (s.received ++ s.queue.messages).Perm s.sent := by
  obtain ⟨⟨masked, armed, drained⟩, logged⟩ := reachable_kept reachable
  refine ⟨fun here _ quiet => ?_, fun here => armed.free (view_phase here), logged.notifies,
    logged.perm⟩
  obtain ⟨waiting, unnotified⟩ := lawful.waits s masked ⟨here, quiet⟩
  have registered : s.queue.registered = true := armed.registered waiting unnotified
  have outside : s.view.phase ≠ .draining := fun draining =>
    Phase.noConfusion (waiting.symm.trans draining)
  exact ⟨drained registered outside, registered⟩

/-- Two messages arrive while `main` sleeps, and it goes back to sleep. -/
def twoMessages : List Act :=
  [.main, .main, .main, .send ⟨0, [1]⟩, .send ⟨1, [2, 3]⟩, .deliver] ++ List.replicate 12 .main

theorem never_sleeps_twoMessages :
    ((machine 8).after twoMessages).queue.messages = [] ∧
      ((machine 8).after twoMessages).queue.registered = true :=
  (never_sleeps_on_messages
    (Machine.reachable_after (M := machine 8) (by decide) (by decide))).1
    (by decide) (by decide) (by decide)

end Unpvol2.Mq.Notifysig3
