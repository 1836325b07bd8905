/-
**`mqnotifysig1`: the signal handler receives.**

`main` registers for notification by `SIGUSR1` and then only pauses. The handler registers again,
receives one message and prints its length; `SIGUSR1` is blocked while it runs. Any number of
senders put messages on the queue at any time, and there may be messages on it at first.

A run starts when the first `mq_notify` has registered. One step is a statement of the handler, the
delivery of a pending `SIGUSR1`, or a message sent. `sent`, `received` and `late` are read by no
code: `late` is the number of messages that have arrived on a queue that had one.

* `mqnotifysig1_receives` — **the messages that stay are those of the start and as many as have been
  late**: each message that arrives on an empty queue has one received, and no other. So from the
  first late message on at most one more is received.
-/

import Unpvol2.Lib.Machine
import Unpvol2.Mq.Queue

namespace Unpvol2.Mq.Notifysig1

open Interleaving

/-! ### The program -/

/-- Where the process stands. -/
inductive Pc
  /-- `pause()`, in the loop of `main` -/
  | pause
  /-- `mq_notify(mqd, &sigev)`, in the handler -/
  | notify
  /-- `mq_receive(mqd, buff, attr.mq_msgsize, NULL)` -/
  | receive
  /-- `printf("SIGUSR1 received, read %ld bytes\n", (long) n)` -/
  | print (n : ℕ)
deriving DecidableEq

structure State where
  queue : Queue
  /-- `SIGUSR1` is pending -/
  pending : Bool
  pc : Pc
  /-- the numbers printed -/
  output : List ℕ
  sent : List Message
  received : List Message
  late : ℕ

/-- One step. -/
inductive Act
  /-- `sig_usr1` runs its statement -/
  | handler
  /-- `SIGUSR1` is delivered -/
  | deliver
  | send (m : Message)

namespace State

/-- The next statement of `sig_usr1`; `mq_receive` blocks on an empty queue. -/
def sigUsr1 (s : State) : Option State :=
  match s.pc with
  | .pause => none
  | .notify => some { s with queue := s.queue.notify.2, pc := .receive }
  | .receive =>
    s.queue.receive.map fun (m, queue) =>
      { s with queue := queue, received := s.received ++ [m], pc := .print m.data.length }
  | .print n => some { s with output := s.output ++ [n], pc := .pause }

/-- A pending `SIGUSR1` is delivered where the handler does not run. -/
def deliver (s : State) : Option State :=
  if s.pending = true ∧ s.pc = .pause then some { s with pending := false, pc := .notify }
  else none

/-- A message arrives. -/
def send (s : State) (m : Message) : Option State :=
  (s.queue.send m).map fun (queue, notifies) =>
    { s with
      queue := queue
      pending := s.pending || notifies
      sent := s.sent ++ [m]
      late := if s.queue.messages.isEmpty then s.late else s.late + 1 }

def step (s : State) : Act → Option State
  | .handler => s.sigUsr1
  | .deliver => s.deliver
  | .send m => s.send m

/-- A wake-up is under way: its signal is pending, or its handler has not received yet. -/
def underway (s : State) : ℕ :=
  if s.pending = true ∨ s.pc = .notify ∨ s.pc = .receive then 1 else 0

end State

/-- The first `mq_notify` has registered, on the messages there were. -/
def start (maxmsg : ℕ) (initial : List Message) : State :=
  ⟨⟨maxmsg, initial, true⟩, false, .pause, [], [], [], 0⟩

def machine (maxmsg : ℕ) (initial : List Message) : Machine State Act :=
  ⟨start maxmsg initial, State.step⟩

/-! ### The messages -/

/-- What has been printed, and what is about to be. -/
def State.lines (s : State) : List ℕ :=
  match s.pc with
  | .print n => s.output ++ [n]
  | _ => s.output

/-- Where the registration and the messages are. -/
structure Kept (initial : List Message) (s : State) : Prop where
  armed : s.queue.registered.toNat + s.pending.toNat + (if s.pc = .notify then 1 else 0) = 1
  receive : s.pc = .receive → s.queue.registered = true
  balance : s.queue.messages.length = initial.length + s.late + s.underway
  messages : (s.received ++ s.queue.messages).Perm (initial ++ s.sent)
  lines : s.lines = s.received.map fun m => m.data.length

variable {maxmsg : ℕ} {initial : List Message} {s s' : State}

theorem kept_start : Kept initial (start maxmsg initial) where
  armed := rfl
  receive := nofun
  balance := rfl
  messages := by
    show ([] ++ initial).Perm (initial ++ [])
    rw [List.append_nil]
    exact .refl _
  lines := rfl

/-- A statement of the handler. -/
theorem Kept.sigUsr1 (kept : Kept initial s) (step : s.sigUsr1 = some s') : Kept initial s' := by
  obtain ⟨armed, receive, balance, messages, lines⟩ := kept
  unfold State.underway at balance
  unfold State.lines at lines
  unfold State.sigUsr1 at step
  split at step <;> rename_i here
  · cases step
  · -- the signal has taken the registration away, so `mq_notify` succeeds
    rw [here] at armed lines
    rw [if_pos rfl] at armed
    have free : s.queue.registered = false := by
      cases registered : s.queue.registered with
      | false => rfl
      | true =>
        rw [registered, Bool.toNat_true] at armed
        omega
    have quiet : s.pending = false := by
      cases pending : s.pending with
      | false => rfl
      | true =>
        rw [pending, Bool.toNat_true] at armed
        omega
    rw [if_pos (.inr (.inl here))] at balance
    rw [Queue.notify_of_free free] at step
    cases step
    refine ⟨?_, fun _ => rfl, ?_, messages, lines⟩
    · show (true.toNat + s.pending.toNat + 0) = 1
      rw [quiet]
      rfl
    · show s.queue.messages.length = _
      rw [balance]
      unfold State.underway
      rw [if_pos (.inr (.inr rfl))]
  · obtain ⟨⟨m, queue⟩, received, rfl⟩ := Option.map_eq_some_iff.mp step
    have registered := receive here
    rw [here] at armed lines
    rw [registered, if_neg nofun] at armed
    have quiet : s.pending = false := by
      cases pending : s.pending with
      | false => rfl
      | true =>
        rw [pending] at armed
        cases armed
    rw [if_pos (.inr (.inr here))] at balance
    obtain ⟨split, same⟩ := Queue.receive_some received
    rw [split] at messages balance
    refine ⟨?_, nofun, ?_, ?_, ?_⟩
    · show queue.registered.toNat + s.pending.toNat + 0 = 1
      rw [same, registered, quiet]
      rfl
    · show queue.messages.length = initial.length + s.late + State.underway _
      rw [List.length_cons] at balance
      unfold State.underway
      rw [quiet, if_neg (by simp)]
      omega
    · show ((s.received ++ [m]) ++ queue.messages).Perm _
      rw [List.append_assoc]
      exact messages
    · show s.output ++ [m.data.length] = (s.received ++ [m]).map _
      rw [List.map_append, ← lines]
      rfl
  · cases step
    rw [here] at armed lines
    refine ⟨armed, nofun, ?_, messages, lines⟩
    rw [balance]
    unfold State.underway
    rw [here]
    simp

/-- The signal is delivered. -/
theorem Kept.deliver (kept : Kept initial s) (step : s.deliver = some s') : Kept initial s' := by
  obtain ⟨armed, _, balance, messages, lines⟩ := kept
  simp only [State.deliver, Option.ite_none_right_eq_some, Option.some.injEq] at step
  obtain ⟨⟨pending, here⟩, rfl⟩ := step
  unfold State.underway at balance
  unfold State.lines at lines
  rw [here, pending, if_neg nofun] at armed
  rw [if_pos (.inl pending)] at balance
  rw [here] at lines
  refine ⟨?_, nofun, ?_, messages, lines⟩
  · show s.queue.registered.toNat + false.toNat + 1 = 1
    rw [Bool.toNat_true] at armed
    rw [Bool.toNat_false]
    omega
  · rw [balance]
    unfold State.underway
    rw [if_pos (.inr (.inl rfl))]

/-- **A message arrives**: it starts a wake-up, or it is late. -/
theorem Kept.send (kept : Kept initial s) {m : Message} (step : s.send m = some s') :
    Kept initial s' := by
  obtain ⟨armed, receive, balance, messages, lines⟩ := kept
  obtain ⟨⟨queue, notifies⟩, sent, rfl⟩ := Option.map_eq_some_iff.mp step
  obtain ⟨perm, notified⟩ := Queue.send_cases sent
  have length : queue.messages.length = s.queue.messages.length + 1 := perm.length_eq
  have together : (s.received ++ queue.messages).Perm (initial ++ (s.sent ++ [m])) := by
    rw [← List.append_assoc]
    refine (perm.append_left s.received).trans ?_
    refine List.perm_middle.trans ((messages.cons m).trans ?_)
    exact (List.perm_append_singleton m _).symm
  rcases notified with ⟨rfl, registered, unregistered, empty⟩ | ⟨rfl, same, full⟩
  · -- nothing was under way on the empty queue
    rw [empty] at balance length
    have rest : s.underway = 0 := by
      have balance : 0 = initial.length + s.late + s.underway := balance
      omega
    rw [registered] at armed
    refine ⟨?_, fun here => ?_, ?_, together, lines⟩
    · show queue.registered.toNat + (s.pending || true).toNat + _ = 1
      have quiet : (if s.pc = .notify then 1 else 0) = 0 := by
        rw [Bool.toNat_true] at armed
        omega
      rw [unregistered, Bool.or_true]
      exact congrArg (0 + 1 + ·) quiet
    · unfold State.underway at rest
      have here : s.pc = .receive := here
      rw [if_pos (.inr (.inr here))] at rest
      cases rest
    · have balance : 0 = initial.length + s.late + s.underway := balance
      have one : State.underway { s with
          queue := queue, pending := s.pending || true, sent := s.sent ++ [m]
          late := if s.queue.messages.isEmpty then s.late else s.late + 1 } = 1 :=
        if_pos (.inl (Bool.or_true _))
      show queue.messages.length = initial.length + (if s.queue.messages.isEmpty then s.late
        else s.late + 1) + _
      rw [one, length, if_pos (by rw [empty]; rfl)]
      show 0 + 1 = initial.length + s.late + 1
      omega
  · -- the queue had messages: without any, somebody had to be registered
    have messages : s.queue.messages ≠ [] := by
      intro empty
      rw [empty] at balance
      have rest : s.underway = 0 := by
        have balance : 0 = initial.length + s.late + s.underway := balance
        omega
      unfold State.underway at rest
      have registered : s.queue.registered = true := by
        by_contra free
        rw [Bool.eq_false_iff.mpr free] at armed
        have going : s.pending = true ∨ s.pc = .notify := by
          by_contra quiet
          rw [not_or] at quiet
          rw [if_neg quiet.2, Bool.eq_false_iff.mpr quiet.1] at armed
          cases armed
        rw [if_pos (going.imp_right .inl)] at rest
        cases rest
      exact full registered empty
    refine ⟨?_, fun here => same.trans (receive here), ?_, together, lines⟩
    · show queue.registered.toNat + (s.pending || false).toNat + _ = 1
      rw [same, Bool.or_false]
      exact armed
    · show queue.messages.length = initial.length + (if s.queue.messages.isEmpty then s.late
        else s.late + 1) + State.underway { s with pending := s.pending || false, queue := queue }
      rw [length, balance, if_neg (by rw [List.isEmpty_iff]; exact messages), Bool.or_false]
      show initial.length + s.late + s.underway + 1 = initial.length + (s.late + 1) + s.underway
      omega

theorem Kept.step (kept : Kept initial s) {action : Act} (step : s.step action = some s') :
    Kept initial s' := by
  cases action with
  | handler => exact kept.sigUsr1 step
  | deliver => exact kept.deliver step
  | send m => exact kept.send step

/-! ### Runs -/

theorem reachable_kept (reachable : (machine maxmsg initial).Reachable Anything s) :
    Kept initial s :=
  reachable.induct kept_start fun _ _ _ _ kept _ step => kept.step step

/-- Each message sent has been received, is about to be, or was late. -/
theorem Kept.sent_length (kept : Kept initial s) :
    s.sent.length = s.received.length + s.underway + s.late := by
  have total := kept.messages.length_eq
  rw [List.length_append, List.length_append, kept.balance] at total
  omega

/-- A message that arrives where some stay is late itself. -/
theorem Kept.late_of_send (kept : Kept initial s) (stay : 0 < initial.length + s.late)
    {m : Message} (step : s.send m = some s') :
    s'.late = s.late + 1 ∧ s'.sent.length = s.sent.length + 1 := by
  obtain ⟨⟨queue, notifies⟩, _, rfl⟩ := Option.map_eq_some_iff.mp step
  refine ⟨if_neg fun empty => ?_, List.length_append⟩
  have balance := kept.balance
  rw [List.isEmpty_iff.mp empty, List.length_nil] at balance
  omega

/-- The handler and the delivery are not about what was sent. -/
theorem same_of_sigUsr1 (step : s.sigUsr1 = some s') : s'.late = s.late ∧ s'.sent = s.sent := by
  unfold State.sigUsr1 at step
  split at step
  · cases step
  · cases step
    exact ⟨rfl, rfl⟩
  · obtain ⟨_, _, rfl⟩ := Option.map_eq_some_iff.mp step
    exact ⟨rfl, rfl⟩
  · cases step
    exact ⟨rfl, rfl⟩

theorem same_of_deliver (step : s.deliver = some s') : s'.late = s.late ∧ s'.sent = s.sent := by
  simp only [State.deliver, Option.ite_none_right_eq_some, Option.some.injEq] at step
  obtain ⟨_, rfl⟩ := step
  exact ⟨rfl, rfl⟩

/-- **One step where messages stay**: some still do, and no wake-up starts. -/
theorem Kept.stay_step (kept : Kept initial s) (stay : 0 < initial.length + s.late) {action : Act}
    (step : s.step action = some s') :
    0 < initial.length + s'.late ∧
      s'.received.length + s'.underway = s.received.length + s.underway := by
  have before := kept.sent_length
  have after := (kept.step step).sent_length
  cases action with
  | handler =>
    obtain ⟨late, sent⟩ := same_of_sigUsr1 step
    rw [late, sent] at after
    exact ⟨late ▸ stay, by omega⟩
  | deliver =>
    obtain ⟨late, sent⟩ := same_of_deliver step
    rw [late, sent] at after
    exact ⟨late ▸ stay, by omega⟩
  | send m =>
    obtain ⟨late, sent⟩ := kept.late_of_send stay step
    rw [late, sent] at after
    exact ⟨by rw [late]; omega, by omega⟩

/-- Where messages stay, all later runs receive what is under way, and no more. -/
theorem Kept.stay_run (kept : Kept initial s) (stay : 0 < initial.length + s.late)
    (run : (machine maxmsg initial).Reaches Anything s s') :
    s'.received.length + s'.underway = s.received.length + s.underway := by
  have all := Machine.Reaches.induct (I := fun now => Kept initial now ∧
    0 < initial.length + now.late ∧
      now.received.length + now.underway = s.received.length + s.underway)
    (fun _ _ _ ⟨kept, stay, same⟩ _ step =>
      have ⟨stay', same'⟩ := kept.stay_step stay step
      ⟨kept.step step, stay', same'.trans same⟩) run ⟨kept, stay, rfl⟩
  exact all.2.2

/-- **What the handler receives.** It never blocks in `mq_receive`, no message is lost, the numbers
printed are the lengths of the messages received, and on the queue stay as many messages as there
were at first or arrived on a queue that had one. Once there is such a message, what is received
later is what is under way. -/
theorem mqnotifysig1_receives (maxmsg : ℕ) (initial : List Message)
    (reachable : (machine maxmsg initial).Reachable Anything s) :
    (s.pc = .receive → s.queue.messages ≠ []) ∧
    (s.received ++ s.queue.messages).Perm (initial ++ s.sent) ∧
    s.lines = s.received.map (fun m => m.data.length) ∧
    s.queue.messages.length = initial.length + s.late + s.underway ∧
    (0 < initial.length + s.late → ∀ s', (machine maxmsg initial).Reaches Anything s s' →
      s'.received.length + s'.underway = s.received.length + s.underway) := by
  have kept := reachable_kept reachable
  refine ⟨fun here empty => ?_, kept.messages, kept.lines, kept.balance,
    fun stay s' run => kept.stay_run stay run⟩
  have balance := kept.balance
  rw [empty, State.underway, if_pos (.inr (.inr here)), List.length_nil] at balance
  omega

/-- Two messages arrive before the handler has run: one is received, the other one stays. -/
theorem mqnotifysig1_receives_twoSent :
    ∃ s, (machine 10 []).Reachable Anything s ∧
      s.output = [1] ∧ s.queue.messages.length = 0 + s.late + s.underway ∧
      s.queue.messages = [⟨0, [66, 67]⟩] := by
  have reachable : (machine 10 []).Reachable Anything
      ⟨⟨10, [⟨0, [66, 67]⟩], true⟩, false, .pause, [1], [⟨0, [65]⟩, ⟨0, [66, 67]⟩], [⟨0, [65]⟩],
        1⟩ := by
    have ran : (machine 10 []).run (start 10 [])
        [.send ⟨0, [65]⟩, .send ⟨0, [66, 67]⟩, .deliver, .handler, .handler, .handler] =
          some ⟨⟨10, [⟨0, [66, 67]⟩], true⟩, false, .pause, [1], [⟨0, [65]⟩, ⟨0, [66, 67]⟩],
            [⟨0, [65]⟩], 1⟩ := rfl
    exact Machine.reaches_of_run ran (Machine.admitted_anything _ _)
  exact ⟨_, reachable, rfl, (mqnotifysig1_receives 10 [] reachable).2.2.2.1, rfl⟩

end Unpvol2.Mq.Notifysig1
