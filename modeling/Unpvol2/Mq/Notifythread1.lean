/-
**`mqnotifythread1`: a thread for each notification.**

`main` registers for notification by a thread and pauses for ever. A notification starts a
`notify_thread`, which registers again, receives until `EAGAIN` and ends. From its `Mq_notify` on,
the next notification may start another one beside it, so any number of them compete for the
messages.

A run starts when `main` has registered on an empty queue. One step is a statement of one of the
threads, or a message sent; the message that notifies starts the thread. `sent` is read by no code:
it lists the messages `mq_send` has accepted.

* `Invariant.armed` — there is one registration, or one thread started that has still to register.
* `Invariant.drained` — where there are messages, there is a thread that has not seen the `EAGAIN`.
-/

import Unpvol2.Lib.Machine
import Unpvol2.Lib.Pool
import Unpvol2.Mq.Queue

namespace Unpvol2.Mq.Notifythread1

open Interleaving

/-! ### The program -/

/-- The statement a `notify_thread` stands at. -/
inductive Pc
  /-- `printf("notify_thread started\n")`, and the `Malloc` -/
  | started
  /-- `Mq_notify(mqd, &sigev)` -/
  | notify
  /-- `mq_receive(mqd, buff, attr.mq_msgsize, NULL)` -/
  | receive
  /-- `printf("read %ld bytes\n", (long) n)` -/
  | print (n : ℕ)
  /-- `free(buff)`, and `pthread_exit(NULL)` -/
  | free
  | exited
deriving DecidableEq

/-- A `notify_thread`, and the messages it has received. -/
structure Thread where
  pc : Pc
  received : List Message
deriving DecidableEq

structure State where
  queue : Queue
  /-- the threads started so far -/
  threads : List Thread
  /-- a call of `Mq_notify` has failed -/
  notifyFailed : Bool
  /-- the numbers printed -/
  output : List ℕ
  sent : List Message

/-- One step. -/
inductive Act
  /-- thread number `k` runs its statement -/
  | thread (k : ℕ)
  | send (m : Message)

namespace State

/-- Thread number `k` becomes `x`. -/
def goto (s : State) (k : ℕ) (x : Thread) : State := { s with threads := s.threads.set k x }

/-- The next statement of `notify_thread`, run by thread number `k`. -/
def notifyThread (s : State) (k : ℕ) (x : Thread) : Option State :=
  match x.pc with
  | .started => some (s.goto k { x with pc := .notify })
  | .notify =>
    let registered := s.queue.notify
    some { s.goto k { x with pc := .receive } with
      queue := registered.2
      notifyFailed := s.notifyFailed || registered.1 ≠ 0 }
  | .receive =>
    match s.queue.receive with
    | some (m, queue) =>
      some { s.goto k ⟨.print m.data.length, x.received ++ [m]⟩ with queue := queue }
    | none => some (s.goto k { x with pc := .free })
  | .print n => some { s.goto k { x with pc := .receive } with output := s.output ++ [n] }
  | .free => some (s.goto k { x with pc := .exited })
  | .exited => none

/-- A message arrives, and where it notifies a thread is started. -/
def send (s : State) (m : Message) : Option State :=
  (s.queue.send m).map fun (queue, notifies) =>
    { s with
      queue := queue
      threads := if notifies then s.threads ++ [⟨.started, []⟩] else s.threads
      sent := s.sent ++ [m] }

def step (s : State) : Act → Option State
  | .thread k => s.threads[k]?.bind (s.notifyThread k)
  | .send m => s.send m

end State

/-- `main` has registered on the empty queue. -/
def start (maxmsg : ℕ) : State where
  queue := ⟨maxmsg, [], true⟩
  threads := []
  notifyFailed := false
  output := []
  sent := []

/-- `mqnotifythread1` on a queue of `maxmsg` messages. -/
def machine (maxmsg : ℕ) : Machine State Act := ⟨start maxmsg, State.step⟩

/-! ### The invariant -/

/-- The thread has still to register. -/
def Thread.unregistered (x : Thread) : Bool := x.pc = .started || x.pc = .notify

/-- The thread has not seen the `EAGAIN`. -/
def Thread.busy (x : Thread) : Bool :=
  match x.pc with
  | .free | .exited => false
  | _ => true

/-- The number of threads that have been started and have not registered. -/
def State.unregistered (s : State) : ℕ := s.threads.countP Thread.unregistered

/-- The messages received, thread by thread. -/
def State.received (s : State) : List Message := s.threads.flatMap Thread.received

structure Invariant (s : State) : Prop where
  armed : s.queue.registered.toNat + s.unregistered = 1
  drained : s.queue.messages ≠ [] → ∃ x ∈ s.threads, x.busy = true
  notifies : s.notifyFailed = false
  perm : (s.received ++ s.queue.messages).Perm s.sent

theorem invariant_start (maxmsg : ℕ) : Invariant (start maxmsg) where
  armed := rfl
  drained := fun unread => absurd rfl unread
  notifies := rfl
  perm := List.Perm.refl _

variable {s s' : State} {k : ℕ} {x : Thread}

@[simp] theorem goto_queue (s : State) (k : ℕ) (x : Thread) : (s.goto k x).queue = s.queue := rfl

/-- Another thread, or the one that moves if it stays busy, is busy on. -/
theorem busy_goto (found : s.threads[k]? = some x) {new : Thread}
    (stays : x.busy = true → new.busy = true) (busy : ∃ y ∈ s.threads, y.busy = true) :
    ∃ y ∈ s.threads.set k new, y.busy = true := by
  obtain ⟨y, member, works⟩ := busy
  rcases pool_mem found new member with rfl | others
  · exact ⟨new, pool_mem_new found new, stays works⟩
  · exact ⟨y, others, works⟩

/-- A thread moves on and receives nothing. -/
theorem Invariant.goto (invariant : Invariant s) (found : s.threads[k]? = some x) {new : Thread}
    (threads : s'.threads = s.threads.set k new) (messages : s'.queue.messages = s.queue.messages)
    (armed : s'.queue.registered.toNat + new.unregistered.toNat =
      s.queue.registered.toNat + x.unregistered.toNat)
    (stays : s.queue.messages ≠ [] → x.busy = true → new.busy = true)
    (notifies : s'.notifyFailed = s.notifyFailed) (received : new.received = x.received)
    (sent : s'.sent = s.sent) : Invariant s' where
  armed := by
    have count := pool_countP found Thread.unregistered new
    have before := invariant.armed
    unfold State.unregistered at before ⊢
    rw [threads]
    omega
  drained := fun unread => by
    rw [messages] at unread
    rw [threads]
    exact busy_goto found (stays unread) (invariant.drained unread)
  notifies := notifies.trans invariant.notifies
  perm := by
    have same : s'.received = s.received := by
      obtain ⟨before, after, _, split, moved⟩ := pool_split found new
      unfold State.received
      rw [threads, moved, split]
      simp only [List.flatMap_append, List.flatMap_cons, received]
    rw [same, messages, sent]
    exact invariant.perm

/-- The thread that is to register finds the queue without a registration. -/
theorem Invariant.free (invariant : Invariant s) (found : s.threads[k]? = some x)
    (waits : x.unregistered = true) : s.queue.registered = false := by
  have positive : 0 < s.unregistered :=
    List.countP_pos_iff.mpr ⟨x, List.mem_of_getElem? found, waits⟩
  have armed := invariant.armed
  by_contra registered
  rw [Bool.of_not_eq_false registered, Bool.toNat_true] at armed
  omega

/-- A thread receives a message. -/
theorem Invariant.receive (invariant : Invariant s) (found : s.threads[k]? = some x)
    (here : x.pc = .receive) {m : Message} {queue : Queue}
    (received : s.queue.receive = some (m, queue)) :
    Invariant { s.goto k ⟨.print m.data.length, x.received ++ [m]⟩ with queue := queue } := by
  obtain ⟨messages, registered⟩ := Queue.receive_some received
  have unread : s.queue.messages ≠ [] := by
    rw [messages]
    exact List.cons_ne_nil _ _
  refine ⟨?_, fun _ => busy_goto found (fun _ => rfl) (invariant.drained unread),
    invariant.notifies, ?_⟩
  · have count := pool_countP found Thread.unregistered ⟨.print m.data.length, x.received ++ [m]⟩
    have none : x.unregistered = false := by
      unfold Thread.unregistered
      rw [here]
      rfl
    have armed := invariant.armed
    rw [none] at count
    show queue.registered.toNat + (s.threads.set k _).countP Thread.unregistered = 1
    rw [registered]
    unfold State.unregistered at armed
    exact (congrArg _ count).trans armed
  · obtain ⟨before, after, _, split, moved⟩ :=
      pool_split found ⟨.print m.data.length, x.received ++ [m]⟩
    have perm := invariant.perm
    show ((s.threads.set k _).flatMap Thread.received ++ queue.messages).Perm s.sent
    rw [moved]
    unfold State.received at perm
    rw [split, messages] at perm
    simp only [List.flatMap_append, List.flatMap_cons, List.append_assoc] at perm ⊢
    refine List.Perm.trans ?_ perm
    refine (List.Perm.append_left x.received ?_).append_left _
    show (m :: (_ ++ queue.messages)).Perm _
    exact List.perm_middle.symm

/-- **A statement of a thread.** -/
theorem Invariant.thread (invariant : Invariant s) (found : s.threads[k]? = some x)
    (step : s.notifyThread k x = some s') : Invariant s' := by
  unfold State.notifyThread at step
  split at step
  case h_1 here | h_4 here | h_5 here =>
    cases step
    refine invariant.goto found rfl rfl ?_ ?_ rfl rfl rfl <;>
      simp [Thread.unregistered, Thread.busy, here]
  case h_2 here =>
    cases step
    have waits : x.unregistered = true := by simp [Thread.unregistered, here]
    have free := invariant.free found waits
    rw [Queue.notify_of_free free]
    refine invariant.goto found rfl rfl ?_ (fun _ _ => rfl) ?_ rfl rfl
    · rw [waits, free]
      rfl
    · exact Bool.or_false _
  case h_3 here =>
    split at step
    · rename_i m queue received
      cases step
      exact invariant.receive found here received
    · rename_i empty
      cases step
      refine invariant.goto found rfl rfl ?_ (fun unread => ?_) rfl rfl rfl
      · simp [Thread.unregistered, here]
      · exact absurd (Queue.receive_none empty) unread
  case h_6 => cases step

/-- **A message arrives**: the registration it takes away becomes a thread. -/
theorem Invariant.send (invariant : Invariant s) {m : Message} (step : s.send m = some s') :
    Invariant s' := by
  obtain ⟨⟨queue, notifies⟩, sent, rfl⟩ := Option.map_eq_some_iff.mp step
  obtain ⟨messages, change⟩ := Queue.send_cases sent
  have armed := invariant.armed
  have perm : (s.received ++ queue.messages).Perm (s.sent ++ [m]) := by
    refine (List.Perm.append_left s.received messages).trans (List.perm_middle.trans ?_)
    exact (invariant.perm.cons m).trans (List.perm_append_singleton m s.sent).symm
  rcases change with ⟨rfl, before, after, _⟩ | ⟨rfl, same, occupied⟩
  · let new : Thread := ⟨.started, []⟩
    refine ⟨?_, fun _ => ?_, invariant.notifies, ?_⟩
    · show queue.registered.toNat + (s.threads ++ [new]).countP Thread.unregistered = 1
      rw [before] at armed
      rw [after, List.countP_append]
      unfold State.unregistered at armed
      have none : s.threads.countP Thread.unregistered = 0 := by simpa using armed
      rw [none]
      rfl
    · exact ⟨new, List.mem_append_right _ List.mem_cons_self, rfl⟩
    · show ((s.threads ++ [new]).flatMap Thread.received ++ queue.messages).Perm _
      rw [List.flatMap_append]
      show (s.received ++ [] ++ queue.messages).Perm _
      rw [List.append_nil]
      exact perm
  · refine ⟨?_, fun _ => ?_, invariant.notifies, perm⟩
    · show queue.registered.toNat + s.unregistered = 1
      rw [same]
      exact armed
    · show ∃ x ∈ s.threads, x.busy = true
      by_cases empty : s.queue.messages = []
      · -- there is no registration, so a thread has still to register
        have waits : s.unregistered = 1 := by
          by_cases registered : s.queue.registered = true
          · exact absurd empty (occupied registered)
          · rw [eq_false_of_ne_true registered, Bool.toNat_false] at armed
            omega
        obtain ⟨x, member, waits⟩ := List.countP_pos_iff.mp (show 0 < s.unregistered by omega)
        refine ⟨x, member, ?_⟩
        unfold Thread.unregistered at waits
        unfold Thread.busy
        simp only [Bool.or_eq_true, decide_eq_true_eq] at waits
        rcases waits with here | here <;> rw [here]
      · exact invariant.drained empty

theorem reachable_invariant {maxmsg : ℕ} (reachable : (machine maxmsg).Reachable Anything s) :
    Invariant s := by
  refine reachable.induct (invariant_start maxmsg) ?_
  intro s action s' _ invariant _ step
  cases action with
  | thread k =>
    obtain ⟨x, found, ran⟩ := Option.bind_eq_some_iff.mp step
    exact invariant.thread found ran
  | send m => exact invariant.send step

/-! ### The result -/

/-- **The threads pass one registration on.** It is there or with the one thread that has still to
register, so no `Mq_notify` fails; what has been sent has been received by one thread or is in the
queue; and the last thread leaves an empty queue and a registration. -/
theorem one_registration {maxmsg : ℕ} (reachable : (machine maxmsg).Reachable Anything s) :
    ((s.queue.registered = true ∧ s.unregistered = 0) ∨
      (s.queue.registered = false ∧ s.unregistered = 1)) ∧
      s.notifyFailed = false ∧ (s.received ++ s.queue.messages).Perm s.sent ∧
      ((∀ x ∈ s.threads, x.pc = .exited) →
        s.queue.messages = [] ∧ s.queue.registered = true) := by
  have invariant := reachable_invariant reachable
  have armed := invariant.armed
  have token : (s.queue.registered = true ∧ s.unregistered = 0) ∨
      (s.queue.registered = false ∧ s.unregistered = 1) := by
    cases registered : s.queue.registered with
    | true =>
      rw [registered] at armed
      exact Or.inl ⟨rfl, by simpa using armed⟩
    | false =>
      rw [registered] at armed
      exact Or.inr ⟨rfl, by simpa using armed⟩
  refine ⟨token, invariant.notifies, invariant.perm, fun exited => ⟨?_, ?_⟩⟩
  · by_contra unread
    obtain ⟨x, member, busy⟩ := invariant.drained unread
    unfold Thread.busy at busy
    rw [exited x member] at busy
    cases busy
  · rcases token with ⟨registered, _⟩ | ⟨_, waits⟩
    · exact registered
    · obtain ⟨x, member, unregistered⟩ := List.countP_pos_iff.mp (show 0 < s.unregistered by omega)
      unfold Thread.unregistered at unregistered
      rw [exited x member] at unregistered
      cases unregistered

/-- A message arrives, and another one when the first thread has received it: the second thread
starts while the first one is still there. -/
def twoThreads : List Act :=
  [.send ⟨0, [1]⟩, .thread 0, .thread 0, .thread 0, .send ⟨0, [2]⟩, .thread 0, .thread 1,
    .thread 0, .thread 0, .thread 0, .thread 1, .thread 0, .thread 1, .thread 1]

theorem one_registration_twoThreads :
    ((machine 8).after twoThreads).queue.messages = [] ∧
      ((machine 8).after twoThreads).queue.registered = true :=
  (one_registration (Machine.reachable_after (M := machine 8) (by decide) (by decide))).2.2.2
    (by decide)

end Unpvol2.Mq.Notifythread1
