/-
**The message queue under the notification programs.**

A POSIX message queue as the programs of `5.MessageQueue` use it: messages leave it by priority and
age, one process may register for notification, and a message that arrives on an empty queue takes
the registration away and notifies.

While one of the programs that register is there, nobody is blocked in `mq_receive`, so every such
arrival notifies: `mqnotifysig3` and the programs after it open the queue with `O_NONBLOCK`, and
`mqnotifysig1` and `mqnotifysig2`, which would block on an empty queue, never receive from one.
-/

import Mathlib.Data.Int.Basic
import Unpvol2.Lib.PriorityQueue

namespace Unpvol2.Mq

open Interleaving

/-- A message: its priority and its bytes. -/
structure Message where
  priority : ℕ
  data : List UInt8
deriving DecidableEq

/-- A queue, and whether a notification is registered. -/
structure Queue where
  /-- `mq_maxmsg` -/
  maxmsg : ℕ
  messages : List Message
  registered : Bool
deriving DecidableEq

/-- The place of a new message: behind all messages of its priority or a higher one. -/
def insertMessage (m : Message) (messages : List Message) : List Message :=
  PriorityQueue.insert Message.priority m messages

namespace Queue

/-- `mq_send`, and whether it notifies; it blocks while the queue is full. -/
def send (q : Queue) (m : Message) : Option (Queue × Bool) :=
  if q.messages.length < q.maxmsg then
    let notifies := q.registered && q.messages.isEmpty
    some ({ q with
      messages := insertMessage m q.messages
      registered := q.registered && !notifies }, notifies)
  else none

/-- `mq_receive`: the oldest message of the highest priority. On an empty queue it fails with
`EAGAIN`, or blocks where the queue was opened without `O_NONBLOCK`. -/
def receive (q : Queue) : Option (Message × Queue) :=
  match q.messages with
  | [] => none
  | m :: rest => some (m, { q with messages := rest })

/-- `mq_notify`: it registers, or fails with `EBUSY`. -/
def notify (q : Queue) : ℤ × Queue :=
  if q.registered then (-1, q) else (0, { q with registered := true })

end Queue

namespace Queue

variable {q q' : Queue} {m : Message}

/-- **What `mq_send` does.** It notifies exactly when it takes a registration away, and then the
queue was empty. -/
theorem send_cases {notifies : Bool} (sent : q.send m = some (q', notifies)) :
    q'.messages.Perm (m :: q.messages) ∧
      ((notifies = true ∧ q.registered = true ∧ q'.registered = false ∧ q.messages = []) ∨
        (notifies = false ∧ q'.registered = q.registered ∧
          (q.registered = true → q.messages ≠ []))) := by
  simp only [send, Option.ite_none_right_eq_some, Option.some.injEq, Prod.mk.injEq] at sent
  obtain ⟨_, rfl, rfl⟩ := sent
  refine ⟨PriorityQueue.insert_perm m q.messages, ?_⟩
  cases registered : q.registered with
  | false => exact Or.inr ⟨rfl, rfl, nofun⟩
  | true =>
    cases messages : q.messages with
    | nil => exact Or.inl ⟨rfl, rfl, rfl, rfl⟩
    | cons first rest => exact Or.inr ⟨rfl, rfl, fun _ => List.cons_ne_nil _ _⟩

theorem receive_some (received : q.receive = some (m, q')) :
    q.messages = m :: q'.messages ∧ q'.registered = q.registered := by
  unfold receive at received
  split at received
  · cases received
  · cases received
    exact ⟨‹_›, rfl⟩

theorem receive_none (empty : q.receive = none) : q.messages = [] := by
  unfold receive at empty
  split at empty
  · assumption
  · cases empty

/-- Registering on a queue without a registration succeeds. -/
theorem notify_of_free (free : q.registered = false) :
    q.notify = (0, { q with registered := true }) := by
  rw [notify, free]
  rfl

end Queue

end Unpvol2.Mq
