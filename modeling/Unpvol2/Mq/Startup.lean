/-
**The notification programs on a queue that has been used before.**

A queue outlives the programs that use it, so the one that `mq_open` opens may hold messages, and
others may arrive before the first `mq_notify`. That call notifies of none of them, and as long as
they are in the queue no other message notifies either.

* `waits_on_empty_iff` — **`mqnotifysig3`, `mqnotifysig4` and `mqnotifysig5` wait on an empty queue
  if and only if their queue is empty from `mq_open` to the first `mq_notify`.**
-/

import Unpvol2.Mq.Notifysig3
import Unpvol2.Mq.Notifysig4
import Unpvol2.Mq.Notifysig5

namespace Unpvol2.Mq

open Interleaving

/-- **Which messages the notification programs pick up.** Of every run on a queue with any content:
in all its states, and in those the program comes to by itself, it is blocked with no notification
pending only on an empty queue, if and only if there is no message before the first `mq_notify`. -/
theorem waits_on_empty_iff (restarts : Bool) (maxmsg : ℕ) (messages : List Message) :
    (∀ actions, Notifysig3.program.Possible maxmsg messages actions →
      (Notifysig3.program.ServedAlong maxmsg messages actions ↔
        Notifysig3.program.EmptyAtFirst maxmsg messages actions)) ∧
    (∀ actions, Notifysig4.program.Possible maxmsg messages actions →
      (Notifysig4.program.ServedAlong maxmsg messages actions ↔
        Notifysig4.program.EmptyAtFirst maxmsg messages actions)) ∧
    (∀ actions, (Notifysig5.program restarts).Possible maxmsg messages actions →
      ((Notifysig5.program restarts).ServedAlong maxmsg messages actions ↔
        (Notifysig5.program restarts).EmptyAtFirst maxmsg messages actions)) :=
  ⟨fun _ possible => Notifysig3.lawful.served_iff possible,
    fun _ possible => Notifysig4.lawful.served_iff possible,
    fun _ possible => Notifysig5.lawful.served_iff possible⟩

/-- The program comes to its wait, a message arrives there, and the program answers `answers`. -/
def arrival {α : Type} (main : α) (send : Message → α) (waiting : ℕ) (answers : List α) :
    List (Startup α) :=
  .register :: (List.replicate waiting main ++ send ⟨0, [1]⟩ :: answers).map .act

/-- A message that arrives at the waiting program is received, and the program waits again. -/
theorem waits_on_empty_arrival :
    Notifysig3.program.ServedAlong 8 []
        (arrival .main .send 3 (.deliver :: List.replicate 10 .main)) ∧
      Notifysig4.program.ServedAlong 8 [] (arrival .main .send 0 (List.replicate 6 .main)) ∧
      (Notifysig5.program true).ServedAlong 8 []
        (arrival .main .send 2 (.deliver :: List.replicate 10 .main)) :=
  ⟨((waits_on_empty_iff true 8 []).1 _ (by decide)).mpr ⟨rfl, by decide⟩,
    ((waits_on_empty_iff true 8 []).2.1 _ (by decide)).mpr ⟨rfl, by decide⟩,
    ((waits_on_empty_iff true 8 []).2.2 _ (by decide)).mpr ⟨rfl, by decide⟩⟩

/-- The queue holds a message when the program starts: it goes to sleep on it. -/
theorem sleeps_on_first_message :
    ¬ (Notifysig3.program.startup 8 [⟨0, [1]⟩]).Along Notifysig3.program.Served
        (Notifysig3.program.startup 8 [⟨0, [1]⟩]).init
        (.register :: List.replicate 3 (.act .main)) ∧
      ¬ (Notifysig4.program.startup 8 [⟨0, [1]⟩]).Along Notifysig4.program.Served
        (Notifysig4.program.startup 8 [⟨0, [1]⟩]).init [.register] ∧
      ¬ ((Notifysig5.program true).startup 8 [⟨0, [1]⟩]).Along (Notifysig5.program true).Served
        ((Notifysig5.program true).startup 8 [⟨0, [1]⟩]).init
        (.register :: List.replicate 2 (.act .main)) := by
  decide

end Unpvol2.Mq
