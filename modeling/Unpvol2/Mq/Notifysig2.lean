/-
**`mqnotifysig2`: one message for each signal.**

The program is `mqnotifysig3` without the inner loop: after it has registered again it receives one
message, and `mq_receive` blocks on an empty queue. The signal handler, the signal mask and the
senders are those of `mqnotifysig3`. `main` never blocks in `mq_receive` (`Awake.receive`), so every
message that arrives on an empty queue notifies.

A message that arrives on a queue with messages notifies nobody. So a queue with more messages than
there are wake-ups under way (`behind`) stays behind, and `main` goes to sleep on it.

* `strands_iff` — **`main` never sleeps on messages in exactly the runs in which no message arrives
  on a queue that already has one.**
-/

import Unpvol2.Mq.Notifysig3

namespace Unpvol2.Mq.Notifysig2

open Interleaving Notifysig3

/-! ### The program -/

/-- The next statement of `main`. -/
def main (s : State) : Option State :=
  match s.pc with
  | .block => some { s with blocked := true, pc := .test }
  | .test => some { s with pc := if s.mqflag = 0 then .suspend else .clear }
  | .suspend => some { s with pc := .suspended }
  | .suspended => none
  | .clear => some { s with mqflag := 0, pc := .notify }
  | .notify =>
    let registered := s.queue.notify
    some { s with
      queue := registered.2
      notifyFailed := s.notifyFailed || registered.1 ≠ 0
      pc := .receive }
  | .receive =>
    match s.queue.receive with
    | some (m, queue) =>
      some { s with queue := queue, received := s.received ++ [m], pc := .print m.data.length }
    | none => none
  | .print n => some { s with output := s.output ++ [n], pc := .unblock }
  | .unblock => some { s with blocked := false, pc := .block }

def step (s : State) : Act → Option State
  | .main => main s
  | .deliver => s.deliver
  | .send m => s.send m

/-- `mqnotifysig2` on a queue of `maxmsg` messages, the first `mq_notify` having registered on the
empty queue. -/
def machine (maxmsg : ℕ) : Machine State Act := ⟨start maxmsg, step⟩

/-- Suspended with nothing under way, `main` leaves no message behind. -/
def Served (s : State) : Prop :=
  s.pc = .suspended → s.mqflag = 0 → s.pending = false → s.queue.messages = []

/-- No message arrives on a queue that already has one. -/
def Spaced (s : State) : Act → Prop
  | .send _ => s.queue.messages = []
  | _ => True

/-- A step of `main` or of the signal. -/
def Own : Act → Prop
  | .send _ => False
  | _ => True

instance (s : State) : DecidablePred (Spaced s)
  | .send _ => inferInstanceAs (Decidable (s.queue.messages = []))
  | .main | .deliver => isTrue trivial

/-! ### What holds in every run -/

/-- The wake-ups under way, and where `main` can stand with them. -/
structure Awake (s : State) : Prop where
  masked : Masked s
  armed : s.view.Armed
  receive : s.pc = .receive → s.queue.registered = true ∧ s.queue.messages ≠ []
  unread : s.queue.registered = false → s.queue.messages ≠ []

theorem awake_start (maxmsg : ℕ) : Awake (start maxmsg) where
  masked := masked_start maxmsg
  armed := rfl
  receive := nofun
  unread := nofun

/-- Who has a message received on its account: a wake-up on its way, or `main` at `mq_receive`. -/
def wakeups (s : State) : ℤ :=
  if s.queue.registered = true ∧ s.pc ≠ .receive then 0 else 1

/-- The messages for which no wake-up is under way. -/
def behind (s : State) : ℤ := s.queue.messages.length - wakeups s

variable {s s' : State}

/-- A step that leaves the queue as it is, away from `mq_receive`. -/
theorem Awake.keep (awake : Awake s) (masked : Masked s') (armed : s'.view.Armed)
    (queue : s'.queue = s.queue) (outside : s.pc ≠ .receive) (outside' : s'.pc ≠ .receive) :
    Awake s' ∧ behind s' = behind s := by
  refine ⟨⟨masked, armed, fun here => absurd here outside', queue ▸ awake.unread⟩, ?_⟩
  unfold behind wakeups
  simp only [queue, outside, outside', ne_eq, not_false_eq_true, and_true]

/-- What follows the `printf` apart, the statements are those of `mqnotifysig3`. -/
theorem main_eq (step : main s = some s') (away : ∀ n, s.pc ≠ .print n) : s.main = some s' := by
  unfold Notifysig2.main at step
  unfold State.main
  cases here : s.pc with
  | print n => exact absurd here (away n)
  | receive =>
    rw [here] at step
    dsimp only at step ⊢
    cases received : s.queue.receive with
    | some next =>
      rw [received] at step
      exact step
    | none =>
      rw [received] at step
      cases step
  | block | test | suspend | suspended | clear | notify | unblock =>
    rw [here] at step
    exact step

/-- **A statement of `main`** keeps the wake-ups, and receives a message for each. -/
theorem Awake.main (awake : Awake s) (step : main s = some s') :
    Awake s' ∧ behind s' = behind s := by
  have shared : (∀ n, s.pc ≠ .print n) → Masked s' ∧ s'.view.Armed := fun away => by
    obtain ⟨masked, same | does⟩ := main_does awake.masked (main_eq step away)
    · exact ⟨masked, same ▸ awake.armed⟩
    · exact ⟨masked, awake.armed.does does⟩
  unfold Notifysig2.main at step
  split at step
  case h_1 here | h_3 here | h_5 here | h_9 here =>
    obtain ⟨masked, armed⟩ := shared fun n => by rw [here]; exact nofun
    cases step
    exact awake.keep masked armed rfl (by rw [here]; exact nofun) nofun
  case h_2 here =>
    obtain ⟨masked, armed⟩ := shared fun n => by rw [here]; exact nofun
    cases step
    refine awake.keep masked armed rfl (by rw [here]; exact nofun) ?_
    show (if s.mqflag = 0 then Pc.suspend else .clear) ≠ .receive
    split <;> exact nofun
  case h_4 here => cases step
  case h_6 here =>
    obtain ⟨masked, armed⟩ := shared fun n => by rw [here]; exact nofun
    cases step
    have free : s.queue.registered = false := awake.armed.free (view_phase here)
    rw [Queue.notify_of_free free] at masked armed ⊢
    refine ⟨⟨masked, armed, fun _ => ⟨rfl, awake.unread free⟩, nofun⟩, ?_⟩
    unfold behind wakeups
    simp [free]
  case h_7 here =>
    obtain ⟨masked, armed⟩ := shared fun n => by rw [here]; exact nofun
    split at step
    · rename_i m queue received
      cases step
      obtain ⟨messages, registered⟩ := Queue.receive_some received
      have before := (awake.receive here).1
      refine ⟨⟨masked, armed, nofun, fun free => ?_⟩, ?_⟩
      · have free : queue.registered = false := free
        rw [registered, before] at free
        cases free
      · unfold behind wakeups
        simp [registered, before, here, messages]
    · cases step
  case h_8 n here =>
    cases step
    have draining : s.view.phase = .draining := view_phase here
    have blocked := awake.masked.blocked (by rw [here]; exact nofun)
    exact awake.keep ⟨fun _ => blocked, nofun, nofun⟩
      (awake.armed.goto (by rw [draining]; exact nofun) nofun) rfl (by rw [here]; exact nofun) nofun

/-- **A delivery of `SIGUSR1`** turns the pending signal into the flag. -/
theorem Awake.deliver (awake : Awake s) (step : s.deliver = some s') :
    Awake s' ∧ behind s' = behind s := by
  obtain ⟨masked, same⟩ := deliver_does awake.masked awake.armed step
  have queue : s'.queue = s.queue := congrArg Receiver.queue same
  have moved : s.pending = true ∧ (s'.pc = .test ∨ s'.pc = s.pc) := by
    unfold State.deliver at step
    split_ifs at step with quiet <;> cases step
    · exact ⟨Bool.of_not_eq_false quiet, Or.inl rfl⟩
    · exact ⟨Bool.of_not_eq_false quiet, Or.inr rfl⟩
  have outside : s.pc ≠ .receive := fun here => by
    have quiet := (notices_eq_zero.mp (awake.armed.quiet (awake.receive here).1)).1
    exact Bool.false_ne_true (quiet.symm.trans moved.1)
  refine awake.keep masked (same ▸ awake.armed) queue outside ?_
  rcases moved.2 with here | here
  · rw [here]
    exact nofun
  · rw [here]
    exact outside

/-- **A message arrives**: it finds a wake-up of its own only on an empty queue. -/
theorem Awake.send (awake : Awake s) {m : Message} (step : s.send m = some s') :
    Awake s' ∧ behind s' = behind s + if s.queue.messages = [] then 0 else 1 := by
  obtain ⟨masked, does⟩ := send_does awake.masked awake.armed step
  obtain ⟨⟨queue, notifies⟩, sent, rfl⟩ := Option.map_eq_some_iff.mp step
  obtain ⟨messages, change⟩ := Queue.send_cases sent
  have longer : queue.messages.length = s.queue.messages.length + 1 := messages.length_eq
  have unread : queue.messages ≠ [] := List.ne_nil_of_length_eq_add_one longer
  refine ⟨⟨masked, awake.armed.does does, fun here => ⟨?_, unread⟩, fun _ => unread⟩, ?_⟩
  · obtain ⟨registered, nonempty⟩ := awake.receive here
    rcases change with ⟨_, _, _, empty⟩ | ⟨_, same, _⟩
    · exact absurd empty nonempty
    · exact same.trans registered
  · show (queue.messages.length : ℤ) - (if queue.registered = true ∧ s.pc ≠ .receive then 0 else 1)
      = s.queue.messages.length - (if s.queue.registered = true ∧ s.pc ≠ .receive then 0 else 1) + _
    rcases change with ⟨_, registered, free, empty⟩ | ⟨_, same, nonempty⟩
    · have outside : s.pc ≠ .receive := fun here => (awake.receive here).2 empty
      have used : ¬ (queue.registered = true ∧ s.pc ≠ .receive) := by
        rw [free]
        exact fun both => Bool.false_ne_true both.1
      rw [if_neg used, if_pos ⟨registered, outside⟩, if_pos empty, longer, empty]
      rfl
    · have occupied : s.queue.messages ≠ [] := by
        cases registered : s.queue.registered with
        | true => exact nonempty registered
        | false => exact awake.unread registered
      rw [longer, same, if_neg occupied]
      omega

/-- **Every step**: only a message that arrives on a queue with messages is left behind. -/
theorem Awake.step (awake : Awake s) {action : Act} (step : step s action = some s') :
    Awake s' ∧ behind s' = behind s + if Spaced s action then 0 else 1 := by
  cases action with
  | main =>
    obtain ⟨awake', same⟩ := awake.main step
    exact ⟨awake', by rw [same, if_pos (show Spaced s .main from trivial), Int.add_zero]⟩
  | deliver =>
    obtain ⟨awake', same⟩ := awake.deliver step
    exact ⟨awake', by rw [same, if_pos (show Spaced s .deliver from trivial), Int.add_zero]⟩
  | send m => exact awake.send step

/-- As many messages as wake-ups, at least. -/
structure Kept (s : State) : Prop where
  awake : Awake s
  nonneg : 0 ≤ behind s

theorem kept_start (maxmsg : ℕ) : Kept (start maxmsg) := ⟨awake_start maxmsg, Int.le_refl 0⟩

theorem Kept.step (kept : Kept s) {action : Act} (step : Notifysig2.step s action = some s') :
    Kept s' := by
  obtain ⟨awake, change⟩ := kept.awake.step step
  refine ⟨awake, ?_⟩
  have nonneg := kept.nonneg
  split at change <;> omega

/-! ### Runs without a message left behind -/

theorem reachable_behind {maxmsg : ℕ} (reachable : (machine maxmsg).Reachable Spaced s) :
    Awake s ∧ behind s = 0 := by
  refine reachable.induct (I := fun s => Awake s ∧ behind s = 0) ⟨awake_start maxmsg, rfl⟩ ?_
  rintro s action s' _ ⟨awake, none⟩ spaced step
  obtain ⟨awake', change⟩ := awake.step step
  rw [if_pos spaced, none] at change
  exact ⟨awake', change⟩

/-- Suspended with nothing under way, `main` has no wake-up for any message. -/
theorem Awake.messages (awake : Awake s) (here : s.pc = .suspended) (flag : s.mqflag = 0)
    (quiet : s.pending = false) : (s.queue.messages.length : ℤ) = behind s := by
  have registered : s.queue.registered = true :=
    awake.armed.registered (view_phase here) (notices_eq_zero.mpr ⟨quiet, flag⟩)
  unfold behind wakeups
  rw [if_pos ⟨registered, by rw [here]; exact nofun⟩, Int.sub_zero]

theorem served_of_spaced {maxmsg : ℕ} (reachable : (machine maxmsg).Reachable Spaced s) :
    Served s := by
  intro here flag quiet
  obtain ⟨awake, none⟩ := reachable_behind reachable
  have length := awake.messages here flag quiet
  rw [none] at length
  exact List.eq_nil_of_length_eq_zero (by omega)

/-! ### A message left behind -/

/-- `main` is suspended, and no signal will end it. -/
def AtRest (s : State) : Prop := s.pc = .suspended ∧ s.pending = false

/-- How far `main` is from `sigsuspend`. -/
def Pc.rank : Pc → ℕ
  | .suspended => 0
  | .suspend => 1
  | .test => 2
  | .block => 3
  | .unblock => 4
  | .print _ => 5
  | .receive => 6
  | .notify => 7
  | .clear => 8

/-- How far the state is from rest, a signal or a flag costing one more round. -/
def rank (s : State) : ℕ :=
  Pc.rank s.pc + if s.pending then 20 else if s.mqflag ≠ 0 ∧ s.pc ≠ .clear then 7 else 0

/-- The next statement of `main`, as a step to a lower rank. -/
theorem step_of_main (next : main s = some s') (lower : rank s' < rank s) :
    ∃ action s', Own action ∧ step s action = some s' ∧ rank s' < rank s :=
  ⟨.main, s', trivial, next, lower⟩

/-- **Without arrivals `main` comes to rest.** -/
theorem Awake.progress (awake : Awake s) (busy : ¬ AtRest s) :
    ∃ action s', Own action ∧ Notifysig2.step s action = some s' ∧ rank s' < rank s := by
  have statement : ∀ s', Notifysig2.main s = some s' → rank s' < rank s →
      ∃ action s', Own action ∧ Notifysig2.step s action = some s' ∧ rank s' < rank s :=
    fun _ => step_of_main
  unfold Notifysig2.main at statement
  cases here : s.pc with
  | suspended =>
    have pending : s.pending = true := by
      by_contra quiet
      exact busy ⟨here, eq_false_of_ne_true quiet⟩
    refine ⟨.deliver, { s.sigUsr1 with pending := false, pc := .test }, trivial, ?_, ?_⟩
    · show s.deliver = _
      rw [State.deliver, pending, if_neg Bool.noConfusion, if_pos here]
    · simp [rank, pending, here, State.sigUsr1, Pc.rank]
  | suspend =>
    rw [here] at statement
    refine statement _ rfl ?_
    have flag := awake.masked.clear (by rw [here]; rfl)
    simp [rank, here, flag, Pc.rank]
  | test =>
    rw [here] at statement
    refine statement _ rfl ?_
    by_cases flag : s.mqflag = 0
    · simp [rank, here, flag, Pc.rank]
    · have single : s.pending.toNat + (if s.mqflag ≠ 0 then 1 else 0) ≤ 1 :=
        awake.armed.notices_le
      rw [if_pos flag] at single
      have quiet : s.pending = false := Bool.toNat_eq_zero.mp (by omega)
      simp [rank, here, flag, quiet, Pc.rank]
  | receive =>
    rw [here] at statement
    obtain ⟨first, rest, messages⟩ := List.exists_cons_of_ne_nil (awake.receive here).2
    simp only [Queue.receive, messages] at statement
    refine statement _ rfl ?_
    simp [rank, here, Pc.rank]
  | clear =>
    rw [here] at statement
    refine statement _ rfl ?_
    simp [rank, here, Pc.rank]
  | notify =>
    rw [here] at statement
    refine statement _ rfl ?_
    have flag := (notices_eq_zero.mp (awake.armed.unnotified (view_phase here))).2
    simp [rank, here, flag, Pc.rank]
  | block | unblock | print =>
    rw [here] at statement
    refine statement _ rfl ?_
    simp [rank, here, Pc.rank]

/-- A state at rest with a message left behind is not served. -/
theorem Awake.not_served (awake : Awake s) (rest : AtRest s) (left : 0 < behind s) :
    ¬ Served s := by
  obtain ⟨here, quiet⟩ := rest
  have flag := awake.masked.clear (by rw [here]; rfl)
  have length := awake.messages here flag quiet
  intro served
  rw [served here flag quiet] at length
  rw [← length] at left
  exact absurd left (Int.lt_irrefl 0)

/-! ### The result -/

/-- **`main` never sleeps on messages, during a run and after its last arrival, exactly if no
message of the run arrives on a queue that already has one.** -/
theorem strands_iff {maxmsg : ℕ} {actions : List Act}
    (ran : (machine maxmsg).run (start maxmsg) actions = some s) :
    (∀ more, (∀ action ∈ more, Own action) →
      (machine maxmsg).Along Served (start maxmsg) (actions ++ more)) ↔
      (machine maxmsg).Admitted Spaced (start maxmsg) actions := by
  have kept : ∀ s action s', Kept s → (machine maxmsg).step s action = some s' → Kept s' :=
    fun _ _ _ kept step => kept.step step
  constructor
  · intro along
    refine (Machine.admitted_or_trapped (fun s => Kept s ∧ 0 < behind s)
      (fun s action s' holds _ _ step => kept s action s' holds step) ?_ ?_
      (kept_start maxmsg) (Machine.admitted_anything _ _) ran).resolve_right fun trapped => ?_
    · intro s action s' holds _ crowded step
      refine ⟨holds.step step, ?_⟩
      have change := (holds.awake.step step).2
      have nonneg := holds.nonneg
      rw [if_neg crowded] at change
      omega
    · rintro s action s' ⟨holds, left⟩ _ step
      refine ⟨holds.step step, ?_⟩
      have change := (holds.awake.step step).2
      split at change <;> omega
    · -- the last state of the run is behind, and without arrivals it comes to rest so
      obtain ⟨more, s', own, after, ⟨holds, left⟩, rest⟩ :=
        Machine.exists_run_of_rank (M := machine maxmsg) (I := fun s => Kept s ∧ 0 < behind s)
          Own AtRest rank
          (fun s holds busy => by
            obtain ⟨action, s', mine, step, lower⟩ := holds.1.awake.progress busy
            refine ⟨action, s', mine, step, ⟨holds.1.step step, ?_⟩, lower⟩
            have change := (holds.1.awake.step step).2
            have before := holds.2
            split at change <;> omega)
          trapped
      refine holds.awake.not_served rest left ((along more own).last ?_)
      rw [Machine.run_append, ran]
      exact after
  · intro spaced more own
    refine Machine.along_of_admitted (fun s' reachable => served_of_spaced reachable)
      (Machine.admitted_append spaced fun s action member => ?_)
    cases action with
    | send m => exact (own _ member).elim
    | _ => trivial

/-- One message arrives while `main` sleeps. -/
def oneMessage : List Act := [.main, .main, .main, .send ⟨0, [1]⟩, .deliver]

theorem strands_iff_oneMessage :
    (machine 8).Admitted Spaced (start 8) oneMessage ∧
      ∀ more, (∀ action ∈ more, Own action) →
        (machine 8).Along Served (start 8) (oneMessage ++ more) :=
  have spaced : (machine 8).Admitted Spaced (start 8) oneMessage := by decide
  ⟨spaced, (strands_iff (s := (machine 8).after oneMessage)
    (Machine.run_after (M := machine 8) (by decide))).mpr spaced⟩

/-- **`main` sleeps on a message**: two messages arrive while it sleeps, and it receives one. -/
theorem sleeps_on_message : ¬ ∀ (maxmsg : ℕ) (s : State),
    (machine maxmsg).Reachable Anything s → Served s := by
  intro served
  have reachable : (machine 8).Reachable Anything
      ((machine 8).after (twoMessages.take 6 ++ List.replicate 9 .main)) :=
    Machine.reachable_after (by decide) (by decide)
  exact absurd (served 8 _ reachable (by decide) (by decide) (by decide)) (by decide)

end Unpvol2.Mq.Notifysig2
