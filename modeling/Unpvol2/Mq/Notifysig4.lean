/-
**`mqnotifysig4`: the signal is waited for.**

`SIGUSR1` stays blocked, so it is never delivered: `main` takes a pending one away in `Sigwait`.
Then it registers again and receives until `EAGAIN`. `Mq_notify` is the function of the same name
that ends the program when the call fails.

One step is a statement of `main` or a message sent. A run starts after the first `Mq_notify`, on
any queue.

* `lawful` — the program is a receiver: a pending `SIGUSR1` is a notification to answer.
-/

import Unpvol2.Mq.Receiver

namespace Unpvol2.Mq.Notifysig4

/-! ### The program -/

/-- The statement `main` stands at. -/
inductive Pc
  /-- `Sigwait(&newmask, &signo)` -/
  | sigwait
  /-- `if (signo == SIGUSR1)` -/
  | test
  /-- `Mq_notify(mqd, &sigev)` -/
  | notify
  /-- `mq_receive(mqd, buff, attr.mq_msgsize, NULL)` -/
  | receive
  /-- `printf("read %ld bytes\n", (long) n)` -/
  | print (n : ℕ)
  /-- `Mq_notify` has failed -/
  | exited
deriving DecidableEq

/-- `SIGUSR1` -/
def sigusr1 : ℤ := 10

structure State where
  queue : Queue
  signo : ℤ
  /-- `SIGUSR1` is pending -/
  pending : Bool
  pc : Pc
  /-- the numbers printed -/
  output : List ℕ

/-- One step. -/
inductive Act
  /-- `main` runs its statement -/
  | main
  | send (m : Message)

namespace State

/-- The next statement of `main`. -/
def main (s : State) : Option State :=
  match s.pc with
  | .sigwait =>
    if s.pending then some { s with pending := false, signo := sigusr1, pc := .test } else none
  | .test => some { s with pc := if s.signo = sigusr1 then .notify else .sigwait }
  | .notify =>
    let registered := s.queue.notify
    some { s with
      queue := registered.2
      pc := if registered.1 = 0 then .receive else .exited }
  | .receive =>
    match s.queue.receive with
    | some (m, queue) => some { s with queue := queue, pc := .print m.data.length }
    | none => some { s with pc := .sigwait }
  | .print n => some { s with output := s.output ++ [n], pc := .receive }
  | .exited => none

/-- A message arrives. -/
def send (s : State) (m : Message) : Option State :=
  (s.queue.send m).map fun (queue, notifies) =>
    { s with queue := queue, pending := s.pending || notifies }

def step (s : State) : Act → Option State
  | .main => s.main
  | .send m => s.send m

end State

/-- After the first `Mq_notify`. -/
def begin (q : Queue) : State where
  queue := q.notify.2
  signo := 0
  pending := false
  pc := if q.notify.1 = 0 then .sigwait else .exited
  output := []

/-! ### The receiver -/

def Pc.phase : Pc → Phase
  | .sigwait | .exited => .waiting
  | .test | .notify => .registering
  | .receive | .print _ => .draining

def State.view (s : State) : Receiver := ⟨s.queue, s.pending.toNat, s.pc.phase⟩

def program : Program State Act where
  begin := begin
  step := State.step
  main := .main
  view := State.view
  Waits s := s.pc = .sigwait ∧ s.pending = false

instance : DecidablePred program.Waits := fun s =>
  inferInstanceAs (Decidable (s.pc = .sigwait ∧ s.pending = false))

/-- No `Mq_notify` has failed, and `Sigwait` has returned `SIGUSR1`. -/
structure Invariant (s : State) : Prop where
  runs : s.pc ≠ .exited
  signo : s.pc = .test → s.signo = sigusr1

variable {s s' : State}

/-- The steps of `main`. -/
theorem main_does (invariant : Invariant s) (armed : s.view.Armed) (step : s.main = some s') :
    Invariant s' ∧ (s'.view = s.view ∨ s.view.Does s'.view) := by
  have phase : s.view.phase = s.pc.phase := rfl
  unfold State.main at step
  split at step
  case h_1 here =>
    split at step
    · rename_i pending
      cases step
      refine ⟨⟨nofun, fun _ => rfl⟩, Or.inr (.answer (phase.trans (by rw [here]; rfl)) ?_)⟩
      show s.pending.toNat = _
      rw [pending]
      rfl
    · cases step
  case h_2 here =>
    cases step
    have pc : (if s.signo = sigusr1 then Pc.notify else .sigwait) = .notify :=
      if_pos (invariant.signo here)
    refine ⟨⟨?_, ?_⟩, Or.inl ?_⟩
    · show (if s.signo = sigusr1 then Pc.notify else .sigwait) ≠ .exited
      rw [pc]
      exact nofun
    · show (if s.signo = sigusr1 then Pc.notify else .sigwait) = .test → _
      rw [pc]
      exact nofun
    · unfold State.view
      rw [pc, here]
      rfl
  case h_3 here =>
    cases step
    have registering : s.view.phase = .registering := phase.trans (by rw [here]; rfl)
    have free : s.queue.registered = false := armed.free registering
    have success : s.queue.notify.1 = 0 := by rw [Queue.notify_of_free free]
    have pc : (if s.queue.notify.1 = 0 then Pc.receive else .exited) = .receive := if_pos success
    refine ⟨⟨?_, ?_⟩, Or.inr ?_⟩
    · show (if s.queue.notify.1 = 0 then Pc.receive else .exited) ≠ .exited
      rw [pc]
      exact nofun
    · show (if s.queue.notify.1 = 0 then Pc.receive else .exited) = .test → _
      rw [pc]
      exact nofun
    · have does := Receiver.Does.register registering
      unfold State.view at does ⊢
      rw [pc]
      exact does
  case h_4 here =>
    have draining : s.view.phase = .draining := phase.trans (by rw [here]; rfl)
    split at step
    · rename_i received
      cases step
      refine ⟨⟨nofun, nofun⟩, Or.inr ?_⟩
      have does := Receiver.Does.receive draining received
      unfold State.view at does ⊢
      rw [here] at does ⊢
      exact does
    · rename_i empty
      cases step
      exact ⟨⟨nofun, nofun⟩, Or.inr (.again draining empty)⟩
  case h_5 n here =>
    cases step
    refine ⟨⟨nofun, nofun⟩, Or.inl ?_⟩
    unfold State.view
    rw [here]
    rfl
  case h_6 here => cases step

/-- A message arrives. -/
theorem send_does (invariant : Invariant s) (armed : s.view.Armed) {m : Message}
    (step : s.send m = some s') : Invariant s' ∧ s.view.Does s'.view := by
  obtain ⟨⟨queue, notifies⟩, sent, rfl⟩ := Option.map_eq_some_iff.mp step
  exact ⟨⟨invariant.runs, invariant.signo⟩, armed.sent s.pending 0 sent rfl⟩

/-- **`mqnotifysig4` is a receiver**, and nothing keeps it from `Sigwait`. -/
theorem lawful : program.Lawful Invariant fun _ => 0 where
  begins q free := by
    have success : q.notify.1 = 0 := by rw [Queue.notify_of_free free]
    have pc : (begin q).pc = .sigwait := if_pos success
    refine ⟨⟨?_, ?_⟩, ?_⟩
    · show (begin q).pc ≠ .exited
      rw [pc]
      exact nofun
    · show (begin q).pc = .test → _
      rw [pc]
      exact nofun
    show (begin q).view = _
    unfold State.view
    rw [pc]
    rfl
  kept s action s' invariant armed step := by
    cases action with
    | main => exact (main_does invariant armed step).1
    | send m => exact (send_does invariant armed step).1
  does s action s' invariant armed step := by
    cases action with
    | main => exact (main_does invariant armed step).2
    | send m => exact Or.inr (send_does invariant armed step).2
  waits s _ waits := by
    refine ⟨?_, ?_⟩
    · show s.pc.phase = _
      rw [waits.1]
      rfl
    · show s.pending.toNat = 0
      rw [waits.2]
      rfl
  settles s invariant waiting quiet away := by
    have waiting : s.pc.phase = .waiting := waiting
    have quiet : s.pending.toNat = 0 := quiet
    refine absurd ⟨?_, Bool.toNat_eq_zero.mp quiet⟩ away
    cases here : s.pc with
    | sigwait => rfl
    | exited => exact absurd here invariant.runs
    | test | notify | receive | print =>
      rw [here] at waiting
      cases waiting

end Unpvol2.Mq.Notifysig4
