/-
**`mqnotifysig5`: the handler writes to a pipe.**

`sig_usr1` writes one byte to a pipe and `main` waits for the pipe in `Select`. When there is a byte
it is read, `main` registers again and receives until `EAGAIN`. `Mq_notify` is the function of the
same name that ends the program when the call fails; `Select` calls the function again when a signal
has interrupted it, or ends the program, and `restarts` says which.

One step is a statement of `main`, the delivery of a pending `SIGUSR1`, which runs the handler, or a
message sent. The pipe is a number of bytes: there is never more than one in it, so the handler is
never blocked. A run starts after the first `Mq_notify`, on any queue.

* `lawful` — the program is a receiver: a pending `SIGUSR1` and a byte in the pipe are notifications
  to answer.
-/

import Unpvol2.Mq.Receiver

namespace Unpvol2.Mq.Notifysig5

/-! ### The program -/

/-- The statement `main` stands at. -/
inductive Pc
  /-- `FD_SET(pipefd[0], &rset)` -/
  | fdSet
  /-- at the call of `Select(pipefd[0] + 1, &rset, NULL, NULL, NULL)` -/
  | select
  /-- in it -/
  | selecting
  /-- `if (FD_ISSET(pipefd[0], &rset))` -/
  | isset
  /-- `Read(pipefd[0], &c, 1)` -/
  | read
  /-- `Mq_notify(mqd, &sigev)` -/
  | notify
  /-- `mq_receive(mqd, buff, attr.mq_msgsize, NULL)` -/
  | receive
  /-- `printf("read %ld bytes\n", (long) n)` -/
  | print (n : ℕ)
  /-- `Mq_notify` or `Select` has failed -/
  | exited
deriving DecidableEq

structure State where
  queue : Queue
  /-- the bytes in the pipe -/
  pipe : ℕ
  /-- `pipefd[0]` is in `rset` -/
  rset : Bool
  /-- `SIGUSR1` is pending -/
  pending : Bool
  pc : Pc
  /-- the numbers printed -/
  output : List ℕ

/-- One step. -/
inductive Act
  /-- `main` runs its statement -/
  | main
  /-- `SIGUSR1` is delivered -/
  | deliver
  | send (m : Message)

namespace State

/-- The next statement of `main`. -/
def main (s : State) : Option State :=
  match s.pc with
  | .fdSet => some { s with rset := true, pc := .select }
  | .select => some { s with pc := .selecting }
  | .selecting => if 0 < s.pipe then some { s with pc := .isset } else none
  | .isset => some { s with pc := if s.rset then .read else .fdSet }
  | .read => if 0 < s.pipe then some { s with pipe := s.pipe - 1, pc := .notify } else none
  | .notify =>
    let registered := s.queue.notify
    some { s with
      queue := registered.2
      pc := if registered.1 = 0 then .receive else .exited }
  | .receive =>
    match s.queue.receive with
    | some (m, queue) => some { s with queue := queue, pc := .print m.data.length }
    | none => some { s with pc := .fdSet }
  | .print n => some { s with output := s.output ++ [n], pc := .receive }
  | .exited => none

/-- `sig_usr1`. -/
def sigUsr1 (s : State) : State := { s with pipe := s.pipe + 1 }

/-- A pending `SIGUSR1` is delivered: the handler runs, and `Select` is interrupted. -/
def deliver (restarts : Bool) (s : State) : Option State :=
  if s.pending = false then none
  else
    match s.pc with
    | .exited => none
    | .selecting =>
      some { s.sigUsr1 with pending := false, pc := if restarts then .select else .exited }
    | _ => some { s.sigUsr1 with pending := false }

/-- A message arrives. -/
def send (s : State) (m : Message) : Option State :=
  (s.queue.send m).map fun (queue, notifies) =>
    { s with queue := queue, pending := s.pending || notifies }

def step (restarts : Bool) (s : State) : Act → Option State
  | .main => s.main
  | .deliver => s.deliver restarts
  | .send m => s.send m

end State

/-- After the first `Mq_notify` and `FD_ZERO(&rset)`. -/
def begin (q : Queue) : State where
  queue := q.notify.2
  pipe := 0
  rset := false
  pending := false
  pc := if q.notify.1 = 0 then .fdSet else .exited
  output := []

/-! ### The receiver -/

def Pc.phase : Pc → Phase
  | .notify => .registering
  | .receive | .print _ => .draining
  | _ => .waiting

def State.view (s : State) : Receiver := ⟨s.queue, s.pending.toNat + s.pipe, s.pc.phase⟩

def program (restarts : Bool) : Program State Act where
  begin := begin
  step := State.step restarts
  main := .main
  view := State.view
  Waits s := s.pc = .selecting ∧ s.pipe = 0 ∧ s.pending = false

instance (restarts : Bool) : DecidablePred (program restarts).Waits := fun s =>
  inferInstanceAs (Decidable (s.pc = .selecting ∧ s.pipe = 0 ∧ s.pending = false))

/-- `FD_SET` has put `pipefd[0]` in `rset`, and `Select` leaves it there. -/
def Pc.watching : Pc → Bool
  | .select | .selecting | .isset => true
  | _ => false

/-- `Select` has found a byte or has been interrupted by the handler. -/
def Pc.noticed : Pc → Bool
  | .isset | .read | .exited => true
  | _ => false

structure Invariant (s : State) : Prop where
  rset : s.pc.watching = true → s.rset = true
  pipe : s.pc.noticed = true → 0 < s.pipe

variable {s s' : State} {restarts : Bool}

/-- The steps of `main`. -/
theorem main_does (invariant : Invariant s) (armed : s.view.Armed) (step : s.main = some s') :
    Invariant s' ∧ (s'.view = s.view ∨ s.view.Does s'.view) := by
  have phase : s.view.phase = s.pc.phase := rfl
  have same : ∀ {pc : Pc}, pc.phase = s.pc.phase →
      ({ s with pc := pc } : State).view = s.view := by
    intro pc equal
    unfold State.view
    rw [← equal]
  unfold State.main at step
  split at step
  case h_1 here =>
    cases step
    refine ⟨⟨fun _ => rfl, nofun⟩, Or.inl ?_⟩
    exact same (by rw [here]; rfl)
  case h_2 here =>
    cases step
    refine ⟨⟨fun _ => invariant.rset (by rw [here]; rfl), nofun⟩, Or.inl ?_⟩
    exact same (by rw [here]; rfl)
  case h_3 here =>
    split at step
    · rename_i some
      cases step
      refine ⟨⟨fun _ => invariant.rset (by rw [here]; rfl), fun _ => some⟩, Or.inl ?_⟩
      exact same (by rw [here]; rfl)
    · cases step
  case h_4 here =>
    cases step
    have pc : (if s.rset then Pc.read else .fdSet) = .read := 
      if_pos (invariant.rset (by rw [here]; rfl))
    have some := invariant.pipe (by rw [here]; rfl)
    rw [pc]
    refine ⟨⟨nofun, fun _ => some⟩, Or.inl ?_⟩
    exact same (by rw [here]; rfl)
  case h_5 here =>
    split at step
    · rename_i some
      cases step
      refine ⟨⟨nofun, nofun⟩, Or.inr ?_⟩
      refine .answer (phase.trans (by rw [here]; rfl)) ?_
      show s.pending.toNat + s.pipe = s.pending.toNat + (s.pipe - 1) + 1
      omega
    · cases step
  case h_6 here =>
    cases step
    have registering : s.view.phase = .registering := phase.trans (by rw [here]; rfl)
    have free : s.queue.registered = false := armed.free registering
    have success : s.queue.notify.1 = 0 := by rw [Queue.notify_of_free free]
    have pc : (if s.queue.notify.1 = 0 then Pc.receive else .exited) = .receive := if_pos success
    rw [pc]
    exact ⟨⟨nofun, nofun⟩, Or.inr (.register registering)⟩
  case h_7 here =>
    have draining : s.view.phase = .draining := phase.trans (by rw [here]; rfl)
    split at step
    · rename_i received
      cases step
      refine ⟨⟨nofun, nofun⟩, Or.inr ?_⟩
      have does := Receiver.Does.receive draining received
      unfold State.view at does ⊢
      rw [here] at does ⊢
      exact does
    · rename_i empty
      cases step
      exact ⟨⟨nofun, nofun⟩, Or.inr (.again draining empty)⟩
  case h_8 n here =>
    cases step
    refine ⟨⟨nofun, nofun⟩, Or.inl ?_⟩
    unfold State.view
    rw [here]
    rfl
  case h_9 here => cases step

/-- A delivery of the signal puts the byte in its place. -/
theorem deliver_does (invariant : Invariant s) (step : s.deliver restarts = some s') :
    Invariant s' ∧ s'.view = s.view := by
  unfold State.deliver at step
  split at step
  · cases step
  · rename_i pending
    have notices : Bool.toNat false + (s.pipe + 1) = s.pending.toNat + s.pipe := by
      rw [Bool.of_not_eq_false pending, Bool.toNat_false, Bool.toNat_true]
      omega
    split at step
    case h_1 here => cases step
    case h_2 here =>
      cases step
      refine ⟨⟨fun _ => invariant.rset (by rw [here]; rfl), fun _ => Nat.succ_pos _⟩, ?_⟩
      have phase : (if restarts = true then Pc.select else .exited).phase = s.pc.phase := by
        rw [here]
        split <;> rfl
      show Receiver.mk s.queue (Bool.toNat false + (s.pipe + 1)) _ = s.view
      rw [notices, phase]
      rfl
    case h_3 =>
      cases step
      refine ⟨⟨invariant.rset, fun _ => Nat.succ_pos _⟩, ?_⟩
      show Receiver.mk s.queue (Bool.toNat false + (s.pipe + 1)) s.pc.phase = s.view
      rw [notices]
      rfl

/-- A message arrives. -/
theorem send_does (invariant : Invariant s) (armed : s.view.Armed) {m : Message}
    (step : s.send m = some s') : Invariant s' ∧ s.view.Does s'.view := by
  obtain ⟨⟨queue, notifies⟩, sent, rfl⟩ := Option.map_eq_some_iff.mp step
  exact ⟨⟨invariant.rset, invariant.pipe⟩, armed.sent s.pending s.pipe sent rfl⟩

/-- The statements left to `Select`. -/
def rank (s : State) : ℕ :=
  match s.pc with
  | .fdSet => 2
  | .select => 1
  | _ => 0

/-- Without a byte in the pipe `main` comes to wait in `Select`. -/
theorem settles (invariant : Invariant s) (waiting : s.pc.phase = .waiting)
    (quiet : s.pending.toNat + s.pipe = 0) (away : ¬ (program restarts).Waits s) :
    ∃ s', (program restarts).step s (program restarts).main = some s' ∧
      (program restarts).view s' = (program restarts).view s ∧ rank s' < rank s := by
  obtain ⟨quiet, empty⟩ := Nat.add_eq_zero_iff.mp quiet
  have none : ¬ 0 < s.pipe := by omega
  have main : ∀ (pc : Pc) (rset : Bool), s.main = some { s with rset := rset, pc := pc } →
      pc.phase = s.pc.phase → rank { s with rset := rset, pc := pc } < rank s →
      ∃ s', (program restarts).step s (program restarts).main = some s' ∧
        (program restarts).view s' = (program restarts).view s ∧ rank s' < rank s := by
    intro pc rset step phase lower
    refine ⟨_, step, ?_, lower⟩
    show Receiver.mk s.queue _ pc.phase = s.view
    rw [phase]
    rfl
  cases here : s.pc with
  | fdSet =>
    refine main .select true ?_ (by rw [here]; rfl) ?_
    · rw [State.main, here]
    · rw [rank, rank, here]
      exact Nat.lt_succ_self 1
  | select =>
    refine main .selecting s.rset ?_ (by rw [here]; rfl) ?_
    · rw [State.main, here]
    · rw [rank, rank, here]
      exact Nat.zero_lt_one
  | selecting => exact absurd ⟨here, empty, Bool.toNat_eq_zero.mp quiet⟩ away
  | isset | read | exited => exact absurd (invariant.pipe (by rw [here]; rfl)) none
  | notify | receive | print =>
    rw [here] at waiting
    cases waiting

/-- **`mqnotifysig5` is a receiver**, and without a byte in the pipe `main` comes to wait in
`Select`. -/
theorem lawful : (program restarts).Lawful Invariant rank where
  begins q free := by
    have success : q.notify.1 = 0 := by rw [Queue.notify_of_free free]
    have pc : (begin q).pc = .fdSet := if_pos success
    refine ⟨⟨?_, ?_⟩, ?_⟩
    · show (begin q).pc.watching = true → _
      rw [pc]
      exact nofun
    · show (begin q).pc.noticed = true → _
      rw [pc]
      exact nofun
    · show (begin q).view = _
      unfold State.view
      rw [pc]
      rfl
  kept s action s' invariant armed step := by
    cases action with
    | main => exact (main_does invariant armed step).1
    | deliver => exact (deliver_does invariant step).1
    | send m => exact (send_does invariant armed step).1
  does s action s' invariant armed step := by
    cases action with
    | main => exact (main_does invariant armed step).2
    | deliver => exact Or.inl (deliver_does invariant step).2
    | send m => exact Or.inr (send_does invariant armed step).2
  waits s _ waits := by
    obtain ⟨here, empty, quiet⟩ := waits
    refine ⟨?_, ?_⟩
    · show s.pc.phase = _
      rw [here]
      rfl
    · show s.pending.toNat + s.pipe = 0
      rw [quiet, empty]
      rfl
  settles s invariant waiting quiet away := settles invariant waiting quiet away

end Unpvol2.Mq.Notifysig5
