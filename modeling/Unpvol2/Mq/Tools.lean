/-
**The queue tools: `mqcreate`, `mqcreate1`, `mqsend`, `mqreceive`, `mqunlink`.**

Any number of these programs run at once, on any names, and any of them may be killed at any time.
A name leads to a queue until it is unlinked; who has opened the queue keeps it. The queues are
numbered in the order in which they are made. One step is a call on the queues, or the `printf`.

Arguments are what `atoi` and `atol` make of them. `log` is read by no code: the messages sent and
received, with the process and the queue; nor is the descriptor in a line of the output.

* `tools_deliver` — **each queue is a priority queue to all programs that ever open it**: what has
  been put in and taken out, in this order, is a run of the bounded priority queue, whose items are
  the messages that are there. `mqsend` puts one message and `mqreceive` takes one, or neither has
  any effect, and each line printed is about the message its process has taken.
-/

import Mathlib.Algebra.Group.Int.Defs
import Unpvol2.Lib.PriorityQueue
import Unpvol2.Mq.Queue

set_option linter.unusedSectionVars false

namespace Unpvol2.Mq.Tools

open Interleaving

/-! ### The system -/

/-- What the system allows. -/
structure System where
  /-- `mq_maxmsg` and `mq_msgsize` of a queue made without attributes -/
  maxmsg : ℕ
  msgsize : ℕ
  /-- the highest `mq_maxmsg` and `mq_msgsize` -/
  maxmsgMax : ℕ
  msgsizeMax : ℕ
  /-- `MQ_PRIO_MAX` -/
  prioMax : ℕ
  positive : 0 < maxmsg

/-- The attributes of a new queue, or `EINVAL`. -/
def System.attr (sys : System) : Option (ℤ × ℤ) → Option (ℕ × ℕ)
  | none => some (sys.maxmsg, sys.msgsize)
  | some (maxmsg, msgsize) =>
    if (0 < maxmsg ∧ maxmsg ≤ sys.maxmsgMax) ∧ 0 < msgsize ∧ msgsize ≤ sys.msgsizeMax then
      some (maxmsg.toNat, msgsize.toNat)
    else none

/-- A queue and the longest message it takes. -/
structure Mqueue where
  queue : Queue
  msgsize : ℕ

/-- A program and its arguments. -/
inductive Command (ν : Type)
  /-- `mqcreate [ -e ] [ -m maxmsg -z msgsize ] <name>` -/
  | mqcreate (excl : Bool) (maxmsg msgsize : ℤ) (name : ν)
  /-- `mqcreate1 [ -e ] <name>` -/
  | mqcreate1 (excl : Bool) (name : ν)
  /-- `mqsend <name> <#bytes> <priority>` -/
  | mqsend (name : ν) (len prio : ℤ)
  /-- `mqreceive [ -n ] <name>` -/
  | mqreceive (nonblock : Bool) (name : ν)
  /-- `mqunlink <name>` -/
  | mqunlink (name : ν)

/-- The call a process stands at. -/
inductive Pc
  /-- `mq_open` or `mq_unlink` -/
  | first
  /-- `mq_send(mqd, ptr, len, prio)` -/
  | send (mqd : Option ℕ) (len prio : ℕ)
  /-- `mq_getattr(mqd, &attr)` -/
  | getattr (nonblock : Bool) (mqd : Option ℕ)
  /-- `mq_receive(mqd, buff, attr.mq_msgsize, &prio)` -/
  | receive (nonblock : Bool) (mqd : Option ℕ) (msgsize : ℕ)
  /-- `printf("read %ld bytes, priority = %u\n", (long) n, prio)` -/
  | print (mqd : Option ℕ) (n : ℤ) (prio : ℕ)
  | exited
  | killed

/-- A line of `mqreceive`. -/
structure Line where
  mqd : Option ℕ
  n : ℤ
  prio : ℕ
deriving DecidableEq

structure State (ν π : Type) where
  name : ν → Option ℕ
  /-- the number of queues made -/
  made : ℕ
  queue : ℕ → Mqueue
  pc : π → Pc
  output : List (π × Line)
  log : List (π × ℕ × PriorityQueue.Op Message)

/-- One step. -/
inductive Act (π : Type)
  | run (p : π)
  | kill (p : π)

variable {ν π : Type} [DecidableEq ν] [DecidableEq π]

namespace State

def goTo (s : State ν π) (p : π) (pc : Pc) : State ν π :=
  { s with pc := Function.update s.pc p pc }

/-- The message queue `k`. -/
def setQueue (s : State ν π) (k : ℕ) (queue : Queue) : ℕ → Mqueue :=
  Function.update s.queue k { s.queue k with queue := queue }

/-- `mq_open` with `O_CREAT`. A queue that is there is opened, or refused for `O_EXCL`: it stays as
it is, and the program does not use the descriptor. -/
def create (sys : System) (s : State ν π) (p : π) (attr : Option (ℤ × ℤ)) (name : ν) : State ν π :=
  match s.name name, sys.attr attr with
  | none, some (maxmsg, msgsize) =>
    { s.goTo p .exited with
      name := Function.update s.name name (some s.made)
      made := s.made + 1
      queue := Function.update s.queue s.made ⟨⟨maxmsg, [], false⟩, msgsize⟩ }
  | _, _ => s.goTo p .exited

/-- The first call of a program. `mqcreate` passes the attributes on where there is a `maxmsg`; the
arguments of `mq_send` are a `size_t` and an `unsigned int`. -/
def first (sys : System) (s : State ν π) (p : π) : Command ν → State ν π
  | .mqcreate _ maxmsg msgsize name =>
    s.create sys p (if maxmsg ≠ 0 then some (maxmsg, msgsize) else none) name
  | .mqcreate1 _ name => s.create sys p none name
  | .mqsend name len prio =>
    s.goTo p (.send (s.name name) (len % 2 ^ 64).toNat (prio % 2 ^ 32).toNat)
  | .mqreceive nonblock name => s.goTo p (.getattr nonblock (s.name name))
  | .mqunlink name => { s.goTo p .exited with name := Function.update s.name name none }

/-- `mq_send` of `len` zero bytes: it fails, blocks on a full queue, or takes the message. -/
def send (sys : System) (s : State ν π) (p : π) (mqd : Option ℕ) (len prio : ℕ) :
    Option (State ν π) :=
  match mqd with
  | none => some (s.goTo p .exited)
  | some k =>
    if len ≤ (s.queue k).msgsize ∧ prio < sys.prioMax then
      let m : Message := ⟨prio, List.replicate len 0⟩
      ((s.queue k).queue.send m).map fun (queue, _) =>
        { s.goTo p .exited with queue := s.setQueue k queue, log := s.log ++ [(p, k, .put m)] }
    else some (s.goTo p .exited)

/-- `mq_receive` into `msgsize` bytes; `prio` keeps its value where it fails. -/
def receive (s : State ν π) (p : π) (nonblock : Bool) (mqd : Option ℕ) (msgsize prio : ℕ) :
    Option (State ν π) :=
  match mqd with
  | none => some (s.goTo p (.print none (-1) prio))
  | some k =>
    if msgsize < (s.queue k).msgsize then some (s.goTo p (.print mqd (-1) prio))
    else
      match (s.queue k).queue.receive with
      | some (m, queue) =>
        some { s.goTo p (.print mqd m.data.length m.priority) with
          queue := s.setQueue k queue, log := s.log ++ [(p, k, .get m)] }
      | none => if nonblock then some (s.goTo p (.print mqd (-1) prio)) else none

/-- The next call of `p`; `prio` and `size` are what `prio` and `attr.mq_msgsize` hold at first. -/
def run (sys : System) (command : π → Command ν) (prio size : π → ℕ) (s : State ν π) (p : π) :
    Option (State ν π) :=
  match s.pc p with
  | .first => some (s.first sys p (command p))
  | .send mqd len prio => s.send sys p mqd len prio
  | .getattr nonblock mqd =>
    some (s.goTo p (.receive nonblock mqd (mqd.elim (size p) fun k => (s.queue k).msgsize)))
  | .receive nonblock mqd msgsize => s.receive p nonblock mqd msgsize (prio p)
  | .print mqd n prio => some { s.goTo p .exited with output := s.output ++ [(p, ⟨mqd, n, prio⟩)] }
  | .exited | .killed => none

def kill (s : State ν π) (p : π) : Option (State ν π) :=
  match s.pc p with
  | .exited | .killed => none
  | _ => some (s.goTo p .killed)

def step (sys : System) (command : π → Command ν) (prio size : π → ℕ) (s : State ν π) :
    Act π → Option (State ν π)
  | .run p => s.run sys command prio size p
  | .kill p => s.kill p

end State

/-- There is no queue, and no program has made a call. -/
def start : State ν π := ⟨fun _ => none, 0, fun _ => ⟨⟨0, [], false⟩, 0⟩, fun _ => .first, [], []⟩

def machine (sys : System) (command : π → Command ν) (prio size : π → ℕ) :
    Machine (State ν π) (Act π) :=
  ⟨start, State.step sys command prio size⟩

/-! ### What is known of a run -/

/-- The entries of one key. -/
def own {κ β : Type} [DecidableEq κ] (k : κ) (entries : List (κ × β)) : List β :=
  entries.filterMap fun entry => if entry.1 = k then some entry.2 else none

namespace State

/-- What has been sent to and received from the queue `k`. -/
def history (s : State ν π) (k : ℕ) : List (PriorityQueue.Op Message) := own k (s.log.map Prod.snd)

/-- What `p` has sent and received. -/
def calls (s : State ν π) (p : π) : List (ℕ × PriorityQueue.Op Message) := own p s.log

/-- What `p` has printed. -/
def lines (s : State ν π) (p : π) : List Line := own p s.output

end State

/-- What a `mqreceive` prints: the message it has taken, or that it has taken none. -/
def Answers (nonblock : Bool) (line : Line) (calls : List (ℕ × PriorityQueue.Op Message)) : Prop :=
  (line.n = -1 ∧ calls = [] ∧ (line.mqd = none ∨ nonblock = true)) ∨
    ∃ k m, line.mqd = some k ∧ calls = [(k, .get m)] ∧
      line.n = m.data.length ∧ line.prio = m.priority

/-- The message of a `mqsend`. -/
def message (len prio : ℤ) : Message :=
  ⟨(prio % 2 ^ 32).toNat, List.replicate (len % 2 ^ 64).toNat 0⟩

/-- What a program has done when it exits. -/
def Done (calls : List (ℕ × PriorityQueue.Op Message)) (lines : List Line) : Command ν → Prop
  | .mqsend _ len prio =>
    lines = [] ∧ (calls = [] ∨ ∃ k, calls = [(k, .put (message len prio))])
  | .mqreceive nonblock _ => ∃ line, lines = [line] ∧ Answers nonblock line calls
  | _ => calls = [] ∧ lines = []

/-- What it has done where it stands. -/
def Did (command : Command ν) (calls : List (ℕ × PriorityQueue.Op Message)) (lines : List Line) :
    Pc → Prop
  | .first => calls = [] ∧ lines = []
  | .send _ len prio => calls = [] ∧ lines = [] ∧ ∃ name l q, command = .mqsend name l q ∧
      len = (l % 2 ^ 64).toNat ∧ prio = (q % 2 ^ 32).toNat
  | .getattr nonblock _ | .receive nonblock _ _ =>
    calls = [] ∧ lines = [] ∧ ∃ name, command = .mqreceive nonblock name
  | .print mqd n prio => lines = [] ∧ ∃ nonblock name, command = .mqreceive nonblock name ∧
      Answers nonblock ⟨mqd, n, prio⟩ calls
  | .exited => Done calls lines command
  | .killed => lines = [] ∧ (calls = [] ∨ ∃ k m, calls = [(k, .get m)])

/-- The queue it has open. -/
def Pc.mqd : Pc → Option ℕ
  | .send mqd _ _ | .getattr _ mqd | .receive _ mqd _ => mqd
  | _ => none

/-- The queues are priority queues, and no process has a descriptor of another one. -/
structure Kept (command : π → Command ν) (s : State ν π) : Prop where
  names : ∀ name k, s.name name = some k → k < s.made
  opened : ∀ p k, (s.pc p).mqd = some k → k < s.made
  buffers : ∀ p nonblock k msgsize, s.pc p = .receive nonblock (some k) msgsize →
    msgsize = (s.queue k).msgsize
  positive : ∀ k < s.made, 0 < (s.queue k).queue.maxmsg
  fresh : ∀ k, s.made ≤ k → s.history k = []
  stores : ∀ k < s.made, ∃ queue,
    (PriorityQueue.machine Message.priority (s.queue k).queue.maxmsg).run [] (s.history k) =
        some queue ∧
      PriorityQueue.Stores Message.priority queue (s.queue k).queue.messages
  did : ∀ p, Did (command p) (s.calls p) (s.lines p) (s.pc p)

/-! ### The queues -/

section Queues

variable {q q' : Queue} {m : Message}

/-- A message that is sent is put in the priority queue. -/
theorem stores_send {notifies : Bool} (sent : q.send m = some (q', notifies)) {queue : List Message}
    (stores : PriorityQueue.Stores Message.priority queue q.messages) :
    q'.maxmsg = q.maxmsg ∧ ∃ queue',
      (PriorityQueue.machine Message.priority q.maxmsg).step queue (.put m) = some queue' ∧
        PriorityQueue.Stores Message.priority queue' q'.messages := by
  simp only [Queue.send, Option.ite_none_right_eq_some, Option.some.injEq, Prod.mk.injEq] at sent
  obtain ⟨room, rfl, _⟩ := sent
  exact ⟨rfl, _, stores.put room⟩

/-- A message that is received is the one the priority queue gives out. -/
theorem stores_receive (received : q.receive = some (m, q')) {queue : List Message}
    (stores : PriorityQueue.Stores Message.priority queue q.messages) :
    q'.maxmsg = q.maxmsg ∧ ∃ queue',
      (PriorityQueue.machine Message.priority q.maxmsg).step queue (.get m) = some queue' ∧
        PriorityQueue.Stores Message.priority queue' q'.messages := by
  unfold Queue.receive at received
  split at received
  · cases received
  · rename_i here
    cases received
    rw [here] at stores
    exact ⟨rfl, _, stores.get⟩

end Queues

/-! ### The entries of a process and of a queue -/

section Own

variable {κ β : Type} [DecidableEq κ] {k l : κ}

theorem own_append_self (entries : List (κ × β)) (x : β) :
    own k (entries ++ [(k, x)]) = own k entries ++ [x] := by
  simp [own]

theorem own_append_ne (ne : l ≠ k) (entries : List (κ × β)) (x : β) :
    own k (entries ++ [(l, x)]) = own k entries := by
  simp [own, ne]

end Own

/-! ### Steps -/

variable {sys : System} {command : π → Command ν} {prio size : π → ℕ} {s s' : State ν π} {p : π}

theorem kept_start (command : π → Command ν) : Kept command (start : State ν π) where
  names := fun _ _ name => by cases name
  opened := fun _ _ mqd => by cases mqd
  buffers := fun _ _ _ _ here => by cases here
  positive := fun _ low => absurd low (Nat.not_lt_zero _)
  fresh := fun _ _ => rfl
  stores := fun _ low => absurd low (Nat.not_lt_zero _)
  did := fun _ => ⟨rfl, rfl⟩

/-- What holds of all places holds when one process has gone on. -/
theorem forall_goTo {P : π → Pc → Prop} (before : ∀ q, P q (s.pc q)) {pc : Pc} (after : P p pc)
    (q : π) : P q ((s.goTo p pc).pc q) := by
  show P q (Function.update s.pc p pc q)
  by_cases same : q = p
  · rw [same, Function.update_self]
    exact after
  · rw [Function.update_of_ne same]
    exact before q

/-- A process goes on, and nothing else changes. -/
theorem Kept.goTo (kept : Kept command s) {pc : Pc} (opened : ∀ k, pc.mqd = some k → k < s.made)
    (buffers : ∀ nonblock k msgsize, pc = .receive nonblock (some k) msgsize →
      msgsize = (s.queue k).msgsize)
    (did : Did (command p) (s.calls p) (s.lines p) pc) : Kept command (s.goTo p pc) :=
  { kept with
    opened := forall_goTo (P := fun _ pc => ∀ k, pc.mqd = some k → k < s.made) kept.opened opened
    buffers := forall_goTo (P := fun _ pc => ∀ nonblock k msgsize,
      pc = .receive nonblock (some k) msgsize → msgsize = (s.queue k).msgsize) kept.buffers buffers
    did := forall_goTo (P := fun q pc => Did (command q) (s.calls q) (s.lines q) pc) kept.did did }

/-- **A message is sent to the queue `k` or received from it**, as the priority queue does. -/
theorem Kept.call (kept : Kept command s) {k : ℕ} (low : k < s.made) {queue : Queue}
    {op : PriorityQueue.Op Message} (maxmsg : queue.maxmsg = (s.queue k).queue.maxmsg)
    (takes : ∀ items, PriorityQueue.Stores Message.priority items (s.queue k).queue.messages →
      ∃ items', (PriorityQueue.machine Message.priority (s.queue k).queue.maxmsg).step items op =
          some items' ∧
        PriorityQueue.Stores Message.priority items' queue.messages)
    {pc : Pc} (closed : pc.mqd = none)
    (did : Did (command p) (s.calls p ++ [(k, op)]) (s.lines p) pc) :
    Kept command
      { s.goTo p pc with queue := s.setQueue k queue, log := s.log ++ [(p, k, op)] } := by
  have same : ∀ j, (s.setQueue k queue j).msgsize = (s.queue j).msgsize ∧
      (s.setQueue k queue j).queue.maxmsg = (s.queue j).queue.maxmsg := by
    intro j
    unfold State.setQueue
    by_cases here : j = k
    · subst here
      rw [Function.update_self]
      exact ⟨rfl, maxmsg⟩
    · rw [Function.update_of_ne here]
      exact ⟨rfl, rfl⟩
  have others : ∀ j, j ≠ k → own j ((s.log ++ [(p, k, op)]).map Prod.snd) = s.history j := by
    intro j ne
    rw [List.map_append]
    exact own_append_ne (Ne.symm ne) _ _
  have here : own k ((s.log ++ [(p, k, op)]).map Prod.snd) = s.history k ++ [op] := by
    rw [List.map_append]
    exact own_append_self _ _
  have shut : ∀ k, pc.mqd = some k → k < s.made := fun _ mqd => by
    rw [closed] at mqd
    cases mqd
  have opened : ∀ q k, ((s.goTo p pc).pc q).mqd = some k → k < s.made :=
    forall_goTo (P := fun _ pc => ∀ k, pc.mqd = some k → k < s.made) kept.opened shut
  refine ⟨kept.names, opened, ?_, ?_, ?_, ?_, ?_⟩
  · refine forall_goTo (P := fun _ pc => ∀ nonblock j msgsize,
      pc = .receive nonblock (some j) msgsize → msgsize = (s.setQueue k queue j).msgsize) ?_ ?_
    · intro q nonblock j msgsize here
      rw [(same j).1]
      exact kept.buffers q nonblock j msgsize here
    · intro nonblock j msgsize here
      rw [here] at closed
      cases closed
  · intro j made
    show 0 < (s.setQueue k queue j).queue.maxmsg
    rw [(same j).2]
    exact kept.positive j made
  · intro j high
    have high : s.made ≤ j := high
    exact (others j (by omega)).trans (kept.fresh j high)
  · intro j made
    show ∃ items, (PriorityQueue.machine Message.priority
        (s.setQueue k queue j).queue.maxmsg).run []
        (own j ((s.log ++ [(p, k, op)]).map Prod.snd)) = some items ∧
      PriorityQueue.Stores _ items (s.setQueue k queue j).queue.messages
    rw [(same j).2]
    obtain ⟨items, ran, stores⟩ := kept.stores j made
    by_cases eq : j = k
    · subst eq
      obtain ⟨items', step, stores'⟩ := takes items stores
      refine ⟨items', ?_, ?_⟩
      · rw [here, Machine.run_append, ran]
        show ((PriorityQueue.machine _ _).step items op).bind _ = _
        rw [step]
        rfl
      · unfold State.setQueue
        rw [Function.update_self]
        exact stores'
    · rw [others j eq]
      unfold State.setQueue
      rw [Function.update_of_ne eq]
      exact ⟨items, ran, stores⟩
  · intro q
    show Did (command q) (own q (s.log ++ [(p, k, op)])) (s.lines q) ((s.goTo p pc).pc q)
    by_cases same : q = p
    · subst same
      show Did _ _ _ (Function.update s.pc q pc q)
      rw [own_append_self, Function.update_self]
      exact did
    · show Did _ _ _ (Function.update s.pc p pc q)
      rw [own_append_ne (Ne.symm same), Function.update_of_ne same]
      exact kept.did q

/-- The attributes of a new queue leave room for a message. -/
theorem System.attr_positive {attr : Option (ℤ × ℤ)} {maxmsg msgsize : ℕ}
    (valid : sys.attr attr = some (maxmsg, msgsize)) : 0 < maxmsg := by
  unfold System.attr at valid
  split at valid
  · cases valid
    exact sys.positive
  · simp only [Option.ite_none_right_eq_some, Option.some.injEq, Prod.mk.injEq] at valid
    obtain ⟨⟨⟨low, _⟩, _⟩, rfl, _⟩ := valid
    omega

/-- **A queue is made**: nobody has it open, and nothing has been put in it. -/
theorem Kept.create (kept : Kept command s) {attr : Option (ℤ × ℤ)} {name : ν}
    (did : Did (command p) (s.calls p) (s.lines p) .exited) :
    Kept command (s.create sys p attr name) := by
  have exits : Kept command (s.goTo p .exited) :=
    kept.goTo (fun _ mqd => by cases mqd) (fun _ _ _ here => by cases here) did
  unfold State.create
  split
  · rename_i maxmsg msgsize free valid
    have old : ∀ k, k < s.made →
        Function.update s.queue s.made ⟨⟨maxmsg, [], false⟩, msgsize⟩ k = s.queue k := fun k low =>
      Function.update_of_ne low.ne _ _
    refine ⟨fun other k leads => ?_, fun q k mqd => ?_, fun q nonblock k msgsize here => ?_,
      fun k low => ?_, fun k high => ?_, fun k low => ?_, exits.did⟩
    · have leads : Function.update s.name name (some s.made) other = some k := leads
      by_cases same : other = name
      · rw [same, Function.update_self] at leads
        cases leads
        exact Nat.lt_succ_self _
      · rw [Function.update_of_ne same] at leads
        exact Nat.lt_succ_of_lt (kept.names other k leads)
    · exact Nat.lt_succ_of_lt (exits.opened q k mqd)
    · show msgsize = (Function.update s.queue s.made _ k).msgsize
      rw [old k (exits.opened q k (by rw [show _ = Pc.receive _ _ _ from here]; rfl))]
      exact exits.buffers q nonblock k msgsize here
    · show 0 < (Function.update s.queue s.made _ k).queue.maxmsg
      rcases Nat.lt_succ_iff_lt_or_eq.mp low with low | rfl
      · rw [old k low]
        exact kept.positive k low
      · rw [Function.update_self]
        exact System.attr_positive valid
    · exact kept.fresh k (Nat.le_of_succ_le high)
    · show ∃ items, (PriorityQueue.machine Message.priority
          (Function.update s.queue s.made _ k).queue.maxmsg).run [] (s.history k) = some items ∧
        PriorityQueue.Stores _ items (Function.update s.queue s.made _ k).queue.messages
      rcases Nat.lt_succ_iff_lt_or_eq.mp low with low | rfl
      · rw [old k low]
        exact kept.stores k low
      · rw [Function.update_self, kept.fresh s.made (Nat.le_refl _)]
        exact ⟨[], rfl, .nil⟩
  · exact exits

/-- A name is unlinked; the queue stays with those who have it open. -/
theorem Kept.unlink (kept : Kept command s) (name : ν) :
    Kept command { s with name := Function.update s.name name none } :=
  { kept with
    names := fun other k leads => by
      have leads : Function.update s.name name none other = some k := leads
      by_cases same : other = name
      · rw [same, Function.update_self] at leads
        cases leads
      · rw [Function.update_of_ne same] at leads
        exact kept.names other k leads }

/-- The first call of a program. -/
theorem Kept.first (kept : Kept command s) (here : s.pc p = .first) :
    Kept command (s.first sys p (command p)) := by
  have did := kept.did p
  rw [here] at did
  obtain ⟨calls, lines⟩ := did
  have leads : ∀ name k, s.name name = some k → k < s.made := kept.names
  cases which : command p with
  | mqcreate excl maxmsg msgsize name =>
    exact kept.create (by rw [which]; exact ⟨calls, lines⟩)
  | mqcreate1 excl name => exact kept.create (by rw [which]; exact ⟨calls, lines⟩)
  | mqsend name len prio =>
    refine kept.goTo (fun k => leads name k) (fun _ _ _ here => by cases here) ?_
    rw [which]
    exact ⟨calls, lines, name, len, prio, rfl, rfl, rfl⟩
  | mqreceive nonblock name =>
    refine kept.goTo (fun k => leads name k) (fun _ _ _ here => by cases here) ?_
    rw [which]
    exact ⟨calls, lines, name, rfl⟩
  | mqunlink name =>
    have exits : Kept command (s.goTo p .exited) :=
      kept.goTo (fun _ mqd => by cases mqd) (fun _ _ _ here => by cases here)
        (by rw [which]; exact ⟨calls, lines⟩)
    exact exits.unlink name

/-- `mq_send`. -/
theorem Kept.send (kept : Kept command s) {mqd : Option ℕ} {len q : ℕ}
    (here : s.pc p = .send mqd len q) (step : s.send sys p mqd len q = some s') :
    Kept command s' := by
  have did := kept.did p
  rw [here] at did
  obtain ⟨calls, lines, name, l, q, which, rfl, rfl⟩ := did
  have exits : Kept command (s.goTo p .exited) := by
    refine kept.goTo (fun _ mqd => by cases mqd) (fun _ _ _ here => by cases here) ?_
    rw [which]
    exact ⟨lines, .inl calls⟩
  cases mqd with
  | none =>
    cases step
    exact exits
  | some k =>
    have low : k < s.made := kept.opened p k (by rw [here]; rfl)
    simp only [State.send] at step
    split at step
    · obtain ⟨⟨queue, notifies⟩, sent, rfl⟩ := Option.map_eq_some_iff.mp step
      obtain ⟨_, _, stores⟩ := kept.stores k low
      refine kept.call low (stores_send sent stores).1 (fun _ stores => (stores_send sent stores).2)
        rfl ?_
      rw [calls, which]
      exact ⟨lines, .inr ⟨k, rfl⟩⟩
    · cases step
      exact exits

/-- `mq_receive`; the buffer is long enough. -/
theorem Kept.receive (kept : Kept command s) {nonblock : Bool} {mqd : Option ℕ} {msgsize q : ℕ}
    (here : s.pc p = .receive nonblock mqd msgsize)
    (step : s.receive p nonblock mqd msgsize q = some s') : Kept command s' := by
  have did := kept.did p
  rw [here] at did
  obtain ⟨calls, lines, name, which⟩ := did
  have misses : (mqd = none ∨ nonblock = true) →
      Kept command (s.goTo p (.print mqd (-1) q)) := fun why =>
    kept.goTo (fun _ mqd => by cases mqd) (fun _ _ _ here => by cases here)
      ⟨lines, nonblock, name, which, .inl ⟨rfl, calls, why⟩⟩
  cases mqd with
  | none =>
    cases step
    exact misses (.inl rfl)
  | some k =>
    have low : k < s.made := kept.opened p k (by rw [here]; rfl)
    have long := kept.buffers p nonblock k msgsize here
    simp only [State.receive] at step
    rw [if_neg (by omega)] at step
    split at step
    · rename_i m queue received
      cases step
      obtain ⟨_, _, stores⟩ := kept.stores k low
      refine kept.call low (stores_receive received stores).1
        (fun _ stores => (stores_receive received stores).2) rfl ?_
      rw [calls]
      exact ⟨lines, nonblock, name, which, .inr ⟨k, m, rfl, rfl, rfl, rfl⟩⟩
    · split at step
      · cases step
        exact misses (.inr ‹_›)
      · cases step

/-- The line is printed. -/
theorem Kept.print (kept : Kept command s) {mqd : Option ℕ} {n : ℤ} {q : ℕ}
    (here : s.pc p = .print mqd n q) :
    Kept command { s.goTo p .exited with output := s.output ++ [(p, ⟨mqd, n, q⟩)] } := by
  have did := kept.did p
  rw [here] at did
  obtain ⟨lines, nonblock, name, which, answers⟩ := did
  refine ⟨kept.names, ?_, ?_, kept.positive, kept.fresh, kept.stores, fun r => ?_⟩
  · exact forall_goTo (P := fun _ pc => ∀ k, pc.mqd = some k → k < s.made) kept.opened
      fun _ mqd => by cases mqd
  · exact forall_goTo (P := fun _ pc => ∀ nonblock k msgsize,
      pc = .receive nonblock (some k) msgsize → msgsize = (s.queue k).msgsize) kept.buffers
      fun _ _ _ here => by cases here
  · show Did (command r) (s.calls r) (own r (s.output ++ [(p, ⟨mqd, n, q⟩)]))
      (Function.update s.pc p .exited r)
    by_cases same : r = p
    · subst same
      rw [own_append_self, Function.update_self, show own r s.output = [] from lines, which]
      exact ⟨_, rfl, answers⟩
    · rw [own_append_ne (Ne.symm same), Function.update_of_ne same]
      exact kept.did r

/-- A process is killed; what it has taken, it does not print. -/
theorem Kept.kill (kept : Kept command s) (step : s.kill p = some s') : Kept command s' := by
  have did := kept.did p
  have dies : (s.lines p = [] ∧ (s.calls p = [] ∨ ∃ k m, s.calls p = [(k, .get m)])) →
      Kept command (s.goTo p .killed) := fun did =>
    kept.goTo (fun _ mqd => by cases mqd) (fun _ _ _ here => by cases here) did
  unfold State.kill at step
  cases here : s.pc p <;> rw [here] at step did <;> cases step
  case first => exact dies ⟨did.2, .inl did.1⟩
  case send | getattr | receive => exact dies ⟨did.2.1, .inl did.1⟩
  case print mqd n q =>
    obtain ⟨lines, _, _, _, answers⟩ := did
    refine dies ⟨lines, ?_⟩
    rcases answers with ⟨_, calls, _⟩ | ⟨k, m, _, calls, _⟩
    · exact .inl calls
    · exact .inr ⟨k, m, calls⟩

theorem Kept.step (kept : Kept command s) {action : Act π}
    (step : s.step sys command prio size action = some s') : Kept command s' := by
  cases action with
  | kill p => exact kept.kill step
  | run p =>
    have did := kept.did p
    simp only [State.step, State.run] at step
    split at step <;> rename_i here
    · cases step
      exact kept.first here
    · exact kept.send here step
    · cases step
      rw [here] at did
      refine kept.goTo (fun k mqd => kept.opened p k (by rw [here]; exact mqd)) ?_ did
      rintro _ k _ same
      cases same
      rfl
    · exact kept.receive here step
    · cases step
      exact kept.print here
    · cases step
    · cases step

theorem reachable_kept
    (reachable : (machine (ν := ν) sys command prio size).Reachable Anything s) : Kept command s :=
  reachable.induct (kept_start command) fun _ _ _ _ kept _ step => kept.step step

/-! ### Runs -/

/-- **Who cannot move** has ended, or waits for room in a queue, or for a message. -/
theorem run_eq_none (stuck : s.run sys command prio size p = none) :
    s.pc p = .exited ∨ s.pc p = .killed ∨
      (∃ k len q, s.pc p = .send (some k) len q ∧
        (s.queue k).queue.maxmsg ≤ (s.queue k).queue.messages.length) ∨
      ∃ k msgsize, s.pc p = .receive false (some k) msgsize ∧ (s.queue k).queue.messages = [] := by
  unfold State.run at stuck
  split at stuck
  · cases stuck
  · rename_i mqd len q here
    cases mqd with
    | none => cases stuck
    | some k =>
      refine .inr (.inr (.inl ⟨k, len, q, here, ?_⟩))
      simp only [State.send] at stuck
      split at stuck
      · rw [Option.map_eq_none_iff, Queue.send] at stuck
        split at stuck
        · cases stuck
        · exact Nat.not_lt.mp ‹_›
      · cases stuck
  · cases stuck
  · rename_i nonblock mqd msgsize here
    cases mqd with
    | none => cases stuck
    | some k =>
      simp only [State.receive] at stuck
      split at stuck
      · cases stuck
      · split at stuck
        · cases stuck
        · rename_i empty
          cases nonblock with
          | true => cases stuck
          | false => exact .inr (.inr (.inr ⟨k, msgsize, here, Queue.receive_none empty⟩))
  · cases stuck
  · exact .inl ‹_›
  · exact .inr (.inl ‹_›)

/-- **What the programs do to the queues.** The messages of each queue are those of a priority
queue that has been through the same calls; each program has done what it has to where it stands;
and when none can move, those that have not ended all wait on queues where nobody waits for the
opposite. -/
theorem tools_deliver
    (reachable : (machine (ν := ν) sys command prio size).Reachable Anything s) :
    (∀ k < s.made, ∃ items,
      (PriorityQueue.machine Message.priority (s.queue k).queue.maxmsg).run [] (s.history k) =
          some items ∧
        (s.queue k).queue.messages.Perm items) ∧
    (∀ p, Did (command p) (s.calls p) (s.lines p) (s.pc p)) ∧
    ((∀ p, s.run sys command prio size p = none) → ∀ p,
      s.pc p = .exited ∨ s.pc p = .killed ∨
      (∃ k len q, s.pc p = .send (some k) len q ∧
        ∀ r nonblock msgsize, s.pc r ≠ .receive nonblock (some k) msgsize) ∨
      ∃ k msgsize, s.pc p = .receive false (some k) msgsize ∧
        ∀ r len q, s.pc r ≠ .send (some k) len q) := by
  have kept := reachable_kept reachable
  refine ⟨fun k low => ?_, kept.did, fun stuck p => ?_⟩
  · obtain ⟨items, ran, stores⟩ := kept.stores k low
    exact ⟨items, ran, stores.perm⟩
  · -- a queue is not full and empty
    have apart : ∀ q r k len prio nonblock msgsize, s.pc q = .send (some k) len prio →
        s.pc r = .receive nonblock (some k) msgsize → False := by
      intro q r k len prio nonblock msgsize sends receives
      have room := kept.positive k (kept.opened q k (by rw [sends]; rfl))
      have full : (s.queue k).queue.maxmsg ≤ (s.queue k).queue.messages.length := by
        rcases run_eq_none (stuck q) with here | here | ⟨_, _, _, here, full⟩ | ⟨_, _, here, _⟩ <;>
          rw [sends] at here <;> cases here
        exact full
      have empty : (s.queue k).queue.messages = [] := by
        rcases run_eq_none (stuck r) with here | here | ⟨_, _, _, here, _⟩ | ⟨_, _, here, empty⟩ <;>
          rw [receives] at here <;> cases here
        exact empty
      rw [empty, List.length_nil] at full
      omega
    rcases run_eq_none (stuck p) with here | here | ⟨k, len, q, here, _⟩ | ⟨k, msgsize, here, _⟩
    · exact .inl here
    · exact .inr (.inl here)
    · exact .inr (.inr (.inl ⟨k, len, q, here, fun r nonblock msgsize receives =>
        apart p r k len q nonblock msgsize here receives⟩))
    · exact .inr (.inr (.inr ⟨k, msgsize, here, fun r len q sends =>
        apart r p k len q false msgsize sends here⟩))

/-- Two messages are sent, and the one of the higher priority comes out first. -/
theorem tools_deliver_higherFirst :
    let sys : System := ⟨10, 8192, 10, 8192, 32768, by decide⟩
    let command : ℕ → Command Bool := fun p =>
      if p = 0 then .mqcreate1 true true
      else if p = 1 then .mqsend true 2 1
      else if p = 2 then .mqsend true 3 7
      else .mqreceive false true
    ∃ s, (machine sys command (fun _ => 0) fun _ => 0).Reachable Anything s ∧
      s.lines 3 = [⟨some 0, 3, 7⟩] ∧
      Did (command 3) (s.calls 3) (s.lines 3) (s.pc 3) := by
  intro sys command
  obtain ⟨s, ran⟩ : ∃ s, (machine sys command (fun _ => 0) fun _ => 0).run start
      [.run 0, .run 1, .run 2, .run 1, .run 2, .run 3, .run 3, .run 3, .run 3] = some s := ⟨_, rfl⟩
  have reachable := Machine.reaches_of_run ran (Machine.admitted_anything _ _)
  refine ⟨s, reachable, ?_, (tools_deliver reachable).2.1 3⟩
  cases ran
  rfl

end Unpvol2.Mq.Tools
