/-
**`server1` and `client1`: a counter in a segment with a name.**

`server1` removes the name of the segment and makes a new segment under it, then does the same with
the semaphore. `client1` opens the one and then the other and draws `nloop` numbers. All processes
are given the same two names, any number of servers and clients may run, and a name leads to what
the last server has made under it; who has opened the old segment keeps it. No result is looked at:
a client that finds no semaphore is killed in `sem_wait`, and one without a segment, or with one
that has no size yet, is killed where it reads the counter, behind its `sem_wait`.

A segment and a semaphore are called by the server that made them. The third part of a line of the
output is not printed: it is the segment the number is from.

* `numbers` — **the clients of a segment draw `0`, `1`, `2` and so on**, until an `int` wraps, if
  all of them that open a semaphore find the same one (`Paired`). A client without a segment may
  find any, and takes it along when it is killed.
-/

import Mathlib.Data.Sum.Basic
import Unpvol2.Lib.Tickets

set_option linter.unusedSectionVars false

namespace Unpvol2.Shm.Client1

open C Interleaving

/-! ### The processes -/

/-- The statement a server stands at. -/
inductive ServerPc
  /-- `shm_unlink(argv[1])` -/
  | unlinkShm
  /-- `shm_open(argv[1], O_RDWR | O_CREAT | O_EXCL, FILE_MODE)` -/
  | openShm
  /-- `ftruncate(fd, sizeof(struct shmstruct))`, and whether there is an `fd` -/
  | truncate (created : Bool)
  /-- `sem_unlink(argv[2])` -/
  | unlinkSem
  /-- `sem_open(argv[2], O_CREAT | O_EXCL, FILE_MODE, 1)` -/
  | openSem
  | exited
deriving DecidableEq

/-- The statement a client stands at. -/
inductive ClientPc
  /-- `shm_open((argv[1]), O_RDWR, FILE_MODE)` and `mmap` -/
  | openShm
  /-- `sem_open((argv[2]), 0)` -/
  | openSem
  /-- `i < nloop` -/
  | test
  /-- `sem_wait(mutex)` -/
  | wait
  /-- the load of `ptr->count++` -/
  | load
  /-- its store, `value` having been read -/
  | store (value : ℤ)
  /-- `printf` -/
  | print (value : ℤ)
  /-- `sem_post(mutex)` -/
  | post
  | exited
  /-- killed by a signal, with the semaphore or without it -/
  | killed (inside : Bool)
deriving DecidableEq

/-- A client: its `ptr`, its `mutex` and its `i`. -/
structure Client (ς : Type) where
  pc : ClientPc
  ptr : Option ς
  mutex : Option ς
  i : ℤ
deriving DecidableEq

structure State (ς π : Type) where
  /-- where the names lead -/
  shmname : Option ς
  semname : Option ς
  /-- `count` of a segment that has its size -/
  count : ς → Option ℤ
  /-- the value of a semaphore that has been made -/
  sem : ς → Option ℕ
  server : ς → ServerPc
  client : π → Client ς
  stdout : List (π × ς × ℤ)

inductive Act (ς π : Type)
  | server (o : ς)
  | client (p : π)

variable {ς π : Type} [DecidableEq ς] [DecidableEq π]

namespace State

def serverTo (s : State ς π) (o : ς) (pc : ServerPc) : State ς π :=
  { s with server := Function.update s.server o pc }

def clientTo (s : State ς π) (p : π) (pc : ClientPc) : State ς π :=
  { s with client := Function.update s.client p { s.client p with pc := pc } }

/-- The next statement of `server1`. -/
def serverStep (s : State ς π) (o : ς) : Option (State ς π) :=
  match s.server o with
  | .unlinkShm => some { s.serverTo o .openShm with shmname := none }
  | .openShm =>
    if s.shmname = none then some { s.serverTo o (.truncate true) with shmname := some o }
    else some (s.serverTo o (.truncate false))
  | .truncate created =>
    some { s.serverTo o .unlinkSem with
      count := if created then Function.update s.count o (some 0) else s.count }
  | .unlinkSem => some { s.serverTo o .openSem with semname := none }
  | .openSem =>
    if s.semname = none then
      some { s.serverTo o .exited with
        semname := some o
        sem := Function.update s.sem o (some 1) }
    else some (s.serverTo o .exited)
  | .exited => none

/-- The next statement of `client1`. -/
def clientStep (nloop : π → ℤ) (s : State ς π) (p : π) : Option (State ς π) :=
  let x := s.client p
  match x.pc with
  | .openShm =>
    some { s with client := Function.update s.client p { x with pc := .openSem, ptr := s.shmname } }
  | .openSem =>
    some { s with client := Function.update s.client p { x with pc := .test, mutex := s.semname } }
  | .test => some (s.clientTo p (if x.i < nloop p then .wait else .exited))
  | .wait =>
    match x.mutex with
    | none => some (s.clientTo p (.killed false))
    | some l =>
      match s.sem l with
      | some (n + 1) => some { s.clientTo p .load with sem := Function.update s.sem l (some n) }
      | _ => none
  | .load =>
    match x.ptr.bind s.count with
    | none => some (s.clientTo p (.killed true))
    | some value => some (s.clientTo p (.store value))
  | .store value =>
    x.ptr.map fun o =>
      { s.clientTo p (.print value) with
        count := Function.update s.count o (some (int32 (value + 1))) }
  | .print value =>
    x.ptr.map fun o => { s.clientTo p .post with stdout := s.stdout ++ [(p, o, value)] }
  | .post =>
    x.mutex.bind fun l =>
      (s.sem l).map fun n =>
        { s with
          sem := Function.update s.sem l (some (n + 1))
          client := Function.update s.client p { x with pc := .test, i := x.i + 1 } }
  | .exited | .killed _ => none

def step (nloop : π → ℤ) (s : State ς π) : Act ς π → Option (State ς π)
  | .server o => s.serverStep o
  | .client p => s.clientStep nloop p

end State

/-- No name leads anywhere, and no process has begun. -/
def start : State ς π :=
  ⟨none, none, fun _ => none, fun _ => none, fun _ => .unlinkShm,
    fun _ => ⟨.openShm, none, none, 0⟩, []⟩

def machine (nloop : π → ℤ) : Machine (State ς π) (Act ς π) := ⟨start, State.step nloop⟩

/-- A client that has the segment `o` opens the semaphore `lock o`, or none; one without a segment
may open any. -/
def Paired (lock : ς → ς) (s : State ς π) : Act ς π → Prop
  | .server _ => True
  | .client p => (s.client p).pc = .openSem →
      ∀ o ∈ (s.client p).ptr, s.semname = none ∨ s.semname = some (lock o)

instance (lock : ς → ς) (s : State ς π) : DecidablePred (Paired lock s)
  | .server _ => isTrue trivial
  | .client _ => inferInstanceAs (Decidable (_ → _))

/-! ### The list of the steps -/

/-- The steps, case by case. -/
inductive Step (nloop : π → ℤ) (s : State ς π) : Act ς π → State ς π → Prop
  | unlinkShm (o : ς) (here : s.server o = .unlinkShm) :
      Step nloop s (.server o) { s.serverTo o .openShm with shmname := none }
  | createShm (o : ς) (here : s.server o = .openShm) (unused : s.shmname = none) :
      Step nloop s (.server o) { s.serverTo o (.truncate true) with shmname := some o }
  | shmExists (o : ς) (here : s.server o = .openShm) :
      Step nloop s (.server o) (s.serverTo o (.truncate false))
  | truncate (o : ς) (here : s.server o = .truncate true) :
      Step nloop s (.server o)
        { s.serverTo o .unlinkSem with count := Function.update s.count o (some 0) }
  | notTruncated (o : ς) (here : s.server o = .truncate false) :
      Step nloop s (.server o) (s.serverTo o .unlinkSem)
  | unlinkSem (o : ς) (here : s.server o = .unlinkSem) :
      Step nloop s (.server o) { s.serverTo o .openSem with semname := none }
  | createSem (o : ς) (here : s.server o = .openSem) (unused : s.semname = none) :
      Step nloop s (.server o)
        { s.serverTo o .exited with
          semname := some o
          sem := Function.update s.sem o (some 1) }
  | semExists (o : ς) (here : s.server o = .openSem) :
      Step nloop s (.server o) (s.serverTo o .exited)
  | openShm (p : π) (here : (s.client p).pc = .openShm) :
      Step nloop s (.client p)
        { s with client :=
            Function.update s.client p { s.client p with pc := .openSem, ptr := s.shmname } }
  | openSem (p : π) (here : (s.client p).pc = .openSem) :
      Step nloop s (.client p)
        { s with client :=
            Function.update s.client p { s.client p with pc := .test, mutex := s.semname } }
  | more (p : π) (here : (s.client p).pc = .test) (more : (s.client p).i < nloop p) :
      Step nloop s (.client p) (s.clientTo p .wait)
  | done (p : π) (here : (s.client p).pc = .test) (most : nloop p ≤ (s.client p).i) :
      Step nloop s (.client p) (s.clientTo p .exited)
  | noSem (p : π) (here : (s.client p).pc = .wait) (none : (s.client p).mutex = none) :
      Step nloop s (.client p) (s.clientTo p (.killed false))
  | wait (p : π) (l : ς) (n : ℕ) (here : (s.client p).pc = .wait)
      (mutex : (s.client p).mutex = some l) (positive : s.sem l = some (n + 1)) :
      Step nloop s (.client p)
        { s.clientTo p .load with sem := Function.update s.sem l (some n) }
  | fault (p : π) (here : (s.client p).pc = .load) (none : (s.client p).ptr.bind s.count = none) :
      Step nloop s (.client p) (s.clientTo p (.killed true))
  | load (p : π) (o : ς) (value : ℤ) (here : (s.client p).pc = .load)
      (ptr : (s.client p).ptr = some o) (count : s.count o = some value) :
      Step nloop s (.client p) (s.clientTo p (.store value))
  | store (p : π) (o : ς) (value : ℤ) (here : (s.client p).pc = .store value)
      (ptr : (s.client p).ptr = some o) :
      Step nloop s (.client p)
        { s.clientTo p (.print value) with
          count := Function.update s.count o (some (int32 (value + 1))) }
  | print (p : π) (o : ς) (value : ℤ) (here : (s.client p).pc = .print value)
      (ptr : (s.client p).ptr = some o) :
      Step nloop s (.client p)
        { s.clientTo p .post with stdout := s.stdout ++ [(p, o, value)] }
  | post (p : π) (l : ς) (n : ℕ) (here : (s.client p).pc = .post)
      (mutex : (s.client p).mutex = some l) (value : s.sem l = some n) :
      Step nloop s (.client p)
        { s with
          sem := Function.update s.sem l (some (n + 1))
          client := Function.update s.client p
            { s.client p with pc := .test, i := (s.client p).i + 1 } }

theorem step_cases {nloop : π → ℤ} {s s' : State ς π} {action : Act ς π}
    (step : s.step nloop action = some s') : Step nloop s action s' := by
  cases action with
  | server o =>
    simp only [State.step, State.serverStep] at step
    split at step <;> rename_i here
    · cases step
      exact .unlinkShm o here
    · split at step
      · cases step
        exact .createShm o here ‹_›
      · cases step
        exact .shmExists o here
    · rename_i created
      cases step
      cases created with
      | true => exact .truncate o here
      | false => exact .notTruncated o here
    · cases step
      exact .unlinkSem o here
    · split at step
      · cases step
        exact .createSem o here ‹_›
      · cases step
        exact .semExists o here
    · cases step
  | client p =>
    simp only [State.step, State.clientStep] at step
    split at step <;> rename_i here
    · cases step
      exact .openShm p here
    · cases step
      exact .openSem p here
    · cases step
      split
      · exact .more p here ‹_›
      · rename_i most
        exact .done p here (Int.not_lt.mp most)
    · split at step
      · cases step
        exact .noSem p here ‹_›
      · split at step
        · cases step
          exact .wait p _ _ here ‹_› ‹_›
        · cases step
    · split at step
      · cases step
        exact .fault p here ‹_›
      · rename_i found
        cases step
        obtain ⟨o, ptr, count⟩ := Option.bind_eq_some_iff.mp found
        exact .load p o _ here ptr count
    · obtain ⟨o, ptr, rfl⟩ := Option.map_eq_some_iff.mp step
      exact .store p o _ here ptr
    · obtain ⟨o, ptr, rfl⟩ := Option.map_eq_some_iff.mp step
      exact .print p o _ here ptr
    · obtain ⟨l, mutex, step⟩ := Option.bind_eq_some_iff.mp step
      obtain ⟨n, value, rfl⟩ := Option.map_eq_some_iff.mp step
      exact .post p l n here mutex value
    · cases step
    · cases step

/-! ### What the clients have opened -/

/-- A client draws numbers from its counter. One that has been killed with the semaphore stays
where it was. -/
def ClientPc.draws : ClientPc → Tickets.Pc
  | .openShm | .openSem | .test | .wait | .exited | .killed false => .wait
  | .load | .killed true => .load
  | .store value => .store value
  | .print value => .print value
  | .post => .post

/-- The server has not given its segment a size. -/
def ServerPc.beforeCount : ServerPc → Bool
  | .unlinkShm | .openShm | .truncate _ => true
  | .unlinkSem | .openSem | .exited => false

structure Opened (lock : ς → ς) (s : State ς π) : Prop where
  count : ∀ o, (s.server o).beforeCount = true → s.count o = none
  sem : ∀ o, s.server o ≠ .exited → s.sem o = none
  semname : ∀ l, s.semname = some l → s.sem l ≠ none
  mutex : ∀ p l, (s.client p).mutex = some l →
    s.sem l ≠ none ∧ ∀ o, (s.client p).ptr = some o → lock o = l
  shut : ∀ p, (s.client p).pc = .openShm ∨ (s.client p).pc = .openSem →
    (s.client p).mutex = none
  inside : ∀ p, (s.client p).pc.draws.inside = true → (s.client p).mutex ≠ none
  loaded : ∀ p value, (s.client p).pc = .store value →
    ∀ o, (s.client p).ptr = some o → s.count o ≠ none

theorem opened_start (lock : ς → ς) : Opened lock (start : State ς π) where
  count := fun _ _ => rfl
  sem := fun _ _ => rfl
  semname := fun _ named => by cases named
  mutex := fun _ _ mutex => by cases mutex
  shut := fun _ _ => rfl
  inside := fun _ inside => by cases inside
  loaded := fun _ _ here => by cases here

section Steps

variable {lock : ς → ς} {nloop : π → ℤ} {s s' : State ς π} {o : ς} {p : π} {x : Client ς}
  {pc : ServerPc}

/-- A server's statement. -/
theorem Opened.serverMoved (opened : Opened lock s)
    (server : s'.server = Function.update s.server o pc) (client : s'.client = s.client)
    (count : s'.count = s.count ∨ pc.beforeCount = false ∧ s'.count o ≠ none ∧
      ∀ u, u ≠ o → s'.count u = s.count u)
    (same : pc.beforeCount = true → (s.server o).beforeCount = true)
    (sem : s'.sem = s.sem ∨ pc = .exited ∧ s'.sem o ≠ none ∧ ∀ u, u ≠ o → s'.sem u = s.sem u)
    (running : pc ≠ .exited → s.server o ≠ .exited)
    (semname : ∀ l, s'.semname = some l → s.semname = some l ∨ s'.sem l ≠ none) :
    Opened lock s' := by
  have kept : ∀ l, s.sem l ≠ none → s'.sem l ≠ none := by
    intro l made
    rcases sem with same | ⟨_, own, others⟩
    · rw [same]
      exact made
    · by_cases mine : l = o
      · rw [mine]
        exact own
      · rw [others l mine]
        exact made
  refine ⟨fun u before => ?_, fun u before => ?_, fun l named => ?_, ?_, ?_, ?_, ?_⟩
  · rw [server] at before
    by_cases own : u = o
    · rw [own, Function.update_self] at before
      rcases count with unchanged | ⟨late, _, _⟩
      · rw [unchanged, own]
        exact opened.count o (same before)
      · rw [late] at before
        cases before
    · rw [Function.update_of_ne own] at before
      rcases count with unchanged | ⟨_, _, others⟩
      · rw [unchanged]
        exact opened.count u before
      · rw [others u own]
        exact opened.count u before
  · rw [server] at before
    by_cases own : u = o
    · rw [own, Function.update_self] at before
      rcases sem with unchanged | ⟨late, _⟩
      · rw [unchanged, own]
        exact opened.sem o (running before)
      · exact absurd late before
    · rw [Function.update_of_ne own] at before
      rcases sem with unchanged | ⟨_, _, others⟩
      · rw [unchanged]
        exact opened.sem u before
      · rw [others u own]
        exact opened.sem u before
  · exact (semname l named).elim (fun before => kept l (opened.semname l before)) id
  · intro p l mutex
    rw [client] at mutex ⊢
    obtain ⟨made, paired⟩ := opened.mutex p l mutex
    exact ⟨kept l made, paired⟩
  · rw [client]
    exact opened.shut
  · rw [client]
    exact opened.inside
  · intro p value here u ptr
    rw [client] at here ptr
    have sized := opened.loaded p value here u ptr
    rcases count with unchanged | ⟨_, own, others⟩
    · rw [unchanged]
      exact sized
    · by_cases mine : u = o
      · rw [mine]
        exact own
      · rw [others u mine]
        exact sized

/-- A client's statement. -/
theorem Opened.clientMoved (opened : Opened lock s)
    (server : s'.server = s.server) (client : s'.client = Function.update s.client p x)
    (count : ∀ u, s'.count u = none ↔ s.count u = none)
    (sem : ∀ u, s'.sem u = none ↔ s.sem u = none) (semname : s'.semname = s.semname)
    (mutex : ∀ l, x.mutex = some l → s.sem l ≠ none ∧ ∀ o, x.ptr = some o → lock o = l)
    (shut : x.pc = .openShm ∨ x.pc = .openSem → x.mutex = none)
    (inside : x.pc.draws.inside = true → x.mutex ≠ none)
    (loaded : ∀ value, x.pc = .store value → ∀ o, x.ptr = some o → s.count o ≠ none) :
    Opened lock s' := by
  have made : ∀ l, s.sem l ≠ none → s'.sem l ≠ none := fun l => (not_congr (sem l)).mpr
  refine ⟨fun u before => ?_, fun u before => ?_, fun l named => ?_, fun q l held => ?_,
    fun q => ?_, fun q => ?_, fun q value here u ptr => ?_⟩
  · rw [server] at before
    exact (count u).mpr (opened.count u before)
  · rw [server] at before
    exact (sem u).mpr (opened.sem u before)
  · rw [semname] at named
    exact made l (opened.semname l named)
  · rw [client] at held ⊢
    by_cases own : q = p
    · rw [own, Function.update_self] at held ⊢
      exact ⟨made l (mutex l held).1, (mutex l held).2⟩
    · rw [Function.update_of_ne own] at held ⊢
      exact ⟨made l (opened.mutex q l held).1, (opened.mutex q l held).2⟩
  · rw [client]
    by_cases own : q = p
    · rw [own, Function.update_self]
      exact shut
    · rw [Function.update_of_ne own]
      exact opened.shut q
  · rw [client]
    by_cases own : q = p
    · rw [own, Function.update_self]
      exact inside
    · rw [Function.update_of_ne own]
      exact opened.inside q
  · rw [client] at here ptr
    refine (not_congr (count u)).mpr ?_
    by_cases own : q = p
    · rw [own, Function.update_self] at here ptr
      exact loaded value here u ptr
    · rw [Function.update_of_ne own] at here ptr
      exact opened.loaded q value here u ptr

/-- A client goes on within its loop. -/
theorem Opened.goes (opened : Opened lock s) {pc : ClientPc} {i : ℤ}
    (server : s'.server = s.server)
    (client : s'.client = Function.update s.client p { s.client p with pc := pc, i := i })
    (count : ∀ u, s'.count u = none ↔ s.count u = none)
    (sem : ∀ u, s'.sem u = none ↔ s.sem u = none) (semname : s'.semname = s.semname)
    (loop : pc ≠ .openShm ∧ pc ≠ .openSem)
    (inside : pc.draws.inside = true → (s.client p).mutex ≠ none)
    (loaded : ∀ value, pc = .store value →
      ∀ o, (s.client p).ptr = some o → s.count o ≠ none) : Opened lock s' :=
  opened.clientMoved server client count sem semname (opened.mutex p)
    (fun shut => absurd shut (not_or.mpr loop)) inside loaded

/-- What has been made is written. -/
theorem update_made {β : Type} {f : ς → Option β} {l : ς} (made : f l ≠ none) (value : β) (u : ς) :
    Function.update f l (some value) u = none ↔ f u = none := by
  by_cases own : u = l
  · rw [own, Function.update_self]
    exact ⟨nofun, fun none => absurd none made⟩
  · rw [Function.update_of_ne own]

/-- **Every step of a paired run keeps it.** -/
theorem Opened.step {action : Act ς π} (opened : Opened lock s) (paired : Paired lock s action)
    (step : Step nloop s action s') : Opened lock s' := by
  cases step with
  | unlinkShm o here =>
    exact opened.serverMoved rfl rfl (.inl rfl) (fun _ => by rw [here]; rfl) (.inl rfl)
      (fun _ => by rw [here]; exact nofun) fun _ => .inl
  | createShm o here | shmExists o here =>
    exact opened.serverMoved rfl rfl (.inl rfl) (fun _ => by rw [here]; rfl) (.inl rfl)
      (fun _ => by rw [here]; exact nofun) fun _ => .inl
  | truncate o here =>
    have own : Function.update s.count o (some 0) o ≠ none := by
      rw [Function.update_self]
      exact nofun
    exact opened.serverMoved rfl rfl
      (.inr ⟨rfl, own, fun _ ne => Function.update_of_ne ne _ _⟩) nofun (.inl rfl)
      (fun _ => by rw [here]; exact nofun) fun _ => .inl
  | notTruncated o here =>
    exact opened.serverMoved rfl rfl (.inl rfl) nofun (.inl rfl)
      (fun _ => by rw [here]; exact nofun) fun _ => .inl
  | unlinkSem o here =>
    exact opened.serverMoved rfl rfl (.inl rfl) nofun (.inl rfl)
      (fun _ => by rw [here]; exact nofun) fun _ named => by cases named
  | createSem o here unused =>
    have own : Function.update s.sem o (some 1) o ≠ none := by
      rw [Function.update_self]
      exact nofun
    refine opened.serverMoved rfl rfl (.inl rfl) nofun
      (.inr ⟨rfl, own, fun _ ne => Function.update_of_ne ne _ _⟩) (fun late => absurd rfl late) ?_
    rintro l ⟨⟩
    exact .inr own
  | semExists o here =>
    exact opened.serverMoved rfl rfl (.inl rfl) nofun (.inl rfl) (fun late => absurd rfl late)
      fun _ => .inl
  | openShm p here =>
    have none := opened.shut p (.inl here)
    refine opened.clientMoved rfl rfl (fun _ => Iff.rfl) (fun _ => Iff.rfl) rfl (fun l mutex => ?_)
      (fun _ => none) nofun nofun
    rw [show (s.client p).mutex = some l from mutex] at none
    cases none
  | openSem p here =>
    refine opened.clientMoved rfl rfl (fun _ => Iff.rfl) (fun _ => Iff.rfl) rfl (fun l mutex => ?_)
      (fun shut => by rcases shut with shut | shut <;> cases shut) nofun nofun
    have named : s.semname = some l := mutex
    refine ⟨opened.semname l named, fun o ptr => ?_⟩
    rcases paired here o ptr with nothing | segment
    · rw [nothing] at named
      cases named
    · exact Option.some.inj (segment.symm.trans named)
  | more p here | done p here | noSem p here =>
    exact opened.goes rfl rfl (fun _ => Iff.rfl) (fun _ => Iff.rfl) rfl ⟨nofun, nofun⟩ nofun nofun
  | wait p l n here mutex positive =>
    exact opened.goes rfl rfl (fun _ => Iff.rfl)
      (update_made (fun none => by rw [positive] at none; cases none) n) rfl ⟨nofun, nofun⟩
      (fun _ none => by rw [mutex] at none; cases none) nofun
  | fault p here | print p o value here =>
    exact opened.goes rfl rfl (fun _ => Iff.rfl) (fun _ => Iff.rfl) rfl ⟨nofun, nofun⟩
      (fun _ => opened.inside p (by rw [here]; rfl)) nofun
  | load p o value here ptr count =>
    refine opened.goes rfl rfl (fun _ => Iff.rfl) (fun _ => Iff.rfl) rfl ⟨nofun, nofun⟩
      (fun _ => opened.inside p (by rw [here]; rfl)) fun _ _ u found none => ?_
    rw [ptr] at found
    cases found
    rw [count] at none
    cases none
  | store p o value here ptr =>
    exact opened.goes rfl rfl (update_made (opened.loaded p value here o ptr) _)
      (fun _ => Iff.rfl) rfl ⟨nofun, nofun⟩ (fun _ => opened.inside p (by rw [here]; rfl)) nofun
  | post p l n here mutex value =>
    exact opened.goes rfl rfl (fun _ => Iff.rfl)
      (update_made (fun none => by rw [value] at none; cases none) (n + 1)) rfl ⟨nofun, nofun⟩
      nofun nofun

end Steps

/-! ### The numbers -/

/-- What a client draws from that has opened the semaphore `l`: the counter of its segment, or, if
it has no segment, one that nobody reads. -/
def Client.source (x : Client ς) (l : ς) : ς ⊕ ς := (x.ptr.map Sum.inl).getD (.inr l)

/-- The semaphore of a counter. -/
def semOf (lock : ς → ς) : ς ⊕ ς → ς := Sum.elim lock id

/-- What a client with a semaphore draws from, and where it stands. -/
def Client.drawer (x : Client ς) : Option ((ς ⊕ ς) × Tickets.Pc) :=
  x.mutex.map fun l => (x.source l, x.pc.draws)

/-- The numbers that have been printed of a segment. -/
def State.numbersOf (s : State ς π) (o : ς) : List ℤ :=
  (s.stdout.filter fun line => line.2.1 = o).map fun line => line.2.2

/-- What no server has made yet is as it will be made. -/
def State.view (s : State ς π) : Tickets.State (ς ⊕ ς) ς π where
  counter := Sum.elim (fun o => (s.count o).getD 0) fun _ => 0
  sem := fun l => (s.sem l).getD 1
  drawer := fun p => (s.client p).drawer
  shown := Sum.elim s.numbersOf fun _ => []

section View

variable {lock : ς → ς} {nloop : π → ℤ} {s s' : State ς π} {o l : ς} {p : π} {x : Client ς}

theorem numbersOf_print (s : State ς π) (p : π) (o : ς) (value : ℤ) :
    State.numbersOf { s with stdout := s.stdout ++ [(p, o, value)] } =
      Function.update s.numbersOf o (s.numbersOf o ++ [value]) := by
  funext u
  unfold State.numbersOf
  dsimp only
  rw [List.filter_append, List.map_append]
  by_cases same : u = o
  · rw [same, Function.update_self]
    simp only [decide_true, List.filter_cons_of_pos, List.filter_nil, List.map_cons, List.map_nil]
  · rw [Function.update_of_ne same,
      List.filter_cons_of_neg (by rw [decide_eq_true_eq]; exact fun eq => same eq.symm),
      List.filter_nil, List.map_nil, List.append_nil]

theorem getD_update {β : Type} (f : ς → Option β) (u : ς) (value default : β) :
    (fun v => (Function.update f u (some value) v).getD default) =
      Function.update (fun v => (f v).getD default) u value := by
  funext v
  by_cases same : v = u
  · rw [same, Function.update_self, Function.update_self]
    rfl
  · rw [Function.update_of_ne same, Function.update_of_ne same]

/-- A thing is made with its first value. -/
theorem getD_made {β : Type} {f : ς → Option β} {u : ς} (none : f u = none) (value : β) :
    (fun v => (Function.update f u (some value) v).getD value) = fun v => (f v).getD value := by
  rw [getD_update]
  refine Function.update_eq_iff.mpr ⟨?_, fun _ _ => rfl⟩
  rw [none]
  rfl

theorem Client.drawer_of_none (none : x.mutex = .none) : x.drawer = .none := by
  unfold Client.drawer
  rw [none]
  rfl

theorem Client.drawer_of_some (mutex : x.mutex = some l) :
    x.drawer = some (x.source l, x.pc.draws) := by
  unfold Client.drawer
  rw [mutex]
  rfl

theorem Client.source_of_ptr (ptr : x.ptr = some o) (l : ς) : x.source l = .inl o := by
  unfold Client.source
  rw [ptr]
  rfl

/-- A client waits for the semaphore of what it draws from. -/
theorem semOf_source (pair : ∀ o, x.ptr = some o → lock o = l) :
    semOf lock (x.source l) = l := by
  unfold Client.source
  cases ptr : x.ptr with
  | none => rfl
  | some o => exact pair o ptr

/-- One client moves. -/
theorem view_moved {v : Tickets.State (ς ⊕ ς) ς π}
    (client : s'.client = Function.update s.client p x)
    (drawer : v.drawer = Function.update s.view.drawer p x.drawer)
    (counter : v.counter = s'.view.counter) (sem : v.sem = s'.view.sem)
    (shown : v.shown = s'.view.shown) : v = s'.view := by
  have same : s'.view.drawer = v.drawer := by
    rw [drawer]
    funext q
    show (s'.client q).drawer = _
    rw [client]
    by_cases same : q = p
    · rw [same, Function.update_self, Function.update_self]
    · rw [Function.update_of_ne same, Function.update_of_ne same]
      rfl
  cases v
  dsimp only at same counter sem shown
  rw [← same, counter, sem, shown]

/-- A client makes a statement that is not one of the drawing. -/
theorem view_quiet (client : s'.client = Function.update s.client p x)
    (drawer : x.drawer = (s.client p).drawer) (count : s'.count = s.count) (sem : s'.sem = s.sem)
    (stdout : s'.stdout = s.stdout) : s'.view = s.view := by
  refine (view_moved client ?_ ?_ ?_ ?_).symm
  · exact Function.eq_update_iff.mpr ⟨drawer.symm, fun _ _ => rfl⟩
  · show _ = Sum.elim (fun o => (s'.count o).getD 0) fun _ => 0
    rw [count]
    rfl
  · show _ = fun l => (s'.sem l).getD 1
    rw [sem]
    rfl
  · show _ = Sum.elim s'.numbersOf fun _ => []
    unfold State.numbersOf
    rw [stdout]
    rfl

/-- A client with a semaphore moves. -/
theorem view_goes {v : Tickets.State (ς ⊕ ς) ς π}
    (client : s'.client = Function.update s.client p x)
    (mutex : x.mutex = some l) {c : ς ⊕ ς} (source : x.source l = c)
    (drawer : v.drawer = Function.update s.view.drawer p (some (c, x.pc.draws)))
    (counter : v.counter = s'.view.counter) (sem : v.sem = s'.view.sem)
    (shown : v.shown = s'.view.shown) : v = s'.view :=
  view_moved client (drawer.trans (by rw [Client.drawer_of_some mutex, source])) counter sem shown

/-- A client without a semaphore moves. -/
theorem view_shut (before : (s.client p).drawer = none)
    (client : s'.client = Function.update s.client p x) (after : x.mutex = none)
    (count : s'.count = s.count) (sem : s'.sem = s.sem) (stdout : s'.stdout = s.stdout) :
    s'.view = s.view :=
  view_quiet client ((Client.drawer_of_none after).trans before.symm) count sem stdout

/-- **Each statement is a step of the drawing, or none.** -/
theorem draws_step {action : Act ς π} (opened : Opened lock s) (paired : Paired lock s action)
    (step : Step nloop s action s') :
    s'.view = s.view ∨ ∃ drawn, s.view.step (semOf lock) drawn = some s'.view := by
  -- what a client behind its `sem_wait` draws from
  have inside : ∀ {p pc}, (s.client p).pc = pc → pc.draws.inside = true →
      ∃ l, (s.client p).mutex = some l ∧
        s.view.drawer p = some ((s.client p).source l, pc.draws) := by
    intro p pc here within
    obtain ⟨l, mutex⟩ := Option.ne_none_iff_exists'.mp (opened.inside p (here ▸ within))
    exact ⟨l, mutex, here ▸ Client.drawer_of_some mutex⟩
  cases step with
  | unlinkShm | createShm | shmExists | notTruncated | unlinkSem | semExists => exact .inl rfl
  | truncate o here =>
    have none := opened.count o (by rw [here]; rfl)
    refine .inl ?_
    unfold State.view
    dsimp only
    rw [getD_made none]
    rfl
  | createSem o here unused =>
    have none := opened.sem o (by rw [here]; exact nofun)
    refine .inl ?_
    unfold State.view
    dsimp only
    rw [getD_made none]
    rfl
  | openShm p here =>
    have none := opened.shut p (.inl here)
    exact .inl (view_shut (Client.drawer_of_none none) rfl none rfl rfl rfl)
  | openSem p here =>
    have none := Client.drawer_of_none (opened.shut p (.inr here))
    rcases Option.eq_none_or_eq_some s.semname with named | ⟨l, named⟩
    · exact .inl (view_shut none rfl named rfl rfl rfl)
    · refine .inr ⟨.join p ((s.client p).source l), (Tickets.step_join _ none).trans
        (congrArg some ?_)⟩
      exact view_goes rfl named rfl rfl rfl rfl rfl
  | more p here | done p here | noSem p here =>
    refine .inl (view_quiet rfl ?_ rfl rfl rfl)
    unfold Client.drawer
    rw [here]
    rfl
  | fault p here =>
    refine .inl (view_quiet rfl ?_ rfl rfl rfl)
    unfold Client.drawer
    rw [here]
    rfl
  | wait p l n here mutex positive =>
    have pair := semOf_source (opened.mutex p l mutex).2
    have drawer : s.view.drawer p = some ((s.client p).source l, .wait) :=
      (Client.drawer_of_some mutex).trans (by rw [here]; rfl)
    have value : s.view.sem l = n + 1 := congrArg (fun value => value.getD 1) positive
    have positive : 0 < s.view.sem (semOf lock ((s.client p).source l)) := by
      rw [pair, value]
      exact Nat.succ_pos n
    refine .inr ⟨.step p, (Tickets.step_wait drawer positive).trans (congrArg some ?_)⟩
    refine view_goes rfl mutex rfl rfl rfl ?_ rfl
    rw [pair, value]
    exact (getD_update s.sem l n 1).symm
  | load p o value here ptr count =>
    obtain ⟨l, mutex, drawer⟩ := inside here rfl
    rw [Client.source_of_ptr ptr] at drawer
    have value : s.view.counter (.inl o) = value := congrArg (fun value => value.getD 0) count
    refine .inr ⟨.step p, (Tickets.step_load drawer).trans (congrArg some ?_)⟩
    rw [value]
    exact view_goes rfl mutex (Client.source_of_ptr ptr l) rfl rfl rfl rfl
  | store p o value here ptr =>
    obtain ⟨l, mutex, drawer⟩ := inside here rfl
    rw [Client.source_of_ptr ptr] at drawer
    refine .inr ⟨.step p, (Tickets.step_store drawer).trans (congrArg some ?_)⟩
    refine view_goes rfl mutex (Client.source_of_ptr ptr l) rfl ?_ rfl rfl
    show Function.update (Sum.elim _ _) _ _ = Sum.elim _ _
    rw [Sum.update_elim_inl, ← getD_update]
  | print p o value here ptr =>
    obtain ⟨l, mutex, drawer⟩ := inside here rfl
    rw [Client.source_of_ptr ptr] at drawer
    refine .inr ⟨.step p, (Tickets.step_print drawer).trans (congrArg some ?_)⟩
    refine view_goes rfl mutex (Client.source_of_ptr ptr l) rfl rfl rfl ?_
    show Function.update (Sum.elim _ _) _ _ = Sum.elim _ _
    rw [Sum.update_elim_inl]
    exact congrArg (Sum.elim · _) (numbersOf_print s p o value).symm
  | post p l n here mutex value =>
    obtain ⟨l', mutex', drawer⟩ := inside here rfl
    cases mutex.symm.trans mutex'
    have pair := semOf_source (opened.mutex p l mutex).2
    have value' : s.view.sem l = n := congrArg (fun value => value.getD 1) value
    refine .inr ⟨.step p, (Tickets.step_post drawer).trans (congrArg some ?_)⟩
    refine view_goes rfl mutex rfl rfl rfl ?_ rfl
    rw [pair, value']
    exact (getD_update s.sem l (n + 1) 1).symm

end View

theorem start_view : (start : State ς π).view = Tickets.start fun _ => none := by
  unfold State.view Tickets.start
  congr 1 <;> funext c <;> cases c <;> rfl

theorem opened_of_reachable {lock : ς → ς} {nloop : π → ℤ} {s : State ς π}
    (reachable : (machine nloop).Reachable (Paired lock) s) : Opened lock s :=
  reachable.induct (opened_start lock) fun _ _ _ _ opened paired step =>
    opened.step paired (step_cases step)

/-- **The clients of a segment draw `0`, `1`, `2` and so on**, until an `int` wraps, whoever is
killed on the way and however many servers run: as long as the clients of one segment that open a
semaphore all find the same. -/
theorem numbers {lock : ς → ς} {nloop : π → ℤ} {s : State ς π}
    (reachable : (machine nloop).Reachable (Paired lock) s) (o : ς) :
    s.numbersOf o = Tickets.numbersTo (s.numbersOf o).length := by
  have image : (Tickets.machine (semOf lock) fun _ : π => none).Reachable Anything s.view := by
    refine reachable.simulate State.view start_view fun s action s' before paired step => ?_
    exact (draws_step (opened_of_reachable before) paired (step_cases step)).imp_right
      fun ⟨drawn, moved⟩ => ⟨drawn, trivial, moved⟩
  exact (Tickets.drawn_of_reachable image).numbered (.inl o)

/-- A server; two clients that open its segment and draw in turn; a second server, a client that
finds no segment any more and dies with the old semaphore, and a client of the new segment. -/
def twoServers {κ : Type} (a b c d : κ) : List (Act Bool κ) :=
  List.replicate 5 (Act.server false) ++ [Act.client a, .client a, .client b, .client b] ++
    List.replicate 6 (Act.client b) ++ List.replicate 6 (Act.client a) ++ [Act.server true] ++
    List.replicate 5 (Act.client d) ++ List.replicate 4 (Act.server true) ++
    List.replicate 8 (Act.client c)

theorem numbers_twoServers :
    ((machine fun _ => 1).after (twoServers (0 : Fin 4) 1 2 3)).numbersOf false =
      Tickets.numbersTo
        (((machine fun _ => 1).after (twoServers (0 : Fin 4) 1 2 3)).numbersOf false).length ∧
    ((machine fun _ => 1).after (twoServers (0 : Fin 4) 1 2 3)).stdout =
      [(1, false, 0), (0, false, 1), (2, true, 0)] ∧
    (((machine fun _ => 1).after (twoServers (0 : Fin 4) 1 2 3)).client 3).pc = .killed true :=
  ⟨@numbers Bool (Fin 4) _ _ id _ _ (Machine.reachable_after (by decide) (by decide)) false,
    by decide, by decide⟩

end Unpvol2.Shm.Client1
