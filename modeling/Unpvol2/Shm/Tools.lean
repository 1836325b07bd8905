/-
**The shared memory tools: `shmcreate`, `shmwrite`, `shmread`, `shmunlink`.**

Any number of these programs run at once, on any names, and any of them may be killed at any time.
A name leads to an object until it is unlinked; who has opened the object keeps it. One step is a
system call, one turn of the `for` loop up to its access, or the `fprintf`.

An object has a length and is mapped page by page. The bytes of its last page can be used past the
length; what is beyond the last page cannot, nor can `MAP_FAILED`, and the process is killed. When
the length changes, the bytes past the shorter of the two lengths are `0`.

* `tools_fill` — every byte is `0` or what `shmwrite` puts there, and `shmread` reports bytes that
  were `0`, in their order; **a `shmwrite` that exits has filled the object**, if the length has not
  been changed in the meantime, and as long as nobody changes it no later `shmread` has anything to
  report.
-/

import Unpvol2.Lib.Machine
import Unpvol2.Lib.Named

set_option linter.unusedSectionVars false

namespace Unpvol2.Shm.Tools

open Interleaving

/-! ### The system -/

/-- A shared memory object: its length, and the bytes of its pages. -/
structure Segment where
  length : ℕ
  bytes : ℕ → ℕ

/-- A program and its arguments; `length` is what `atoi` makes of it. -/
inductive Command (ν : Type)
  /-- `shmcreate [ -e ] <name> <length>` -/
  | shmcreate (excl : Bool) (name : ν) (length : Int32)
  /-- `shmwrite <name>` -/
  | shmwrite (name : ν)
  /-- `shmread <name>` -/
  | shmread (name : ν)
  /-- `shmunlink <name>` -/
  | shmunlink (name : ν)

/-- The call a process stands at. -/
inductive Pc
  /-- `shm_open` or `shm_unlink` -/
  | first
  /-- `ftruncate(fd, length)` -/
  | truncate (fd : Option ℕ) (length : Int32)
  /-- `fstat(fd, &stat)`, and `mmap` -/
  | fstat (reads : Bool) (fd : Option ℕ)
  /-- `i < stat.st_size`, and `*ptr++ = i % 256` or `(c = *ptr++) != (i % 256)` -/
  | loop (reads : Bool) (k size i : ℕ)
  /-- `fprintf(stderr, "ptr[%d] = %d", i, c)` -/
  | report (k size i c : ℕ)
  | exited
  | killed
deriving DecidableEq

/-- What `shmread` reports. -/
structure Line where
  i : ℕ
  c : ℕ
deriving DecidableEq

structure State (ν π : Type) where
  shm : Named ν Segment
  pc : π → Pc
  stderr : π → List Line

/-- One step. -/
inductive Act (π : Type)
  | run (p : π)
  | kill (p : π)

variable {ν π : Type} [DecidableEq ν] [DecidableEq π]

/-- The length of the pages. -/
def Segment.mapped (page : ℕ) (segment : Segment) : ℕ := (segment.length + page - 1) / page * page

/-- `ftruncate` to a length that is not negative. -/
def Segment.truncate (segment : Segment) (length : ℕ) : Segment :=
  ⟨length, fun i => if i < length ∧ i < segment.length then segment.bytes i else 0⟩

/-- `*ptr++ = i % 256`. -/
def Segment.store (segment : Segment) (i : ℕ) : Segment :=
  { segment with bytes := Function.update segment.bytes i (i % 256) }

namespace State

def goTo (s : State ν π) (p : π) (pc : Pc) : State ν π :=
  { s with pc := Function.update s.pc p pc }

/-- `shm_open` with `O_CREAT`. -/
def create (s : State ν π) (p : π) (excl : Bool) (name : ν) (length : Int32) : State ν π :=
  match s.shm.name name with
  | some k => s.goTo p (.truncate (if excl then none else some k) length)
  | none =>
    { s.goTo p (.truncate (some s.shm.objects.length) length) with
      shm := s.shm.create name ⟨0, fun _ => 0⟩ }

/-- The first call of a program. -/
def first (s : State ν π) (p : π) : Command ν → State ν π
  | .shmcreate excl name length => s.create p excl name length
  | .shmwrite name => s.goTo p (.fstat false (s.shm.name name))
  | .shmread name => s.goTo p (.fstat true (s.shm.name name))
  | .shmunlink name => { s.goTo p .exited with shm := s.shm.unlink name }

/-- `ftruncate`; nobody uses what `mmap` returns, and the program exits. -/
def truncate (s : State ν π) (p : π) (fd : Option ℕ) (length : Int32) : State ν π :=
  match fd with
  | none => s.goTo p .exited
  | some k =>
    match s.shm.get k with
    | none => s.goTo p .exited
    | some segment =>
      if 0 ≤ length.toInt then
        { s.goTo p .exited with shm := s.shm.set k (segment.truncate length.toInt.toNat) }
      else s.goTo p .exited

/-- `fstat`: without a descriptor `stat.st_size` keeps its value `junk`, and `mmap` fails. -/
def fstat (s : State ν π) (p : π) (reads : Bool) (fd : Option ℕ) (junk : ℤ) : State ν π :=
  match fd.bind fun k => (s.shm.get k).map fun segment => (k, segment) with
  | none => s.goTo p (if 0 < junk then .killed else .exited)
  | some (k, segment) => s.goTo p (.loop reads k segment.length 0)

/-- One turn of a loop. -/
def loop (page : ℕ) (s : State ν π) (p : π) (reads : Bool) (k size i : ℕ) : State ν π :=
  if i < size then
    match s.shm.get k with
    | none => s.goTo p .killed
    | some segment =>
      if segment.mapped page ≤ i then s.goTo p .killed
      else if reads then
        if segment.bytes i ≠ i % 256 then s.goTo p (.report k size i (segment.bytes i))
        else s.goTo p (.loop reads k size (i + 1))
      else { s.goTo p (.loop reads k size (i + 1)) with shm := s.shm.set k (segment.store i) }
  else s.goTo p .exited

/-- The next call of `p`; `junk` is what `stat.st_size` holds at first. -/
def run (page : ℕ) (command : π → Command ν) (junk : π → ℤ) (s : State ν π) (p : π) :
    Option (State ν π) :=
  match s.pc p with
  | .first => some (s.first p (command p))
  | .truncate fd length => some (s.truncate p fd length)
  | .fstat reads fd => some (s.fstat p reads fd (junk p))
  | .loop reads k size i => some (s.loop page p reads k size i)
  | .report k size i c =>
    some { s.goTo p (.loop true k size (i + 1)) with
      stderr := Function.update s.stderr p (s.stderr p ++ [⟨i, c⟩]) }
  | .exited | .killed => none

def kill (s : State ν π) (p : π) : Option (State ν π) :=
  match s.pc p with
  | .exited | .killed => none
  | _ => some (s.goTo p .killed)

def step (page : ℕ) (command : π → Command ν) (junk : π → ℤ) (s : State ν π) :
    Act π → Option (State ν π)
  | .run p => s.run page command junk p
  | .kill p => s.kill p

end State

/-- There is no object, and no program has made a call. -/
def start : State ν π := ⟨Named.empty, fun _ => .first, fun _ => []⟩

def machine (page : ℕ) (command : π → Command ν) (junk : π → ℤ) :
    Machine (State ν π) (Act π) :=
  ⟨start, State.step page command junk⟩

/-- The object whose length the next call changes. -/
def Pc.truncates : Pc → Option ℕ
  | .truncate fd _ => fd
  | _ => none

/-- Nobody changes the length of the object `k`. -/
def Undisturbed (k : ℕ) (s : State ν π) : Act π → Prop
  | .run p => (s.pc p).truncates ≠ some k
  | .kill _ => True

instance (k : ℕ) (s : State ν π) : DecidablePred (Undisturbed k s)
  | .run p => inferInstanceAs (Decidable ((s.pc p).truncates ≠ some k))
  | .kill _ => inferInstanceAs (Decidable True)

/-- What `shmwrite` puts at `i`, or `0`. -/
def Byte (i c : ℕ) : Prop := c = i % 256 ∨ c = 0

/-- Every byte of the object is what `shmwrite` puts there. -/
def Segment.Full (segment : Segment) : Prop := ∀ i < segment.length, segment.bytes i = i % 256

/-- Reports of bytes that were `0`, and should not be, at rising offsets. -/
def Reports (lines : List Line) : Prop :=
  lines.Pairwise (fun first second => first.i < second.i) ∧
    ∀ line ∈ lines, line.c = 0 ∧ line.i % 256 ≠ 0

/-- What a process has reported where it stands. -/
def Did (lines : List Line) : Pc → Prop
  | .first | .truncate _ _ | .fstat _ _ => lines = []
  | .loop _ _ _ i => Reports lines ∧ ∀ line ∈ lines, line.i < i
  | .report _ _ i c => (Reports lines ∧ ∀ line ∈ lines, line.i < i) ∧ c = 0 ∧ i % 256 ≠ 0
  | .exited | .killed => Reports lines

/-! ### The list of the steps -/

/-- The steps of `p`, case by case. -/
inductive Step (s : State ν π) (p : π) : State ν π → Prop
  | made (name : ν) (length : Int32) (here : s.pc p = .first) :
      Step s p { s.goTo p (.truncate (some s.shm.objects.length) length) with
        shm := s.shm.create name ⟨0, fun _ => 0⟩ }
  | opened (pc : Pc) (fd : Option ℕ) (here : s.pc p = .first)
      (leads : fd = none ∨ ∃ name, fd = s.shm.name name)
      (next : (∃ length, pc = .truncate fd length) ∨ ∃ reads, pc = .fstat reads fd) :
      Step s p (s.goTo p pc)
  | unlinked (name : ν) (here : s.pc p = .first) :
      Step s p { s.goTo p .exited with shm := s.shm.unlink name }
  | truncated (k : ℕ) (length : Int32) (segment : Segment)
      (here : s.pc p = .truncate (some k) length) (there : s.shm.get k = some segment) :
      Step s p { s.goTo p .exited with
        shm := s.shm.set k (segment.truncate length.toInt.toNat) }
  | sized (reads : Bool) (k : ℕ) (segment : Segment) (here : s.pc p = .fstat reads (some k))
      (there : s.shm.get k = some segment) :
      Step s p (s.goTo p (.loop reads k segment.length 0))
  | stored (k size i : ℕ) (segment : Segment) (here : s.pc p = .loop false k size i)
      (low : i < size) (there : s.shm.get k = some segment) :
      Step s p { s.goTo p (.loop false k size (i + 1)) with shm := s.shm.set k (segment.store i) }
  | equal (k size i : ℕ) (here : s.pc p = .loop true k size i) :
      Step s p (s.goTo p (.loop true k size (i + 1)))
  | differs (k size i : ℕ) (segment : Segment) (here : s.pc p = .loop true k size i)
      (low : i < size) (there : s.shm.get k = some segment) (other : segment.bytes i ≠ i % 256) :
      Step s p (s.goTo p (.report k size i (segment.bytes i)))
  | reported (k size i c : ℕ) (here : s.pc p = .report k size i c) :
      Step s p { s.goTo p (.loop true k size (i + 1)) with
        stderr := Function.update s.stderr p (s.stderr p ++ [⟨i, c⟩]) }
  | done (reads : Bool) (k size i : ℕ) (here : s.pc p = .loop reads k size i) (high : size ≤ i) :
      Step s p (s.goTo p .exited)
  | failed (here : (∃ fd length, s.pc p = .truncate fd length) ∨
      ∃ reads fd, s.pc p = .fstat reads fd ∧ fd.bind s.shm.get = none) :
      Step s p (s.goTo p .exited)
  | killed (alive : s.pc p ≠ .exited) : Step s p (s.goTo p .killed)

/-- The process that moves. -/
def Act.process : Act π → π
  | .run p | .kill p => p

variable {page : ℕ} {command : π → Command ν} {junk : π → ℤ} {s s' : State ν π} {action : Act π}
  {p q : π} {k i : ℕ} {segment segment' : Segment}

theorem step_run (step : s.run page command junk p = some s') : Step s p s' := by
  simp only [State.run] at step
  split at step <;> rename_i here
  · cases step
    cases command p with
    | shmcreate excl name length =>
      show Step s p (s.create p excl name length)
      unfold State.create
      split
      · rename_i k leads
        refine .opened _ _ here ?_ (.inl ⟨length, rfl⟩)
        split
        · exact .inl rfl
        · exact .inr ⟨name, leads.symm⟩
      · exact .made name length here
    | shmwrite name => exact .opened _ _ here (.inr ⟨name, rfl⟩) (.inr ⟨false, rfl⟩)
    | shmread name => exact .opened _ _ here (.inr ⟨name, rfl⟩) (.inr ⟨true, rfl⟩)
    | shmunlink name => exact .unlinked name here
  · rename_i fd length
    cases step
    have fails : Step s p (s.goTo p .exited) := .failed (.inl ⟨fd, length, here⟩)
    cases fd with
    | none => exact fails
    | some k =>
      simp only [State.truncate]
      split
      · exact fails
      · rename_i segment there
        split
        · exact .truncated k length segment here there
        · exact fails
  · rename_i reads fd
    cases step
    unfold State.fstat
    split
    · rename_i lost
      have lost : fd.bind s.shm.get = none := by
        cases fd with
        | none => rfl
        | some k => exact Option.map_eq_none_iff.mp lost
      split
      · exact .killed (by rw [here]; nofun)
      · exact .failed (.inr ⟨reads, fd, here, lost⟩)
    · rename_i k segment found
      cases fd with
      | none => cases found
      | some k' =>
        obtain ⟨segment', there, same⟩ := Option.map_eq_some_iff.mp found
        cases same
        exact .sized reads k segment here there
  · rename_i reads k size i
    cases step
    have dies : Step s p (s.goTo p .killed) := .killed (by rw [here]; nofun)
    unfold State.loop
    split
    · rename_i low
      split
      · exact dies
      · rename_i segment there
        split
        · exact dies
        · cases reads with
          | true =>
            rw [if_pos rfl]
            split
            · exact .differs k size i segment here low there ‹_›
            · exact .equal k size i here
          | false => exact .stored k size i segment here low there
    · exact .done reads k size i here (Nat.not_lt.mp ‹_›)
  · cases step
    exact .reported _ _ _ _ here
  · cases step
  · cases step

/-- **The inversion of the step function.** -/
theorem step_cases (step : s.step page command junk action = some s') :
    Step s action.process s' := by
  cases action with
  | run p => exact step_run step
  | kill p =>
    simp only [State.step, State.kill] at step
    split at step
    · cases step
    · cases step
    · cases step
      exact .killed ‹_›

/-- A process that does not move stands where it stood. -/
theorem Step.others (step : Step s p s') (ne : q ≠ p) :
    s'.pc q = s.pc q ∧ s'.stderr q = s.stderr q := by
  cases step with
  | reported => exact ⟨Function.update_of_ne ne _ _, Function.update_of_ne ne _ _⟩
  | _ => exact ⟨Function.update_of_ne ne _ _, rfl⟩

/-! ### What a step does to the objects -/

/-- **While nobody changes the length** a byte stays as it is, or is what `shmwrite` puts there. -/
theorem Step.undisturbed (step : Step s p s')
    (still : s'.pc p = .killed ∨ (s.pc p).truncates ≠ some k)
    (there : s.shm.get k = some segment) :
    ∃ segment', s'.shm.get k = some segment' ∧ segment'.length = segment.length ∧
      ∀ i, segment'.bytes i = segment.bytes i ∨ segment'.bytes i = i % 256 := by
  cases step with
  | made name => exact ⟨segment, Named.get_create there name _, rfl, fun _ => .inl rfl⟩
  | truncated l length other here =>
    have ne : k ≠ l := fun same => by
      subst same
      rcases still with dead | still
      · have dead : Function.update s.pc p .exited p = .killed := dead
        rw [Function.update_self] at dead
        cases dead
      · exact still (by rw [here]; rfl)
    exact ⟨segment, (Named.get_set_ne ne _).trans there, rfl, fun _ => .inl rfl⟩
  | stored l size i other here low there' =>
    refine Named.get_set there ⟨rfl, fun _ => .inl rfl⟩ fun same => ?_
    subst same
    cases there.symm.trans there'
    refine ⟨rfl, fun j => ?_⟩
    by_cases eq : j = i
    · subst eq
      exact .inr (Function.update_self ..)
    · exact .inl (Function.update_of_ne eq _ _)
  | _ => exact ⟨segment, there, rfl, fun _ => .inl rfl⟩

/-- Every byte is what `shmwrite` puts there, or `0`. -/
theorem Step.bytes (step : Step s p s')
    (sound : s.shm.Sound fun _ segment => ∀ i, Byte i (segment.bytes i)) :
    s'.shm.Sound fun _ segment => ∀ i, Byte i (segment.bytes i) := by
  cases step with
  | made name => exact sound.create name fun _ => .inr rfl
  | unlinked name => exact sound.unlink name
  | truncated k length segment here there =>
    refine sound.set there fun i => ?_
    show Byte i (if i < length.toInt.toNat ∧ i < segment.length then segment.bytes i else 0)
    split
    · exact sound.objects k segment there i
    · exact .inr rfl
  | stored k size i segment here low there =>
    refine sound.set there fun j => ?_
    show Byte j (Function.update segment.bytes i (i % 256) j)
    by_cases eq : j = i
    · subst eq
      exact .inl (Function.update_self ..)
    · rw [Function.update_of_ne eq]
      exact sound.objects k segment there j
  | _ => exact sound

/-! ### What a process has reported -/

theorem Did.reports {lines : List Line} {pc : Pc} (did : Did lines pc) : Reports lines := by
  cases pc with
  | first | truncate | fstat =>
    cases did
    exact ⟨.nil, nofun⟩
  | loop => exact did.1
  | report => exact did.1.1
  | exited | killed => exact did

/-- What is true of the objects and of the reports. -/
structure Kept (s : State ν π) : Prop where
  bytes : s.shm.Sound fun _ segment => ∀ i, Byte i (segment.bytes i)
  did : ∀ p, Did (s.stderr p) (s.pc p)

/-- **A byte that is reported was never filled**, or it would be right. -/
theorem Step.did (step : Step s p s') (kept : Kept s) : Did (s'.stderr p) (s'.pc p) := by
  have did := kept.did p
  have moved : ∀ {pc : Pc}, Did (s.stderr p) pc →
      Did (s.stderr p) (Function.update s.pc p pc p) := fun did => by
    rw [Function.update_self]
    exact did
  cases step with
  | made name length here =>
    rw [here] at did
    exact moved did
  | opened pc fd here leads next =>
    rw [here] at did
    rcases next with ⟨length, rfl⟩ | ⟨reads, rfl⟩
    · exact moved did
    · exact moved did
  | sized reads k segment here there =>
    rw [here] at did
    refine moved ⟨did.reports, fun line mem => ?_⟩
    rw [show s.stderr p = [] from did] at mem
    cases mem
  | stored k size i segment here | equal k size i here =>
    rw [here] at did
    exact moved ⟨did.1, fun line mem => Nat.lt_succ_of_lt (did.2 line mem)⟩
  | differs k size i segment here low there other =>
    rw [here] at did
    have zero := (kept.bytes.objects k segment there i).resolve_left other
    exact moved ⟨did, zero, fun same => other (zero.trans same.symm)⟩
  | reported k size i c here =>
    rw [here] at did
    obtain ⟨⟨⟨sorted, zeros⟩, below⟩, zero, wrong⟩ := did
    show Did (Function.update s.stderr p (s.stderr p ++ [⟨i, c⟩]) p)
      (Function.update s.pc p (.loop true k size (i + 1)) p)
    rw [Function.update_self, Function.update_self]
    refine ⟨⟨List.pairwise_append.mpr ⟨sorted, List.pairwise_singleton _ _, ?_⟩, ?_⟩, ?_⟩
    · intro line mem last here
      rw [List.mem_singleton.mp here]
      exact below line mem
    · intro line mem
      rcases List.mem_append.mp mem with mem | last
      · exact zeros line mem
      · rw [List.mem_singleton.mp last]
        exact ⟨zero, wrong⟩
    · intro line mem
      rcases List.mem_append.mp mem with mem | last
      · exact Nat.lt_succ_of_lt (below line mem)
      · rw [List.mem_singleton.mp last]
        exact Nat.lt_succ_self i
  | unlinked | truncated | done | failed | killed => exact moved did.reports

/-- **Every step keeps the bytes and the reports.** -/
theorem Kept.step (kept : Kept s) (step : Step s p s') : Kept s' := by
  refine ⟨step.bytes kept.bytes, fun q => ?_⟩
  by_cases same : q = p
  · rw [same]
    exact step.did kept
  · rw [(step.others same).1, (step.others same).2]
    exact kept.did q

theorem kept_of_reachable (reachable : (machine page command junk).Reachable Anything s) :
    Kept s :=
  reachable.induct ⟨Named.sound_empty, fun _ => rfl⟩ fun _ _ _ _ kept _ step =>
    kept.step (step_cases step)

/-! ### A process that fills or checks an object -/

/-- Where `shmwrite` stands, and what it has put into the object `k` of `n` bytes. -/
def Wrote (k n : ℕ) (bytes : ℕ → ℕ) : Pc → Prop
  | .fstat reads fd => reads = false ∧ fd = some k
  | .loop reads l size i => reads = false ∧ l = k ∧ size = n ∧ ∀ j < i, bytes j = j % 256
  | .exited => ∀ j < n, bytes j = j % 256
  | .killed => True
  | _ => False

/-- Where `shmread` stands that finds nothing wrong with the object `k` of `n` bytes. -/
def Checked (k n : ℕ) : Pc → Prop
  | .fstat reads fd => reads = true ∧ fd = some k
  | .loop reads l size _ => reads = true ∧ l = k ∧ size = n
  | .exited | .killed => True
  | _ => False

theorem Wrote.mono {n : ℕ} {bytes bytes' : ℕ → ℕ} {pc : Pc} (wrote : Wrote k n bytes pc)
    (stays : ∀ j, bytes j = j % 256 → bytes' j = j % 256) : Wrote k n bytes' pc := by
  cases pc with
  | loop =>
    obtain ⟨reads, object, size, filled⟩ := wrote
    exact ⟨reads, object, size, fun j low => stays j (filled j low)⟩
  | exited => exact fun j low => stays j (wrote j low)
  | first | truncate | fstat | report | killed => exact wrote

/-- `s'` comes after `s`, and nobody has changed the length of the object `k`: what has been filled
stays filled. -/
structure Later (k : ℕ) (s : State ν π) (segment : Segment) (s' : State ν π) (segment' : Segment) :
    Prop where
  there : s'.shm.get k = some segment'
  length : segment'.length = segment.length
  full : segment.Full → segment'.Full
  wrote : ∀ p, Wrote k segment.length segment.bytes (s.pc p) →
    Wrote k segment'.length segment'.bytes (s'.pc p)
  checked : ∀ p, segment.Full → Checked k segment.length (s.pc p) →
    Checked k segment'.length (s'.pc p) ∧ s'.stderr p = s.stderr p

theorem Later.trans {s'' : State ν π} {segment'' : Segment} (first : Later k s segment s' segment')
    (second : Later k s' segment' s'' segment'') : Later k s segment s'' segment'' where
  there := second.there
  length := second.length.trans first.length
  full := second.full ∘ first.full
  wrote := fun p wrote => second.wrote p (first.wrote p wrote)
  checked := fun p full checked => by
    obtain ⟨middle, same⟩ := first.checked p full checked
    obtain ⟨last, same'⟩ := second.checked p (first.full full) middle
    exact ⟨last, same'.trans same⟩

section Objects

variable (there : s.shm.get k = some segment)
include there

/-- **One step of a process that fills the object.** -/
theorem Step.wrote (step : Step s p s') (there' : s'.shm.get k = some segment')
    (wrote : Wrote k segment.length segment.bytes (s.pc p)) :
    Wrote k segment.length segment'.bytes (s'.pc p) := by
  have moved : ∀ {pc : Pc}, Wrote k segment.length segment'.bytes pc →
      Wrote k segment.length segment'.bytes (Function.update s.pc p pc p) := fun wrote => by
    rw [Function.update_self]
    exact wrote
  cases step with
  | made _ _ here | opened _ _ here =>
    rw [here] at wrote
    exact wrote.elim
  | unlinked _ here =>
    rw [here] at wrote
    exact wrote.elim
  | truncated _ _ _ here =>
    rw [here] at wrote
    exact wrote.elim
  | reported _ _ _ _ here =>
    rw [here] at wrote
    exact wrote.elim
  | sized reads l other here there'' =>
    rw [here] at wrote
    obtain ⟨rfl, same⟩ := wrote
    cases same
    cases there.symm.trans there''
    exact moved ⟨rfl, rfl, rfl, fun j low => absurd low (Nat.not_lt_zero j)⟩
  | stored l size i other here low there'' =>
    rw [here] at wrote
    obtain ⟨_, rfl, rfl, filled⟩ := wrote
    cases there.symm.trans there''
    cases (Named.get_set_self there (segment.store i)).symm.trans there'
    refine moved ⟨rfl, rfl, rfl, fun j low => ?_⟩
    show Function.update segment.bytes i (i % 256) j = j % 256
    by_cases same : j = i
    · rw [same, Function.update_self]
    · rw [Function.update_of_ne same]
      exact filled j (by omega)
  | equal l size i here =>
    rw [here] at wrote
    cases wrote.1
  | differs l size i other here =>
    rw [here] at wrote
    cases wrote.1
  | done reads l size i here high =>
    rw [here] at wrote
    obtain ⟨_, _, rfl, filled⟩ := wrote
    cases there.symm.trans there'
    exact moved fun j low => filled j (Nat.lt_of_lt_of_le low high)
  | failed here =>
    rcases here with ⟨fd, length, here⟩ | ⟨reads, fd, here, lost⟩
    · rw [here] at wrote
      exact wrote.elim
    · rw [here] at wrote
      obtain ⟨_, rfl⟩ := wrote
      cases there.symm.trans lost
  | killed => exact moved trivial

/-- **One step of a process that checks the object**: as long as every byte is right it has nothing
to report. -/
theorem Step.checked (step : Step s p s') (full : segment.Full)
    (checked : Checked k segment.length (s.pc p)) :
    Checked k segment.length (s'.pc p) ∧ s'.stderr p = s.stderr p := by
  have moved : ∀ {pc : Pc}, Checked k segment.length pc →
      Checked k segment.length (Function.update s.pc p pc p) := fun checked => by
    rw [Function.update_self]
    exact checked
  cases step with
  | made _ _ here | opened _ _ here =>
    rw [here] at checked
    exact checked.elim
  | unlinked _ here =>
    rw [here] at checked
    exact checked.elim
  | truncated _ _ _ here =>
    rw [here] at checked
    exact checked.elim
  | reported _ _ _ _ here =>
    rw [here] at checked
    exact checked.elim
  | sized reads l other here there' =>
    rw [here] at checked
    obtain ⟨rfl, same⟩ := checked
    cases same
    cases there.symm.trans there'
    exact ⟨moved ⟨rfl, rfl, rfl⟩, rfl⟩
  | stored l size i other here =>
    rw [here] at checked
    cases checked.1
  | equal l size i here =>
    rw [here] at checked
    exact ⟨moved checked, rfl⟩
  | differs l size i other here low there' wrong =>
    rw [here] at checked
    obtain ⟨_, rfl, rfl⟩ := checked
    cases there.symm.trans there'
    exact absurd (full i low) wrong
  | done => exact ⟨moved trivial, rfl⟩
  | failed => exact ⟨moved trivial, rfl⟩
  | killed => exact ⟨moved trivial, rfl⟩

/-- **One step of any process.** -/
theorem Step.later (step : Step s p s')
    (still : s'.pc p = .killed ∨ (s.pc p).truncates ≠ some k) :
    ∃ segment', Later k s segment s' segment' := by
  obtain ⟨segment', there', length, keeps⟩ := step.undisturbed still there
  have stays : ∀ j, segment.bytes j = j % 256 → segment'.bytes j = j % 256 := fun j right =>
    (keeps j).elim (fun same => same.trans right) id
  refine ⟨segment', there', length, fun full j low => stays j (full j (length ▸ low)), ?_, ?_⟩
  · intro q wrote
    rw [length]
    by_cases same : q = p
    · subst same
      exact step.wrote there there' wrote
    · rw [(step.others same).1]
      exact wrote.mono stays
  · intro q full checked
    rw [length]
    by_cases same : q = p
    · subst same
      exact step.checked there full checked
    · rw [(step.others same).1, (step.others same).2]
      exact ⟨checked, rfl⟩

end Objects

theorem Undisturbed.still (undisturbed : Undisturbed k s action)
    (step : s.step page command junk action = some s') :
    s'.pc action.process = .killed ∨ (s.pc action.process).truncates ≠ some k := by
  cases action with
  | run p => exact .inr undisturbed
  | kill p =>
    simp only [State.step, State.kill] at step
    split at step
    · cases step
    · cases step
    · cases step
      exact .inl (Function.update_self ..)

/-- **A run in which nobody changes the length of the object.** -/
theorem later_of_reaches (there : s.shm.get k = some segment)
    (reaches : (machine page command junk).Reaches (Undisturbed k) s s') :
    ∃ segment', Later k s segment s' segment' := by
  refine reaches.induct (I := fun t => ∃ segment', Later k s segment t segment') ?_
    ⟨segment, there, rfl, id, fun _ => id, fun _ _ checked => ⟨checked, rfl⟩⟩
  rintro t action t' ⟨middle, later⟩ undisturbed step
  obtain ⟨last, next⟩ := (step_cases step).later later.there (undisturbed.still step)
  exact ⟨last, later.trans next⟩

/-- **Every byte of an object is `0` or what `shmwrite` puts there**, and `shmread` reports bytes
that were `0`, in their order. While nobody changes the length of an object, what has been filled
stays filled; a `shmwrite` that exits has filled it, and then `shmread` has nothing to report. -/
theorem tools_fill (reachable : (machine page command junk).Reachable Anything s) :
    (∀ name k, s.shm.name name = some k → ∃ segment, s.shm.get k = some segment) ∧
    (∀ k segment, s.shm.get k = some segment → ∀ i, Byte i (segment.bytes i)) ∧
    (∀ p, Reports (s.stderr p)) ∧
    ∀ k segment s', s.shm.get k = some segment →
      (machine page command junk).Reaches (Undisturbed k) s s' →
      ∃ segment', s'.shm.get k = some segment' ∧ segment'.length = segment.length ∧
        (segment.Full → segment'.Full) ∧
        ∀ p, (s.pc p = .fstat false (some k) → s'.pc p = .exited → segment'.Full) ∧
          (segment.Full → s.pc p = .fstat true (some k) → s'.stderr p = []) := by
  have kept := kept_of_reachable reachable
  refine ⟨fun name k leads => Option.isSome_iff_exists.mp (kept.bytes.names name k leads),
    kept.bytes.objects, fun p => (kept.did p).reports, ?_⟩
  intro k segment s' there reaches
  obtain ⟨segment', later⟩ := later_of_reaches there reaches
  refine ⟨segment', later.there, later.length, later.full, fun p => ⟨?_, ?_⟩⟩
  · intro opened exited
    have wrote := later.wrote p (by rw [opened]; exact ⟨rfl, rfl⟩)
    rw [exited] at wrote
    exact wrote
  · intro full opened
    have did := kept.did p
    rw [opened] at did
    have checked := later.checked p full (by rw [opened]; exact ⟨rfl, rfl⟩)
    exact checked.2.trans did

/-- `shmcreate` makes an object of two bytes; a `shmread` that comes too early reports the byte that
is `0`, and a `shmwrite` fills the object. -/
theorem tools_fill_twoBytes :
    let command : ℕ → Command Bool := fun p =>
      if p = 0 then .shmcreate true true 2 else if p = 1 then .shmwrite true else .shmread true
    ∃ s s', (machine 4 command fun _ => 0).Reachable Anything s ∧
      (machine 4 command fun _ => 0).run s
        (List.replicate 5 (.run 2) ++ List.replicate 4 (.run 1)) = some s' ∧
      s'.stderr 2 = [⟨1, 0⟩] ∧
      ∃ segment', s'.shm.get 0 = some segment' ∧ segment'.length = 2 ∧ segment'.Full := by
  intro command
  let s : State Bool ℕ := (machine 4 command fun _ => 0).after [.run 0, .run 0, .run 1]
  have reachable : (machine 4 command fun _ => 0).Reachable Anything s :=
    Machine.reachable_after rfl (Machine.admitted_anything _ _)
  have ends : ((machine 4 command fun _ => 0).run s
      (List.replicate 5 (.run 2) ++ List.replicate 4 (.run 1))).map
        (fun s' => (s'.stderr 2, s'.pc 1)) = some ([⟨1, 0⟩], .exited) := by decide
  obtain ⟨s', ran, printed⟩ := Option.map_eq_some_iff.mp ends
  obtain ⟨segment', there', length, _, programs⟩ := (tools_fill reachable).2.2.2 0 _ s' rfl
    (Machine.reaches_of_run ran (by decide))
  exact ⟨s, s', reachable, ran, congrArg Prod.fst printed, segment', there', length,
    (programs 1).1 rfl (congrArg Prod.snd printed)⟩

end Unpvol2.Shm.Tools
