/-
**Whether a client gets the file it asked for.**

`client` cuts its request to 64 bytes and does not look at what `snprintf` returns, and the servers
scan the pathname as one word. Neither end reports anything, so a pathname that is too long or has
white space in it is understood as another one.

* `assigned_iff`, `scan_iff` — the request is scanned as the client meant it exactly if its pathname
  is one word and fits.
* `carried_iff` — **what 64 bytes can carry**, and the name of the client's FIFO from it.
* `understood_iff` — **exactly such requests are understood by `server`, `servern` and
  `serverfork`**; a server that understands a request opens no other file.
-/

import Unpvol2.Snc.Loop
import Unpvol2.Snc.Serverfork

namespace Unpvol2.Snc

open C Interleaving

/-! ### `server` -/

namespace Server

open Loop

/-- `server` makes one round of the loop of `servern`: after the `close`s it deletes its FIFO and
ends. -/
def step (s : State) (action : Act) : Option State :=
  match s.pc, action with
  | .closeClient, .closeClient => some { s with pc := .exited }
  | _, _ => s.step action

/-- `server`, from what is on its stack. -/
def machine (stack : Servern.Stack) : Machine State Act := ⟨start stack, step⟩

/-- Until then it does what `servern` does. -/
theorem step_read {s : State} {bytes behind : List Char} :
    step s (.read bytes behind) = s.step (.read bytes behind) := by
  unfold step
  split
  · cases ‹Act.read bytes behind = .closeClient›
  · rfl

end Server

/-! ### What a request says -/

/-- A client there can be: it has a process id, and names a file. -/
structure Args.Valid (x : Args) : Prop where
  positive : 0 < x.pid
  small : x.pid < 2 ^ 31
  nonempty : x.pathname ≠ []
  string : nul ∉ x.pathname

/-- The pathname is one word, and the request fits into 64 bytes. -/
def Args.Clear (x : Args) : Prop :=
  (∀ c ∈ x.pathname, isspace c = false) ∧ (decimal x.pid).length + 1 + x.pathname.length ≤ 63

instance (x : Args) : Decidable x.Clear := inferInstanceAs (Decidable (_ ∧ _))

section Scan

variable {x : Args}

theorem length_decimal_le {n : ℕ} (small : n < 2 ^ 31) : (decimal n).length ≤ 10 :=
  (Nat.length_toDigits_le_iff (by decide) (by decide)).mpr (by omega)

/-- The process id always fits, and as much of the pathname as there is room for. -/
theorem request_str (small : x.pid < 2 ^ 31) (string : nul ∉ x.pathname) :
    x.request.str = decimal x.pid ++ ' ' :: x.pathname.take (62 - (decimal x.pid).length) := by
  have short := length_decimal_le small
  have whole : untilNul x.pathname = x.pathname := untilNul_eq_self string
  have ended : nul ∉ decimal x.pid ++ ' ' :: x.pathname := by
    intro member
    rcases List.mem_append.mp member with digit | word
    · exact nul_not_mem_decimal _ digit
    · rcases List.mem_cons.mp word with blank | inside
      · exact absurd blank (by decide)
      · exact string inside
  unfold Args.request
  rw [printInt_natCast, whole, Buffer.str_snprintf_take _ ended, List.take_append,
    List.take_of_length_le (by omega)]
  obtain ⟨room, enough⟩ : ∃ room, 63 - (decimal x.pid).length = room + 1 :=
    ⟨62 - (decimal x.pid).length, by omega⟩
  rw [enough, List.take_succ_cons, show 62 - (decimal x.pid).length = room by omega]

/-- **Both variables get what was printed exactly if the pathname is there and the request is
clear.** -/
theorem assigned_iff (small : x.pid < 2 ^ 31) (string : nul ∉ x.pathname) :
    scanIntWord x.request.str = (some (x.pid : ℤ), some x.pathname) ↔
      x.pathname ≠ [] ∧ x.Clear := by
  have short := length_decimal_le small
  constructor
  · intro scanned
    have word : scanWord (' ' :: x.pathname.take (62 - (decimal x.pid).length)) =
        some x.pathname := by
      unfold scanIntWord at scanned
      rw [request_str small string, scanInt_decimal small] at scanned
      exact (Prod.mk.inj scanned).2
    obtain ⟨solid, length⟩ := scanWord_some word
    have nonempty : x.pathname ≠ [] := scanWord_ne_nil word
    have skipped := (List.dropWhile_sublist isspace
      (l := x.pathname.take (62 - (decimal x.pid).length))).length_le
    rw [List.dropWhile_cons_of_pos (by decide)] at length
    rw [List.length_take] at skipped
    have some := List.length_pos_of_ne_nil nonempty
    exact ⟨nonempty, solid, by omega⟩
  · rintro ⟨nonempty, solid, room⟩
    rw [request_str small string, List.take_of_length_le (by omega)]
    exact scanIntWord_print small nonempty solid

/-- **A request is scanned as it was meant exactly if it is clear.** -/
theorem scan_iff (valid : x.Valid) :
    (∀ cpid pathname, scanRequest x.request cpid pathname = x.key) ↔ x.Clear := by
  have assigned := assigned_iff valid.small valid.string
  constructor
  · intro scanned
    refine (assigned.mp ?_).2
    have number := (Prod.mk.inj (scanned (x.pid + 1) [])).1
    have word := (Prod.mk.inj (scanned 0 [])).2
    refine Prod.ext ?_ ?_
    · cases first : (scanIntWord x.request.str).1 with
      | none =>
        rw [first] at number
        have number : (x.pid : ℤ) + 1 = x.pid := number
        omega
      | some n =>
        rw [first] at number
        exact congrArg some number
    · cases second : (scanIntWord x.request.str).2 with
      | none =>
        rw [second] at word
        exact absurd word.symm valid.nonempty
      | some text =>
        rw [second] at word
        exact congrArg some word
  · intro clear cpid pathname
    unfold scanRequest
    rw [assigned.mpr ⟨valid.nonempty, clear⟩]
    rfl

/-- **The 64 bytes carry exactly the requests that are clear**: `sscanf` assigns both variables
and gives them the process id and the pathname if and only if there is a pathname, it is one word,
and both fit; and the server then makes the name of the FIFO that the client has made. -/
theorem carried_iff (small : x.pid < 2 ^ 31) (string : nul ∉ x.pathname) :
    (scanIntWord x.request.str = (some (x.pid : ℤ), some x.pathname) ↔
      x.pathname ≠ [] ∧ x.Clear) ∧
      (x.pathname ≠ [] ∧ x.Clear → ∀ cpid pathname serverBuf clientfifo,
        (clientFifoBuf serverBuf (scanRequest x.request cpid pathname).1).str =
          (clientFifoBuf clientfifo x.pid).str) := by
  have assigned := assigned_iff small string
  refine ⟨assigned, fun carried cpid pathname serverBuf clientfifo => ?_⟩
  unfold scanRequest
  rw [assigned.mpr carried]
  show (clientFifoBuf serverBuf x.pid).str = _
  rw [clientFifoBuf_str (by omega) (by omega), clientFifoBuf_str (by omega) (by omega)]

/-- A client that names the file "f". -/
def oneWord : Args := ⟨1, "f".toList, Buffer.filled nul⟩

theorem carried_iff_oneWord :
    scanIntWord oneWord.request.str = (some 1, some "f".toList) ↔
      oneWord.pathname ≠ [] ∧ oneWord.Clear :=
  (carried_iff (x := oneWord) (by decide) (by decide)).1

end Scan

/-! ### The three servers -/

/-- The server has taken the request for what it is. -/
def Args.Taken (x : Args) (cpid : ℤ) (pathname : List Char) : Prop :=
  cpid = x.pid ∧ pathname = x.pathname

/-- **Each server that reads the request acts on its process id and its pathname**, whatever it has
done before. -/
structure Understood (x : Args) : Prop where
  server : ∀ stack s, (Server.machine stack).Reachable Anything s → ∀ behind t,
    Server.step s (.read x.request.bytes behind) = some t → x.Taken t.cpid t.pathname
  servern : ∀ stack s, (Loop.machine stack).Reachable Anything s → ∀ behind t,
    s.step (.read x.request.bytes behind) = some t → x.Taken t.cpid t.pathname
  /-- `serverfork` reads the request and forks, and the child scans it. -/
  serverfork : ∀ {ι : Type} [DecidableEq ι] files stack (args : ι → Args)
    (s s' : Serverfork.State ι), s.server.pc = .read → x.request.bytes <+: s.fifo.data →
    (Serverfork.machine files stack args).run s [.server, .server, .child s.children.length] =
      some s' →
    ∃ child, s'.children[s.children.length]? = some child ∧ x.Taken child.cpid child.pathname

section Understood

variable {x : Args}

/-- What follows a request in memory does not matter. -/
theorem scan_behind (s : Loop.State) (behind : List Char) :
    s.scan x.request.bytes behind =
      ⟨.closeServer, x.request, (scanRequest x.request s.cpid s.pathname).1,
        (scanRequest x.request s.cpid s.pathname).2⟩ := by
  have ended : nul ∈ x.request.bytes := Buffer.nul_mem_snprintf _ _
  have scanned : s.scanned x.request.bytes behind = scanIntWord x.request.str := by
    unfold Loop.State.scanned Buffer.str
    rw [Buffer.overwrite_full, untilNul_append_of_mem ended]
  have fits := Loop.State.fits_of_length scanned x.request.length_str_le
  unfold Loop.State.scan
  rw [fits, scanned, Buffer.overwrite_full]
  rfl

theorem read_request {s t : Loop.State} {behind : List Char}
    (step : s.step (.read x.request.bytes behind) = some t) :
    (t.cpid, t.pathname) = scanRequest x.request s.cpid s.pathname := by
  obtain ⟨pc, buf, cpid, pathname⟩ := s
  cases pc <;> simp only [Loop.State.step, Option.ite_none_right_eq_some, Option.some.injEq,
    reduceCtorEq] at step
  obtain ⟨_, rfl⟩ := step
  rw [scan_behind]

/-- The server is about to read, with anything on its stack. -/
theorem reachable_read (stack : Servern.Stack) :
    (Loop.machine stack).Reachable Anything ⟨.read, stack.buf, stack.cpid, stack.pathname⟩ := by
  have ran : (Loop.machine stack).run (Loop.machine stack).init [.openServer true] =
      some ⟨.read, stack.buf, stack.cpid, stack.pathname⟩ := rfl
  exact Machine.reaches_of_run ran (Machine.admitted_anything _ _)

/-- **What the child scans is the request the server has read.** -/
theorem fork_request {ι : Type} [DecidableEq ι] {files : List Char → Option (List Char)}
    {stack : Servern.Stack} {args : ι → Args} {s s' : Serverfork.State ι}
    (here : s.server.pc = .read) (asked : x.request.bytes <+: s.fifo.data)
    (ran : (Serverfork.machine files stack args).run s
      [.server, .server, .child s.children.length] = some s') :
    ∃ child, s'.children[s.children.length]? = some child ∧
      (child.cpid, child.pathname) = scanRequest x.request s.server.cpid s.server.pathname := by
  obtain ⟨rest, data⟩ := asked
  have bytes : s.fifo.data.take 64 = x.request.bytes := by
    rw [← data]
    exact List.take_left' x.request.length_eq
  have some : x.request.bytes ≠ [] := by
    intro none
    have length := x.request.length_eq
    rw [none] at length
    cases length
  obtain ⟨read, step, ran⟩ := Option.bind_eq_some_iff.mp ran
  have step : s.serverStep = Option.some read := step
  unfold Serverfork.State.serverStep at step
  simp only [here, bytes, ne_eq, some, not_false_eq_true, if_true, Option.some.injEq,
    Buffer.overwrite_full] at step
  subst step
  obtain ⟨forked, step, ran⟩ := Option.bind_eq_some_iff.mp ran
  cases step
  obtain ⟨scanned, step, ran⟩ := Option.bind_eq_some_iff.mp ran
  cases ran
  obtain ⟨child, found, call⟩ := Option.bind_eq_some_iff.mp step
  have new : (s.children ++ [(⟨.scan, x.request, s.server.cpid, s.server.pathname, []⟩ :
      Serverfork.Child)])[s.children.length]? = Option.some child := found
  rw [List.getElem?_concat_length] at new
  cases new
  cases call
  refine ⟨_, List.getElem?_set_self ?_, rfl⟩
  show s.children.length < (s.children ++ [_]).length
  rw [List.length_append]
  exact Nat.lt_succ_self _

/-- **The servers understand exactly the requests that are clear.** -/
theorem understood_iff (valid : x.Valid) : Understood x ↔ x.Clear := by
  rw [← scan_iff valid]
  constructor
  · intro understood cpid pathname
    have reachable := reachable_read ⟨x.request, cpid, pathname⟩
    have step : Loop.State.step ⟨.read, x.request, cpid, pathname⟩ (.read x.request.bytes []) =
        some (Loop.State.scan ⟨.read, x.request, cpid, pathname⟩ x.request.bytes []) :=
      if_pos (Nat.le_of_eq x.request.length_eq)
    obtain ⟨pid, name⟩ := understood.servern _ _ reachable [] _ step
    rw [scan_behind] at pid name
    exact Prod.ext pid name
  · intro scanned
    have taken : ∀ s t : Loop.State, ∀ behind,
        s.step (.read x.request.bytes behind) = some t → x.Taken t.cpid t.pathname := by
      intro s t behind step
      have read := read_request step
      rw [scanned] at read
      exact Prod.mk.inj read
    refine ⟨fun stack s _ behind t step => ?_, fun stack s _ behind t step => ?_, ?_⟩
    · rw [Server.step_read] at step
      exact taken s t behind step
    · exact taken s t behind step
    · intro ι _ files stack args s s' here asked ran
      obtain ⟨child, found, read⟩ := fork_request here asked ran
      rw [scanned] at read
      exact ⟨child, found, Prod.mk.inj read⟩

end Understood

theorem understood_iff_oneWord : oneWord.Valid ∧ (Understood oneWord ↔ oneWord.Clear) :=
  have valid : oneWord.Valid := ⟨by decide, by decide, by decide, by decide⟩
  ⟨valid, understood_iff valid⟩

/-- A client that names the file "a b". -/
def twoWords : Args := ⟨1, "a b".toList, Buffer.filled nul⟩

/-- **The servers open "a"** for a client that has named "a b". -/
theorem other_file : ¬ ∀ x : Args, x.Valid → Understood x := by
  intro understood
  have valid : twoWords.Valid := ⟨by decide, by decide, by decide, by decide⟩
  have step : Loop.State.step ⟨.read, Buffer.filled nul, 0, []⟩ (.read twoWords.request.bytes []) =
      some ⟨.closeServer, twoWords.request, 1, "a".toList⟩ := by decide
  have taken := (understood twoWords valid).servern ⟨Buffer.filled nul, 0, []⟩ _
    (reachable_read _) [] _ step
  exact absurd taken.2 (by decide)

end Unpvol2.Snc
