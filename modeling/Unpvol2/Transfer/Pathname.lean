/-
**The pathname that the server of `spipe` opens.**

The server stores a NUL at `buf[rnum-1]`, in the place of the newline that it takes the last byte of
its `read` for. Its `read` may return less than the client has sent, or 0 where the client has found
its standard input empty and ended, and what the client has sent need not end in a newline.

* `Named` — the index is inside `buf`, and the server opens what the client has sent, without the
  newline at its end.
* `Delivers` — the server's `read` returns all that the client has sent, a line without NUL.
* `named_iff` — **in exactly the runs whose request is delivered so, the server does what it
  should**, whatever is on the standard input and however the reads and writes are split up.
-/

import Unpvol2.Transfer.Carried

namespace Unpvol2.Transfer

open C Interleaving

/-! ### The statement -/

/-- The bytes up to a newline at their end. -/
def withoutNewline (sent : List Char) : List Char :=
  if sent.getLast? = some '\n' then sent.dropLast else sent

/-- One line, that a string can hold. -/
def Line (sent : List Char) : Prop := sent.getLast? = some '\n' ∧ nul ∉ sent

instance (sent : List Char) : Decidable (Line sent) := inferInstanceAs (Decidable (_ ∧ _))

/-- What the client sends to the server is what its `read` of the standard input returns. -/
def State.sends (s : State) (sent : List Char) : Act → List Char
  | .client n => if s.client.pc = .read then s.stdin.take n else sent
  | .server _ => sent

section Programs

variable (files : List Char → Option (List Char)) (capacity : Process → ℕ)
  (buf : Process → Buffer 512) (line : List Char)

/-- `spipe`, and what the client sends. -/
def spipeSent : Machine (State × List Char) Act :=
  (spipe files capacity buf line).watched [] fun sent s action _ => s.sends sent action

end Programs

/-- **The server handles what the client has sent.** -/
structure Named (s : State × List Char) : Prop where
  /-- `rnum-1`, before `buf[rnum-1] = '\0'` -/
  index : s.1.server.pc = .terminate →
    0 ≤ (s.1.server.rnum : ℤ) - 1 ∧ (s.1.server.rnum : ℤ) - 1 ≤ 511
  /-- the pathname after it -/
  stored : s.1.server.pc = .terminate → s.1.server.terminated.str = withoutNewline s.2
  /-- the pathname at `open` -/
  opened : s.1.server.pc = .openFile → s.1.server.buf.str = withoutNewline s.2

/-- **The server's `read` of the request returns all the bytes that the client has sent**, and they
are one line. -/
def Delivers (s : State × List Char) : Act → Prop
  | .client _ => True
  | .server n => s.1.server.pc = .request → (s.1.p1.read 512 n).isSome = true →
      n = s.2.length ∧ Line s.2

instance (s : State × List Char) : DecidablePred (Delivers s)
  | .client _ => isTrue trivial
  | .server _ => inferInstanceAs (Decidable (_ → _))

/-! ### The string in `buf` -/

theorem nul_not_mem_of_untilNul {text : List Char} (same : untilNul text = text) : nul ∉ text := by
  intro member
  unfold untilNul at same
  have fine := List.takeWhile_eq_self_iff.mp same nul member
  simp at fine

theorem Line.clean {sent : List Char} (line : Line sent) : nul ∉ withoutNewline sent := by
  rw [withoutNewline, if_pos line.1]
  exact fun member => line.2 (List.dropLast_subset _ member)

/-- **The first `n` bytes name the file if and only if they are all of a line.** -/
theorem untilNul_dropLast_iff {sent : List Char} {n : ℕ} (positive : 0 < n)
    (there : n ≤ sent.length) :
    untilNul (sent.take n).dropLast = withoutNewline sent ↔ n = sent.length ∧ Line sent := by
  constructor
  · intro named
    have short : (withoutNewline sent).length ≤ n - 1 := by
      rw [← named]
      refine (length_untilNul_le _).trans ?_
      rw [List.length_dropLast, List.length_take]
      omega
    have last : sent.getLast? = some '\n' := by
      by_contra open_
      have whole : withoutNewline sent = sent := if_neg open_
      rw [whole] at short
      omega
    have cut : withoutNewline sent = sent.dropLast := if_pos last
    rw [cut] at short named
    rw [List.length_dropLast] at short
    have all : n = sent.length := by omega
    rw [all, List.take_length] at named
    refine ⟨all, last, fun member => nul_not_mem_of_untilNul named ?_⟩
    rw [← List.dropLast_append_getLast? '\n' last] at member
    refine (List.mem_append.mp member).resolve_right fun newline => ?_
    exact absurd (List.mem_singleton.mp newline) (by decide)
  · rintro ⟨rfl, line⟩
    have cut : withoutNewline sent = sent.dropLast := if_pos line.1
    rw [List.take_length, ← cut]
    exact untilNul_eq_self line.clean

/-! ### The way of the request -/

/-- What holds of the request in the runs that deliver it. -/
structure Sending (s : State × List Char) : Prop where
  unsent : s.1.client.pc.asked = false → s.2 = []
  /-- in the first pipe and on its way there -/
  request : s.1.server.pc.early = true → s.1.p1.data ++ s.1.client.asking <+: s.2
  got : s.1.server.pc = .terminate → s.1.server.rnum = s.2.length ∧ s.1.server.rnum ≤ 512 ∧
    s.1.server.buf.bytes.take s.1.server.rnum = s.2
  opened : s.1.server.pc = .openFile → s.1.server.buf.str = withoutNewline s.2
  line : s.1.server.pc = .terminate ∨ s.1.server.pc = .openFile → Line s.2

theorem Line.ne_nil {sent : List Char} (line : Line sent) : sent ≠ [] := by
  rintro rfl
  cases line.1

theorem Sending.named {s : State × List Char} (sending : Sending s) : Named s := by
  have got : s.1.server.pc = .terminate → 0 < s.1.server.rnum ∧ s.1.server.rnum ≤ 512 := by
    intro here
    obtain ⟨all, short, _⟩ := sending.got here
    exact ⟨all ▸ List.length_pos_iff.mpr (sending.line (.inl here)).ne_nil, short⟩
  refine ⟨fun here => ?_, fun here => ?_, sending.opened⟩
  · have rnum := got here
    omega
  · obtain ⟨all, _, bytes⟩ := sending.got here
    have line := sending.line (.inl here)
    have positive := (got here).1
    rw [terminated_str line.ne_nil bytes all.symm]
    have named := (untilNul_dropLast_iff positive (Nat.le_of_eq all)).mpr ⟨all, line⟩
    rwa [all, List.take_length] at named

section Steps

variable {files : List Char → Option (List Char)} {s s' : State} {sent sent' : List Char}

/-- The client moves, and has already read what it sends. -/
theorem Sending.client (sending : Sending (s, sent)) (server : s'.server = s.server)
    (unread : s'.client.pc.asked = false → s.client.pc.asked = false)
    (request : s.server.pc.early = true →
      s'.p1.data ++ s'.client.asking <+: s.p1.data ++ s.client.asking) :
    Sending (s', sent) where
  unsent := fun asked => sending.unsent (unread asked)
  request := fun early => by
    rw [server] at early
    exact (request early).trans (sending.request early)
  got := fun here => by
    rw [server] at here ⊢
    exact sending.got here
  opened := fun here => by
    rw [server] at here ⊢
    exact sending.opened here
  line := fun here => by
    rw [server] at here
    exact sending.line here

/-- The server moves, after it has opened the file. -/
theorem Sending.served (sending : Sending (s, sent))
    (unread : s'.client.pc.asked = false → s.client.pc.asked = false)
    (late : s'.server.pc.early = false) (before : s'.server.pc ≠ .terminate)
    (opened : s'.server.pc ≠ .openFile) : Sending (s', sent) where
  unsent := fun asked => sending.unsent (unread asked)
  request := fun early => absurd (late.symm.trans early) Bool.false_ne_true
  got := fun here => absurd here before
  opened := fun here => absurd here opened
  line := fun here => absurd here (not_or.mpr ⟨before, opened⟩)

/-- The server's `read` of the request returns the beginning of what the client sends. -/
theorem Sending.read {n : ℕ} {bytes : List Char} {p1 : Pipe Process Char}
    (sending : Sending (s, sent)) (here : s.server.pc = .request)
    (moved : s.p1.read 512 n = some (bytes, p1)) :
    bytes = sent.take n ∧ bytes.length = n ∧ n ≤ 512 ∧ n ≤ sent.length := by
  obtain ⟨data, length, short⟩ := Pipe.read_some moved
  have before : bytes <+: sent := by
    refine List.IsPrefix.trans ?_ (sending.request (by rw [here]; rfl))
    show bytes <+: s.p1.data ++ s.client.asking
    rw [data, List.append_assoc]
    exact List.prefix_append _ _
  have cut := List.prefix_iff_eq_take.mp before
  rw [length] at cut
  exact ⟨cut, length, short, length ▸ before.length_le⟩

/-- The client reads what it is going to send, while the first pipe is still empty. -/
theorem Sending.clientRead (sending : Sending (s, sent)) {n : ℕ} (here : s.client.pc = .read)
    (short : n ≤ 512) (rest : List Char) :
    Sending ({ s.clientFill .request (s.stdin.take n) with stdin := rest }, s.stdin.take n) := by
  have unsent : sent = [] := sending.unsent (by rw [here]; rfl)
  have unlined : ¬ Line sent := fun line => line.ne_nil unsent
  refine ⟨nofun, fun early => ?_, fun now => ?_, fun now => ?_, fun now => ?_⟩
  · have empty : s.p1.data = [] := by
      have before := sending.request early
      rw [unsent, List.prefix_nil] at before
      exact (List.append_eq_nil_iff.mp before).1
    have left : (s.clientFill .request (s.stdin.take n)).client.left = s.stdin.take n :=
      left_clientFill s .request (by rw [List.length_take]; omega)
    show s.p1.data ++ (s.clientFill .request (s.stdin.take n)).client.left <+: _
    rw [empty, left]
    exact List.prefix_refl _
  · exact absurd (sending.line (.inl now)) unlined
  · exact absurd (sending.line (.inr now)) unlined
  · exact absurd (sending.line now) unlined

/-- The server has read all that the client sends. -/
theorem Sending.serverRequest {n : ℕ} {bytes : List Char} {p1 : Pipe Process Char}
    (sending : Sending (s, sent)) (here : s.server.pc = .request)
    (moved : s.p1.read 512 n = some (bytes, p1)) (all : n = sent.length) (line : Line sent) :
    Sending ({ s with
      p1 := p1
      server := { s.server with
        pc := .terminate
        buf := s.server.buf.overwrite bytes
        rnum := n } }, sent) := by
  obtain ⟨read, length, short, _⟩ := sending.read here moved
  rw [all, List.take_length] at read
  refine ⟨sending.unsent, nofun, fun _ => ⟨all, short, ?_⟩, nofun, fun _ => line⟩
  show (s.server.buf.overwrite bytes).bytes.take n = sent
  rw [← length, Buffer.take_overwrite _ (length.trans_le short), read]

/-- **Every step of a delivered request keeps it.** -/
theorem Sending.step {action : Act} (sending : Sending (s, sent))
    (delivers : Delivers (s, sent) action) (step : Step files s action s') :
    Sending (s', s.sends sent action) := by
  have kept : ∀ n, s.client.pc ≠ .read → s.sends sent (.client n) = sent :=
    fun _ away => if_neg away
  have same : s.p1.data ++ [] <+: s.p1.data ++ s.client.asking :=
    (List.prefix_append_right_inj _).mpr List.nil_prefix
  cases step with
  | closeRequest here =>
    rw [kept 0 (by rw [here]; exact nofun)]
    exact sending.client rfl (fun _ => by rw [here]; rfl) fun _ => same
  | closeReply here =>
    rw [kept 0 (by rw [here]; exact nofun)]
    exact sending.client rfl (fun _ => by rw [here]; rfl) fun _ => same
  | readEnd here empty =>
    have unsent : sent = [] := sending.unsent (by rw [here]; rfl)
    have sends : s.sends sent (.client 0) = sent := by
      rw [unsent]
      exact if_pos here
    rw [sends]
    exact sending.client rfl nofun fun _ => same
  | @read n here positive short there =>
    have sends : s.sends sent (.client n) = s.stdin.take n := if_pos here
    rw [sends]
    exact sending.clientRead here short (s.stdin.drop n)
  | eof here | requestBroken here | receiveEnd here =>
    rw [kept 0 (by rw [here]; exact nofun)]
    exact sending.client rfl nofun fun _ => same
  | @request n p1 here whole moved =>
    rw [kept n (by rw [here]; exact nofun)]
    refine sending.client rfl
      (fun asked => absurd asked ?_) fun _ => ?_
    · exact clientWrote_pc s n (P := fun pc => pc.asked ≠ false) nofun (by rw [here]; exact nofun)
    · have asking : (s.clientWrote n .receive).client.asking = s.client.left.drop n :=
        clientWrote_left s n here nofun
      have before : s.client.asking = s.client.left := if_pos here
      show p1.data ++ (s.clientWrote n .receive).client.asking <+: _
      rw [(Pipe.write_some moved).1, asking, before, List.append_assoc, List.take_append_drop]
  | @receive n bytes p2 here nonzero moved =>
    rw [kept n (by rw [here]; exact nofun)]
    exact sending.client rfl nofun fun _ => same
  | @print n here positive there =>
    rw [kept n (by rw [here]; exact nofun)]
    refine sending.client rfl
      (fun asked => absurd asked ?_) fun _ => ?_
    · exact clientWrote_pc s n (P := fun pc => pc.asked ≠ false) nofun (by rw [here]; exact nofun)
    · have away : (s.clientWrote n .receive).client.pc ≠ .request :=
        clientWrote_pc s n (P := (· ≠ .request)) (fun same => by cases same)
          (by rw [here]; exact nofun)
      have asking : (s.clientWrote n .receive).client.asking = [] := if_neg away
      show s.p1.data ++ (s.clientWrote n .receive).client.asking <+: _
      rw [asking]
      exact same
  | serverCloseRequest here | serverCloseReply here =>
    exact ⟨sending.unsent, fun _ => sending.request (by rw [here]; rfl), nofun, nofun,
      fun now => by rcases now with now | now <;> cases now⟩
  | @serverRequest n bytes p1 here moved =>
    obtain ⟨all, line⟩ := delivers here (Option.isSome_of_mem moved)
    exact sending.serverRequest here moved all line
  | terminate here =>
    have named := sending.named.stored here
    exact ⟨sending.unsent, nofun, nofun, fun _ => named, fun _ => sending.line (.inl here)⟩
  | openError | openFile | serverReadEnd | serverRead | close | serverBroken | waitpid =>
    exact sending.served id rfl nofun nofun
  | @error n p2 here whole moved =>
    exact sending.served id
      (serverWrote_pc s n (P := fun pc => pc.early = false) rfl (by rw [here]; rfl))
      (serverWrote_pc s n (P := (· ≠ .terminate)) nofun (by rw [here]; exact nofun))
      (serverWrote_pc s n (P := (· ≠ .openFile)) nofun (by rw [here]; exact nofun))
  | @send n p2 here whole moved =>
    exact sending.served id
      (serverWrote_pc s n (P := fun pc => pc.early = false) rfl (by rw [here]; rfl))
      (serverWrote_pc s n (P := (· ≠ .terminate)) nofun (by rw [here]; exact nofun))
      (serverWrote_pc s n (P := (· ≠ .openFile)) nofun (by rw [here]; exact nofun))

end Steps

/-! ### The result -/

section Result

variable {files : List Char → Option (List Char)} {capacity : Process → ℕ}
  {buf : Process → Buffer 512} {line : List Char}

theorem sending_of_reachable {s : State × List Char}
    (reachable : (spipeSent files capacity buf line).Reachable
      (fun s action => Anything s action ∧ Delivers s action) s) : Sending s := by
  refine reachable.induct ⟨fun _ => rfl, fun _ => List.prefix_refl _, nofun, nofun,
    fun now => by rcases now with now | now <;> cases now⟩ ?_
  rintro ⟨s, sent⟩ action ⟨s', sent'⟩ _ sending ⟨_, delivers⟩ watched
  obtain ⟨step, note⟩ := Machine.watched_step watched
  dsimp only at step note
  rw [note]
  exact sending.step delivers (step_iff.mp step)

/-- **The server stores the NUL inside `buf` and opens what the client has sent, without its
newline, in exactly the runs in which its `read` returns all that the client has sent, and that is
one line without NUL.** -/
theorem named_iff {actions : List Act} :
    (spipeSent files capacity buf line).Along Named (spipeSent files capacity buf line).init
        actions ↔
      (spipeSent files capacity buf line).Admitted Delivers
        (spipeSent files capacity buf line).init actions := by
  refine Machine.along_iff_admitted (fun s reachable => (sending_of_reachable reachable).named) ?_
    (Machine.admitted_anything _ actions)
  rintro ⟨s, sent⟩ action reachable _ named
  have sending := sending_of_reachable reachable
  cases action with
  | client n => trivial
  | server n =>
    intro here possible
    dsimp only at here possible ⊢
    obtain ⟨⟨bytes, p1⟩, moved⟩ := Option.isSome_iff_exists.mp possible
    obtain ⟨read, length, short, there⟩ := sending.read here moved
    have step : (spipe files capacity buf line).step s (.server n) = some _ :=
      step_iff.mpr (.serverRequest here moved)
    have named := named _ (Machine.step_watched sent step)
    have index := (named.index rfl).1
    have positive : 0 < n := by
      change 0 ≤ (n : ℤ) - 1 at index
      omega
    refine (untilNul_dropLast_iff positive there).mp ?_
    rw [← read]
    refine Eq.trans (Eq.symm ?_) (named.stored rfl)
    refine terminated_str (List.ne_nil_of_length_pos (length ▸ positive)) ?_ length
    show (s.server.buf.overwrite bytes).bytes.take n = bytes
    rw [← length, Buffer.take_overwrite _ (length.trans_le short)]

end Result

/-- The client finds its standard input empty and ends, and the server's `read` returns 0. -/
def nothing : List Act :=
  [.client 0, .client 0, .client 0, .client 0, .server 0, .server 0, .server 0]

/-- `spipe` where there is no file. -/
def fileless : List Char → Machine (State × List Char) Act :=
  spipeSent (fun _ => none) (fun _ => 4096) (fun _ => Buffer.filled nul)

/-- **With an empty standard input the NUL is stored before `buf`.** -/
theorem stored_before_buf : ¬ ∀ (line : List Char) (s : State × List Char),
    (fileless line).Reachable Anything s → Named s := by
  intro named
  have reachable : (fileless []).Reachable Anything ((fileless []).after nothing) :=
    Machine.reachable_after (by decide) (by decide)
  exact absurd ((named [] _ reachable).index (by decide)).1 (by decide)

end Unpvol2.Transfer
