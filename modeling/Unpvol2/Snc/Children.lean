/-
**How many requests `serverfork` can serve.**

The server forks a child for every request and never waits for one: its `wait(NULL)` is behind a
loop without an end, and what `fork` returns is compared with zero only. So the children that have
exited count against the limit of the process as the running ones do.

* `Limited limit` — `fork` returns -1 exactly when the process has `limit` children, running or not.
* `Handed` — every record that was read has a child that was given it, or is in `buf` for the
  `fork` that comes next.
* `handed_iff` — **the server hands on the first `limit` records and drops the others**, however
  few children are running when it reads.
-/

import Unpvol2.Snc.Answers

set_option linter.unusedSectionVars false

namespace Unpvol2.Snc.Serverfork

open C Interleaving
open Servern (Stack)

variable {ι : Type} [DecidableEq ι]

/-! ### The limit -/

/-- The children that have not exited. -/
def State.running (s : State ι) : ℕ := s.children.countP fun x => decide (x.pc ≠ .exited)

/-- `fork` returns -1 when the process has `limit` children that it has not waited for. -/
def Limited (limit : ℕ) (s : State ι) : Act ι → Prop
  | .server => s.server.pc = .fork → s.children.length < limit
  | .forkFails => limit ≤ s.children.length
  | .client _ | .child _ => True

/-- Fewer than `limit` children are running when a request is read. -/
def Unhurried (limit : ℕ) (s : State ι) : Act ι → Prop
  | .server => s.server.pc = .read → s.fifo.data ≠ [] → s.running < limit
  | .forkFails | .client _ | .child _ => True

/-- `fork` is called for one of the first `limit` records. -/
def Early (limit : ℕ) (s : State ι) : Act ι → Prop
  | .server | .forkFails => s.server.pc = .fork → s.reads.length ≤ limit
  | .client _ | .child _ => True

instance (limit : ℕ) (s : State ι) : ∀ action, Decidable (Limited limit s action)
  | .server => inferInstanceAs (Decidable (_ → _))
  | .forkFails => inferInstanceAs (Decidable (_ ≤ _))
  | .client _ | .child _ => inferInstanceAs (Decidable True)

instance (limit : ℕ) (s : State ι) : ∀ action, Decidable (Unhurried limit s action)
  | .server => inferInstanceAs (Decidable (_ → _ → _))
  | .forkFails | .client _ | .child _ => inferInstanceAs (Decidable True)

instance (limit : ℕ) (s : State ι) : ∀ action, Decidable (Early limit s action)
  | .server | .forkFails => inferInstanceAs (Decidable (_ → _))
  | .client _ | .child _ => inferInstanceAs (Decidable True)

/-! ### What the server is to do with a record -/

/-- **No record is dropped.** -/
structure Handed (s : State ι) : Prop where
  /-- there is a child for each, or its `fork` comes next -/
  forked : s.children.length + s.server.pc.holds = s.reads.length
  /-- the child starts with its record in `buf` -/
  given : ∀ (k : ℕ) (x : Child) (record : List Char), s.children[k]? = some x →
    s.reads[k]? = some record → x.pc = .scan → record <+: x.buf.bytes
  /-- the record that is waiting for its `fork` is in `buf` -/
  held : s.server.pc = .fork → ∀ record, s.reads[s.children.length]? = some record →
    record <+: s.server.buf.bytes

section Steps

variable {files : List Char → Option (List Char)} {args : ι → Args} {s s' : State ι} {k : ℕ}

theorem handed_start (stack : Stack) : Handed (start stack : State ι) :=
  ⟨rfl, nofun, nofun⟩

/-- A step that leaves the server and the records alone, and starts no child. -/
theorem Handed.frame (handed : Handed s) (server : s'.server = s.server)
    (reads : s'.reads = s.reads) (length : s'.children.length = s.children.length)
    (children : ∀ (j : ℕ) (x : Child), s'.children[j]? = some x → x.pc = .scan →
      s.children[j]? = some x) : Handed s' := by
  obtain ⟨forked, given, held⟩ := handed
  refine ⟨?_, ?_, ?_⟩
  · rw [length, server, reads]
    exact forked
  · intro j x record found read scan
    rw [reads] at read
    exact given j x record (children j x found scan) read scan
  · rw [length, server, reads]
    exact held

/-- Child `k` has moved on. -/
theorem Handed.setChild (handed : Handed s) {y : Child} (moved : y.pc ≠ .scan)
    (children : s'.children = s.children.set k y) (server : s'.server = s.server)
    (reads : s'.reads = s.reads) : Handed s' := by
  refine handed.frame server reads (by rw [children, List.length_set]) ?_
  intro j x found scan
  rw [children] at found
  by_cases same : k = j
  · subst same
    by_cases bound : k < s.children.length
    · rw [List.getElem?_set_self bound] at found
      cases found
      exact absurd scan moved
    · rw [List.getElem?_eq_none (by rw [List.length_set]; omega)] at found
      cases found
  · rw [List.getElem?_set_ne same] at found
    exact found

theorem Handed.child_step (handed : Handed s) (step : s.childStep files k = some s') :
    Handed s' := by
  obtain ⟨x, _, call⟩ := child_cases step
  cases call with
  | scan | openClientFails | openedClient | openFile | openFileFails | copyWrite | copyFails
  | closeClient | abort | exit =>
    refine handed.setChild ?_ rfl rfl rfl
    nofun
  | openClient | copy =>
    refine handed.setChild ?_ rfl rfl rfl
    dsimp only
    split <;> nofun

/-- The server goes on, and neither reads nor forks. -/
theorem Handed.serverTo (handed : Handed s) (pc : ServerPc) (here : s.server.pc ≠ .fork)
    (idle : pc ≠ .fork) (server : s'.server = { s.server with pc := pc })
    (children : s'.children = s.children) (reads : s'.reads = s.reads) : Handed s' := by
  have none : ∀ {pc : ServerPc}, pc ≠ .fork → pc.holds = 0 := by
    intro pc other
    cases pc <;> first | rfl | exact absurd rfl other
  obtain ⟨forked, given, _⟩ := handed
  rw [none here] at forked
  refine ⟨?_, ?_, ?_⟩
  · rw [children, server, reads, none idle]
    exact forked
  · rw [children, reads]
    exact given
  · rw [server]
    exact fun fork => absurd fork idle

/-- The server reads a record. -/
theorem Handed.read (handed : Handed s) (here : s.server.pc = .read) {bytes : List Char}
    (short : bytes.length ≤ 64) (server : s'.server.pc = .fork)
    (buf : s'.server.buf = s.server.buf.overwrite bytes) (children : s'.children = s.children)
    (reads : s'.reads = s.reads ++ [bytes]) : Handed s' := by
  obtain ⟨forked, given, _⟩ := handed
  rw [here] at forked
  have forked : s.children.length = s.reads.length := forked
  refine ⟨?_, ?_, ?_⟩
  · rw [children, server, reads, List.length_append]
    exact congrArg (· + 1) forked
  · intro k x record found read scan
    rw [children] at found
    have bound : k < s.reads.length := forked ▸ (List.getElem?_eq_some_iff.mp found).1
    rw [reads, List.getElem?_append_left bound] at read
    exact given k x record found read scan
  · intro _ record read
    rw [children, reads, forked, List.getElem?_concat_length] at read
    cases read
    rw [buf, Buffer.overwrite_bytes _ short]
    exact List.prefix_append _ _

/-- The server forks a child, which starts with the `buf` of the server. -/
theorem Handed.fork (handed : Handed s) (here : s.server.pc = .fork) {y : Child}
    (server : s'.server.pc = .read) (children : s'.children = s.children ++ [y])
    (buf : y.buf = s.server.buf) (reads : s'.reads = s.reads) : Handed s' := by
  obtain ⟨forked, given, held⟩ := handed
  rw [here] at forked
  refine ⟨?_, ?_, ?_⟩
  · rw [children, server, reads, List.length_append]
    exact forked
  · intro k x record found read scan
    rw [children] at found
    rw [reads] at read
    rcases Nat.lt_or_ge k s.children.length with old | new
    · rw [List.getElem?_append_left old] at found
      exact given k x record found read scan
    · have bound := (List.getElem?_eq_some_iff.mp found).1
      rw [List.length_append] at bound
      have last : k = s.children.length := Nat.le_antisymm (Nat.lt_succ_iff.mp bound) new
      rw [last, List.getElem?_concat_length] at found
      cases found
      rw [buf]
      exact held here record (last ▸ read)
  · rw [server]
    nofun

theorem Handed.server_step (handed : Handed s) (step : s.serverStep = some s') : Handed s' := by
  unfold State.serverStep at step
  split at step
  case h_1 here =>
    cases step
    refine handed.serverTo (if 0 < s.fifo.writers then .read else .openingServer s.fifo.writeOpens)
      ?_ ?_ rfl rfl rfl
    · rw [here]
      nofun
    · split <;> nofun
  case h_2 here =>
    split at step
    · cases step
      refine handed.serverTo .read ?_ nofun rfl rfl rfl
      rw [here]
      nofun
    · cases step
  case h_3 here =>
    dsimp only at step
    split at step
    · cases step
      exact handed.read here (List.length_take_le _ _) rfl rfl rfl rfl
    · split at step
      · cases step
        exact handed
      · cases step
  case h_4 here =>
    cases step
    exact handed.fork here rfl rfl rfl rfl

/-- `fork` fails: the record that was read has no child. -/
theorem Handed.not_forkFails (handed : Handed s) (step : s.forkFails = some s') :
    s.server.pc = .fork ∧ ¬ Handed s' := by
  unfold State.forkFails at step
  split at step
  case h_1 here =>
    cases step
    refine ⟨here, fun dropped => ?_⟩
    have before := handed.forked
    have after : s.children.length + 0 = s.reads.length := dropped.forked
    rw [here] at before
    have one : ServerPc.fork.holds = 1 := rfl
    omega
  case h_2 => cases step

end Steps

/-! ### Runs -/

section Runs

variable {files : List Char → Option (List Char)} {stack : Stack} {args : ι → Args} {limit : ℕ}
  {s : State ι}

/-- Among the first `limit` records none is dropped. -/
theorem handed_of_reachable (reachable : (machine files stack args).Reachable
    (fun s action => Limited limit s action ∧ Early limit s action) s) : Handed s := by
  refine reachable.induct (handed_start stack) ?_
  rintro s action s' _ handed ⟨limited, early⟩ step
  cases action with
  | client c =>
    obtain ⟨v, _, rfl⟩ := Option.map_eq_some_iff.mp (show s.clientStep args c = some s' from step)
    exact handed.frame rfl rfl rfl fun _ _ found _ => found
  | server => exact handed.server_step step
  | forkFails =>
    obtain ⟨here, _⟩ := handed.not_forkFails step
    have full : limit ≤ s.children.length := limited
    have few := early here
    have forked := handed.forked
    rw [here] at forked
    have one : ServerPc.fork.holds = 1 := rfl
    omega
  | child k => exact handed.child_step step

/-- **No record of a run is dropped, if and only if `fork` is called for the first `limit` records
only**: the children that have exited are never waited for. -/
theorem handed_iff {actions : List (Act ι)}
    (limited : (machine files stack args).Admitted (Limited limit) (start stack) actions) :
    (machine files stack args).Along Handed (start stack) actions ↔
      (machine files stack args).Admitted (Early limit) (start stack) actions := by
  refine Machine.along_iff_admitted (fun _ => handed_of_reachable) ?_ limited
  intro s action reachable limited kept
  have handed := handed_of_reachable reachable
  cases action with
  | client c => trivial
  | server =>
    intro here
    have room : s.children.length < limit := limited here
    have forked := handed.forked
    rw [here] at forked
    have one : ServerPc.fork.holds = 1 := rfl
    omega
  | forkFails =>
    intro here
    have step : s.forkFails = some (s.serverTo .read) := by
      unfold State.forkFails
      rw [here]
    exact absurd (kept _ step) (handed.not_forkFails step).2
  | child k => trivial

end Runs

/-! ### A request after the first child has exited -/

/-- Client `c` has been served, and its child has exited, when the request of `d` is read. -/
def oneAfterOther (c d : ι) : List (Act ι) :=
  [.client c, .client c, .server, .client c, .client c, .client c, .server, .server, .child 0,
    .client c, .child 0, .child 0, .child 0, .child 0, .child 0, .child 0, .child 0, .client d,
    .client d, .client d, .server, .forkFails]

theorem handed_iff_oneAfterOther :
    (machine twoFiles emptyStack twoAsk).Admitted (Limited 1) (start emptyStack)
        (oneAfterOther 0 1) ∧
      ((machine twoFiles emptyStack twoAsk).Along Handed (start emptyStack) (oneAfterOther 0 1) ↔
        (machine twoFiles emptyStack twoAsk).Admitted (Early 1) (start emptyStack)
          (oneAfterOther 0 1)) := by
  have limited : (machine twoFiles emptyStack twoAsk).Admitted (Limited 1) (start emptyStack)
      (oneAfterOther 0 1) := by decide
  exact ⟨limited, handed_iff limited⟩

/-- No child is running when the second request is read, and it is dropped all the same. -/
theorem dropped_request : ¬ ∀ (files : List Char → Option (List Char)) (stack : Stack)
    (args : Fin 2 → Args) (limit : ℕ) (s : State (Fin 2)), 1 ≤ limit →
      (machine files stack args).Reachable
        (fun s action => Limited limit s action ∧ Unhurried limit s action) s → Handed s := by
  intro handed
  have reachable : (machine twoFiles emptyStack twoAsk).Reachable
      (fun s action => Limited 1 s action ∧ Unhurried 1 s action)
      ((machine twoFiles emptyStack twoAsk).after (oneAfterOther 0 1)) :=
    Machine.reachable_after (by decide) (by decide)
  have forked := (handed twoFiles emptyStack twoAsk 1 _ (le_refl 1) reachable).forked
  revert forked
  decide

end Unpvol2.Snc.Serverfork
