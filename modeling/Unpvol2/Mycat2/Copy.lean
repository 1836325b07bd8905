/-
**`mycat2` copies the file exactly.**

* `Stored` — the slots between the two positions hold their chunks.
* `Drain` — the standard output is the chunks that have been written out, and the beginning of the
  one being written.
* `Stuck.ended` — where no thread can step, both have returned: a producer that waits for a slot
  leaves the consumer one that is filled, and a consumer that waits has not seen the empty chunk
  that the producer has posted.
* `copies` — the result, and that `mycat1` writes the same bytes.
-/

import Unpvol2.Mycat2.Fill

namespace Unpvol2.Mycat2

open Interleaving

variable {β : Type}

/-! ### What the slots hold -/

/-- The slots that are filled and not given back hold their chunks. -/
def Stored (s : State β) : Prop :=
  Stores (fun k slot => slot.Holds (s.chunk k)) s.buff s.got (s.put + s.producer.pc.assigned)

section StoredMoves

variable {file : List β} {s s' : State β}

/-- A step that touches no slot. -/
theorem Stored.quiet (stored : Stored s) (buff : s'.buff = s.buff) (chunks : s'.chunks = s.chunks)
    (got : s'.got = s.got)
    (hi : s'.put + s'.producer.pc.assigned = s.put + s.producer.pc.assigned) : Stored s' := by
  unfold Stored State.chunk at stored ⊢
  rw [buff, chunks, got, hi]
  exact stored

/-- **Every step keeps what the slots hold.** -/
theorem Stored.step {action : Act} (stored : Stored s) (laws : Laws s) (indexed : Indexed s)
    (fill : Fill file s) (step : Step file s action s') : Stored s' := by
  have place : slot s.producer.i = Fin.ofNat nbuff s.put := by
    rw [indexed.producer, slot_mod]
  cases step with
  | fill byte here =>
    have room := laws.room (by rw [here]; rfl)
    unfold Stored at stored ⊢
    rw [here] at stored
    show Stores (fun k slot => slot.Holds (s.chunk k))
      (Function.update s.buff (slot s.producer.i) _) s.got (s.put + s.producer.pc.assigned)
    rw [place, here]
    exact stored.away room _
  | assign here =>
    have room := laws.room (by rw [here]; rfl)
    have length := fill.length
    rw [here] at length
    have holds := ((fill.assigned here).test rfl).1
    unfold Stored at stored
    rw [here] at stored
    show Stores _ (Function.update s.buff (slot s.producer.i) _) s.got (s.put + 1)
    rw [place]
    refine Stores.put (stored.mono fun k value below holds => ?_) room ?_
    · show value.Holds ((s.assign.produceTo .test).chunk k)
      rw [chunk_assign (by rw [length]; exact below)]
      exact holds
    · have after : (s.assign.produceTo .test).filled =
          { s.filled with n := s.producer.result } := Function.update_self ..
      rw [after] at holds
      exact holds
  | consumeAdvance here =>
    unfold Stored at stored ⊢
    exact stored.drop
  | advance here =>
    refine stored.quiet rfl rfl rfl ?_
    rw [here]
    rfl
  | waitEmpty here | produceLock here | produceUnlock here | read _ here | filled here | last here
  | notLast here | endStored here | postStored here =>
    refine stored.quiet rfl rfl rfl ?_
    rw [here]
    rfl
  | waitStored here | consumeLock here | consumeUnlock here | consumeEnd here | more here
  | write _ here | drain here | drained here | postEmpty here =>
    exact stored.quiet rfl rfl rfl rfl

end StoredMoves

theorem stored_of_reachable {file : List β} {memory : Fin nbuff → Slot β} {s : State β}
    (reachable : (machine file memory).Reachable (Complete file) s) : Stored s := by
  refine reachable.induct (I := Stored) ?_ ?_
  · exact Stores.empty _ _ 0
  intro s action s' before stored _ step
  exact stored.step (laws_of_reachable before) (indexed_of_reachable before)
    (fill_of_reachable before) (step_cases step)

/-! ### What has been written -/

/-- The chunk `got` is being written. -/
def ConsumePc.writes : ConsumePc → Bool
  | .writing | .advance => true
  | _ => false

/-- The consumer has seen that its slot is not the last one. -/
def ConsumePc.seen : ConsumePc → Bool
  | .write | .writing | .advance => true
  | _ => false

/-- The bytes that the running write has moved. -/
def State.draining (s : State β) : List β :=
  if s.consumer.pc.writes then (s.chunk s.got).take s.consumer.done else []

/-- What the consumer has written. -/
structure Drain (s : State β) : Prop where
  stdout : s.stdout = (s.chunks.take s.got).flatten ++ s.draining
  le : s.got ≤ s.put
  seen : s.consumer.pc.seen = true → s.chunk s.got ≠ []
  writing : s.consumer.pc = .writing → s.consumer.result = (s.chunk s.got).length ∧
    s.consumer.done ≤ (s.chunk s.got).length
  advance : s.consumer.pc = .advance → s.consumer.done = (s.chunk s.got).length
  returned : s.consumer.pc = .returned → s.chunk s.got = []

theorem drain_start (memory : Fin nbuff → Slot β) : Drain (start memory) where
  stdout := rfl
  le := le_refl 0
  seen := fun here => by cases here
  writing := fun here => by cases here
  advance := fun here => by cases here
  returned := fun here => by cases here

section DrainMoves

variable {file : List β} {s s' : State β}

/-- The consumer's slot, while it has a token for it. -/
theorem Stored.emptied (stored : Stored s) (laws : Laws s) (indexed : Indexed s)
    (holds : s.consumer.pc.holds = 1) : s.emptied.Holds (s.chunk s.got) := by
  have below : s.got < s.put + s.producer.pc.assigned := by
    have law := laws.stored
    have ended : s.producer.pc.ended ≤ s.producer.pc.assigned := by
      cases s.producer.pc <;> decide
    omega
  have here := stored.get below
  unfold State.emptied
  rw [indexed.consumer, slot_mod]
  exact here

/-- A chunk that is not the last one is before the producer's position. -/
theorem Fill.before (fill : Fill file s) (laws : Laws s) (holds : s.consumer.pc.holds = 1)
    (some : s.chunk s.got ≠ []) : s.got < s.put := by
  by_cases running : s.producer.pc.ended = 0
  · exact laws.some holds running
  · have returned : s.producer.pc = .returned := by
      revert running
      cases s.producer.pc <;> decide
    have law := laws.stored
    rw [returned] at law
    simp only [ProducePc.unposted, ProducePc.ended] at law
    have ne : s.got ≠ s.put := fun same => some (same ▸ (fill.ended (Or.inr returned)).1)
    omega

/-- A step of the producer that assigns nothing. -/
theorem Drain.produce (drain : Drain s) (chunks : s'.chunks = s.chunks)
    (stdout : s'.stdout = s.stdout) (got : s'.got = s.got) (put : s.put ≤ s'.put)
    (consumer : s'.consumer = s.consumer) : Drain s' := by
  have chunk : s'.chunk s'.got = s.chunk s.got := by
    unfold State.chunk
    rw [chunks, got]
  obtain ⟨stdout', le, seen, writing, advance, returned⟩ := drain
  refine ⟨?_, by omega, ?_, ?_, ?_, ?_⟩
  · unfold State.draining at stdout' ⊢
    rw [stdout, chunks, chunk, got, consumer]
    exact stdout'
  all_goals
    rw [consumer, chunk]
    assumption

/-- The producer assigns its chunk. -/
theorem Drain.assign (drain : Drain s) (laws : Laws s) (fill : Fill file s)
    (here : s.producer.pc = .assign) : Drain (s.assign.produceTo .test) := by
  have length : s.chunks.length = s.put := by
    have length := fill.length
    rw [here] at length
    exact length
  have prefixes : (s.assign.produceTo .test).chunks.take s.got = s.chunks.take s.got :=
    List.take_append_of_le_length (by rw [length]; exact drain.le)
  -- a consumer that has a token has it for an older chunk
  have same : s.consumer.pc.holds = 1 → (s.assign.produceTo .test).chunk s.got = s.chunk s.got :=
    fun holds => chunk_assign (by rw [length]; exact laws.some holds (by rw [here]; rfl))
  have draining : (s.assign.produceTo .test).draining = s.draining := by
    show (if s.consumer.pc.writes then ((s.assign.produceTo .test).chunk s.got).take _ else []) =
      if s.consumer.pc.writes then (s.chunk s.got).take _ else []
    by_cases writes : s.consumer.pc.writes = true
    · rw [same (by revert writes; cases s.consumer.pc <;> decide)]
      rfl
    · rw [if_neg writes, if_neg writes]
  obtain ⟨stdout, le, seen, writing, advance, returned⟩ := drain
  refine ⟨?_, le, fun now => ?_, fun now => ?_, fun now => ?_, fun now => ?_⟩
  · rw [draining]
    show s.stdout = ((s.assign.produceTo .test).chunks.take s.got).flatten ++ s.draining
    rw [prefixes]
    exact stdout
  · have now : s.consumer.pc.seen = true := now
    show (s.assign.produceTo .test).chunk s.got ≠ []
    rw [same (by revert now; cases s.consumer.pc <;> decide)]
    exact seen now
  · have now : s.consumer.pc = .writing := now
    show s.consumer.result = ((s.assign.produceTo .test).chunk s.got).length ∧
      s.consumer.done ≤ ((s.assign.produceTo .test).chunk s.got).length
    rw [same (by rw [now]; rfl)]
    exact writing now
  · have now : s.consumer.pc = .advance := now
    show s.consumer.done = ((s.assign.produceTo .test).chunk s.got).length
    rw [same (by rw [now]; rfl)]
    exact advance now
  · have now : s.consumer.pc = .returned := now
    show (s.assign.produceTo .test).chunk s.got = []
    rw [same (by rw [now]; rfl)]
    exact returned now

/-- A step of the consumer outside `write`. -/
theorem Drain.quiet (drain : Drain s) (chunks : s'.chunks = s.chunks)
    (stdout : s'.stdout = s.stdout) (got : s'.got = s.got) (put : s'.put = s.put)
    (writes : s.consumer.pc.writes = false) (writes' : s'.consumer.pc.writes = false)
    (seen : s'.consumer.pc.seen = true → s.chunk s.got ≠ [])
    (returned : s'.consumer.pc = .returned → s.chunk s.got = []) : Drain s' := by
  have chunk : s'.chunk s'.got = s.chunk s.got := by
    unfold State.chunk
    rw [chunks, got]
  have stdout' := drain.stdout
  unfold State.draining at stdout'
  rw [writes] at stdout'
  refine ⟨?_, ?_, ?_, ?_, ?_, ?_⟩
  · unfold State.draining
    rw [writes', stdout, chunks, got]
    exact stdout'
  · rw [got, put]
    exact drain.le
  · rw [chunk]
    exact seen
  · intro here
    rw [here] at writes'
    cases writes'
  · intro here
    rw [here] at writes'
    cases writes'
  · rw [chunk]
    exact returned

/-- **`write` moves a byte.** -/
theorem Drain.drain (drain : Drain s) (holds : s.emptied.Holds (s.chunk s.got))
    (here : s.consumer.pc = .writing) (more : s.consumer.done < s.consumer.result) :
    Drain s.drain := by
  obtain ⟨result, _⟩ := drain.writing here
  have more : s.consumer.done < (s.chunk s.got).length := by omega
  have pc : s.drain.consumer.pc = .writing := here
  have stdout := drain.stdout
  unfold State.draining at stdout
  rw [here] at stdout
  refine ⟨?_, drain.le, fun _ => drain.seen (by rw [here]; rfl), fun _ => ⟨result, more⟩, ?_, ?_⟩
  · unfold State.draining
    rw [pc]
    show s.stdout ++ [s.emptied.data s.consumer.done] =
      (s.chunks.take s.got).flatten ++ (s.chunk s.got).take (s.consumer.done + 1)
    rw [take_bytes holds.2 more, stdout]
    exact List.append_assoc ..
  · rw [pc]
    exact nofun
  · rw [pc]
    exact nofun

/-- **A chunk is written.** -/
theorem Drain.next (drain : Drain s) (fill : Fill file s) (laws : Laws s)
    (here : s.consumer.pc = .advance) (i : ℕ) :
    Drain { s with consumer := { s.consumer with pc := .postEmpty, i := i },
                   got := s.got + 1 } := by
  have some := drain.seen (by rw [here]; rfl)
  have below := fill.before laws (by rw [here]; rfl) some
  have length := fill.length
  have stdout := drain.stdout
  unfold State.draining at stdout
  rw [here] at stdout
  refine ⟨?_, below, nofun, nofun, nofun, nofun⟩
  show s.stdout = (s.chunks.take (s.got + 1)).flatten ++ []
  rw [flatten_take_succ (by omega), List.append_nil, stdout]
  show _ ++ (s.chunk s.got).take s.consumer.done = _
  rw [drain.advance here, List.take_length]
  rfl

/-- **Every step keeps what has been written.** -/
theorem Drain.step {action : Act} (drain : Drain s) (laws : Laws s) (indexed : Indexed s)
    (fill : Fill file s) (stored : Stored s) (complete : Complete file s action)
    (step : Step file s action s') : Drain s' := by
  cases step with
  | assign here => exact drain.assign laws fill here
  | advance here => exact drain.produce rfl rfl rfl (Nat.le_succ _) rfl
  | waitEmpty here | produceLock here | produceUnlock here | read _ here | fill _ here
  | filled here | last here | notLast here | endStored here | postStored here =>
    exact drain.produce rfl rfl rfl (le_refl _) rfl
  | consumeEnd here zero =>
    have holds := stored.emptied laws indexed (by rw [here]; rfl)
    exact drain.quiet rfl rfl rfl rfl (by rw [here]; rfl) rfl nofun
      fun _ => holds.zero_iff.mp zero
  | more here some =>
    have holds := stored.emptied laws indexed (by rw [here]; rfl)
    exact drain.quiet rfl rfl rfl rfl (by rw [here]; rfl) rfl
      (fun _ empty => some (holds.zero_iff.mpr empty)) nofun
  | write result here =>
    have holds := stored.emptied laws indexed (by rw [here]; rfl)
    have stdout := drain.stdout
    unfold State.draining at stdout
    rw [here] at stdout
    exact ⟨stdout, drain.le, fun _ => drain.seen (by rw [here]; rfl),
      fun _ => ⟨complete.trans holds.1, Nat.zero_le _⟩, nofun, nofun⟩
  | drain here more =>
    exact drain.drain (stored.emptied laws indexed (by rw [here]; rfl)) here more
  | drained here all =>
    obtain ⟨result, le⟩ := drain.writing here
    have stdout := drain.stdout
    unfold State.draining at stdout
    rw [here] at stdout
    refine ⟨stdout, drain.le, fun _ => drain.seen (by rw [here]; rfl), nofun, fun _ => ?_, nofun⟩
    show s.consumer.done = (s.chunk s.got).length
    omega
  | consumeAdvance here => exact drain.next fill laws here _
  | waitStored here | consumeLock here | consumeUnlock here | postEmpty here =>
    exact drain.quiet rfl rfl rfl rfl (by rw [here]; rfl) rfl nofun nofun

end DrainMoves

theorem drain_of_reachable {file : List β} {memory : Fin nbuff → Slot β} {s : State β}
    (reachable : (machine file memory).Reachable (Complete file) s) : Drain s := by
  refine reachable.induct (drain_start memory) ?_
  intro s action s' before drain complete step
  exact drain.step (laws_of_reachable before) (indexed_of_reachable before)
    (fill_of_reachable before) (stored_of_reachable before) complete (step_cases step)

/-! ### `mycat1` -/

/-- Whatever the sizes of the reads, `mycat1` writes the file. -/
theorem mycat1_writes {size : ℕ} {results : List ℕ} {rest stdout out : List β}
    (ended : mycat1 size results rest stdout = some out) : out = stdout ++ rest := by
  induction results generalizing rest stdout with
  | nil => cases ended
  | cons n results ih =>
    cases n with
    | zero =>
      simp only [mycat1, Option.ite_none_right_eq_some, Option.some.injEq] at ended
      obtain ⟨rfl, rfl⟩ := ended
      exact (List.append_nil _).symm
    | succ n =>
      simp only [mycat1, Option.ite_none_right_eq_some] at ended
      rw [ih ended.2, List.append_assoc, List.take_append_drop]

/-- With any buffer `mycat1` comes to its end. -/
theorem mycat1_ends {size : ℕ} (positive : 0 < size) (rest stdout : List β) :
    ∃ results, mycat1 size results rest stdout = some (stdout ++ rest) := by
  induction rest generalizing stdout with
  | nil => exact ⟨[0], by rw [mycat1, if_pos rfl, List.append_nil]⟩
  | cons byte rest ih =>
    obtain ⟨results, ended⟩ := ih (stdout ++ [byte])
    refine ⟨1 :: results, ?_⟩
    rw [mycat1, if_pos ⟨positive, Nat.succ_le_succ (Nat.zero_le _)⟩]
    simpa using ended

/-! ### The result -/

variable {file : List β} {s : State β}

/-- **The standard output is a prefix of the file.** -/
theorem Drain.stdout_prefix (drain : Drain s) (fill : Fill file s) : s.stdout <+: file := by
  have read : s.chunks.flatten <+: file := by
    refine List.IsPrefix.trans ?_ (List.take_prefix s.offset file)
    rw [← fill.text]
    exact List.prefix_append _ _
  refine List.IsPrefix.trans ?_ read
  have whole : s.chunks.flatten =
      (s.chunks.take s.got).flatten ++ (s.chunks.drop s.got).flatten := by
    rw [← List.flatten_append, List.take_append_drop]
  rw [drain.stdout, whole]
  refine List.prefix_append_right_inj _ |>.mpr ?_
  unfold State.draining
  split
  · refine (List.take_prefix _ _).trans ?_
    unfold State.chunk
    by_cases below : s.got < s.chunks.length
    · rw [List.getD_eq_getElem _ _ below, List.drop_eq_getElem_cons below, List.flatten_cons]
      exact List.prefix_append _ _
    · rw [List.getD_eq_default _ _ (Nat.not_lt.mp below)]
      exact List.nil_prefix
  · exact List.nil_prefix

/-- No thread can take a step. -/
def Stuck (file : List β) (s : State β) : Prop :=
  ∀ action, Complete file s action → s.step file action = none

/-- A `sem_wait` that does not return has found the count at zero. -/
theorem eq_zero_of_blocked {n : ℕ} {s' : State β}
    (blocked : (if 0 < n then some s' else none) = none) : n = 0 := by
  by_contra positive
  rw [if_pos (Nat.pos_of_ne_zero positive)] at blocked
  cases blocked

/-- `read` can always be called. -/
theorem Fill.callable (fill : Fill file s) (here : s.producer.pc = .read) :
    ∃ result, Complete file s (.read result) ∧ (s.read file result).isSome = true := by
  have within := fill.within
  by_cases atEnd : s.offset = file.length
  · refine ⟨0, Or.inr ⟨rfl, atEnd⟩, ?_⟩
    unfold State.read
    rw [if_pos ⟨here, by decide, by decide, by omega⟩]
    rfl
  · refine ⟨1, Or.inl (by decide), ?_⟩
    unfold State.read
    rw [if_pos ⟨here, by decide, by decide, by omega⟩]
    rfl

/-- A stuck producer waits for one of its semaphores, or has returned. -/
theorem Stuck.producer (stuck : Stuck file s) (fill : Fill file s) :
    (s.producer.pc = .waitEmpty ∧ s.nempty = 0) ∨
      (s.producer.pc = .waitMutex ∧ s.mutex = 0) ∨ s.producer.pc = .returned := by
  have blocked : s.produce file = none := stuck .produce trivial
  unfold State.produce at blocked
  split at blocked <;> rename_i here
  · exact Or.inl ⟨here, eq_zero_of_blocked blocked⟩
  · exact Or.inr (Or.inl ⟨here, eq_zero_of_blocked blocked⟩)
  · cases blocked
  · obtain ⟨result, complete, possible⟩ := fill.callable here
    rw [show s.read file result = none from stuck (.read result) complete] at possible
    cases possible
  · split at blocked
    · -- there is a byte left for the running read
      rename_i more
      have within := (fill.reading here).2.2.1
      have bound : s.offset < file.length := by omega
      rw [List.getElem?_eq_getElem bound] at blocked
      cases blocked
    · cases blocked
  all_goals first | exact Or.inr (Or.inr here) | cases blocked

/-- A stuck consumer waits for one of its semaphores, or has returned. -/
theorem Stuck.consumer (stuck : Stuck file s) (fill : Fill file s) (stored : Stored s)
    (laws : Laws s) (indexed : Indexed s) :
    (s.consumer.pc = .waitStored ∧ s.nstored = 0) ∨
      (s.consumer.pc = .waitMutex ∧ s.mutex = 0) ∨ s.consumer.pc = .returned := by
  have blocked : s.consume = none := stuck .consume trivial
  unfold State.consume at blocked
  split at blocked <;> rename_i here
  · exact Or.inl ⟨here, eq_zero_of_blocked blocked⟩
  · exact Or.inr (Or.inl ⟨here, eq_zero_of_blocked blocked⟩)
  · cases blocked
  · cases blocked
  · -- the count is a chunk's, so `size_t` holds it
    have count := (stored.emptied laws indexed (by rw [here]; rfl)).1
    have short := fill.short s.got
    unfold buffsize at short
    have size : sizeT s.emptied.n = s.emptied.n := by
      unfold sizeT
      omega
    have called : s.write s.emptied.n = none := stuck (.write s.emptied.n) rfl
    unfold State.write at called
    rw [if_pos ⟨here, by omega, by omega⟩] at called
    cases called
  · split at blocked <;> cases blocked
  all_goals first | exact Or.inr (Or.inr here) | cases blocked

/-- **Where no thread can step, the file is copied.** -/
theorem Stuck.ended (stuck : Stuck file s) (laws : Laws s) (indexed : Indexed s)
    (fill : Fill file s) (stored : Stored s) (drain : Drain s) :
    s.producer.pc = .returned ∧ s.consumer.pc = .returned ∧ s.stdout = file := by
  have producer := stuck.producer fill
  have consumer := stuck.consumer fill stored laws indexed
  obtain ⟨mutex, empty, full⟩ := laws
  have free : s.mutex = 1 := by
    have first : s.producer.pc.inside = 0 := by
      rcases producer with ⟨here, _⟩ | ⟨here, _⟩ | here <;> rw [here] <;> rfl
    have second : s.consumer.pc.inside = 0 := by
      rcases consumer with ⟨here, _⟩ | ⟨here, _⟩ | here <;> rw [here] <;> rfl
    omega
  have le := drain.le
  have consumer : (s.consumer.pc = .waitStored ∧ s.nstored = 0) ∨ s.consumer.pc = .returned := by
    rcases consumer with waits | ⟨_, taken⟩ | returned
    · exact Or.inl waits
    · omega
    · exact Or.inr returned
  have returned : s.producer.pc = .returned := by
    rcases producer with ⟨here, none⟩ | ⟨_, taken⟩ | returned
    · -- all slots are filled, and the consumer has not come to the last chunk
      rw [here] at empty full
      simp only [ProducePc.holds, ProducePc.unposted, ProducePc.ended] at empty full
      unfold nbuff at empty
      rcases consumer with ⟨here', none'⟩ | returned
      · rw [here'] at empty full
        simp only [ConsumePc.unposted, ConsumePc.holds] at empty full
        omega
      · rw [returned] at empty full
        simp only [ConsumePc.unposted, ConsumePc.holds] at empty full
        exact absurd (drain.returned returned) (fill.nonempty s.got (by omega))
    · omega
    · exact returned
  rw [returned] at full
  simp only [ProducePc.unposted, ProducePc.ended] at full
  have returned' : s.consumer.pc = .returned := by
    rcases consumer with ⟨here, none⟩ | returned'
    · rw [here] at full
      simp only [ConsumePc.holds] at full
      omega
    · exact returned'
  refine ⟨returned, returned', ?_⟩
  obtain ⟨last, atEnd⟩ := fill.ended (Or.inr returned)
  have same : s.got = s.put := by
    by_contra differs
    exact fill.nonempty s.got (by omega) (drain.returned returned')
  have length : s.chunks.length = s.put + 1 := by
    have length := fill.length
    rw [returned] at length
    exact length
  have text := fill.text
  have stdout := drain.stdout
  unfold State.filling at text
  unfold State.draining at stdout
  rw [returned] at text
  rw [returned'] at stdout
  have all : s.chunks.flatten = (s.chunks.take s.put).flatten ++ s.chunk s.put := by
    unfold State.chunk
    rw [← flatten_take_succ (by omega), ← length, List.take_length]
  rw [atEnd, List.take_length, all, last] at text
  rw [stdout, same, ← text]
  simp [ConsumePc.writes, ProducePc.reads]

/-- **`mycat2` copies the file exactly, like `mycat1`.** The slot being filled is not the slot being
written out, the standard output is always a prefix of the file, and where no thread can step both
have returned with the whole file written: what `mycat1` writes, whatever its buffer and the sizes
of its reads. -/
theorem copies {file : List β} {memory : Fin nbuff → Slot β} {s : State β}
    (reachable : (machine file memory).Reachable (Complete file) s) :
    (s.producer.pc.filling = true → s.consumer.pc.draining = true →
      slot s.producer.i ≠ slot s.consumer.i) ∧
      s.stdout <+: file ∧
      (Stuck file s → s.producer.pc = .returned ∧ s.consumer.pc = .returned ∧ s.stdout = file ∧
        ∀ size > 0, (∃ results, mycat1 size results file [] = some s.stdout) ∧
          ∀ results out, mycat1 size results file [] = some out → out = s.stdout) := by
  have laws := laws_of_reachable reachable
  have indexed := indexed_of_reachable reachable
  have fill := fill_of_reachable reachable
  have stored := stored_of_reachable reachable
  have drain := drain_of_reachable reachable
  refine ⟨laws.apart indexed, drain.stdout_prefix fill, fun stuck => ?_⟩
  obtain ⟨producer, consumer, stdout⟩ := stuck.ended laws indexed fill stored drain
  refine ⟨producer, consumer, stdout, fun size positive => ⟨?_, fun results out ended => ?_⟩⟩
  · obtain ⟨results, ended⟩ := mycat1_ends positive file []
    rw [stdout]
    exact ⟨results, ended⟩
  · rw [stdout]
    exact mycat1_writes ended

/-- A file of three bytes is read as two and one. The second `read` fills its slot while the first
one is written out, and the last `read` is called while the second slot is. -/
def threeBytes : List Act :=
  List.replicate 3 Act.produce ++ [Act.read 2] ++ List.replicate 10 Act.produce ++ [Act.read 1] ++
    List.replicate 4 Act.consume ++ [Act.write 2, .consume, .produce, .consume, .consume] ++
    List.replicate 5 Act.produce ++ List.replicate 6 Act.consume ++ [Act.write 1] ++
    List.replicate 3 Act.produce ++ [Act.read 0] ++ List.replicate 4 Act.consume ++
    List.replicate 4 Act.produce ++ List.replicate 4 Act.consume

/-- `mycat2` on that file, with zeros in its buffers. -/
def threeBytesMachine : Machine (State ℕ) Act := machine [7, 8, 9] fun _ => ⟨fun _ => 0, 0⟩

theorem stuck_threeBytes : Stuck [7, 8, 9] (threeBytesMachine.after threeBytes) := by
  have produce : ((threeBytesMachine.after threeBytes).produce [7, 8, 9]).isNone = true := by
    decide +kernel
  have consume : (threeBytesMachine.after threeBytes).consume.isNone = true := by decide +kernel
  have noRead : (threeBytesMachine.after threeBytes).producer.pc ≠ .read := by decide +kernel
  have noWrite : (threeBytesMachine.after threeBytes).consumer.pc ≠ .write := by decide +kernel
  rintro (_ | result | _ | result) _
  · exact Option.isNone_iff_eq_none.mp produce
  · unfold State.step State.read
    exact if_neg fun call => noRead call.1
  · exact Option.isNone_iff_eq_none.mp consume
  · unfold State.step State.write
    exact if_neg fun call => noWrite call.1

theorem copies_threeBytes :
    let s := threeBytesMachine.after threeBytes
    s.chunks = [[7, 8], [9], []] ∧ s.stdout = [7, 8, 9] := by
  have reachable :
      threeBytesMachine.Reachable (Complete [7, 8, 9]) (threeBytesMachine.after threeBytes) :=
    Machine.reachable_after (by decide +kernel) (by decide +kernel)
  obtain ⟨_, _, ended⟩ := copies reachable
  obtain ⟨_, _, copied, _⟩ := ended stuck_threeBytes
  exact ⟨by decide +kernel, copied⟩

end Unpvol2.Mycat2
