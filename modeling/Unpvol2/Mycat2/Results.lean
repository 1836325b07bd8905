/-
**What `mycat2` makes of failing and short calls.**

The producer tests the result of `read` for 0 only: a result of -1 becomes the count of a slot, and
for the consumer's `write` a `size_t`. The result of `write` is not tested at all.

* `Survives` — what is to hold whatever the calls return.
* `Gapless` — no `read` fails, and no byte is written behind one that has not been.
* `survives` — **in the runs of gapless steps it holds.** A `read` may return 0 before the end of
  the file there: the file is then as good as shorter, and `State.known` is the part of it that the
  producer has come to know.
-/

import Unpvol2.Mycat2.Copy

namespace Unpvol2.Mycat2

open Interleaving

variable {β : Type}

/-! ### What is to hold -/

/-- **The copy survives the results of its calls.** -/
structure Survives (file : List β) (s : State β) : Prop where
  /-- what has been written is a prefix of what has been read -/
  stdout : s.stdout <+: file.take s.offset
  /-- the counts passed to `write` -/
  counts : s.consumer.pc = .write → 1 ≤ sizeT s.emptied.n ∧ sizeT s.emptied.n ≤ buffsize
  /-- the producer does not go on after a `read` that failed -/
  ends : s.producer.pc = .advance → s.producer.result ≠ -1

/-- No `read` fails, and `write` moves bytes only if all bytes of the slots before have been
written. -/
def Gapless (s : State β) : Act → Prop
  | .read result => result ≠ -1
  | .write result => 0 < result → s.stdout.length = (s.chunks.take s.got).flatten.length
  | .produce | .consume => True

instance (s : State β) : DecidablePred (Gapless s)
  | .read result => inferInstanceAs (Decidable (result ≠ -1))
  | .write result => inferInstanceAs (Decidable (0 < result → _))
  | .produce => isTrue trivial
  | .consume => isTrue trivial

/-! ### The part of the file that is known -/

/-- What the running `read` has still to move. -/
def State.ahead (s : State β) : ℕ :=
  if s.producer.pc = .reading then (s.producer.result - s.producer.done).toNat else 0

/-- What has been read, and what the running `read` will have moved. -/
def State.known (file : List β) (s : State β) : List β := file.take (s.offset + s.ahead)

section Known

variable {file file' : List β} {s s' : State β} {action : Act}

/-- A step in a file is a step in another one, if it finds the same there. -/
theorem Step.within (step : Step file s action s')
    (found : s.producer.pc = .reading → s.producer.done < s.producer.result →
      file'[s.offset]? = file[s.offset]?)
    (call : ∀ result, action = .read result → s.offset + result ≤ file'.length) :
    Step file' s action s' := by
  cases step with
  | read result here low high _ => exact .read result here low high (call result rfl)
  | fill byte here more byte_eq => exact .fill byte here more ((found here more).trans byte_eq)
  | waitEmpty here positive => exact .waitEmpty here positive
  | produceLock here positive => exact .produceLock here positive
  | produceUnlock here => exact .produceUnlock here
  | filled here all => exact .filled here all
  | assign here => exact .assign here
  | last here zero => exact .last here zero
  | notLast here some => exact .notLast here some
  | endStored here => exact .endStored here
  | advance here => exact .advance here
  | postStored here => exact .postStored here
  | waitStored here positive => exact .waitStored here positive
  | consumeLock here positive => exact .consumeLock here positive
  | consumeUnlock here => exact .consumeUnlock here
  | consumeEnd here zero => exact .consumeEnd here zero
  | more here some => exact .more here some
  | write result here low high => exact .write result here low high
  | drain here more => exact .drain here more
  | drained here all => exact .drained here all
  | consumeAdvance here => exact .consumeAdvance here
  | postEmpty here => exact .postEmpty here

/-- **Only the call of `read` makes more of the file known**, and sets the result. -/
theorem Step.known (step : Step file s action s') (notRead : ∀ result, action ≠ .read result) :
    s'.offset + s'.ahead = s.offset + s.ahead ∧ s'.producer.result = s.producer.result := by
  cases step with
  | read result => exact absurd rfl (notRead result)
  | fill byte here more =>
    have pc : (s.fill byte).producer.pc = .reading := here
    refine ⟨?_, rfl⟩
    unfold State.ahead
    rw [here, pc, if_pos rfl, if_pos rfl]
    show s.offset + 1 + (s.producer.result - (s.producer.done + 1 : ℕ)).toNat = _
    omega
  | filled here all =>
    refine ⟨?_, rfl⟩
    unfold State.ahead
    rw [here, if_pos rfl]
    show s.offset + 0 = _
    omega
  | waitEmpty here | produceLock here | produceUnlock here | assign here | last here
  | notLast here | endStored here | advance here | postStored here =>
    refine ⟨?_, rfl⟩
    unfold State.ahead
    rw [here]
    rfl
  | waitStored here | consumeLock here | consumeUnlock here | consumeEnd here | more here
  | write _ here | drain here | drained here | consumeAdvance here | postEmpty here =>
    exact ⟨rfl, rfl⟩

/-- A running `read` is inside what is known. -/
theorem known_getElem (here : s.producer.pc = .reading)
    (more : s.producer.done < s.producer.result) :
    (s.known file)[s.offset]? = file[s.offset]? := by
  refine List.getElem?_take_of_lt ?_
  unfold State.ahead
  rw [if_pos here]
  omega

/-- The producer that is about to read may find more of a file than is known. -/
theorem Fill.widen (fill : Fill file s) (here : s.producer.pc = .read)
    (text : file'.take s.offset = file.take s.offset) (within : s.offset ≤ file'.length) :
    Fill file' s where
  length := fill.length
  text := by
    rw [text]
    exact fill.text
  within := within
  short := fill.short
  nonempty := fill.nonempty
  reading := by
    rw [here]
    nofun
  assign := by
    rw [here]
    nofun
  test := by
    rw [here]
    nofun
  advance := by
    rw [here]
    nofun
  ended := by
    rw [here]
    rintro (other | other) <;> cases other

/-! ### The reads -/

/-- The chunks are what is known of the file, and no `read` has failed. -/
structure Reads (file : List β) (s : State β) : Prop where
  fill : Fill (s.known file) s
  within : s.offset + s.ahead ≤ file.length
  success : 0 ≤ s.producer.result

theorem reads_start (file : List β) (memory : Fin nbuff → Slot β) : Reads file (start memory) where
  fill := fill_start _ memory
  within := Nat.zero_le _
  success := Int.le_refl 0

/-- A successful `read` is called: what it will move is known then. -/
theorem Reads.read (reads : Reads file s) {result : ℤ} (here : s.producer.pc = .read)
    (nonneg : 0 ≤ result) (high : result ≤ buffsize) (within : s.offset + result ≤ file.length) :
    Reads file { s with
      producer := { s.producer with pc := .reading, result := result, done := 0 } } := by
  have ahead : s.ahead = 0 := by
    unfold State.ahead
    rw [here]
    rfl
  have ahead' : ({ s with
      producer := { s.producer with pc := .reading, result := result, done := 0 } } :
        State β).ahead = result.toNat := congrArg Int.toNat (Int.sub_zero result)
  have known : s.known file = file.take s.offset := by
    unfold State.known
    rw [ahead, Nat.add_zero]
  have length : (file.take (s.offset + result.toNat)).length = s.offset + result.toNat := by
    rw [List.length_take]
    omega
  refine ⟨?_, ?_, nonneg⟩
  · have wide : Fill (file.take (s.offset + result.toNat)) s := by
      refine reads.fill.widen here ?_ (by omega)
      rw [known, List.take_take, List.take_take, Nat.min_self,
        Nat.min_eq_left (Nat.le_add_right _ _)]
    have called := wide.read here ?_ high (by omega)
    · unfold State.known
      rw [ahead']
      exact called
    · rcases Int.lt_or_eq_of_le nonneg with positive | zero
      · exact .inl positive
      · refine .inr ⟨zero.symm, ?_⟩
        rw [length, ← zero]
        rfl
  · rw [ahead']
    show s.offset + result.toNat ≤ file.length
    omega

/-- A step that is not the call of `read`. -/
theorem Reads.other (reads : Reads file s) (notRead : ∀ result, action ≠ .read result)
    (step : Step file s action s') : Reads file s' := by
  obtain ⟨same, result⟩ := step.known notRead
  have known : s'.known file = s.known file := by
    unfold State.known
    rw [same]
  have inside : Step (s.known file) s action s' :=
    step.within known_getElem fun result call => absurd call (notRead result)
  refine ⟨?_, ?_, ?_⟩
  · rw [known]
    exact reads.fill.step (fun result call => absurd call (notRead result)) inside
  · rw [same]
    exact reads.within
  · rw [result]
    exact reads.success

theorem Reads.step (reads : Reads file s) (gapless : Gapless s action)
    (step : Step file s action s') : Reads file s' := by
  cases action with
  | read result =>
    cases step with
    | read _ here low high within =>
      have success : result ≠ -1 := gapless
      exact reads.read here (by omega) high within
  | produce | consume | write => exact reads.other (fun _ call => by cases call) step

/-- The slots hold the chunks, as far as the file is known. -/
theorem Reads.stored (reads : Reads file s) (stored : Stored s) (laws : Laws s)
    (indexed : Indexed s) (step : Step file s action s') : Stored s' := by
  cases action with
  | read result =>
    cases step with
    | read _ here =>
      refine stored.quiet rfl rfl rfl ?_
      rw [here]
      rfl
  | produce | consume | write =>
    exact stored.step laws indexed reads.fill (step.within known_getElem fun _ => nofun)

end Known

/-! ### The writes -/

/-- The bytes up to a chunk, the chunk, and the bytes behind it. -/
theorem flatten_split {chunks : List (List β)} {k : ℕ} (below : k < chunks.length) :
    chunks.flatten =
      (chunks.take k).flatten ++ (chunks.getD k [] ++ (chunks.drop (k + 1)).flatten) := by
  rw [← List.append_assoc, ← flatten_take_succ below, ← List.flatten_append,
    List.take_append_drop]

/-- A prefix and the byte behind it. -/
theorem prefix_concat {text out : List β} {byte : β} (before : out <+: text)
    (found : text[out.length]? = some byte) : out ++ [byte] <+: text := by
  obtain ⟨rest, rfl⟩ := before
  rw [List.getElem?_append_right (le_refl _), Nat.sub_self] at found
  cases rest with
  | nil => cases found
  | cons first rest =>
    cases found
    exact ⟨rest, by rw [List.append_assoc]; rfl⟩

/-- What has been written is a prefix of the chunks, and the running `write` is in its place. -/
structure Writes (s : State β) : Prop where
  text : s.stdout <+: s.chunks.flatten
  le : s.got ≤ s.put
  seen : s.consumer.pc.seen = true → s.chunk s.got ≠ []
  writing : s.consumer.pc = .writing → s.consumer.result ≤ (s.chunk s.got).length ∧
    (s.consumer.done < s.consumer.result →
      s.stdout.length = (s.chunks.take s.got).flatten.length + s.consumer.done)

theorem writes_start (memory : Fin nbuff → Slot β) : Writes (start memory) where
  text := List.prefix_refl []
  le := le_refl 0
  seen := nofun
  writing := nofun

section Writes

variable {file : List β} {s s' : State β} {action : Act}

/-- A chunk that holds bytes is one of the chunks. -/
theorem lt_of_chunk {k : ℕ} (bytes : s.chunk k ≠ []) : k < s.chunks.length := by
  by_contra beyond
  exact bytes (List.getD_eq_default _ _ (Nat.not_lt.mp beyond))

/-- A step of the producer that assigns nothing. -/
theorem Writes.produce (writes : Writes s) (chunks : s'.chunks = s.chunks)
    (stdout : s'.stdout = s.stdout) (got : s'.got = s.got) (put : s.put ≤ s'.put)
    (consumer : s'.consumer = s.consumer) : Writes s' := by
  obtain ⟨text, le, seen, writing⟩ := writes
  refine ⟨?_, by omega, ?_, ?_⟩
  · rw [stdout, chunks]
    exact text
  · unfold State.chunk at seen ⊢
    rw [consumer, chunks, got]
    exact seen
  · unfold State.chunk at writing ⊢
    rw [consumer, chunks, got, stdout]
    exact writing

/-- The producer assigns its chunk. -/
theorem Writes.assign (writes : Writes s) : Writes (s.assign.produceTo .test) := by
  obtain ⟨text, le, seen, writing⟩ := writes
  have same : s.consumer.pc.seen = true →
      (s.assign.produceTo .test).chunk s.got = s.chunk s.got ∧
        (s.assign.produceTo .test).chunks.take s.got = s.chunks.take s.got := fun now =>
    ⟨chunk_assign (lt_of_chunk (seen now)),
      List.take_append_of_le_length (Nat.le_of_lt (lt_of_chunk (seen now)))⟩
  refine ⟨?_, le, fun now => ?_, fun now => ?_⟩
  · show s.stdout <+: (s.chunks ++ [_]).flatten
    rw [List.flatten_append]
    exact text.trans (List.prefix_append _ _)
  · have now : s.consumer.pc.seen = true := now
    show (s.assign.produceTo .test).chunk s.got ≠ []
    rw [(same now).1]
    exact seen now
  · have now : s.consumer.pc = .writing := now
    obtain ⟨chunk, before⟩ := same (by rw [now]; rfl)
    show s.consumer.result ≤ ((s.assign.produceTo .test).chunk s.got).length ∧
      (_ → s.stdout.length = ((s.assign.produceTo .test).chunks.take s.got).flatten.length + _)
    rw [chunk, before]
    exact writing now

/-- A step of the consumer outside `write`. -/
theorem Writes.quiet (writes : Writes s) (chunks : s'.chunks = s.chunks)
    (stdout : s'.stdout = s.stdout) (le : s'.got ≤ s'.put)
    (seen : s'.consumer.pc.seen = true → s.chunk s'.got ≠ [])
    (writing : s'.consumer.pc ≠ .writing) : Writes s' := by
  refine ⟨?_, le, ?_, fun here => absurd here writing⟩
  · rw [stdout, chunks]
    exact writes.text
  · unfold State.chunk at seen ⊢
    rw [chunks]
    exact seen

/-- **`write` moves a byte.** -/
theorem Writes.drain (writes : Writes s) (holds : s.emptied.Holds (s.chunk s.got))
    (here : s.consumer.pc = .writing) (more : s.consumer.done < s.consumer.result) :
    Writes s.drain := by
  obtain ⟨high, place⟩ := writes.writing here
  have seen := writes.seen (by rw [here]; rfl)
  have below := lt_of_chunk seen
  have place := place more
  have byte : (s.chunk s.got)[s.consumer.done]? = some (s.emptied.data s.consumer.done) := by
    have bound : s.consumer.done < (s.chunk s.got).length := by omega
    have same := List.getElem_of_eq holds.2 (i := s.consumer.done)
      (by rw [length_bytes]; exact bound)
    rw [List.getElem?_eq_getElem bound, ← same]
    simp [bytes]
  have found : s.chunks.flatten[s.stdout.length]? = some (s.emptied.data s.consumer.done) := by
    have bound : s.consumer.done < (s.chunks.getD s.got []).length := by
      have bound : s.consumer.done < (s.chunk s.got).length := by omega
      exact bound
    rw [flatten_split below, place, List.getElem?_append_right (Nat.le_add_right _ _),
      Nat.add_sub_cancel_left, List.getElem?_append_left bound]
    exact byte
  refine ⟨prefix_concat writes.text found, writes.le, fun _ => seen, fun _ => ⟨high, fun _ => ?_⟩⟩
  show (s.stdout ++ [_]).length = _ + (s.consumer.done + 1)
  rw [List.length_append, place]
  rfl

/-- **Every gapless step keeps what has been written.** -/
theorem Writes.step (writes : Writes s) (laws : Laws s) (indexed : Indexed s)
    (reads : Reads file s) (stored : Stored s) (gapless : Gapless s action)
    (step : Step file s action s') : Writes s' := by
  cases step with
  | assign here => exact writes.assign
  | advance here => exact writes.produce rfl rfl rfl (Nat.le_succ _) rfl
  | waitEmpty here | produceLock here | produceUnlock here | read _ here | fill _ here
  | filled here | last here | notLast here | endStored here | postStored here =>
    exact writes.produce rfl rfl rfl (le_refl _) rfl
  | more here some =>
    have holds := stored.emptied laws indexed (by rw [here]; rfl)
    exact writes.quiet rfl rfl writes.le (fun _ empty => some (holds.zero_iff.mpr empty)) nofun
  | write result here low high =>
    have holds := stored.emptied laws indexed (by rw [here]; rfl)
    have short := reads.fill.short s.got
    have size : sizeT s.emptied.n = (s.chunk s.got).length := by
      unfold sizeT
      unfold buffsize at short
      rw [holds.1]
      omega
    refine ⟨writes.text, writes.le, fun _ => writes.seen (by rw [here]; rfl), fun _ => ⟨?_, ?_⟩⟩
    · exact high.trans_eq size
    · exact fun positive => gapless positive
  | drain here more =>
    exact writes.drain (stored.emptied laws indexed (by rw [here]; rfl)) here more
  | drained here all =>
    exact writes.quiet rfl rfl writes.le (fun _ => writes.seen (by rw [here]; rfl)) nofun
  | consumeAdvance here =>
    have below := reads.fill.before laws (by rw [here]; rfl) (writes.seen (by rw [here]; rfl))
    exact writes.quiet rfl rfl below nofun nofun
  | waitStored here | consumeLock here | consumeUnlock here | consumeEnd here | postEmpty here =>
    exact writes.quiet rfl rfl writes.le nofun nofun

end Writes

/-! ### The result -/

/-- What the gapless steps keep. -/
structure Copies (file : List β) (s : State β) : Prop where
  laws : Laws s
  indexed : Indexed s
  reads : Reads file s
  stored : Stored s
  writes : Writes s

theorem copies_of_reachable {file : List β} {memory : Fin nbuff → Slot β} {s : State β}
    (reachable : (machine file memory).Reachable Gapless s) : Copies file s := by
  refine reachable.induct ?_ ?_
  · exact ⟨laws_start memory, ⟨rfl, rfl⟩, reads_start file memory, Stores.empty _ _ 0,
      writes_start memory⟩
  · rintro s action s' _ ⟨laws, indexed, reads, stored, writes⟩ gapless step
    have step := step_cases step
    exact ⟨laws.step step, indexed.step step, reads.step gapless step,
      reads.stored stored laws indexed step,
      writes.step laws indexed reads stored gapless step⟩

/-- **Without a failing read, and without a byte written behind a gap, `mycat2` survives** every
result that `read` and `write` may return. -/
theorem survives {file : List β} {memory : Fin nbuff → Slot β} {s : State β}
    (reachable : (machine file memory).Reachable Gapless s) : Survives file s := by
  obtain ⟨laws, indexed, reads, stored, writes⟩ := copies_of_reachable reachable
  refine ⟨?_, fun here => ?_, fun _ failed => ?_⟩
  · have read : s.chunks.flatten <+: file.take s.offset := by
      have text := reads.fill.text
      rw [State.known, List.take_take, Nat.min_eq_left (Nat.le_add_right _ _)] at text
      rw [← text]
      exact List.prefix_append _ _
    exact writes.text.trans read
  · have holds := stored.emptied laws indexed (by rw [here]; rfl)
    have short := reads.fill.short s.got
    have some := List.length_pos_iff.mpr (writes.seen (by rw [here]; rfl))
    unfold buffsize at short ⊢
    unfold sizeT
    rw [holds.1]
    omega
  · have success := reads.success
    omega

/-! ### A short write, and a read that fails -/

/-- A short write of a file of two bytes, the last write of the run. -/
def shortWrite : List Act :=
  List.replicate 3 Act.produce ++ [Act.read 2] ++ List.replicate 7 Act.produce ++
    List.replicate 4 Act.consume ++ [Act.write 1] ++ List.replicate 2 Act.consume

/-- `mycat2` on that file, with zeros in its buffers. -/
def twoByteMachine : Machine (State ℕ) Act := machine [7, 8] fun _ => ⟨fun _ => 0, 0⟩

theorem survives_shortWrite : Survives [7, 8] (twoByteMachine.after shortWrite) ∧
    (twoByteMachine.after shortWrite).stdout = [7] := by
  have reachable : twoByteMachine.Reachable Gapless (twoByteMachine.after shortWrite) :=
    Machine.reachable_after (by decide) (by decide)
  exact ⟨survives reachable, by decide⟩

/-- The first `read` fails. -/
def failedRead : List Act :=
  List.replicate 3 Act.produce ++ [Act.read (-1)] ++ List.replicate 5 Act.produce ++
    List.replicate 4 Act.consume

/-- The producer goes on, and the consumer passes a count of 2^64 - 1 to `write`. -/
theorem not_survives : ¬ ∀ (file : List ℕ) (memory : Fin nbuff → Slot ℕ) (s : State ℕ),
    (machine file memory).Reachable Anything s → Survives file s := by
  intro survives
  have reachable : twoByteMachine.Reachable Anything (twoByteMachine.after failedRead) :=
    Machine.reachable_after (by decide) (by decide)
  have counts := (survives _ _ _ reachable).counts
  revert counts
  decide

end Unpvol2.Mycat2
