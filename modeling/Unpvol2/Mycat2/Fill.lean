/-
**What the producer of `mycat2` has read.**

`Fill` — the chunks read so far, and the bytes of the running read, are the file up to its offset;
a chunk is at most `BUFFSIZE` bytes, and only the last one is empty, at the end of the file.
-/

import Mathlib.Data.List.GetD
import Unpvol2.Mycat2.Laws

namespace Unpvol2.Mycat2

open Interleaving

variable {β : Type}

/-! ### Bytes and chunks -/

theorem length_bytes (data : ℕ → β) (n : ℕ) : (bytes data n).length = n := by
  rw [bytes, List.length_map, List.length_range]

/-- The next byte is written. -/
theorem bytes_update (data : ℕ → β) (n : ℕ) (byte : β) :
    bytes (Function.update data n byte) (n + 1) = bytes data n ++ [byte] := by
  unfold bytes
  rw [List.range_succ, List.map_append, List.map_singleton, Function.update_self]
  congr 1
  refine List.map_congr_left fun k member => ?_
  exact Function.update_of_ne (Nat.ne_of_lt (List.mem_range.mp member)) _ _

/-- The next byte is read. -/
theorem take_bytes {data : ℕ → β} {chunk : List β} {n : ℕ} (holds : bytes data chunk.length = chunk)
    (more : n < chunk.length) : chunk.take (n + 1) = chunk.take n ++ [data n] := by
  have byte : chunk[n] = data n := by
    have found := List.getElem_of_eq holds (i := n) (by rw [length_bytes]; exact more)
    rw [← found]
    simp [bytes]
  rw [List.take_succ_eq_append_getElem more, byte]

/-- The chunk with number `k`. -/
def State.chunk (s : State β) (k : ℕ) : List β := s.chunks.getD k []

/-- The slot holds a chunk. -/
def Slot.Holds (slot : Slot β) (chunk : List β) : Prop :=
  slot.n = chunk.length ∧ bytes slot.data chunk.length = chunk

theorem Slot.Holds.zero_iff {slot : Slot β} {chunk : List β} (holds : slot.Holds chunk) :
    slot.n = 0 ↔ chunk = [] := by
  rw [holds.1, Int.natCast_eq_zero, List.length_eq_zero_iff]

/-- The chunks up to one and this one. -/
theorem flatten_take_succ {chunks : List (List β)} {k : ℕ} (below : k < chunks.length) :
    (chunks.take (k + 1)).flatten = (chunks.take k).flatten ++ chunks.getD k [] := by
  rw [List.take_succ_eq_append_getElem below, List.flatten_append, List.getD_eq_getElem _ _ below]
  simp

/-! ### What has been read -/

/-- A chunk has been assigned to the slot `put`. -/
def ProducePc.assigned : ProducePc → ℕ
  | .test | .endStored | .advance | .returned => 1
  | _ => 0

/-- A read is running, or has moved its bytes. -/
def ProducePc.reads : ProducePc → Bool
  | .reading | .assign => true
  | _ => false

/-- The bytes of the running read. -/
def State.filling (s : State β) : List β :=
  if s.producer.pc.reads then bytes s.filled.data s.producer.done else []

/-- What the producer has read. -/
structure Fill (file : List β) (s : State β) : Prop where
  length : s.chunks.length = s.put + s.producer.pc.assigned
  text : s.chunks.flatten ++ s.filling = file.take s.offset
  within : s.offset ≤ file.length
  short : ∀ k, (s.chunk k).length ≤ buffsize
  nonempty : ∀ k < s.put, s.chunk k ≠ []
  reading : s.producer.pc = .reading → (s.producer.done : ℤ) ≤ s.producer.result ∧
    s.producer.result ≤ buffsize ∧
    s.offset + (s.producer.result - s.producer.done) ≤ file.length ∧
    (s.producer.result = 0 → s.offset = file.length)
  assign : s.producer.pc = .assign → (s.producer.done : ℤ) = s.producer.result ∧
    s.producer.result ≤ buffsize ∧ (s.producer.result = 0 → s.offset = file.length)
  test : s.producer.pc = .test → s.filled.Holds (s.chunk s.put) ∧
    (s.chunk s.put = [] → s.offset = file.length)
  advance : s.producer.pc = .advance → s.chunk s.put ≠ []
  ended : s.producer.pc = .endStored ∨ s.producer.pc = .returned →
    s.chunk s.put = [] ∧ s.offset = file.length

theorem fill_start (file : List β) (memory : Fin nbuff → Slot β) : Fill file (start memory) where
  length := rfl
  text := rfl
  within := Nat.zero_le _
  short := fun _ => Nat.zero_le _
  nonempty := fun _ below => absurd below (Nat.not_lt_zero _)
  reading := fun here => by cases here
  assign := fun here => by cases here
  test := fun here => by cases here
  advance := fun here => by cases here
  ended := fun here => by cases here <;> contradiction

section FillMoves

variable {file : List β} {s s' : State β}

/-- A step that leaves the producer's part alone. -/
theorem Fill.consume (fill : Fill file s) (producer : s'.producer = s.producer)
    (buff : s'.buff = s.buff) (offset : s'.offset = s.offset) (chunks : s'.chunks = s.chunks)
    (put : s'.put = s.put) : Fill file s' := by
  have filled : s'.filled = s.filled := by
    unfold State.filled
    rw [buff, producer]
  have filling : s'.filling = s.filling := by
    unfold State.filling
    rw [filled, producer]
  have chunk : ∀ k, s'.chunk k = s.chunk k := by
    intro k
    unfold State.chunk
    rw [chunks]
  obtain ⟨length, text, within, short, nonempty, reading, assign, test, advance, ended⟩ := fill
  refine ⟨?_, ?_, ?_, ?_, ?_, ?_, ?_, ?_, ?_, ?_⟩
  · rw [chunks, put, producer]
    exact length
  · rw [chunks, filling, offset]
    exact text
  · rw [offset]
    exact within
  · simpa only [chunk] using short
  · simpa only [chunk, put] using nonempty
  · rw [producer, offset]
    exact reading
  · rw [producer, offset]
    exact assign
  · rw [producer, offset, filled, chunk, put]
    exact test
  · rw [producer, chunk, put]
    exact advance
  · rw [producer, offset, chunk, put]
    exact ended

/-- A step of the producer that reads nothing and assigns nothing. -/
theorem Fill.quiet (fill : Fill file s) (offset : s'.offset = s.offset)
    (chunks : s'.chunks = s.chunks) (put : s'.put = s.put)
    (assigned : s'.producer.pc.assigned = s.producer.pc.assigned)
    (reads : s.producer.pc.reads = false) (reads' : s'.producer.pc.reads = false)
    (test : s'.producer.pc ≠ .test) (advance : s'.producer.pc = .advance → s.chunk s.put ≠ [])
    (ended : s'.producer.pc = .endStored ∨ s'.producer.pc = .returned →
      s.chunk s.put = [] ∧ s.offset = file.length) : Fill file s' := by
  have filling : s.filling = [] := by
    unfold State.filling
    rw [reads]
    rfl
  have filling' : s'.filling = [] := by
    unfold State.filling
    rw [reads']
    rfl
  have chunk : ∀ k, s'.chunk k = s.chunk k := by
    intro k
    unfold State.chunk
    rw [chunks]
  obtain ⟨length, text, within, short, nonempty, -⟩ := fill
  refine ⟨?_, ?_, ?_, ?_, ?_, ?_, ?_, ?_, ?_, ?_⟩
  · rw [chunks, put, assigned]
    exact length
  · rw [chunks, filling', ← filling, offset]
    exact text
  · rw [offset]
    exact within
  · simpa only [chunk] using short
  · simpa only [chunk, put] using nonempty
  · intro here
    rw [here] at reads'
    cases reads'
  · intro here
    rw [here] at reads'
    cases reads'
  · exact fun here => absurd here test
  · rw [chunk, put]
    exact advance
  · rw [chunk, put, offset]
    exact ended

/-- **`read` is called.** -/
theorem Fill.read (fill : Fill file s) {result : ℤ} (here : s.producer.pc = .read)
    (complete : Complete file s (.read result)) (high : result ≤ buffsize)
    (within : s.offset + result ≤ file.length) :
    Fill file { s with
      producer := { s.producer with pc := .reading, result := result, done := 0 } } where
  length := by
    have length := fill.length
    rw [here] at length
    exact length
  text := by
    have text := fill.text
    unfold State.filling at text
    rw [here] at text
    exact text
  within := fill.within
  short := fill.short
  nonempty := fill.nonempty
  reading := fun _ => by
    have sign : 0 < result ∨ (result = 0 ∧ s.offset = file.length) := complete
    refine ⟨?_, high, ?_, ?_⟩
    · show ((0 : ℕ) : ℤ) ≤ result
      omega
    · show s.offset + (result - (0 : ℕ)) ≤ file.length
      omega
    · intro zero
      have zero : result = 0 := zero
      show s.offset = file.length
      omega
  assign := nofun
  test := nofun
  advance := nofun
  ended := fun here => by cases here <;> contradiction

/-- **`read` moves a byte.** -/
theorem Fill.fill (fill : Fill file s) {byte : β} (here : s.producer.pc = .reading)
    (more : s.producer.done < s.producer.result) (found : file[s.offset]? = some byte) :
    Fill file (s.fill byte) := by
  obtain ⟨bound, value⟩ := List.getElem?_eq_some_iff.mp found
  obtain ⟨_, high, rest, zero⟩ := fill.reading here
  have pc : (s.fill byte).producer.pc = .reading := here
  have filled : (s.fill byte).filled.data = Function.update s.filled.data s.producer.done byte := by
    show (Function.update s.buff (slot s.producer.i) _ (slot s.producer.i)).data = _
    rw [Function.update_self]
  refine ⟨?_, ?_, bound, fill.short, fill.nonempty, ?_, ?_, ?_, ?_, ?_⟩
  · rw [pc]
    have length := fill.length
    rw [here] at length
    exact length
  · have text := fill.text
    unfold State.filling at text ⊢
    rw [here] at text
    rw [pc, filled]
    show s.chunks.flatten ++ bytes _ (s.producer.done + 1) = file.take (s.offset + 1)
    rw [bytes_update, List.take_succ_eq_append_getElem bound, value, ← text]
    exact (List.append_assoc ..).symm
  · intro _
    refine ⟨?_, high, ?_, ?_⟩
    · show ((s.producer.done + 1 : ℕ) : ℤ) ≤ s.producer.result
      omega
    · show ((s.offset + 1 : ℕ) : ℤ) + (s.producer.result - (s.producer.done + 1 : ℕ)) ≤
        file.length
      omega
    · intro none
      have none : s.producer.result = 0 := none
      omega
  all_goals
    rw [pc]
    simp

/-- All bytes are moved. -/
theorem Fill.filled (fill : Fill file s) (here : s.producer.pc = .reading)
    (all : s.producer.result ≤ s.producer.done) : Fill file (s.produceTo .assign) where
  length := by
    have length := fill.length
    rw [here] at length
    exact length
  text := by
    have text := fill.text
    unfold State.filling at text
    rw [here] at text
    exact text
  within := fill.within
  short := fill.short
  nonempty := fill.nonempty
  reading := nofun
  assign := fun _ => by
    obtain ⟨le, high, _, zero⟩ := fill.reading here
    exact ⟨Int.le_antisymm le all, high, zero⟩
  test := nofun
  advance := nofun
  ended := fun here => by cases here <;> contradiction

/-- The chunks before the one assigned are the old ones. -/
theorem chunk_assign {k : ℕ} (below : k < s.chunks.length) :
    (s.assign.produceTo .test).chunk k = s.chunk k :=
  List.getD_append _ _ _ _ below

theorem chunk_assign_last :
    (s.assign.produceTo .test).chunk s.chunks.length = bytes s.filled.data s.producer.done := by
  show (s.chunks ++ [_]).getD s.chunks.length [] = _
  rw [List.getD_append_right _ _ _ _ (le_refl _), Nat.sub_self]
  rfl

/-- **The count of the slot is assigned.** -/
theorem Fill.assigned (fill : Fill file s) (here : s.producer.pc = .assign) :
    Fill file (s.assign.produceTo .test) := by
  obtain ⟨result, high, zero⟩ := fill.assign here
  have length := fill.length
  have text := fill.text
  unfold State.filling at text
  rw [here] at length text
  have length : s.chunks.length = s.put := length
  have last := chunk_assign_last (s := s)
  have size : (bytes s.filled.data s.producer.done).length = s.producer.done :=
    length_bytes _ _
  have after : (s.assign.produceTo .test).filled =
      { s.filled with n := s.producer.result } := Function.update_self ..
  refine ⟨?_, ?_, fill.within, ?_, ?_, nofun, nofun, fun _ => ⟨⟨?_, ?_⟩, ?_⟩, nofun, ?_⟩
  · show (s.chunks ++ [_]).length = s.put + 1
    rw [List.length_append, length]
    rfl
  · show (s.chunks ++ [_]).flatten ++ [] = file.take s.offset
    rw [List.flatten_append, List.append_nil]
    simpa [ProducePc.reads] using text
  · intro k
    rcases Nat.lt_trichotomy k s.chunks.length with old | new | beyond
    · rw [chunk_assign old]
      exact fill.short k
    · rw [new, last, size]
      omega
    · have out : (s.assign.produceTo .test).chunk k = [] := by
        refine List.getD_eq_default _ _ ?_
        show (s.chunks ++ [_]).length ≤ k
        rw [List.length_append]
        exact beyond
      rw [out]
      exact Nat.zero_le _
  · intro k below
    rw [chunk_assign (by rw [length]; exact below)]
    exact fill.nonempty k below
  · show (s.assign.produceTo .test).filled.n = ((s.assign.produceTo .test).chunk s.put).length
    rw [after, ← length, last, size]
    exact result.symm
  · show bytes (s.assign.produceTo .test).filled.data
      ((s.assign.produceTo .test).chunk s.put).length = (s.assign.produceTo .test).chunk s.put
    rw [after, ← length, last, size]
  · intro none
    have none : (s.assign.produceTo .test).chunk s.put = [] := none
    rw [← length, last, ← List.length_eq_zero_iff, size] at none
    exact zero (by omega)
  · exact fun here => by cases here <;> contradiction

/-- The next slot. -/
theorem Fill.next (fill : Fill file s) (here : s.producer.pc = .advance) (i : ℕ) :
    Fill file { s with producer := { s.producer with pc := .postStored, i := i },
                       put := s.put + 1 } where
  length := by
    have length := fill.length
    rw [here] at length
    exact length
  text := by
    have text := fill.text
    unfold State.filling at text
    rw [here] at text
    exact text
  within := fill.within
  short := fill.short
  nonempty := fun k below => by
    rcases Nat.lt_succ_iff_lt_or_eq.mp below with old | rfl
    · exact fill.nonempty k old
    · exact fill.advance here
  reading := nofun
  assign := nofun
  test := nofun
  advance := nofun
  ended := fun here => by cases here <;> contradiction

/-- **Every step keeps what has been read.** -/
theorem Fill.step {action : Act} (fill : Fill file s)
    (complete : ∀ result, action = .read result → Complete file s action)
    (step : Step file s action s') : Fill file s' := by
  cases step with
  | read result here _ high within => exact fill.read here (complete result rfl) high within
  | fill byte here more found => exact fill.fill here more found
  | filled here all => exact fill.filled here all
  | assign here => exact fill.assigned here
  | last here zero =>
    obtain ⟨holds, none⟩ := fill.test here
    have empty := holds.zero_iff.mp zero
    exact fill.quiet rfl rfl rfl (by rw [here]; rfl) (by rw [here]; rfl) rfl nofun nofun
      fun _ => ⟨empty, none empty⟩
  | notLast here some =>
    have holds := (fill.test here).1
    exact fill.quiet rfl rfl rfl (by rw [here]; rfl) (by rw [here]; rfl) rfl nofun
      (fun _ empty => some (holds.zero_iff.mpr empty)) fun now => by cases now <;> contradiction
  | endStored here =>
    exact fill.quiet rfl rfl rfl (by rw [here]; rfl) (by rw [here]; rfl) rfl nofun nofun
      fun _ => fill.ended (Or.inl here)
  | advance here => exact fill.next here _
  | waitEmpty here | produceLock here | produceUnlock here | postStored here =>
    exact fill.quiet rfl rfl rfl (by rw [here]; rfl) (by rw [here]; rfl) rfl nofun nofun
      fun now => by cases now <;> contradiction
  | waitStored here | consumeLock here | consumeUnlock here | consumeEnd here | more here
  | write _ here | drain here | drained here | consumeAdvance here | postEmpty here =>
    exact fill.consume rfl rfl rfl rfl rfl

end FillMoves

theorem fill_of_reachable {file : List β} {memory : Fin nbuff → Slot β} {s : State β}
    (reachable : (machine file memory).Reachable (Complete file) s) : Fill file s := by
  refine reachable.induct (fill_start file memory) ?_
  intro s action s' _ fill complete step
  exact fill.step (fun _ _ => complete) (step_cases step)

end Unpvol2.Mycat2
