/-
**What a request leaves to what was there before it.**

`sscanf` reads `buf` and not what `read` has put there, and it may assign nothing. So what the
server opens depends on the request alone exactly if the request is whole: a number, a word behind
it, and a NUL or white space that ends it.

* `same_names_iff` — **for a whole request, and for no other, any two runs that read it open the
  same FIFO and the same file.**
* `other_names` — a `read` of nothing sends the server where a file it has served tells it.
-/

import Unpvol2.Snc.Loop

namespace Unpvol2.Snc.Loop

open C Interleaving Servern

/-! ### What is opened next -/

/-- The name of the client FIFO that is opened next, and, if that succeeds, the name of the file;
none where `sscanf` has written past `pathname`. -/
def State.names (s : State) : Option (List Char) × Option (List Char) :=
  let closed := s.step .closeServer
  let opened := closed.bind fun s => s.step (.openClient true)
  (closed.bind State.opens, opened.bind State.opens)

theorem State.names_eq {s : State} (closing : s.pc = .closeServer) :
    s.names = (some (clientFifoBuf s.buf s.cpid).str, some s.pathname) := by
  obtain ⟨pc, buf, cpid, pathname⟩ := s
  cases closing
  rfl

theorem State.names_of_overflow {s : State} (overflowed : s.pc = .overflowed) :
    s.names = (none, none) := by
  obtain ⟨pc, buf, cpid, pathname⟩ := s
  cases overflowed
  rfl

/-- The word is found in the bytes, in what they leave of `buf`, and behind it. -/
theorem State.scanned_eq (s : State) {bytes : List Char} (short : bytes.length ≤ 64)
    (behind : List Char) : s.scanned bytes behind =
      scanIntWord (untilNul (bytes ++ (s.buf.bytes.drop bytes.length ++ behind))) := by
  unfold State.scanned
  rw [Buffer.overwrite_bytes _ short, List.append_assoc]

theorem State.scan_of_fits {s : State} {bytes behind : List Char}
    (fits : s.fits bytes behind = true) :
    s.scan bytes behind = ⟨.closeServer, s.buf.overwrite bytes,
      (s.scanned bytes behind).1.getD s.cpid, (s.scanned bytes behind).2.getD s.pathname⟩ := by
  unfold State.scan
  rw [if_pos fits]

/-- In any two runs that read `bytes`, from whatever is on the stack, the server then opens the same
client FIFO and the same file. -/
def SameNames (stack₁ stack₂ : Stack) (bytes : List Char) : Prop :=
  ∀ s₁ s₂, (machine stack₁).Reachable Anything s₁ → (machine stack₂).Reachable Anything s₂ →
    ∀ behind₁ behind₂ t₁ t₂, s₁.step (.read bytes behind₁) = some t₁ →
      s₂.step (.read bytes behind₂) = some t₂ → t₁.names = t₂.names

/-- The bytes hold a request: a number, a word behind it, and what ends the word. -/
def whole (bytes : List Char) : Bool :=
  match scanInt (untilNul bytes) with
  | none => false
  | some (_, rest) => (scanWord rest).isSome && (bytes.contains nul || !(behindWord rest).isEmpty)

/-- What `read` does. -/
theorem step_read {s t : State} {bytes behind : List Char}
    (step : s.step (.read bytes behind) = some t) :
    s.pc = .read ∧ bytes.length ≤ 64 ∧ t = s.scan bytes behind := by
  obtain ⟨pc, buf, cpid, pathname⟩ := s
  cases pc <;> simp only [State.step, Option.ite_none_right_eq_some, Option.some.injEq,
    reduceCtorEq] at step
  exact ⟨rfl, step.1, step.2.symm⟩

/-! ### A whole request -/

/-- **A whole request is scanned alike whatever follows it**, and both variables are assigned. -/
theorem scan_whole {bytes : List Char} (request : whole bytes = true) :
    ∃ n word, -2 ^ 31 ≤ n ∧ n < 2 ^ 31 ∧
      ∀ more, scanIntWord (untilNul (bytes ++ more)) = (some n, some word) := by
  unfold whole at request
  split at request
  case h_1 => cases request
  case h_2 n rest number =>
    rw [Bool.and_eq_true, Option.isSome_iff_exists] at request
    obtain ⟨⟨word, assigned⟩, ended⟩ := request
    obtain ⟨low, high⟩ := scanInt_range number
    have scanned : scanIntWord (untilNul bytes) = (some n, some word) := by
      unfold scanIntWord
      rw [number]
      exact congrArg (Prod.mk (some n)) assigned
    refine ⟨n, word, low, high, fun more => ?_⟩
    by_cases inside : nul ∈ bytes
    · rw [untilNul_append_of_mem inside, scanned]
    · have behind : behindWord rest ≠ [] := by
        simpa [inside] using ended
      rw [untilNul_eq_self inside] at number scanned
      rw [untilNul_of_not_mem inside, scanIntWord_append number behind, scanned]

/-- So it does not matter what the server has done before. -/
theorem same_names_of_whole (stack₁ stack₂ : Stack) {bytes : List Char}
    (request : whole bytes = true) : SameNames stack₁ stack₂ bytes := by
  obtain ⟨n, word, low, high, scanned⟩ := scan_whole request
  have names : ∀ s t : State, ∀ behind, s.step (.read bytes behind) = some t →
      t.names = (some (clientFifo n), some word) := by
    intro s t behind step
    obtain ⟨_, short, rfl⟩ := step_read step
    have assigned : s.scanned bytes behind = (some n, some word) :=
      (s.scanned_eq short behind).trans (scanned _)
    have alone : scanIntWord (untilNul bytes) = (some n, some word) := by
      rw [← scanned [], List.append_nil]
    have fits := State.fits_of_length (assigned.trans alone.symm)
      (Nat.le_trans (length_untilNul_le bytes) short)
    rw [State.scan_of_fits fits, State.names_eq rfl, assigned]
    show (some (clientFifoBuf _ n).str, some word) = _
    rw [clientFifoBuf_str (by omega) (by omega)]
  intro s₁ s₂ _ _ behind₁ behind₂ t₁ t₂ step₁ step₂
  rw [names s₁ t₁ behind₁ step₁, names s₂ t₂ behind₂ step₂]

/-! ### Any other request -/

/-- The server copies a file of 64 bytes, and opens its FIFO again. -/
def copies (content : Buffer 64) : List Act :=
  [.openFile (some content.bytes), .copy, .write true, .copy, .closeClient, .openServer true]

/-- **The file that was served last is what `buf` holds.** -/
theorem run_copies (stack : Stack) (content buf : Buffer 64) (cpid : ℤ) (pathname : List Char) :
    (machine stack).run ⟨.openFile, buf, cpid, pathname⟩ (copies content) =
      some ⟨.read, content, cpid, pathname⟩ := by
  have all : content.bytes.take 64 = content.bytes :=
    List.take_of_length_le (Nat.le_of_eq content.length_eq)
  have done : content.bytes.drop 64 = [] :=
    List.drop_eq_nil_of_le (Nat.le_of_eq content.length_eq)
  have some : content.bytes ≠ [] := by
    intro none
    have length := content.length_eq
    rw [none] at length
    cases length
  simp [copies, Machine.run, machine, State.step, all, done, some, Buffer.overwrite_full,
    Buffer.overwrite_nil]

/-- A client asks for the file `[name]`, and the server copies it. -/
def served (name : Char) (content : Buffer 64) : List Act :=
  [.openServer true, .read ['1', ' ', name, nul] [], .closeServer, .openClient true] ++
    copies content

/-- The request for `[name]` is scanned. -/
theorem scan_served {name : Char} (visible : isspace name = false) (printable : name ≠ nul)
    (more : List Char) :
    scanIntWord (untilNul ('1' :: ' ' :: name :: nul :: more)) = (some 1, some [name]) := by
  have text : untilNul (['1', ' ', name] ++ nul :: more) = decimal 1 ++ ' ' :: [name] := by
    refine untilNul_append ?_ more
    simp only [List.mem_cons, List.not_mem_nil, or_false, not_or]
    exact ⟨by decide, by decide, printable.symm⟩
  refine Eq.trans (congrArg scanIntWord text) (scanIntWord_print (by decide) nofun ?_)
  intro c member
  rw [List.mem_singleton.mp member]
  exact visible

theorem reachable_served (stack : Stack) {name : Char} (visible : isspace name = false)
    (printable : name ≠ nul) (content : Buffer 64) :
    (machine stack).Reachable Anything ⟨.read, content, 1, [name]⟩ := by
  have short : ['1', ' ', name, nul].length ≤ 64 := by
    show 4 ≤ 64
    decide
  have found : State.scanned ⟨.read, stack.buf, stack.cpid, stack.pathname⟩
      ['1', ' ', name, nul] [] = (some 1, some [name]) :=
    (State.scanned_eq _ short []).trans (scan_served visible printable _)
  have fits : State.fits ⟨.read, stack.buf, stack.cpid, stack.pathname⟩
      ['1', ' ', name, nul] [] = true := by
    unfold State.fits
    rw [found]
    rfl
  have scanned :
      State.scan ⟨.read, stack.buf, stack.cpid, stack.pathname⟩ ['1', ' ', name, nul] [] =
        ⟨.closeServer, stack.buf.overwrite ['1', ' ', name, nul], 1, [name]⟩ := by
    rw [State.scan_of_fits fits, found]
    rfl
  have asked : (machine stack).run (start stack)
      [.openServer true, .read ['1', ' ', name, nul] [], .closeServer, .openClient true] =
      some ⟨.openFile, clientFifoBuf (stack.buf.overwrite ['1', ' ', name, nul]) 1, 1, [name]⟩ := by
    simp [Machine.run, machine, start, State.step, scanned]
  have ran : (machine stack).run (start stack) (served name content) =
      some ⟨.read, content, 1, [name]⟩ := by
    rw [served, Machine.run_append]
    exact (congrArg (Option.bind · _) asked).trans (run_copies stack content _ 1 [name])
  exact Machine.reaches_of_run ran (Machine.admitted_anything _ _)

/-- What follows a request in a buffer that holds NULs ends it. -/
theorem untilNul_filled (bytes : List Char) (n : ℕ) :
    untilNul (bytes ++ List.replicate n nul) = untilNul bytes := by
  by_cases inside : nul ∈ bytes
  · exact untilNul_append_of_mem inside _
  · have none : untilNul (List.replicate n nul) = [] := by
      cases n with
      | zero => rfl
      | succ n => exact List.takeWhile_cons_of_neg (by simp)
    rw [untilNul_of_not_mem inside, none, List.append_nil, untilNul_eq_self inside]

/-- What is opened after a read of `bytes` into a buffer of `c`. -/
theorem names_filled {bytes : List Char} (short : bytes.length ≤ 64) (c name : Char)
    (behind : List Char) {word : Option (List Char)}
    (found : (scanIntWord (untilNul
      (bytes ++ (List.replicate (64 - bytes.length) c ++ behind)))).2 = word) :
    (State.scan ⟨.read, Buffer.filled c, 1, [name]⟩ bytes behind).names.2 =
      if (word.getD []).length < 64 then some (word.getD [name]) else none := by
  have scanned : (State.scanned ⟨.read, Buffer.filled c, 1, [name]⟩ bytes behind).2 = word := by
    rw [State.scanned_eq _ short]
    unfold Buffer.filled
    rw [List.drop_replicate, found]
  by_cases fits : (word.getD []).length < 64
  · have fits' : State.fits ⟨.read, Buffer.filled c, 1, [name]⟩ bytes behind = true := by
      unfold State.fits
      rw [scanned, decide_eq_true fits]
    rw [State.scan_of_fits fits', State.names_eq rfl, scanned, if_pos fits]
  · have long : State.fits ⟨.read, Buffer.filled c, 1, [name]⟩ bytes behind ≠ true := by
      unfold State.fits
      rw [scanned]
      exact fun short => fits (of_decide_eq_true short)
    rw [State.names_of_overflow (if_neg long), if_neg fits]

/-- A word that nothing ends is longer when a file has filled `buf` with its letters. -/
theorem scan_longer {bytes rest word : List Char} {n : ℤ} (unended : nul ∉ bytes)
    (number : scanInt bytes = some (n, rest)) (scanned : scanWord rest = some word)
    (last : behindWord rest = []) (k : ℕ) :
    ∃ longer, (scanIntWord (untilNul (bytes ++ (List.replicate k 'x' ++ ['x'])))).2 = some longer ∧
      word.length < longer.length := by
  have some : rest ≠ [] := by
    rintro rfl
    cases scanned
  have letters : untilNul (List.replicate k 'x' ++ ['x']) = 'x' :: List.replicate k 'x' := by
    rw [← List.replicate_succ', List.replicate_succ]
    refine List.takeWhile_eq_self_iff.mpr fun c member => ?_
    rw [List.eq_of_mem_replicate (n := k + 1) member]
    decide
  obtain ⟨longer, grown, more⟩ := scanWord_grow scanned last (c := 'x') (by decide)
    (List.replicate k 'x')
  refine ⟨longer, ?_, more⟩
  rw [untilNul_of_not_mem unended, letters]
  unfold scanIntWord
  rw [scanInt_append number some]
  exact grown

/-- **A request that is not whole lets what was there before it decide.** -/
theorem whole_of_same_names (stack₁ stack₂ : Stack) {bytes : List Char} (short : bytes.length ≤ 64)
    (same : SameNames stack₁ stack₂ bytes) : whole bytes = true := by
  have step : ∀ (c name : Char) behind, State.step ⟨.read, Buffer.filled c, 1, [name]⟩
      (.read bytes behind) = some (State.scan ⟨.read, Buffer.filled c, 1, [name]⟩ bytes behind) :=
    fun c name behind => if_pos short
  have names : ∀ c₁ name₁ behind₁ c₂ name₂ behind₂, isspace name₁ = false → name₁ ≠ nul →
      isspace name₂ = false → name₂ ≠ nul →
      (State.scan ⟨.read, Buffer.filled c₁, 1, [name₁]⟩ bytes behind₁).names.2 =
        (State.scan ⟨.read, Buffer.filled c₂, 1, [name₂]⟩ bytes behind₂).names.2 := by
    intro c₁ name₁ behind₁ c₂ name₂ behind₂ visible₁ printable₁ visible₂ printable₂
    have reachable₁ := reachable_served stack₁ visible₁ printable₁ (Buffer.filled c₁)
    have reachable₂ := reachable_served stack₂ visible₂ printable₂ (Buffer.filled c₂)
    exact congrArg Prod.snd (same _ _ reachable₁ reachable₂ behind₁ behind₂ _ _
      (step c₁ name₁ behind₁) (step c₂ name₂ behind₂))
  -- with nothing but NULs in `buf`, a name that is not assigned is that of the earlier request
  have assigned : (scanIntWord (untilNul bytes)).2 ≠ none := by
    intro kept
    have equal := names nul 'a' [] nul 'b' [] (by decide) (by decide) (by decide) (by decide)
    have kept : (scanIntWord (untilNul
        (bytes ++ (List.replicate (64 - bytes.length) nul ++ [])))).2 = none := by
      rw [List.append_nil, untilNul_filled, kept]
    rw [names_filled short nul 'a' [] kept, names_filled short nul 'b' [] kept] at equal
    cases equal
  unfold whole
  unfold scanIntWord at assigned
  split
  case h_1 none =>
    rw [none] at assigned
    exact absurd rfl assigned
  case h_2 n rest number =>
    rw [number] at assigned
    obtain ⟨word, scanned⟩ := Option.ne_none_iff_exists'.mp assigned
    rw [Bool.and_eq_true]
    refine ⟨Option.isSome_iff_exists.mpr ⟨word, scanned⟩, ?_⟩
    by_contra ended
    simp only [Bool.or_eq_true, List.contains_iff_mem, Bool.not_eq_true', List.isEmpty_eq_false_iff,
      not_or, not_not] at ended
    obtain ⟨unended, last⟩ := ended
    have all := untilNul_eq_self unended
    -- with the letters of a file behind it, the word is longer
    have equal := names nul 'a' [] 'x' 'a' ['x'] (by decide) (by decide) (by decide) (by decide)
    rw [all] at number
    obtain ⟨longer, grown, more⟩ :=
      scan_longer unended number scanned last (64 - bytes.length)
    have alone : (scanIntWord (untilNul
        (bytes ++ (List.replicate (64 - bytes.length) nul ++ [])))).2 = some word := by
      rw [List.append_nil, untilNul_filled, all]
      unfold scanIntWord
      rw [number]
      exact scanned
    have fits : word.length < 64 := by
      have length := scanIntWord_length (Nat.le_trans (length_untilNul_le bytes) short) (by decide)
      rw [← untilNul_filled bytes (64 - bytes.length), ← List.append_nil (List.replicate _ nul),
        alone] at length
      exact length
    rw [names_filled short nul 'a' [] alone, names_filled short 'x' 'a' ['x'] grown,
      Option.getD_some, Option.getD_some, Option.getD_some, Option.getD_some, if_pos fits] at equal
    -- the longer word is another name, or it does not fit
    split at equal
    · cases equal
      exact absurd more (Nat.lt_irrefl _)
    · cases equal

/-- **The server acts on the request it has read alone exactly if that request is whole.** -/
theorem same_names_iff (stack₁ stack₂ : Stack) {bytes : List Char} (short : bytes.length ≤ 64) :
    SameNames stack₁ stack₂ bytes ↔ whole bytes = true :=
  ⟨whole_of_same_names stack₁ stack₂ short, same_names_of_whole stack₁ stack₂⟩

theorem same_names_iff_ended : "7 a b".toList.length ≤ 64 ∧
    (SameNames blankStack blankStack "7 a b".toList ↔ whole "7 a b".toList = true) :=
  ⟨by decide, same_names_iff blankStack blankStack (by decide)⟩

/-- A file tells the server what to open when a client opens and closes its FIFO. -/
def planted : List Act :=
  [.openServer true, .read ("1 a".toList ++ [nul]) [], .closeServer, .openClient true,
    .openFile (some ("7 /etc/passwd".toList ++ [nul])), .copy, .write true, .copy, .closeClient,
    .openServer true]

/-- **A `read` of nothing opens what a file has named**, and elsewhere something else. -/
theorem other_names : ¬ ∀ (stack₁ stack₂ : Stack) (bytes : List Char), bytes.length ≤ 64 →
    SameNames stack₁ stack₂ bytes := by
  intro same
  have after : (machine blankStack).Reachable Anything ((machine blankStack).after planted) :=
    Machine.reachable_after (by decide) (Machine.admitted_anything _ _)
  have first : (machine blankStack).Reachable Anything
      ((machine blankStack).after [.openServer true]) :=
    Machine.reachable_after (by decide) (Machine.admitted_anything _ _)
  have names := same blankStack blankStack [] (by decide) _ _ after first [] [] _ _ rfl rfl
  have other : (some "/etc/passwd".toList : Option (List Char)) = some [] :=
    congrArg Prod.snd names
  cases other

end Unpvol2.Snc.Loop
