/-
**Character arrays, `snprintf` and `sscanf`.**

* `Buffer size` — a `char` array; `overwrite` is what a `read` does to it, `str` the string it
  holds.
* `printInt`, `snprintf` — `%d`, and the text cut to the array with a NUL behind it;
  `str_snprintf_take` is what the array then holds, and `str_snprintf` if the text fits.
* `scanInt`, `scanWord`, `scanIntWord` — `%d`, `%s` and `"%d %s"` in the C locale. A directive that
  does not match ends the scan, and its variable and those after it are not assigned.
* `scanIntWord_print` — **a number and a word that have been printed are scanned.**
* `scanLong_printInt` — **so is a `long`, whatever follows it.**
* `scanIntWord_append`, `scanWord_grow` — **what follows the input does not matter if something ends
  its word, and makes the word longer if nothing does.**
-/

import Mathlib.Data.List.TakeWhile
import Unpvol2.Lib.C

namespace C

/-! ### Character arrays -/

/-- A `char` array. -/
structure Buffer (size : ℕ) where
  bytes : List Char
  length_eq : bytes.length = size
deriving DecidableEq

variable {size : ℕ}

/-- An array of one character. -/
def Buffer.filled (c : Char) : Buffer size := ⟨List.replicate size c, List.length_replicate⟩

/-- The array after its first bytes have been overwritten. -/
def Buffer.overwrite (buf : Buffer size) (bytes : List Char) : Buffer size where
  bytes := (bytes ++ buf.bytes.drop bytes.length).take size
  length_eq := by
    have length := buf.length_eq
    rw [List.length_take, List.length_append, List.length_drop]
    omega

/-- `buf[i] = c`. -/
def Buffer.set (buf : Buffer size) (i : ℕ) (c : Char) : Buffer size where
  bytes := buf.bytes.set i c
  length_eq := by
    rw [List.length_set]
    exact buf.length_eq

/-- The bytes, and what they leave of the array. -/
theorem Buffer.overwrite_bytes (buf : Buffer size) {bytes : List Char}
    (short : bytes.length ≤ size) :
    (buf.overwrite bytes).bytes = bytes ++ buf.bytes.drop bytes.length := by
  have length := buf.length_eq
  refine List.take_of_length_le ?_
  rw [List.length_append, List.length_drop]
  omega

/-- The part of the array a `read` has filled. -/
theorem Buffer.take_overwrite (buf : Buffer size) {bytes : List Char}
    (short : bytes.length ≤ size) : (buf.overwrite bytes).bytes.take bytes.length = bytes := by
  rw [Buffer.overwrite_bytes buf short, List.take_left]

/-- Reading nothing changes nothing. -/
theorem Buffer.overwrite_nil (buf : Buffer size) : buf.overwrite [] = buf := by
  obtain ⟨bytes, length⟩ := buf
  unfold Buffer.overwrite
  congr 1
  exact List.take_of_length_le (Nat.le_of_eq length)

/-- Filling the whole array leaves nothing of what it held. -/
theorem Buffer.overwrite_full (buf new : Buffer size) : buf.overwrite new.bytes = new := by
  obtain ⟨bytes, length⟩ := new
  unfold Buffer.overwrite
  congr 1
  rw [List.take_append_of_le_length (Nat.le_of_eq length.symm)]
  exact List.take_of_length_le (Nat.le_of_eq length)

/-- The bytes of a text before its first NUL. -/
def untilNul (text : List Char) : List Char := text.takeWhile fun c => decide (c ≠ nul)

/-- The string the array holds; the end of the array ends it too. -/
def Buffer.str (buf : Buffer size) : List Char := untilNul buf.bytes

/-- `snprintf(buf, sizeof(buf), ...)`, where the format makes `text`. -/
def Buffer.snprintf (buf : Buffer size) (text : List Char) : Buffer size :=
  buf.overwrite (text.take (size - 1) ++ [nul])

/-- What follows a NUL does not matter. -/
theorem untilNul_append_of_mem {text : List Char} (ended : nul ∈ text) (rest : List Char) :
    untilNul (text ++ rest) = untilNul text := by
  induction text with
  | nil => cases ended
  | cons c text ih =>
    unfold untilNul at ih ⊢
    rw [List.cons_append]
    by_cases here : c = nul
    · rw [List.takeWhile_cons_of_neg (by simpa using here),
        List.takeWhile_cons_of_neg (by simpa using here)]
    · have later : nul ∈ text := (List.mem_cons.mp ended).resolve_left (Ne.symm here)
      rw [List.takeWhile_cons_of_pos (by simpa using here),
        List.takeWhile_cons_of_pos (by simpa using here), ih later]

theorem untilNul_of_not_mem {text : List Char} (unended : nul ∉ text) (rest : List Char) :
    untilNul (text ++ rest) = text ++ untilNul rest := by
  refine List.takeWhile_append_of_pos fun c member => decide_eq_true ?_
  rintro rfl
  exact unended member

theorem untilNul_eq_self {text : List Char} (unended : nul ∉ text) : untilNul text = text := by
  have all := untilNul_of_not_mem unended []
  rwa [List.append_nil, show untilNul [] = [] from rfl, List.append_nil] at all

theorem untilNul_append {text : List Char} (ended : nul ∉ text) (rest : List Char) :
    untilNul (text ++ nul :: rest) = text := by
  have stop : untilNul (nul :: rest) = [] := List.takeWhile_cons_of_neg (by simp)
  rw [untilNul_of_not_mem ended, stop, List.append_nil]

theorem length_untilNul_le (text : List Char) : (untilNul text).length ≤ text.length :=
  (List.takeWhile_sublist _).length_le

/-- What stands behind a NUL does not matter. -/
theorem untilNul_nul (text rest : List Char) : untilNul (text ++ nul :: rest) = untilNul text := by
  by_cases ended : nul ∈ text
  · exact untilNul_append_of_mem ended _
  · rw [untilNul_append ended, untilNul_eq_self ended]

/-- `snprintf` ends its string inside the array, and cuts a text that does not fit. -/
theorem Buffer.snprintf_bytes (buf : Buffer (size + 1)) (text : List Char) :
    ∃ behind, (buf.snprintf text).bytes = text.take size ++ nul :: behind := by
  have short : (text.take size ++ [nul]).length ≤ size + 1 := by
    rw [List.length_append, List.length_take]
    exact Nat.succ_le_succ (Nat.min_le_left _ _)
  refine ⟨buf.bytes.drop (text.take size ++ [nul]).length, ?_⟩
  unfold Buffer.snprintf
  rw [Nat.add_sub_cancel, Buffer.overwrite_bytes _ short, List.append_assoc]
  rfl

theorem Buffer.length_str_le (buf : Buffer size) : buf.str.length ≤ size :=
  Nat.le_trans (length_untilNul_le _) (Nat.le_of_eq buf.length_eq)

theorem Buffer.nul_mem_snprintf (buf : Buffer (size + 1)) (text : List Char) :
    nul ∈ (buf.snprintf text).bytes := by
  obtain ⟨behind, bytes⟩ := buf.snprintf_bytes text
  rw [bytes]
  exact List.mem_append_right _ List.mem_cons_self

/-- **The string the array holds after `snprintf`**, whether the text fits or not. -/
theorem Buffer.str_snprintf_take (buf : Buffer (size + 1)) {text : List Char} (ended : nul ∉ text) :
    (buf.snprintf text).str = text.take size := by
  obtain ⟨behind, bytes⟩ := buf.snprintf_bytes text
  unfold Buffer.str
  rw [bytes]
  exact untilNul_append (fun member => ended (List.mem_of_mem_take member)) behind

/-- **A text that fits is the string the array holds after `snprintf`.** -/
theorem Buffer.str_snprintf {buf : Buffer size} {text : List Char} (ended : nul ∉ text)
    (room : text.length < size) : (buf.snprintf text).str = text := by
  cases size with
  | zero => exact absurd room (Nat.not_lt_zero _)
  | succ size =>
    rw [Buffer.str_snprintf_take buf ended]
    exact List.take_of_length_le (Nat.lt_succ_iff.mp room)

/-! ### Printing -/

/-- `%d`. -/
def printInt (value : ℤ) : List Char :=
  if value < 0 then '-' :: decimal value.natAbs else decimal value.natAbs

theorem printInt_natCast (n : ℕ) : printInt n = decimal n := by
  unfold printInt
  rw [if_neg (by omega), Int.natAbs_natCast]

theorem nul_not_mem_printInt (value : ℤ) : nul ∉ printInt value := by
  unfold printInt
  split
  · intro member
    rcases List.mem_cons.mp member with sign | digit
    · exact absurd sign (by decide)
    · exact nul_not_mem_decimal _ digit
  · exact nul_not_mem_decimal _

/-- A `long` takes at most 20 characters. -/
theorem length_printInt_le {value : ℤ} (low : -2 ^ 63 ≤ value) (high : value < 2 ^ 63) :
    (printInt value).length ≤ 20 := by
  have digits : (decimal value.natAbs).length ≤ 19 :=
    (Nat.length_toDigits_le_iff (by decide) (by decide)).mpr (by omega)
  unfold printInt
  split
  · rw [List.length_cons]
    omega
  · omega

theorem isDigit_of_mem_decimal {n : ℕ} {c : Char} (member : c ∈ decimal n) : c.isDigit = true :=
  Nat.isDigit_of_mem_toDigits (by decide) (by decide) member

theorem decimal_ne_nil (n : ℕ) : decimal n ≠ [] :=
  Nat.toDigits_ne_nil

theorem decimal_injective {n m : ℕ} (same : decimal n = decimal m) : n = m := by
  have value := congrArg (fun digits => Nat.ofDigitChars 10 digits 0) same
  simp only [decimal, Nat.ofDigitChars_ten_toDigits] at value
  exact value

/-! ### Scanning -/

/-- `isspace` in the C locale. -/
def isspace (c : Char) : Bool :=
  [' ', '\t', '\n', Char.ofNat 11, Char.ofNat 12, '\r'].contains c

/-- The value of a number as `strtol` has it: it sticks at the ends of a `long`. -/
def saturate (value : ℤ) : ℤ := max (-2 ^ 63) (min (2 ^ 63 - 1) value)

/-- An optional sign, and what follows. -/
def scanSign : List Char → ℤ × List Char
  | '-' :: rest => (-1, rest)
  | '+' :: rest => (1, rest)
  | rest => (1, rest)

/-- `%d`: the number, and what follows it. -/
def scanInt (input : List Char) : Option (ℤ × List Char) :=
  let signed := scanSign (input.dropWhile isspace)
  let digits := signed.2.takeWhile Char.isDigit
  if digits = [] then none
  else some (int32 (saturate (signed.1 * Nat.ofDigitChars 10 digits 0)),
    signed.2.dropWhile Char.isDigit)

/-- `%ld`: the number, and what follows it. -/
def scanLong (input : List Char) : Option (ℤ × List Char) :=
  let signed := scanSign (input.dropWhile isspace)
  let digits := signed.2.takeWhile Char.isDigit
  if digits = [] then none
  else some (saturate (signed.1 * Nat.ofDigitChars 10 digits 0), signed.2.dropWhile Char.isDigit)

/-- `%s`: the word. -/
def scanWord (input : List Char) : Option (List Char) :=
  let word := (input.dropWhile isspace).takeWhile fun c => !isspace c
  if word = [] then none else some word

/-- `sscanf(input, "%d %s", &number, word)`: what is assigned. -/
def scanIntWord (input : List Char) : Option ℤ × Option (List Char) :=
  match scanInt input with
  | none => (none, none)
  | some (number, rest) => (some number, scanWord rest)

theorem isspace_of_isDigit {c : Char} (digit : c.isDigit = true) : isspace c = false := by
  by_contra space
  have listed := eq_true_of_ne_false space
  unfold isspace at listed
  simp only [List.contains_iff_mem, List.mem_cons, List.not_mem_nil, or_false] at listed
  rcases listed with rfl | rfl | rfl | rfl | rfl | rfl <;> exact absurd digit (by decide)

/-- A number has no white space before it, and no sign. -/
theorem skip_decimal (n : ℕ) (rest : List Char) :
    (decimal n ++ rest).dropWhile isspace = decimal n ++ rest ∧
      scanSign (decimal n ++ rest) = (1, decimal n ++ rest) := by
  obtain ⟨first, others, split⟩ := List.exists_cons_of_ne_nil (decimal_ne_nil n)
  have digit : first.isDigit = true :=
    isDigit_of_mem_decimal (n := n) (by rw [split]; exact List.mem_cons_self)
  rw [split, List.cons_append]
  constructor
  · rw [List.dropWhile_cons_of_neg]
    rw [isspace_of_isDigit digit]
    decide
  · unfold scanSign
    split
    case h_1 equal =>
      cases equal
      cases digit
    case h_2 equal =>
      cases equal
      cases digit
    case h_3 => rfl

/-- The digits of a number, and what follows them. -/
theorem digits_decimal (n : ℕ) {c : Char} (stop : c.isDigit = false) (rest : List Char) :
    (decimal n ++ c :: rest).takeWhile Char.isDigit = decimal n ∧
      (decimal n ++ c :: rest).dropWhile Char.isDigit = c :: rest := by
  have digits : ∀ c ∈ decimal n, c.isDigit = true := fun c member => isDigit_of_mem_decimal member
  have stop : ¬ c.isDigit = true := by
    rw [stop]
    decide
  rw [List.takeWhile_append_of_pos digits, List.dropWhile_append_of_pos digits,
    List.takeWhile_cons_of_neg stop, List.dropWhile_cons_of_neg stop, List.append_nil]
  exact ⟨rfl, rfl⟩

theorem ofDigitChars_decimal (n : ℕ) : Nat.ofDigitChars 10 (decimal n) 0 = n :=
  Nat.ofDigitChars_ten_toDigits

theorem saturate_eq {value : ℤ} (low : -2 ^ 63 ≤ value) (high : value < 2 ^ 63) :
    saturate value = value := by
  unfold saturate
  omega

/-- A number is scanned up to the blank behind it. -/
theorem scanInt_decimal {n : ℕ} (small : n < 2 ^ 31) (rest : List Char) :
    scanInt (decimal n ++ ' ' :: rest) = some ((n : ℤ), ' ' :: rest) := by
  obtain ⟨skip, unsigned⟩ := skip_decimal n (' ' :: rest)
  obtain ⟨digits, behind⟩ := digits_decimal n (c := ' ') (by decide) rest
  unfold scanInt
  simp only [skip, unsigned, digits, behind]
  rw [if_neg (decimal_ne_nil n), ofDigitChars_decimal, Int.one_mul,
    saturate_eq (by omega) (by omega), int32_of_lt (by omega) (by omega)]

/-- **A `long` that has been printed is scanned**, up to what follows its digits. -/
theorem scanLong_printInt {n : ℤ} (low : -2 ^ 63 ≤ n) (high : n < 2 ^ 63) {c : Char}
    (stop : c.isDigit = false) (rest : List Char) :
    scanLong (printInt n ++ c :: rest) = some (n, c :: rest) := by
  obtain ⟨skip, unsigned⟩ := skip_decimal n.natAbs (c :: rest)
  obtain ⟨digits, behind⟩ := digits_decimal n.natAbs stop rest
  unfold printInt
  by_cases negative : n < 0
  · have visible : ¬ isspace '-' = true := by decide
    have signed : scanSign ('-' :: (decimal n.natAbs ++ c :: rest)) =
        (-1, decimal n.natAbs ++ c :: rest) := rfl
    rw [if_pos negative, List.cons_append]
    unfold scanLong
    simp only [List.dropWhile_cons_of_neg visible, signed, digits, behind]
    rw [if_neg (decimal_ne_nil _), ofDigitChars_decimal, saturate_eq (by omega) (by omega)]
    have value : -1 * (n.natAbs : ℤ) = n := by omega
    rw [value]
  · rw [if_neg negative]
    unfold scanLong
    simp only [skip, unsigned, digits, behind]
    rw [if_neg (decimal_ne_nil _), ofDigitChars_decimal, saturate_eq (by omega) (by omega)]
    have value : 1 * (n.natAbs : ℤ) = n := by omega
    rw [value]

/-- What `%ld` scans is a `long`. -/
theorem scanLong_range {input : List Char} {n : ℤ} {rest : List Char}
    (scanned : scanLong input = some (n, rest)) : -2 ^ 63 ≤ n ∧ n < 2 ^ 63 := by
  unfold scanLong at scanned
  simp only [Option.ite_none_left_eq_some, Option.some.injEq, Prod.mk.injEq] at scanned
  obtain ⟨_, rfl, _⟩ := scanned
  unfold saturate
  omega

/-- What `%d` scans is an `int`. -/
theorem scanInt_range {input : List Char} {n : ℤ} {rest : List Char}
    (scanned : scanInt input = some (n, rest)) : -2 ^ 31 ≤ n ∧ n < 2 ^ 31 := by
  unfold scanInt at scanned
  simp only [Option.ite_none_left_eq_some, Option.some.injEq, Prod.mk.injEq] at scanned
  obtain ⟨_, rfl, _⟩ := scanned
  exact int32_range _

/-- A word without white space is scanned whole. -/
theorem scanWord_word {word : List Char} (nonempty : word ≠ [])
    (solid : ∀ c ∈ word, isspace c = false) : scanWord (' ' :: word) = some word := by
  obtain ⟨first, others, rfl⟩ := List.exists_cons_of_ne_nil nonempty
  have visible : ¬ isspace first = true := by
    rw [solid first List.mem_cons_self]
    decide
  have whole : (first :: others).takeWhile (fun c => !isspace c) = first :: others := by
    refine List.takeWhile_eq_self_iff.mpr fun c member => ?_
    rw [solid c member]
    rfl
  unfold scanWord
  rw [List.dropWhile_cons_of_pos (by decide), List.dropWhile_cons_of_neg visible]
  simp only [whole]
  exact if_neg nonempty

/-- A word that is scanned has no white space, and is no longer than the input. -/
theorem scanWord_some {input word : List Char} (scanned : scanWord input = some word) :
    (∀ c ∈ word, isspace c = false) ∧ word.length ≤ (input.dropWhile isspace).length := by
  unfold scanWord at scanned
  simp only [Option.ite_none_left_eq_some, Option.some.injEq] at scanned
  obtain ⟨_, rfl⟩ := scanned
  refine ⟨fun c member => ?_, (List.takeWhile_sublist _).length_le⟩
  have visible := List.mem_takeWhile_imp member
  rwa [Bool.not_eq_true'] at visible

/-- `%s` assigns no empty word. -/
theorem scanWord_ne_nil {input word : List Char} (scanned : scanWord input = some word) :
    word ≠ [] := by
  unfold scanWord at scanned
  simp only [Option.ite_none_left_eq_some, Option.some.injEq] at scanned
  obtain ⟨nonempty, rfl⟩ := scanned
  exact nonempty

/-- A number that is scanned takes a digit at least. -/
theorem scanInt_length {input rest : List Char} {n : ℤ}
    (scanned : scanInt input = some (n, rest)) : rest.length < input.length := by
  unfold scanInt at scanned
  simp only [Option.ite_none_left_eq_some, Option.some.injEq, Prod.mk.injEq] at scanned
  obtain ⟨digits, _, rfl⟩ := scanned
  have signed : (scanSign (input.dropWhile isspace)).2.length ≤ input.length := by
    have skipped := (List.dropWhile_sublist isspace (l := input)).length_le
    unfold scanSign
    split
    · rename_i rest here
      rw [here, List.length_cons] at skipped
      exact Nat.le_of_succ_le skipped
    · rename_i rest here
      rw [here, List.length_cons] at skipped
      exact Nat.le_of_succ_le skipped
    · exact skipped
  generalize (scanSign (input.dropWhile isspace)).2 = text at digits signed ⊢
  have split := congrArg List.length
    (List.takeWhile_append_dropWhile (p := Char.isDigit) (l := text))
  rw [List.length_append] at split
  have some := List.length_pos_of_ne_nil digits
  omega

/-- So the word behind it, with its NUL, is no longer than the input. -/
theorem scanIntWord_length {input : List Char} (short : input.length ≤ size) (room : 0 < size) :
    ((scanIntWord input).2.getD []).length < size := by
  unfold scanIntWord
  split
  · exact room
  · rename_i n rest number
    show ((scanWord rest).getD []).length < size
    cases scanned : scanWord rest with
    | none => exact room
    | some word =>
      have length := (scanWord_some scanned).2
      have skipped := (List.dropWhile_sublist isspace (l := rest)).length_le
      have shorter := scanInt_length number
      exact Nat.lt_of_le_of_lt (Nat.le_trans length skipped) (Nat.lt_of_lt_of_le shorter short)

/-- **What `"%d %s"` has printed, `"%d %s"` scans.** -/
theorem scanIntWord_print {n : ℕ} (small : n < 2 ^ 31) {word : List Char} (nonempty : word ≠ [])
    (solid : ∀ c ∈ word, isspace c = false) :
    scanIntWord (decimal n ++ ' ' :: word) = (some (n : ℤ), some word) := by
  unfold scanIntWord
  rw [scanInt_decimal small]
  show (some (n : ℤ), scanWord (' ' :: word)) = _
  rw [scanWord_word nonempty solid]

/-! ### What follows the input -/

/-- A search that stops inside a list stops there whatever follows. -/
theorem while_append_of_stop {p : Char → Bool} {input : List Char} (stop : input.dropWhile p ≠ [])
    (more : List Char) :
    (input ++ more).takeWhile p = input.takeWhile p ∧
      (input ++ more).dropWhile p = input.dropWhile p ++ more := by
  induction input with
  | nil => exact absurd rfl stop
  | cons c rest ih =>
    rw [List.cons_append]
    by_cases here : p c = true
    · rw [List.dropWhile_cons_of_pos here] at stop ⊢
      obtain ⟨taken, dropped⟩ := ih stop
      rw [List.takeWhile_cons_of_pos here, List.takeWhile_cons_of_pos here,
        List.dropWhile_cons_of_pos here, taken, dropped]
      exact ⟨rfl, rfl⟩
    · rw [List.takeWhile_cons_of_neg here, List.takeWhile_cons_of_neg here,
        List.dropWhile_cons_of_neg here, List.dropWhile_cons_of_neg here]
      exact ⟨rfl, rfl⟩

/-- A search that does not stop goes on into what follows. -/
theorem while_append_of_nil {p : Char → Bool} {input : List Char} (all : input.dropWhile p = [])
    (more : List Char) : (input ++ more).takeWhile p = input ++ more.takeWhile p := by
  refine List.takeWhile_append_of_pos fun c member => ?_
  exact List.dropWhile_eq_nil_iff.mp all c member

theorem scanSign_append {input : List Char} (some : input ≠ []) (more : List Char) :
    scanSign (input ++ more) = ((scanSign input).1, (scanSign input).2 ++ more) := by
  obtain ⟨first, others, rfl⟩ := List.exists_cons_of_ne_nil some
  rw [List.cons_append]
  by_cases minus : first = '-'
  · rw [minus]
    rfl
  · by_cases plus : first = '+'
    · rw [plus]
      rfl
    · simp [scanSign, minus, plus]

/-- A number that something ends is scanned alike whatever follows. -/
theorem scanInt_append {input rest : List Char} {n : ℤ} (scanned : scanInt input = some (n, rest))
    (ended : rest ≠ []) (more : List Char) : scanInt (input ++ more) = some (n, rest ++ more) := by
  unfold scanInt at scanned ⊢
  simp only [Option.ite_none_left_eq_some, Option.some.injEq, Prod.mk.injEq] at scanned
  obtain ⟨digits, rfl, rfl⟩ := scanned
  have some : input.dropWhile isspace ≠ [] := by
    intro none
    rw [none] at digits
    exact digits rfl
  simp only [(while_append_of_stop some more).2, scanSign_append some,
    while_append_of_stop ended more]
  rw [if_neg digits]

/-- What follows the word that `%s` scans. -/
def behindWord (input : List Char) : List Char :=
  (input.dropWhile isspace).dropWhile fun c => !isspace c

theorem scanWord_append {input : List Char} (ended : behindWord input ≠ []) (more : List Char) :
    scanWord (input ++ more) = scanWord input := by
  have some : input.dropWhile isspace ≠ [] := by
    intro none
    unfold behindWord at ended
    rw [none] at ended
    exact ended rfl
  unfold scanWord
  simp only [(while_append_of_stop some more).2, (while_append_of_stop ended more).1]

/-- **A request that something ends is scanned alike whatever follows.** -/
theorem scanIntWord_append {input rest : List Char} {n : ℤ}
    (scanned : scanInt input = some (n, rest)) (ended : behindWord rest ≠ []) (more : List Char) :
    scanIntWord (input ++ more) = scanIntWord input := by
  have some : rest ≠ [] := by
    rintro rfl
    exact ended rfl
  unfold scanIntWord
  rw [scanInt_append scanned some, scanned]
  show (Option.some n, scanWord (rest ++ more)) = _
  rw [scanWord_append ended]

/-- **A word that nothing ends grows by what follows.** -/
theorem scanWord_grow {input word : List Char} (scanned : scanWord input = some word)
    (unended : behindWord input = []) {c : Char} (visible : isspace c = false) (more : List Char) :
    ∃ longer, scanWord (input ++ c :: more) = some longer ∧ word.length < longer.length := by
  unfold scanWord at scanned ⊢
  simp only [Option.ite_none_left_eq_some, Option.some.injEq] at scanned
  obtain ⟨nonempty, rfl⟩ := scanned
  have some : input.dropWhile isspace ≠ [] := by
    intro none
    rw [none] at nonempty
    exact nonempty rfl
  have next : (c :: more).takeWhile (fun c => !isspace c) =
      c :: more.takeWhile fun c => !isspace c := by
    refine List.takeWhile_cons_of_pos ?_
    rw [visible]
    rfl
  have whole : (input.dropWhile isspace).takeWhile (fun c => !isspace c) =
      input.dropWhile isspace := by
    have all := while_append_of_nil unended []
    rw [List.append_nil] at all
    simpa using all
  simp only [(while_append_of_stop some (c :: more)).2, while_append_of_nil unended (c :: more)]
  rw [next, whole, if_neg (by simp)]
  refine ⟨_, rfl, ?_⟩
  rw [List.length_append, List.length_cons]
  omega

end C
