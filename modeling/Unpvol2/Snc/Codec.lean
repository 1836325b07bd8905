/-
**The requests of `client` and the names of the client FIFOs.**

A request is 64 bytes: `"%d %s"` of the client's process id and the pathname on its command line,
and behind the NUL whatever `buf` held before. The server scans it with `"%d %s"`. A request that
`Fits` is scanned as the client has printed it (`scan_request`), and the name the server makes of a
process id is the name of that client's FIFO alone (`clientFifo_injective`).
-/

import Unpvol2.Lib.Stdio

namespace Unpvol2.Snc

open C

/-- A client: its process id, its command line, and what is on its stack. -/
structure Args where
  pid : ℕ
  pathname : List Char
  buf : Buffer 64

/-- `snprintf(buf, sizeof(buf), "%d %s", pid, argv[1])`. -/
def Args.request (x : Args) : Buffer 64 :=
  x.buf.snprintf (printInt x.pid ++ ' ' :: untilNul x.pathname)

/-- `snprintf(buf, sizeof(buf), "/tmp/client.%d.fifo", cpid)`, in `client` and in the servers. -/
def clientFifoBuf (buf : Buffer 64) (cpid : ℤ) : Buffer 64 :=
  buf.snprintf ("/tmp/client.".toList ++ printInt cpid ++ ".fifo".toList)

/-- The name of the FIFO of the client `cpid`. -/
def clientFifo (cpid : ℤ) : List Char :=
  "/tmp/client.".toList ++ printInt cpid ++ ".fifo".toList

/-- `sscanf(buf, "%d %s", &cpid, pathname)`: a variable that is not assigned keeps its value. -/
def scanRequest (buf : Buffer 64) (cpid : ℤ) (pathname : List Char) : ℤ × List Char :=
  let scanned := scanIntWord buf.str
  (scanned.1.getD cpid, scanned.2.getD pathname)

/-- The request of a client, as the server is to understand it. -/
def Args.key (x : Args) : ℤ × List Char := (x.pid, x.pathname)

/-! ### Requests that fit -/

/-- The request fits into 64 bytes, and its pathname is one word. -/
structure Args.Fits (x : Args) : Prop where
  nonempty : x.pathname ≠ []
  solid : ∀ c ∈ x.pathname, isspace c = false ∧ c ≠ nul
  room : (decimal x.pid).length + 1 + x.pathname.length ≤ 63

variable {x : Args}

theorem Args.Fits.untilNul_pathname (fits : x.Fits) : untilNul x.pathname = x.pathname :=
  List.takeWhile_eq_self_iff.mpr fun c member => decide_eq_true (fits.solid c member).2

/-- **The server scans the process id and the pathname the client has printed.** -/
theorem scan_request (fits : x.Fits) (small : x.pid < 2 ^ 31) (cpid : ℤ) (pathname : List Char) :
    scanRequest x.request cpid pathname = x.key := by
  have ended : nul ∉ decimal x.pid ++ ' ' :: x.pathname := by
    intro member
    rcases List.mem_append.mp member with digit | word
    · exact nul_not_mem_decimal _ digit
    · rcases List.mem_cons.mp word with blank | inside
      · exact absurd blank (by decide)
      · exact (fits.solid nul inside).2 rfl
  have room : (decimal x.pid ++ ' ' :: x.pathname).length < 64 := by
    have short := fits.room
    rw [List.length_append, List.length_cons]
    omega
  have str : x.request.str = decimal x.pid ++ ' ' :: x.pathname := by
    unfold Args.request
    rw [printInt_natCast, fits.untilNul_pathname]
    exact Buffer.str_snprintf ended room
  unfold scanRequest
  rw [str, scanIntWord_print small fits.nonempty fun c member => (fits.solid c member).1]
  rfl

/-! ### The names of the client FIFOs -/

theorem clientFifo_injective {n m : ℕ} (same : clientFifo n = clientFifo m) : n = m := by
  unfold clientFifo at same
  rw [printInt_natCast, printInt_natCast] at same
  exact decimal_injective (List.append_cancel_left (List.append_cancel_right same))

/-- The name always fits into `buf`. -/
theorem clientFifoBuf_str {n : ℤ} (low : -2 ^ 63 ≤ n) (high : n < 2 ^ 63) (buf : Buffer 64) :
    (clientFifoBuf buf n).str = clientFifo n := by
  have digits := length_printInt_le low high
  refine Buffer.str_snprintf ?_ ?_
  · simp only [List.mem_append, not_or]
    exact ⟨⟨by decide, nul_not_mem_printInt n⟩, by decide⟩
  · have first : "/tmp/client.".toList.length = 12 := by decide
    have last : ".fifo".toList.length = 5 := by decide
    rw [List.length_append, List.length_append]
    omega

/-! ### The clients of one run -/

/-- The clients have distinct process ids, and ask for readable files in requests that fit. -/
structure Asking {ι : Type} (files : List Char → Option (List Char)) (args : ι → Args) : Prop where
  distinct : Function.Injective fun c => (args c).pid
  pid : ∀ c, (args c).pid < 2 ^ 31
  fits : ∀ c, (args c).Fits
  readable : ∀ c, (files (args c).pathname).isSome = true

section Asking

variable {ι : Type} {files : List Char → Option (List Char)} {args : ι → Args}

theorem Asking.pid_ne (asking : Asking files args) {c d : ι} (ne : d ≠ c) :
    ((args d).pid : ℤ) ≠ (args c).pid :=
  fun same => ne (asking.distinct (Int.ofNat_inj.mp same))

theorem Asking.key_ne (asking : Asking files args) {c d : ι} (ne : d ≠ c) :
    (args d).key ≠ (args c).key :=
  fun same => asking.pid_ne ne (Prod.mk.inj same).1

theorem Asking.scan (asking : Asking files args) (c : ι) (cpid : ℤ) (pathname : List Char) :
    scanRequest (args c).request cpid pathname = (args c).key :=
  scan_request (asking.fits c) (asking.pid c) cpid pathname

theorem Asking.clientFifoBuf_str (asking : Asking files args) (c : ι) (buf : Buffer 64) :
    (clientFifoBuf buf (args c).pid).str = clientFifo (args c).pid := by
  have small := asking.pid c
  refine Snc.clientFifoBuf_str ?_ ?_ buf
  · omega
  · omega

/-- Two clients write two requests. -/
theorem Asking.request_ne (asking : Asking files args) {c d : ι} (ne : d ≠ c) :
    (args d).request ≠ (args c).request := by
  intro same
  have keys := asking.scan d 0 []
  rw [same, asking.scan c] at keys
  exact asking.key_ne ne keys.symm

theorem Asking.name_ne (asking : Asking files args) {c d : ι} (ne : d ≠ c) :
    clientFifo (args d).pid ≠ clientFifo (args c).pid :=
  fun same => ne (asking.distinct (clientFifo_injective same))

end Asking

end Unpvol2.Snc
