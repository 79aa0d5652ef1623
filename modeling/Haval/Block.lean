import Haval.Word
import Mathlib.Data.Vector.Defs

/-!
# `Haval/Block.lean` — `IN_PREPARE`: the byte path into the core

`sph_haval.h` gives the cores two ways to read a message block. `sph_haval_N_comp` takes the
block as 32 words (`INMSG`, `Haval/Core.lean`). The streaming functions of `haval_helper.c`
take it as 128 bytes: `IN_PREPARE(indata)` decodes them into the local array `X_var[32]`,
little-endian, four bytes a word, and the core reads that array through `INW(i)`.

`haval_helper.c` itself is not in the source, so nothing here composes the macro into an
update function. What this file proves is what that composition needs from it:
**`IN_PREPARE` loses nothing and invents nothing** (`inPrepare_inverse_blockBytes`). The
little-endian layout of 32 words (`blockBytes`) is its inverse on both sides, so the 128-byte
blocks and the 32-word blocks are in bijection through it.

Each direction rests on one induction over the words of the block: step `i + 1` of the
`IN_PREPARE` loop over `x :: l` decodes four bytes further on than step `i` over `l`.
-/

set_option autoImplicit false

namespace Haval

/-! ## 1. The macro and its layout -/

/-- `IN_PREPARE(indata)`: the loop
    `for (load_index = 0; load_index < 32; load_index ++)`
    `X_var[load_index] = sph_dec32le_aligned(indata + 4 * load_index)`, returning `X_var`. -/
def inPrepare (indata : Mathlib.Vector Byte 128) : Mathlib.Vector Word 32 :=
  ⟨(List.range 32).map fun load_index =>
      sphDec32leAligned (indata.toList.drop (4 * load_index)), by simp⟩

/-- The layout `IN_PREPARE` reads: the words of a block, each as its four little-endian
    bytes. -/
def blockBytes (msg : Mathlib.Vector Word 32) : Mathlib.Vector Byte 128 :=
  ⟨msg.toList.flatMap sphEnc32le, by
    simp [show List.length ∘ sphEnc32le = fun _ => 4 from rfl]⟩

/-! ## 2. `IN_PREPARE` is the inverse of the layout -/

/-- Decoding at every fourth byte of encoded words gives the words back. -/
theorem map_range_decode (l : List Word) :
    (List.range l.length).map (fun i => sphDec32leAligned ((l.flatMap sphEnc32le).drop (4 * i)))
      = l := by
  induction l with
  | nil => rfl
  | cons x l ih =>
    rw [List.length_cons, List.range_succ_eq_map, List.map_cons, List.map_map]
    simp only [List.flatMap_cons, Nat.mul_zero, List.drop_zero,
      sphDec32leAligned_sphEnc32le_append]
    exact congrArg (x :: ·) ih

/-- Encoding the words decoded at every fourth byte of `4 * n` bytes gives the bytes back. -/
theorem flatMap_encode_decode (n : Nat) (l : List Byte) (h : l.length = 4 * n) :
    ((List.range n).map fun i => sphDec32leAligned (l.drop (4 * i))).flatMap sphEnc32le = l := by
  induction n generalizing l with
  | zero => simp_all
  | succ n ih =>
    rcases l with _ | ⟨b0, _ | ⟨b1, _ | ⟨b2, _ | ⟨b3, l⟩⟩⟩⟩ <;>
      simp only [List.length_cons, List.length_nil] at h
    all_goals try omega
    have hd : sphDec32leAligned (b0 :: b1 :: b2 :: b3 :: l) = sphDec32le b0 b1 b2 b3 := by
      simp [sphDec32leAligned]
    rw [List.range_succ_eq_map, List.map_cons, List.map_map, List.flatMap_cons, Nat.mul_zero,
      List.drop_zero, hd, sphEnc32le_sphDec32le]
    exact congrArg (b0 :: b1 :: b2 :: b3 :: ·) (ih l (by omega))

theorem inPrepare_blockBytes (msg : Mathlib.Vector Word 32) : inPrepare (blockBytes msg) = msg :=
  Mathlib.Vector.eq _ _ (by simpa [inPrepare, blockBytes] using map_range_decode msg.toList)

theorem blockBytes_inPrepare (indata : Mathlib.Vector Byte 128) :
    blockBytes (inPrepare indata) = indata :=
  Mathlib.Vector.eq _ _ (flatMap_encode_decode 32 indata.toList indata.toList_length)

/-- **`IN_PREPARE` is a bijection from 128-byte blocks to 32-word blocks**, with the
    little-endian layout of the words as its inverse on both sides. -/
theorem inPrepare_inverse_blockBytes :
    Function.LeftInverse blockBytes inPrepare ∧ Function.RightInverse blockBytes inPrepare :=
  ⟨blockBytes_inPrepare, inPrepare_blockBytes⟩

end Haval
