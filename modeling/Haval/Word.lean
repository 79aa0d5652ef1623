import Mathlib.Data.BitVec

/-!
# `Haval/Word.lean` — 32-bit words, rotations, and the little-endian byte order

sphlib keeps every HAVAL quantity in an `sph_u32` and truncates with `SPH_T32` after each
addition, so a word here is a `BitVec 32` and `+` is already addition modulo `2^32`:
`SPH_T32` is the identity on this type and does not appear below.

The header that defines `SPH_ROTL32`, `SPH_ROTR32`, `sph_enc32le` and `sph_dec32le_aligned`
(`sph_types.h`) is **not** in the source tree. They are modelled here from their names and
from what `haval.c` and `sph_haval.h` say of them (`mix128` "is then rotated to the left by
n bits"; `msg` holds the words "after the little-endian decoding"). Everything else in the
project reads them only through the lemmas of this file.

The second half is the small algebra of masks that the output tailoring (`Haval/Output.lean`)
needs: `&&&` distributes over `|||`, and a word is the union of its masked parts. With those
and core's literal simprocs every extraction of a masked field is one `simp`.
-/

set_option autoImplicit false

namespace Haval

/-- An `sph_u32`. -/
abbrev Word := BitVec 32

/-- An `unsigned char`. -/
abbrev Byte := BitVec 8

/-! ## 1. Rotations -/

/-- Modelled from the spec: `SPH_ROTL32(x, n)`, whose definition (`sph_types.h`) is not in the
    source; a left rotation of the 32-bit word, as `mix128`'s comment describes it. -/
def sphRotl32 (x : Word) (n : Nat) : Word := x.rotateLeft n

/-- Modelled from the spec: `SPH_ROTR32(x, n)` (`sph_types.h`, not in the source), the right
    rotation undoing `SPH_ROTL32`. -/
def sphRotr32 (x : Word) (n : Nat) : Word := x.rotateRight n

@[simp] theorem sphRotl32_sphRotr32 (x : Word) (n : Nat) : sphRotl32 (sphRotr32 x n) n = x := by
  ext ⟨i, hi⟩
  simp only [sphRotl32, sphRotr32, BitVec.getLsbD_rotateLeft, BitVec.getLsbD_rotateRight]
  by_cases h : i < n % 32 <;>
    simp (disch := omega) [h, hi, Nat.add_sub_cancel', decide_eq_true, decide_eq_false]

@[simp] theorem sphRotr32_sphRotl32 (x : Word) (n : Nat) : sphRotr32 (sphRotl32 x n) n = x := by
  ext ⟨i, hi⟩
  simp only [sphRotl32, sphRotr32, BitVec.getLsbD_rotateLeft, BitVec.getLsbD_rotateRight]
  by_cases h : i < 32 - n % 32 <;>
    simp (disch := omega) [h, hi, Nat.add_sub_cancel', decide_eq_true, decide_eq_false]

/-! ## 2. Little-endian bytes -/

/-- Modelled from the spec: `sph_enc32le(dst, val)` (`sph_types.h`, not in the source), the
    four bytes of `val`, least significant first. -/
def sphEnc32le (x : Word) : List Byte :=
  [x.setWidth 8, (x >>> 8).setWidth 8, (x >>> 16).setWidth 8, (x >>> 24).setWidth 8]

/-- The word whose little-endian bytes are `b0 b1 b2 b3`: what `sph_dec32le_aligned` returns
    for them. -/
def sphDec32le (b0 b1 b2 b3 : Byte) : Word :=
  b0.setWidth 32 ||| b1.setWidth 32 <<< 8 ||| b2.setWidth 32 <<< 16 ||| b3.setWidth 32 <<< 24

/-- Modelled from the spec: `sph_dec32le_aligned(src)` (`sph_types.h`, not in the source), the
    word whose little-endian bytes are the four at `src`. -/
def sphDec32leAligned (src : List Byte) : Word := sphDec32le src[0]! src[1]! src[2]! src[3]!

@[simp] theorem sphEnc32le_length (x : Word) : (sphEnc32le x).length = 4 := rfl

/-- Decoding undoes encoding: the byte order loses nothing. -/
theorem sphDec32le_sphEnc32le (x : Word) :
    sphDec32le (x.setWidth 8) ((x >>> 8).setWidth 8) ((x >>> 16).setWidth 8)
      ((x >>> 24).setWidth 8) = x := by
  ext ⟨i, hi⟩
  simp only [sphDec32le, BitVec.getLsbD_or, BitVec.getLsbD_shiftLeft, BitVec.getLsbD_setWidth,
    BitVec.getLsbD_ushiftRight]
  by_cases h8 : i < 8 <;> by_cases h16 : i < 16 <;> by_cases h24 : i < 24 <;>
    simp (disch := omega) [*, Nat.add_sub_cancel', decide_eq_true, decide_eq_false]

/-- Encoding undoes decoding: four bytes are exactly one word. -/
theorem sphEnc32le_sphDec32le (b0 b1 b2 b3 : Byte) :
    sphEnc32le (sphDec32le b0 b1 b2 b3) = [b0, b1, b2, b3] := by
  simp only [sphEnc32le, sphDec32le, List.cons.injEq, and_true]
  refine ⟨?_, ?_, ?_, ?_⟩ <;> ext ⟨i, hi⟩ <;>
    simp (disch := omega) [BitVec.getLsbD_or, BitVec.getLsbD_shiftLeft, BitVec.getLsbD_setWidth,
      BitVec.getLsbD_ushiftRight, hi, Nat.add_sub_cancel', decide_eq_true, decide_eq_false]

@[simp] theorem sphDec32leAligned_sphEnc32le_append (x : Word) (l : List Byte) :
    sphDec32leAligned (sphEnc32le x ++ l) = x := by
  simpa [sphDec32leAligned, sphEnc32le] using sphDec32le_sphEnc32le x

theorem sphEnc32le_injective : Function.Injective sphEnc32le := by
  intro x y h
  simp only [sphEnc32le, List.cons.injEq, and_true] at h
  rw [← sphDec32le_sphEnc32le x, ← sphDec32le_sphEnc32le y, h.1, h.2.1, h.2.2.1, h.2.2.2]

@[simp] theorem sphEnc32le_inj {x y : Word} : sphEnc32le x = sphEnc32le y ↔ x = y :=
  sphEnc32le_injective.eq_iff

/-- Two outputs that start with an encoded word agree on the word and on the rest. -/
@[simp] theorem sphEnc32le_append_inj {x y : Word} {l l' : List Byte} :
    sphEnc32le x ++ l = sphEnc32le y ++ l' ↔ x = y ∧ l = l' := by
  constructor
  · intro h
    have h' := List.append_inj h (by simp)
    exact ⟨sphEnc32le_injective h'.1, h'.2⟩
  · rintro ⟨rfl, rfl⟩; rfl

/-! ## 3. Masks

A mask here is a literal; `simp` evaluates `&&&`, `|||` and shifts between literals with core's
simprocs, so these four lemmas are all the algebra a field extraction needs. -/

namespace Word

theorem and_or_distrib_right (a b m : Word) : (a ||| b) &&& m = (a &&& m) ||| (b &&& m) := by
  ext i; simp [Bool.and_or_distrib_right]

theorem and_or_distrib_left (x a b : Word) : x &&& (a ||| b) = (x &&& a) ||| (x &&& b) := by
  ext i; simp [Bool.and_or_distrib_left]

theorem allOnes_eq : BitVec.allOnes 32 = 0xFFFFFFFF#32 := by decide

/-- Stated with a `#32` literal, the form core's simprocs leave a folded mask in. -/
@[simp] theorem and_ones (x : Word) : x &&& 0xFFFFFFFF#32 = x := by
  rw [← allOnes_eq]; exact BitVec.and_allOnes

end Word

end Haval
