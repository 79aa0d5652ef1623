import Haval.Word

/-!
# `Haval/Boolean.lean` — the five Boolean functions, and the paper's polynomials

`sph_haval.h` carries each of HAVAL's functions `F1`..`F5` twice: once as a comment, headed
*"Basic definition from the reference paper"*, and once as the macro the passes use, which is
the same polynomial over GF(2) refactored to save operations. Nothing in the source checks
that the refactoring is right; **`f_eq_paper` is that check**, over every argument tuple.

Both sides are transliterated with the C's own parenthesisation. The parentheses matter in
Lean: `&&&` and `^^^` share one precedence level here, where C binds `&` tighter than `^`.

The proof is the same for all five: a bitwise identity between words is the same identity
between the seven bits at each position, and an identity over seven `Bool`s is a closed
statement `decide` evaluates (128 rows).

The `FPn_p` macros are `F` applied to a permutation of the arguments (the paper's phi), so
they inherit the identity with no further work.
-/

set_option autoImplicit false

namespace Haval

/-! ## 1. The functions as the passes compute them -/

/-- `F1(x6, x5, x4, x3, x2, x1, x0)`. -/
def f1 (x6 x5 x4 x3 x2 x1 x0 : Word) : Word :=
  (x1 &&& (x0 ^^^ x4)) ^^^ (x2 &&& x5) ^^^ (x3 &&& x6) ^^^ x0

/-- `F2(x6, x5, x4, x3, x2, x1, x0)`. -/
def f2 (x6 x5 x4 x3 x2 x1 x0 : Word) : Word :=
  (x2 &&& ((x1 &&& ~~~x3) ^^^ (x4 &&& x5) ^^^ x6 ^^^ x0))
    ^^^ (x4 &&& (x1 ^^^ x5)) ^^^ ((x3 &&& x5) ^^^ x0)

/-- `F3(x6, x5, x4, x3, x2, x1, x0)`. -/
def f3 (x6 x5 x4 x3 x2 x1 x0 : Word) : Word :=
  (x3 &&& ((x1 &&& x2) ^^^ x6 ^^^ x0)) ^^^ (x1 &&& x4) ^^^ (x2 &&& x5) ^^^ x0

/-- `F4(x6, x5, x4, x3, x2, x1, x0)`. -/
def f4 (x6 x5 x4 x3 x2 x1 x0 : Word) : Word :=
  (x3 &&& ((x1 &&& x2) ^^^ (x4 ||| x6) ^^^ x5))
    ^^^ (x4 &&& ((~~~x2 &&& x5) ^^^ x1 ^^^ x6 ^^^ x0))
    ^^^ (x2 &&& x6) ^^^ x0

/-- `F5(x6, x5, x4, x3, x2, x1, x0)`. -/
def f5 (x6 x5 x4 x3 x2 x1 x0 : Word) : Word :=
  (x0 &&& ~~~((x1 &&& x2 &&& x3) ^^^ x5)) ^^^ (x1 &&& x4) ^^^ (x2 &&& x5) ^^^ (x3 &&& x6)

/-! ## 2. The reference paper's definitions, from the comments above the macros -/

/-- `F1` as the comment gives it: `x1x4 ^ x2x5 ^ x3x6 ^ x0x1 ^ x0`. -/
def f1Paper (x6 x5 x4 x3 x2 x1 x0 : Word) : Word :=
  (x1 &&& x4) ^^^ (x2 &&& x5) ^^^ (x3 &&& x6) ^^^ (x0 &&& x1) ^^^ x0

/-- `F2` as the comment gives it. -/
def f2Paper (x6 x5 x4 x3 x2 x1 x0 : Word) : Word :=
  (x1 &&& x2 &&& x3) ^^^ (x2 &&& x4 &&& x5) ^^^ (x1 &&& x2)
    ^^^ (x1 &&& x4) ^^^ (x2 &&& x6) ^^^ (x3 &&& x5)
    ^^^ (x4 &&& x5) ^^^ (x0 &&& x2) ^^^ x0

/-- `F3` as the comment gives it. -/
def f3Paper (x6 x5 x4 x3 x2 x1 x0 : Word) : Word :=
  (x1 &&& x2 &&& x3) ^^^ (x1 &&& x4) ^^^ (x2 &&& x5)
    ^^^ (x3 &&& x6) ^^^ (x0 &&& x3) ^^^ x0

/-- `F4` as the comment gives it. -/
def f4Paper (x6 x5 x4 x3 x2 x1 x0 : Word) : Word :=
  (x1 &&& x2 &&& x3) ^^^ (x2 &&& x4 &&& x5) ^^^ (x3 &&& x4 &&& x6)
    ^^^ (x1 &&& x4) ^^^ (x2 &&& x6) ^^^ (x3 &&& x4) ^^^ (x3 &&& x5)
    ^^^ (x3 &&& x6) ^^^ (x4 &&& x5) ^^^ (x4 &&& x6) ^^^ (x0 &&& x4) ^^^ x0

/-- `F5` as the comment gives it. -/
def f5Paper (x6 x5 x4 x3 x2 x1 x0 : Word) : Word :=
  (x1 &&& x4) ^^^ (x2 &&& x5) ^^^ (x3 &&& x6)
    ^^^ (x0 &&& x1 &&& x2 &&& x3) ^^^ (x0 &&& x5) ^^^ x0

/-! ## 3. The refactorings are exact -/

theorem f1_eq_f1Paper (x6 x5 x4 x3 x2 x1 x0 : Word) :
    f1 x6 x5 x4 x3 x2 x1 x0 = f1Paper x6 x5 x4 x3 x2 x1 x0 := by
  ext i
  simp only [f1, f1Paper, BitVec.getLsbD_and, BitVec.getLsbD_xor]
  generalize x6.getLsbD i = a6, x5.getLsbD i = a5, x4.getLsbD i = a4, x3.getLsbD i = a3,
    x2.getLsbD i = a2, x1.getLsbD i = a1, x0.getLsbD i = a0
  revert a6 a5 a4 a3 a2 a1 a0; decide

theorem f2_eq_f2Paper (x6 x5 x4 x3 x2 x1 x0 : Word) :
    f2 x6 x5 x4 x3 x2 x1 x0 = f2Paper x6 x5 x4 x3 x2 x1 x0 := by
  ext i
  simp only [f2, f2Paper, BitVec.getLsbD_and, BitVec.getLsbD_xor, BitVec.getLsbD_not,
    Fin.is_lt, decide_True, Bool.true_and]
  generalize x6.getLsbD i = a6, x5.getLsbD i = a5, x4.getLsbD i = a4, x3.getLsbD i = a3,
    x2.getLsbD i = a2, x1.getLsbD i = a1, x0.getLsbD i = a0
  revert a6 a5 a4 a3 a2 a1 a0; decide

theorem f3_eq_f3Paper (x6 x5 x4 x3 x2 x1 x0 : Word) :
    f3 x6 x5 x4 x3 x2 x1 x0 = f3Paper x6 x5 x4 x3 x2 x1 x0 := by
  ext i
  simp only [f3, f3Paper, BitVec.getLsbD_and, BitVec.getLsbD_xor]
  generalize x6.getLsbD i = a6, x5.getLsbD i = a5, x4.getLsbD i = a4, x3.getLsbD i = a3,
    x2.getLsbD i = a2, x1.getLsbD i = a1, x0.getLsbD i = a0
  revert a6 a5 a4 a3 a2 a1 a0; decide

theorem f4_eq_f4Paper (x6 x5 x4 x3 x2 x1 x0 : Word) :
    f4 x6 x5 x4 x3 x2 x1 x0 = f4Paper x6 x5 x4 x3 x2 x1 x0 := by
  ext i
  simp only [f4, f4Paper, BitVec.getLsbD_and, BitVec.getLsbD_xor, BitVec.getLsbD_or,
    BitVec.getLsbD_not, Fin.is_lt, decide_True, Bool.true_and]
  generalize x6.getLsbD i = a6, x5.getLsbD i = a5, x4.getLsbD i = a4, x3.getLsbD i = a3,
    x2.getLsbD i = a2, x1.getLsbD i = a1, x0.getLsbD i = a0
  revert a6 a5 a4 a3 a2 a1 a0; decide

theorem f5_eq_f5Paper (x6 x5 x4 x3 x2 x1 x0 : Word) :
    f5 x6 x5 x4 x3 x2 x1 x0 = f5Paper x6 x5 x4 x3 x2 x1 x0 := by
  ext i
  simp only [f5, f5Paper, BitVec.getLsbD_and, BitVec.getLsbD_xor, BitVec.getLsbD_not,
    Fin.is_lt, decide_True, Bool.true_and]
  generalize x6.getLsbD i = a6, x5.getLsbD i = a5, x4.getLsbD i = a4, x3.getLsbD i = a3,
    x2.getLsbD i = a2, x1.getLsbD i = a1, x0.getLsbD i = a0
  revert a6 a5 a4 a3 a2 a1 a0; decide

/-- **The optimised macros compute the reference paper's functions**, on every tuple of
    32-bit words. -/
theorem f_eq_paper :
    f1 = f1Paper ∧ f2 = f2Paper ∧ f3 = f3Paper ∧ f4 = f4Paper ∧ f5 = f5Paper := by
  refine ⟨?_, ?_, ?_, ?_, ?_⟩ <;> funext x6 x5 x4 x3 x2 x1 x0
  exacts [f1_eq_f1Paper .., f2_eq_f2Paper .., f3_eq_f3Paper .., f4_eq_f4Paper .., f5_eq_f5Paper ..]

/-! ## 4. The phi permutations

`FPn_p` is the function of pass `p` in an `n`-pass HAVAL: `F_p` with its arguments permuted.
-/

/-- `FP3_1`. -/
def fp3_1 (x6 x5 x4 x3 x2 x1 x0 : Word) : Word := f1 x1 x0 x3 x5 x6 x2 x4
/-- `FP3_2`. -/
def fp3_2 (x6 x5 x4 x3 x2 x1 x0 : Word) : Word := f2 x4 x2 x1 x0 x5 x3 x6
/-- `FP3_3`. -/
def fp3_3 (x6 x5 x4 x3 x2 x1 x0 : Word) : Word := f3 x6 x1 x2 x3 x4 x5 x0

/-- `FP4_1`. -/
def fp4_1 (x6 x5 x4 x3 x2 x1 x0 : Word) : Word := f1 x2 x6 x1 x4 x5 x3 x0
/-- `FP4_2`. -/
def fp4_2 (x6 x5 x4 x3 x2 x1 x0 : Word) : Word := f2 x3 x5 x2 x0 x1 x6 x4
/-- `FP4_3`. -/
def fp4_3 (x6 x5 x4 x3 x2 x1 x0 : Word) : Word := f3 x1 x4 x3 x6 x0 x2 x5
/-- `FP4_4`. -/
def fp4_4 (x6 x5 x4 x3 x2 x1 x0 : Word) : Word := f4 x6 x4 x0 x5 x2 x1 x3

/-- `FP5_1`. -/
def fp5_1 (x6 x5 x4 x3 x2 x1 x0 : Word) : Word := f1 x3 x4 x1 x0 x5 x2 x6
/-- `FP5_2`. -/
def fp5_2 (x6 x5 x4 x3 x2 x1 x0 : Word) : Word := f2 x6 x2 x1 x0 x3 x4 x5
/-- `FP5_3`. -/
def fp5_3 (x6 x5 x4 x3 x2 x1 x0 : Word) : Word := f3 x2 x6 x0 x4 x3 x1 x5
/-- `FP5_4`. -/
def fp5_4 (x6 x5 x4 x3 x2 x1 x0 : Word) : Word := f4 x1 x5 x3 x2 x0 x4 x6
/-- `FP5_5`. -/
def fp5_5 (x6 x5 x4 x3 x2 x1 x0 : Word) : Word := f5 x2 x5 x0 x6 x4 x3 x1

end Haval
