import Haval.Boolean
import Haval.Passes
import Mathlib.Data.Vector.Defs

/-!
# `Haval/Core.lean` — `CORE3`/`CORE4`/`CORE5` and `sph_haval_N_comp`

`COREn(in)` saves the state (`SAVE_STATE`), runs `PASS1(n, in)`..`PASSn(n, in)`, and adds the
saved words back (`UPDATE_STATE`). `sph_haval_N_comp(msg, val)` wraps it: `RVAL` loads `val`
into `s0`..`s7`, `CORE` runs with `in = INMSG`, `WVAL` stores the result.

Which `PASSy` the cores see is a build-time choice, `#if SPH_SMALL_FOOTPRINT_HAVAL`; here it is
the `Bool` argument `smallFootprint` of every definition from `pass1` up. The results of the
file hold in either build:

* **`core_smallFootprint_eq_unrolled`** — the choice is unobservable: both builds give the same
  eight words for every state and every input function, so every `_comp` entry point returns the
  same array. Each switched pass is the unrolled one (`passes_eq_unrolled`): the two builds'
  passes agree (`Haval/Passes.lean`), and a switch between equal functions is either of them.
* **`rounds_injective`** — in either build, the rounds before the feed-forward are injective on
  the 256-bit state. Each pass is a `runSteps` of lines naming eight distinct registers
  (`Unrolled.pass1Lines_distinct` and its siblings), so it has the left inverse `runStepsInv`;
  `roundsInv3` and its siblings compose those inverses into the inverse of the whole round
  function.

`in` is an arbitrary `Nat → Word` throughout, which covers both of its callers: `INMSG`
(the `_comp` functions here) and `INW` (the update loop of `haval_helper.c`, not in the source).
-/

set_option autoImplicit false

namespace Haval

/-! ## 1. The build switch -/

/-- `PASS1(n, in)` as `#if SPH_SMALL_FOOTPRINT_HAVAL` selects it. -/
def pass1 (smallFootprint : Bool) : Fn7 → (Nat → Word) → State → State :=
  cond smallFootprint SmallFootprint.pass1 Unrolled.pass1
/-- `PASS2(n, in)` as the build selects it. -/
def pass2 (smallFootprint : Bool) : Fn7 → (Nat → Word) → State → State :=
  cond smallFootprint SmallFootprint.pass2 Unrolled.pass2
/-- `PASS3(n, in)` as the build selects it. -/
def pass3 (smallFootprint : Bool) : Fn7 → (Nat → Word) → State → State :=
  cond smallFootprint SmallFootprint.pass3 Unrolled.pass3
/-- `PASS4(n, in)` as the build selects it. -/
def pass4 (smallFootprint : Bool) : Fn7 → (Nat → Word) → State → State :=
  cond smallFootprint SmallFootprint.pass4 Unrolled.pass4
/-- `PASS5(n, in)` as the build selects it. -/
def pass5 (smallFootprint : Bool) : Fn7 → (Nat → Word) → State → State :=
  cond smallFootprint SmallFootprint.pass5 Unrolled.pass5

/-- A build switch between two equal functions is the unrolled one, whichever way it is set. -/
theorem cond_of_eq {α : Type} {a b : α} (h : a = b) (smallFootprint : Bool) :
    cond smallFootprint a b = b :=
  h ▸ Bool.cond_self smallFootprint a

/-- In either build, each `PASSy` is the unrolled one. -/
theorem passes_eq_unrolled :
    (∀ smallFootprint, pass1 smallFootprint = Unrolled.pass1) ∧
    (∀ smallFootprint, pass2 smallFootprint = Unrolled.pass2) ∧
    (∀ smallFootprint, pass3 smallFootprint = Unrolled.pass3) ∧
    (∀ smallFootprint, pass4 smallFootprint = Unrolled.pass4) ∧
    (∀ smallFootprint, pass5 smallFootprint = Unrolled.pass5) :=
  ⟨cond_of_eq SmallFootprint.pass1_eq_unrolled,
   cond_of_eq (SmallFootprint.passG_eq_runSteps SmallFootprint.pass2Lines_eq),
   cond_of_eq (SmallFootprint.passG_eq_runSteps SmallFootprint.pass3Lines_eq),
   cond_of_eq (SmallFootprint.passG_eq_runSteps SmallFootprint.pass4Lines_eq),
   cond_of_eq (SmallFootprint.passG_eq_runSteps SmallFootprint.pass5Lines_eq)⟩

/-! ## 2. The cores -/

/-- `UPDATE_STATE`: `s_k = T32(s_k + u_k)`, `u` being the words `SAVE_STATE` kept. -/
def updateState (u s : State) : State :=
  ⟨s.s0 + u.s0, s.s1 + u.s1, s.s2 + u.s2, s.s3 + u.s3,
    s.s4 + u.s4, s.s5 + u.s5, s.s6 + u.s6, s.s7 + u.s7⟩

/-- `CORE3(in)`. -/
def core3 (smallFootprint : Bool) (inw : Nat → Word) (s : State) : State :=
  let u := s
  let s := pass1 smallFootprint fp3_1 inw s
  let s := pass2 smallFootprint fp3_2 inw s
  let s := pass3 smallFootprint fp3_3 inw s
  updateState u s

/-- `CORE4(in)`. -/
def core4 (smallFootprint : Bool) (inw : Nat → Word) (s : State) : State :=
  let u := s
  let s := pass1 smallFootprint fp4_1 inw s
  let s := pass2 smallFootprint fp4_2 inw s
  let s := pass3 smallFootprint fp4_3 inw s
  let s := pass4 smallFootprint fp4_4 inw s
  updateState u s

/-- `CORE5(in)`. -/
def core5 (smallFootprint : Bool) (inw : Nat → Word) (s : State) : State :=
  let u := s
  let s := pass1 smallFootprint fp5_1 inw s
  let s := pass2 smallFootprint fp5_2 inw s
  let s := pass3 smallFootprint fp5_3 inw s
  let s := pass4 smallFootprint fp5_4 inw s
  let s := pass5 smallFootprint fp5_5 inw s
  updateState u s

/-! ## 3. `sph_haval_N_comp` -/

/-- `RVAL`: `s0 = val[0]; ... s7 = val[7]`. -/
def rval (val : Mathlib.Vector Word 8) : State :=
  ⟨val[0], val[1], val[2], val[3], val[4], val[5], val[6], val[7]⟩

/-- `WVAL`: `val[0] = s0; ... val[7] = s7`. -/
def wval (s : State) : Mathlib.Vector Word 8 :=
  ⟨[s.s0, s.s1, s.s2, s.s3, s.s4, s.s5, s.s6, s.s7], rfl⟩

/-- `INMSG(i)`: `msg[i]`. -/
def inmsg (msg : Mathlib.Vector Word 32) (i : Nat) : Word := msg.toList[i]!

/-- `sph_haval_3_comp(msg, val)`, returning the new `val`. -/
def sphHaval3Comp (smallFootprint : Bool) (msg : Mathlib.Vector Word 32)
    (val : Mathlib.Vector Word 8) : Mathlib.Vector Word 8 :=
  wval (core3 smallFootprint (inmsg msg) (rval val))

/-- `sph_haval_4_comp(msg, val)`. -/
def sphHaval4Comp (smallFootprint : Bool) (msg : Mathlib.Vector Word 32)
    (val : Mathlib.Vector Word 8) : Mathlib.Vector Word 8 :=
  wval (core4 smallFootprint (inmsg msg) (rval val))

/-- `sph_haval_5_comp(msg, val)`. -/
def sphHaval5Comp (smallFootprint : Bool) (msg : Mathlib.Vector Word 32)
    (val : Mathlib.Vector Word 8) : Mathlib.Vector Word 8 :=
  wval (core5 smallFootprint (inmsg msg) (rval val))

/-! ## 4. The two builds compute the same function -/

theorem core3_build (inw : Nat → Word) (s : State) : core3 true inw s = core3 false inw s := by
  obtain ⟨h1, h2, h3, -⟩ := passes_eq_unrolled
  simp only [core3, h1, h2, h3]

theorem core4_build (inw : Nat → Word) (s : State) : core4 true inw s = core4 false inw s := by
  obtain ⟨h1, h2, h3, h4, -⟩ := passes_eq_unrolled
  simp only [core4, h1, h2, h3, h4]

theorem core5_build (inw : Nat → Word) (s : State) : core5 true inw s = core5 false inw s := by
  obtain ⟨h1, h2, h3, h4, h5⟩ := passes_eq_unrolled
  simp only [core5, h1, h2, h3, h4, h5]

/-- **`SPH_SMALL_FOOTPRINT_HAVAL` is unobservable**: the looped, table-driven passes and the
    unrolled ones give the same cores for every state and input function, hence the same
    `sph_haval_N_comp` for every message block and chaining value. -/
theorem core_smallFootprint_eq_unrolled :
    (∀ inw s, core3 true inw s = core3 false inw s) ∧
    (∀ inw s, core4 true inw s = core4 false inw s) ∧
    (∀ inw s, core5 true inw s = core5 false inw s) ∧
    (∀ msg val, sphHaval3Comp true msg val = sphHaval3Comp false msg val) ∧
    (∀ msg val, sphHaval4Comp true msg val = sphHaval4Comp false msg val) ∧
    (∀ msg val, sphHaval5Comp true msg val = sphHaval5Comp false msg val) :=
  ⟨core3_build, core4_build, core5_build,
   fun msg val => congrArg wval (core3_build (inmsg msg) (rval val)),
   fun msg val => congrArg wval (core4_build (inmsg msg) (rval val)),
   fun msg val => congrArg wval (core5_build (inmsg msg) (rval val))⟩

/-! ## 5. The rounds are a permutation of the state -/

/-- The rounds of `CORE3`: what runs between `SAVE_STATE` and `UPDATE_STATE`. -/
def rounds3 (smallFootprint : Bool) (inw : Nat → Word) (s : State) : State :=
  pass3 smallFootprint fp3_3 inw (pass2 smallFootprint fp3_2 inw (pass1 smallFootprint fp3_1 inw s))

/-- The rounds of `CORE4`. -/
def rounds4 (smallFootprint : Bool) (inw : Nat → Word) (s : State) : State :=
  pass4 smallFootprint fp4_4 inw (pass3 smallFootprint fp4_3 inw
    (pass2 smallFootprint fp4_2 inw (pass1 smallFootprint fp4_1 inw s)))

/-- The rounds of `CORE5`. -/
def rounds5 (smallFootprint : Bool) (inw : Nat → Word) (s : State) : State :=
  pass5 smallFootprint fp5_5 inw (pass4 smallFootprint fp5_4 inw (pass3 smallFootprint fp5_3 inw
    (pass2 smallFootprint fp5_2 inw (pass1 smallFootprint fp5_1 inw s))))

theorem core3_eq_rounds3 (smallFootprint : Bool) (inw : Nat → Word) (s : State) :
    core3 smallFootprint inw s = updateState s (rounds3 smallFootprint inw s) := rfl

theorem core4_eq_rounds4 (smallFootprint : Bool) (inw : Nat → Word) (s : State) :
    core4 smallFootprint inw s = updateState s (rounds4 smallFootprint inw s) := rfl

theorem core5_eq_rounds5 (smallFootprint : Bool) (inw : Nat → Word) (s : State) :
    core5 smallFootprint inw s = updateState s (rounds5 smallFootprint inw s) := rfl

/-- The rounds of `CORE3` run backwards: each unrolled pass undone, last pass first. -/
def roundsInv3 (inw : Nat → Word) (s : State) : State :=
  runStepsInv fp3_1 inw Unrolled.pass1Lines (runStepsInv fp3_2 inw Unrolled.pass2Lines
    (runStepsInv fp3_3 inw Unrolled.pass3Lines s))

/-- The rounds of `CORE4` run backwards. -/
def roundsInv4 (inw : Nat → Word) (s : State) : State :=
  runStepsInv fp4_1 inw Unrolled.pass1Lines (runStepsInv fp4_2 inw Unrolled.pass2Lines
    (runStepsInv fp4_3 inw Unrolled.pass3Lines (runStepsInv fp4_4 inw Unrolled.pass4Lines s)))

/-- The rounds of `CORE5` run backwards. -/
def roundsInv5 (inw : Nat → Word) (s : State) : State :=
  runStepsInv fp5_1 inw Unrolled.pass1Lines (runStepsInv fp5_2 inw Unrolled.pass2Lines
    (runStepsInv fp5_3 inw Unrolled.pass3Lines (runStepsInv fp5_4 inw Unrolled.pass4Lines
      (runStepsInv fp5_5 inw Unrolled.pass5Lines s))))

section Rounds

variable (smallFootprint : Bool) (inw : Nat → Word)

/-- The rounds of `CORE3` as a permutation, with `roundsInv3` its inverse. -/
def rounds3Equiv : State ≃ State :=
  ((runStepsEquiv fp3_1 inw Unrolled.pass1Lines_distinct).trans
    (runStepsEquiv fp3_2 inw Unrolled.pass2Lines_distinct)).trans
    (runStepsEquiv fp3_3 inw Unrolled.pass3Lines_distinct)

/-- The rounds of `CORE4` as a permutation. -/
def rounds4Equiv : State ≃ State :=
  (((runStepsEquiv fp4_1 inw Unrolled.pass1Lines_distinct).trans
    (runStepsEquiv fp4_2 inw Unrolled.pass2Lines_distinct)).trans
    (runStepsEquiv fp4_3 inw Unrolled.pass3Lines_distinct)).trans
    (runStepsEquiv fp4_4 inw Unrolled.pass4Lines_distinct)

/-- The rounds of `CORE5` as a permutation. -/
def rounds5Equiv : State ≃ State :=
  ((((runStepsEquiv fp5_1 inw Unrolled.pass1Lines_distinct).trans
    (runStepsEquiv fp5_2 inw Unrolled.pass2Lines_distinct)).trans
    (runStepsEquiv fp5_3 inw Unrolled.pass3Lines_distinct)).trans
    (runStepsEquiv fp5_4 inw Unrolled.pass4Lines_distinct)).trans
    (runStepsEquiv fp5_5 inw Unrolled.pass5Lines_distinct)

theorem rounds3Equiv_coe : ⇑(rounds3Equiv inw) = rounds3 smallFootprint inw := by
  obtain ⟨h1, h2, h3, -⟩ := passes_eq_unrolled
  funext s
  simp only [rounds3, rounds3Equiv, h1, h2, h3, Equiv.trans_apply, runStepsEquiv_apply,
    Unrolled.pass1, Unrolled.pass2, Unrolled.pass3]

theorem rounds4Equiv_coe : ⇑(rounds4Equiv inw) = rounds4 smallFootprint inw := by
  obtain ⟨h1, h2, h3, h4, -⟩ := passes_eq_unrolled
  funext s
  simp only [rounds4, rounds4Equiv, h1, h2, h3, h4, Equiv.trans_apply, runStepsEquiv_apply,
    Unrolled.pass1, Unrolled.pass2, Unrolled.pass3, Unrolled.pass4]

theorem rounds5Equiv_coe : ⇑(rounds5Equiv inw) = rounds5 smallFootprint inw := by
  obtain ⟨h1, h2, h3, h4, h5⟩ := passes_eq_unrolled
  funext s
  simp only [rounds5, rounds5Equiv, h1, h2, h3, h4, h5, Equiv.trans_apply, runStepsEquiv_apply,
    Unrolled.pass1, Unrolled.pass2, Unrolled.pass3, Unrolled.pass4, Unrolled.pass5]

/-- **The rounds of `CORE3`/`CORE4`/`CORE5` — everything between `SAVE_STATE` and
    `UPDATE_STATE` — are injective on the 256-bit state**, in both builds, for every input
    function (so for every message block). -/
theorem rounds_injective :
    Function.Injective (rounds3 smallFootprint inw) ∧ Function.Injective (rounds4 smallFootprint inw)
      ∧ Function.Injective (rounds5 smallFootprint inw) := by
  refine ⟨?_, ?_, ?_⟩
  · rw [← rounds3Equiv_coe]; exact (rounds3Equiv inw).injective
  · rw [← rounds4Equiv_coe]; exact (rounds4Equiv inw).injective
  · rw [← rounds5Equiv_coe]; exact (rounds5Equiv inw).injective

/-- Running the unrolled lines backwards, each `STEP` undone by `stepInv`, inverts the rounds
    on both sides, in both builds. -/
theorem rounds_roundsInv :
    (Function.LeftInverse (roundsInv3 inw) (rounds3 smallFootprint inw) ∧
      Function.RightInverse (roundsInv3 inw) (rounds3 smallFootprint inw)) ∧
    (Function.LeftInverse (roundsInv4 inw) (rounds4 smallFootprint inw) ∧
      Function.RightInverse (roundsInv4 inw) (rounds4 smallFootprint inw)) ∧
    (Function.LeftInverse (roundsInv5 inw) (rounds5 smallFootprint inw) ∧
      Function.RightInverse (roundsInv5 inw) (rounds5 smallFootprint inw)) := by
  refine ⟨?_, ?_, ?_⟩
  · rw [← rounds3Equiv_coe]
    exact ⟨(rounds3Equiv inw).left_inv, (rounds3Equiv inw).right_inv⟩
  · rw [← rounds4Equiv_coe]
    exact ⟨(rounds4Equiv inw).left_inv, (rounds4Equiv inw).right_inv⟩
  · rw [← rounds5Equiv_coe]
    exact ⟨(rounds5Equiv inw).left_inv, (rounds5Equiv inw).right_inv⟩

end Rounds

end Haval
