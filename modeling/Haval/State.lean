import Haval.Word
import Mathlib.Tactic.Abel

/-!
# `Haval/State.lean` — the eight running words, one `STEP`, and straight-line runs of them

`DSTATE` declares the locals `s0`..`s7`; every pass is a sequence of
`STEP(n, p, x7, x6, x5, x4, x3, x2, x1, x0, w, c)` lines, each naming eight of those locals.
A `Reg` is such a name and a `State` the eight values, so a `STEP` line transliterates with its
register arguments in the order the source writes them.

**A `STEP` can be undone**, and that is the one fact this file exists for. A step writes only
`x7`, and the value it writes is `ROTR(FP(x6..x0), 7) + ROTR(x7, 11) + w + c`: once the seven
arguments are known (they are untouched, provided the line does not name `x7` among them) the
sum can be subtracted and the rotation reversed. `stepInv` is that inverse, and `runStepsInv`
runs a whole list of lines backwards. The injectivity of the passes (`Haval/Core.lean`) is then
a corollary of a left inverse, not a counting argument.

The function `fp` is a parameter throughout: nothing here depends on which of the
`FPn_p` a line calls, only on the lines' register names.
-/

set_option autoImplicit false

namespace Haval

/-! ## 1. Registers and state -/

/-- One of the locals `s0`..`s7` that `DSTATE` declares. -/
inductive Reg | s0 | s1 | s2 | s3 | s4 | s5 | s6 | s7
deriving DecidableEq, Repr

/-- The index `k` of `sk`: the position of the word in `val[8]` and in the context. -/
def Reg.idx : Reg → Nat
  | .s0 => 0 | .s1 => 1 | .s2 => 2 | .s3 => 3 | .s4 => 4 | .s5 => 5 | .s6 => 6 | .s7 => 7

/-- A statement about every register is one about each of the eight. -/
theorem Reg.forall {P : Reg → Prop} :
    (∀ r, P r) ↔ P .s0 ∧ P .s1 ∧ P .s2 ∧ P .s3 ∧ P .s4 ∧ P .s5 ∧ P .s6 ∧ P .s7 :=
  ⟨fun h => ⟨h _, h _, h _, h _, h _, h _, h _, h _⟩,
   fun ⟨h0, h1, h2, h3, h4, h5, h6, h7⟩ r => by cases r <;> assumption⟩

/-- The values of `s0`..`s7`. -/
structure State where
  s0 : Word
  s1 : Word
  s2 : Word
  s3 : Word
  s4 : Word
  s5 : Word
  s6 : Word
  s7 : Word
deriving DecidableEq, Repr

namespace State

/-- Read the local a `Reg` names. -/
def get (s : State) : Reg → Word
  | .s0 => s.s0 | .s1 => s.s1 | .s2 => s.s2 | .s3 => s.s3
  | .s4 => s.s4 | .s5 => s.s5 | .s6 => s.s6 | .s7 => s.s7

/-- Assign the local a `Reg` names. -/
def set (s : State) : Reg → Word → State
  | .s0, v => { s with s0 := v } | .s1, v => { s with s1 := v }
  | .s2, v => { s with s2 := v } | .s3, v => { s with s3 := v }
  | .s4, v => { s with s4 := v } | .s5, v => { s with s5 := v }
  | .s6, v => { s with s6 := v } | .s7, v => { s with s7 := v }

@[simp] theorem get_set_self (s : State) (r : Reg) (v : Word) : (s.set r v).get r = v := by
  cases r <;> rfl

@[simp] theorem get_set_of_ne (s : State) {r r' : Reg} (v : Word) (h : r' ≠ r) :
    (s.set r v).get r' = s.get r' := by
  cases r <;> cases r' <;> first | rfl | exact absurd rfl h

@[simp] theorem set_get (s : State) (r : Reg) : s.set r (s.get r) = s := by cases r <;> rfl

@[simp] theorem set_set (s : State) (r : Reg) (v v' : Word) :
    (s.set r v).set r v' = s.set r v' := by
  cases r <;> rfl

end State

/-! ## 2. `STEP` -/

/-- A Boolean function of seven words: the `FPn_p` that `STEP`'s token pasting selects. -/
abbrev Fn7 := Word → Word → Word → Word → Word → Word → Word → Word

/-- `STEP(n, p, x7, x6, x5, x4, x3, x2, x1, x0, w, c)`, with `fp` the macro `FPn_p`:
    `t = FP(x6..x0); x7 = T32(ROTR(t, 7) + ROTR(x7, 11) + w + c)`. -/
def step (fp : Fn7) (x7 x6 x5 x4 x3 x2 x1 x0 : Reg) (w c : Word) (s : State) : State :=
  let t := fp (s.get x6) (s.get x5) (s.get x4) (s.get x3) (s.get x2) (s.get x1) (s.get x0)
  s.set x7 (sphRotr32 t 7 + sphRotr32 (s.get x7) 11 + w + c)

/-- The inverse of `step` on a line that does not read its own target: recompute `t` from the
    untouched arguments, subtract, and rotate back. -/
def stepInv (fp : Fn7) (x7 x6 x5 x4 x3 x2 x1 x0 : Reg) (w c : Word) (s : State) : State :=
  let t := fp (s.get x6) (s.get x5) (s.get x4) (s.get x3) (s.get x2) (s.get x1) (s.get x0)
  s.set x7 (sphRotl32 (s.get x7 - sphRotr32 t 7 - w - c) 11)

section Inverse

variable (fp : Fn7) {x7 x6 x5 x4 x3 x2 x1 x0 : Reg} (w c : Word)
variable (hfresh : x7 ∉ [x6, x5, x4, x3, x2, x1, x0])
include hfresh

/-- The function value a step computes does not see the step's own write. -/
theorem fp_set_target (s : State) (v : Word) :
    fp ((s.set x7 v).get x6) ((s.set x7 v).get x5) ((s.set x7 v).get x4) ((s.set x7 v).get x3)
      ((s.set x7 v).get x2) ((s.set x7 v).get x1) ((s.set x7 v).get x0)
      = fp (s.get x6) (s.get x5) (s.get x4) (s.get x3) (s.get x2) (s.get x1) (s.get x0) := by
  simp only [List.mem_cons, List.not_mem_nil, or_false, not_or] at hfresh
  obtain ⟨h6, h5, h4, h3, h2, h1, h0⟩ := hfresh
  simp [Ne.symm h6, Ne.symm h5, Ne.symm h4, Ne.symm h3, Ne.symm h2, Ne.symm h1, Ne.symm h0]

theorem stepInv_step (s : State) :
    stepInv fp x7 x6 x5 x4 x3 x2 x1 x0 w c (step fp x7 x6 x5 x4 x3 x2 x1 x0 w c s) = s := by
  simp only [step, stepInv, fp_set_target fp hfresh, State.get_set_self, State.set_set]
  rw [show ∀ a b : Word, a + b + w + c - a - w - c = b by intros; abel]
  simp

theorem step_stepInv (s : State) :
    step fp x7 x6 x5 x4 x3 x2 x1 x0 w c (stepInv fp x7 x6 x5 x4 x3 x2 x1 x0 w c s) = s := by
  simp only [step, stepInv, fp_set_target fp hfresh, State.get_set_self, State.set_set,
    sphRotr32_sphRotl32]
  rw [show ∀ a b : Word, a + (b - a - w - c) + w + c = b by intros; abel]
  simp

end Inverse

/-! ## 3. Straight-line runs

The unrolled passes are thirty-two `STEP` lines each. A `StepLine` is one such line with `n`
and `p` (hence `fp`) factored out: its eight register names, the index it hands to `in`, and
its constant. -/

/-- One `STEP(n, p, x7, x6, x5, x4, x3, x2, x1, x0, in(w), c)` line. -/
structure StepLine where
  x7 : Reg
  x6 : Reg
  x5 : Reg
  x4 : Reg
  x3 : Reg
  x2 : Reg
  x1 : Reg
  x0 : Reg
  /-- The argument of `in`: which message word the line adds. -/
  w : Nat
  c : Word
deriving DecidableEq, Repr

namespace StepLine

/-- The line names eight distinct registers. -/
def Distinct (l : StepLine) : Prop := [l.x7, l.x6, l.x5, l.x4, l.x3, l.x2, l.x1, l.x0].Nodup

instance (l : StepLine) : Decidable l.Distinct := inferInstanceAs (Decidable (List.Nodup _))

/-- Run the line, reading the message through `inw`. -/
def exec (fp : Fn7) (inw : Nat → Word) (l : StepLine) (s : State) : State :=
  step fp l.x7 l.x6 l.x5 l.x4 l.x3 l.x2 l.x1 l.x0 (inw l.w) l.c s

/-- Undo the line. -/
def undo (fp : Fn7) (inw : Nat → Word) (l : StepLine) (s : State) : State :=
  stepInv fp l.x7 l.x6 l.x5 l.x4 l.x3 l.x2 l.x1 l.x0 (inw l.w) l.c s

theorem fresh_of_distinct {l : StepLine} (h : l.Distinct) :
    l.x7 ∉ [l.x6, l.x5, l.x4, l.x3, l.x2, l.x1, l.x0] :=
  (List.nodup_cons.mp h).1

theorem undo_exec (fp : Fn7) (inw : Nat → Word) {l : StepLine} (h : l.Distinct) (s : State) :
    l.undo fp inw (l.exec fp inw s) = s :=
  stepInv_step fp _ _ (fresh_of_distinct h) s

theorem exec_undo (fp : Fn7) (inw : Nat → Word) {l : StepLine} (h : l.Distinct) (s : State) :
    l.exec fp inw (l.undo fp inw s) = s :=
  step_stepInv fp _ _ (fresh_of_distinct h) s

end StepLine

/-- A block of `STEP` lines run in order. -/
def runSteps (fp : Fn7) (inw : Nat → Word) : List StepLine → State → State
  | [], s => s
  | l :: ls, s => runSteps fp inw ls (l.exec fp inw s)

/-- The block run backwards, each line undone. -/
def runStepsInv (fp : Fn7) (inw : Nat → Word) : List StepLine → State → State
  | [], s => s
  | l :: ls, s => l.undo fp inw (runStepsInv fp inw ls s)

theorem runSteps_append (fp : Fn7) (inw : Nat → Word) (ls ls' : List StepLine) (s : State) :
    runSteps fp inw (ls ++ ls') s = runSteps fp inw ls' (runSteps fp inw ls s) := by
  induction ls generalizing s with
  | nil => rfl
  | cons l ls ih => exact ih _

section Run

variable (fp : Fn7) (inw : Nat → Word)

theorem runStepsInv_runSteps :
    ∀ {ls : List StepLine}, (∀ l ∈ ls, l.Distinct) →
      ∀ s, runStepsInv fp inw ls (runSteps fp inw ls s) = s
  | [], _, _ => rfl
  | l :: ls, hd, s => by
    simp only [runSteps, runStepsInv]
    rw [runStepsInv_runSteps fun l' h => hd l' (List.mem_cons_of_mem l h),
      StepLine.undo_exec fp inw (hd l (List.mem_cons_self l ls))]

theorem runSteps_runStepsInv :
    ∀ {ls : List StepLine}, (∀ l ∈ ls, l.Distinct) →
      ∀ s, runSteps fp inw ls (runStepsInv fp inw ls s) = s
  | [], _, _ => rfl
  | l :: ls, hd, s => by
    simp only [runSteps, runStepsInv]
    rw [StepLine.exec_undo fp inw (hd l (List.mem_cons_self l ls)),
      runSteps_runStepsInv fun l' h => hd l' (List.mem_cons_of_mem l h)]

/-- A block whose every line names distinct registers is a permutation of the state space,
    with `runStepsInv` its inverse. -/
def runStepsEquiv {ls : List StepLine} (hd : ∀ l ∈ ls, l.Distinct) : State ≃ State where
  toFun := runSteps fp inw ls
  invFun := runStepsInv fp inw ls
  left_inv := runStepsInv_runSteps fp inw hd
  right_inv := runSteps_runStepsInv fp inw hd

@[simp] theorem runStepsEquiv_apply {ls : List StepLine} (hd : ∀ l ∈ ls, l.Distinct)
    (s : State) : runStepsEquiv fp inw hd s = runSteps fp inw ls s := rfl

end Run

end Haval
