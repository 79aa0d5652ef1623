import Haval.State

/-!
# `Haval/Passes.lean` — the five passes, in both builds

`sph_haval.h` defines `PASS1`..`PASS5` twice, under `#if SPH_SMALL_FOOTPRINT_HAVAL`:

* **unrolled** (the default): thirty-two literal `STEP` lines per pass, each with its message
  index and constant written out;
* **small footprint**: `PASS1` and a generic `PASSG(p, n, in)` loop over
  `pass_count = 0, 8, 16, 24`, eight `STEP` lines per iteration, the message index read from
  the table `MPp` and the constant from `RKp`.

The unrolled passes are modelled as their lists of lines (`Unrolled.pass2Lines`, one entry per
source line, registers in the source's order) run by `runSteps`. The small-footprint passes are
modelled as the loop they are: `forPassCount` is the `for` statement, tested and stepped as
the source does, and its body is the eight `step` calls of the source.

**`SmallFootprint.pass1_eq_unrolled` and `SmallFootprint.passG_eq_runSteps` are the bridge
between the two.** One loop iteration is `runSteps` of eight lines (`bodyLines`), and the loop
runs four iterations, so it is `runSteps` of their concatenation (`forPassCount_runSteps`); that
the concatenation *is* the unrolled list (`pass2Lines_eq` and its siblings) is then a closed
computation over 128 indices and 128 constants, checked by `rfl` once per pass. A typo in an
`MP` or `RK` entry, or in an unrolled line, fails exactly there.
-/

set_option autoImplicit false

namespace Haval

/-! ## 1. The unrolled build -/

namespace Unrolled

/-- `PASS1(n, in)`, unrolled: its thirty-two `STEP` lines in order. -/
def pass1Lines : List StepLine := [
  ⟨.s7, .s6, .s5, .s4, .s3, .s2, .s1, .s0,  0, 0x00000000⟩,
  ⟨.s6, .s5, .s4, .s3, .s2, .s1, .s0, .s7,  1, 0x00000000⟩,
  ⟨.s5, .s4, .s3, .s2, .s1, .s0, .s7, .s6,  2, 0x00000000⟩,
  ⟨.s4, .s3, .s2, .s1, .s0, .s7, .s6, .s5,  3, 0x00000000⟩,
  ⟨.s3, .s2, .s1, .s0, .s7, .s6, .s5, .s4,  4, 0x00000000⟩,
  ⟨.s2, .s1, .s0, .s7, .s6, .s5, .s4, .s3,  5, 0x00000000⟩,
  ⟨.s1, .s0, .s7, .s6, .s5, .s4, .s3, .s2,  6, 0x00000000⟩,
  ⟨.s0, .s7, .s6, .s5, .s4, .s3, .s2, .s1,  7, 0x00000000⟩,

  ⟨.s7, .s6, .s5, .s4, .s3, .s2, .s1, .s0,  8, 0x00000000⟩,
  ⟨.s6, .s5, .s4, .s3, .s2, .s1, .s0, .s7,  9, 0x00000000⟩,
  ⟨.s5, .s4, .s3, .s2, .s1, .s0, .s7, .s6, 10, 0x00000000⟩,
  ⟨.s4, .s3, .s2, .s1, .s0, .s7, .s6, .s5, 11, 0x00000000⟩,
  ⟨.s3, .s2, .s1, .s0, .s7, .s6, .s5, .s4, 12, 0x00000000⟩,
  ⟨.s2, .s1, .s0, .s7, .s6, .s5, .s4, .s3, 13, 0x00000000⟩,
  ⟨.s1, .s0, .s7, .s6, .s5, .s4, .s3, .s2, 14, 0x00000000⟩,
  ⟨.s0, .s7, .s6, .s5, .s4, .s3, .s2, .s1, 15, 0x00000000⟩,

  ⟨.s7, .s6, .s5, .s4, .s3, .s2, .s1, .s0, 16, 0x00000000⟩,
  ⟨.s6, .s5, .s4, .s3, .s2, .s1, .s0, .s7, 17, 0x00000000⟩,
  ⟨.s5, .s4, .s3, .s2, .s1, .s0, .s7, .s6, 18, 0x00000000⟩,
  ⟨.s4, .s3, .s2, .s1, .s0, .s7, .s6, .s5, 19, 0x00000000⟩,
  ⟨.s3, .s2, .s1, .s0, .s7, .s6, .s5, .s4, 20, 0x00000000⟩,
  ⟨.s2, .s1, .s0, .s7, .s6, .s5, .s4, .s3, 21, 0x00000000⟩,
  ⟨.s1, .s0, .s7, .s6, .s5, .s4, .s3, .s2, 22, 0x00000000⟩,
  ⟨.s0, .s7, .s6, .s5, .s4, .s3, .s2, .s1, 23, 0x00000000⟩,

  ⟨.s7, .s6, .s5, .s4, .s3, .s2, .s1, .s0, 24, 0x00000000⟩,
  ⟨.s6, .s5, .s4, .s3, .s2, .s1, .s0, .s7, 25, 0x00000000⟩,
  ⟨.s5, .s4, .s3, .s2, .s1, .s0, .s7, .s6, 26, 0x00000000⟩,
  ⟨.s4, .s3, .s2, .s1, .s0, .s7, .s6, .s5, 27, 0x00000000⟩,
  ⟨.s3, .s2, .s1, .s0, .s7, .s6, .s5, .s4, 28, 0x00000000⟩,
  ⟨.s2, .s1, .s0, .s7, .s6, .s5, .s4, .s3, 29, 0x00000000⟩,
  ⟨.s1, .s0, .s7, .s6, .s5, .s4, .s3, .s2, 30, 0x00000000⟩,
  ⟨.s0, .s7, .s6, .s5, .s4, .s3, .s2, .s1, 31, 0x00000000⟩]

/-- `PASS2(n, in)`, unrolled: its thirty-two `STEP` lines in order. -/
def pass2Lines : List StepLine := [
  ⟨.s7, .s6, .s5, .s4, .s3, .s2, .s1, .s0,  5, 0x452821E6⟩,
  ⟨.s6, .s5, .s4, .s3, .s2, .s1, .s0, .s7, 14, 0x38D01377⟩,
  ⟨.s5, .s4, .s3, .s2, .s1, .s0, .s7, .s6, 26, 0xBE5466CF⟩,
  ⟨.s4, .s3, .s2, .s1, .s0, .s7, .s6, .s5, 18, 0x34E90C6C⟩,
  ⟨.s3, .s2, .s1, .s0, .s7, .s6, .s5, .s4, 11, 0xC0AC29B7⟩,
  ⟨.s2, .s1, .s0, .s7, .s6, .s5, .s4, .s3, 28, 0xC97C50DD⟩,
  ⟨.s1, .s0, .s7, .s6, .s5, .s4, .s3, .s2,  7, 0x3F84D5B5⟩,
  ⟨.s0, .s7, .s6, .s5, .s4, .s3, .s2, .s1, 16, 0xB5470917⟩,

  ⟨.s7, .s6, .s5, .s4, .s3, .s2, .s1, .s0,  0, 0x9216D5D9⟩,
  ⟨.s6, .s5, .s4, .s3, .s2, .s1, .s0, .s7, 23, 0x8979FB1B⟩,
  ⟨.s5, .s4, .s3, .s2, .s1, .s0, .s7, .s6, 20, 0xD1310BA6⟩,
  ⟨.s4, .s3, .s2, .s1, .s0, .s7, .s6, .s5, 22, 0x98DFB5AC⟩,
  ⟨.s3, .s2, .s1, .s0, .s7, .s6, .s5, .s4,  1, 0x2FFD72DB⟩,
  ⟨.s2, .s1, .s0, .s7, .s6, .s5, .s4, .s3, 10, 0xD01ADFB7⟩,
  ⟨.s1, .s0, .s7, .s6, .s5, .s4, .s3, .s2,  4, 0xB8E1AFED⟩,
  ⟨.s0, .s7, .s6, .s5, .s4, .s3, .s2, .s1,  8, 0x6A267E96⟩,

  ⟨.s7, .s6, .s5, .s4, .s3, .s2, .s1, .s0, 30, 0xBA7C9045⟩,
  ⟨.s6, .s5, .s4, .s3, .s2, .s1, .s0, .s7,  3, 0xF12C7F99⟩,
  ⟨.s5, .s4, .s3, .s2, .s1, .s0, .s7, .s6, 21, 0x24A19947⟩,
  ⟨.s4, .s3, .s2, .s1, .s0, .s7, .s6, .s5,  9, 0xB3916CF7⟩,
  ⟨.s3, .s2, .s1, .s0, .s7, .s6, .s5, .s4, 17, 0x0801F2E2⟩,
  ⟨.s2, .s1, .s0, .s7, .s6, .s5, .s4, .s3, 24, 0x858EFC16⟩,
  ⟨.s1, .s0, .s7, .s6, .s5, .s4, .s3, .s2, 29, 0x636920D8⟩,
  ⟨.s0, .s7, .s6, .s5, .s4, .s3, .s2, .s1,  6, 0x71574E69⟩,

  ⟨.s7, .s6, .s5, .s4, .s3, .s2, .s1, .s0, 19, 0xA458FEA3⟩,
  ⟨.s6, .s5, .s4, .s3, .s2, .s1, .s0, .s7, 12, 0xF4933D7E⟩,
  ⟨.s5, .s4, .s3, .s2, .s1, .s0, .s7, .s6, 15, 0x0D95748F⟩,
  ⟨.s4, .s3, .s2, .s1, .s0, .s7, .s6, .s5, 13, 0x728EB658⟩,
  ⟨.s3, .s2, .s1, .s0, .s7, .s6, .s5, .s4,  2, 0x718BCD58⟩,
  ⟨.s2, .s1, .s0, .s7, .s6, .s5, .s4, .s3, 25, 0x82154AEE⟩,
  ⟨.s1, .s0, .s7, .s6, .s5, .s4, .s3, .s2, 31, 0x7B54A41D⟩,
  ⟨.s0, .s7, .s6, .s5, .s4, .s3, .s2, .s1, 27, 0xC25A59B5⟩]

/-- `PASS3(n, in)`, unrolled: its thirty-two `STEP` lines in order. -/
def pass3Lines : List StepLine := [
  ⟨.s7, .s6, .s5, .s4, .s3, .s2, .s1, .s0, 19, 0x9C30D539⟩,
  ⟨.s6, .s5, .s4, .s3, .s2, .s1, .s0, .s7,  9, 0x2AF26013⟩,
  ⟨.s5, .s4, .s3, .s2, .s1, .s0, .s7, .s6,  4, 0xC5D1B023⟩,
  ⟨.s4, .s3, .s2, .s1, .s0, .s7, .s6, .s5, 20, 0x286085F0⟩,
  ⟨.s3, .s2, .s1, .s0, .s7, .s6, .s5, .s4, 28, 0xCA417918⟩,
  ⟨.s2, .s1, .s0, .s7, .s6, .s5, .s4, .s3, 17, 0xB8DB38EF⟩,
  ⟨.s1, .s0, .s7, .s6, .s5, .s4, .s3, .s2,  8, 0x8E79DCB0⟩,
  ⟨.s0, .s7, .s6, .s5, .s4, .s3, .s2, .s1, 22, 0x603A180E⟩,

  ⟨.s7, .s6, .s5, .s4, .s3, .s2, .s1, .s0, 29, 0x6C9E0E8B⟩,
  ⟨.s6, .s5, .s4, .s3, .s2, .s1, .s0, .s7, 14, 0xB01E8A3E⟩,
  ⟨.s5, .s4, .s3, .s2, .s1, .s0, .s7, .s6, 25, 0xD71577C1⟩,
  ⟨.s4, .s3, .s2, .s1, .s0, .s7, .s6, .s5, 12, 0xBD314B27⟩,
  ⟨.s3, .s2, .s1, .s0, .s7, .s6, .s5, .s4, 24, 0x78AF2FDA⟩,
  ⟨.s2, .s1, .s0, .s7, .s6, .s5, .s4, .s3, 30, 0x55605C60⟩,
  ⟨.s1, .s0, .s7, .s6, .s5, .s4, .s3, .s2, 16, 0xE65525F3⟩,
  ⟨.s0, .s7, .s6, .s5, .s4, .s3, .s2, .s1, 26, 0xAA55AB94⟩,

  ⟨.s7, .s6, .s5, .s4, .s3, .s2, .s1, .s0, 31, 0x57489862⟩,
  ⟨.s6, .s5, .s4, .s3, .s2, .s1, .s0, .s7, 15, 0x63E81440⟩,
  ⟨.s5, .s4, .s3, .s2, .s1, .s0, .s7, .s6,  7, 0x55CA396A⟩,
  ⟨.s4, .s3, .s2, .s1, .s0, .s7, .s6, .s5,  3, 0x2AAB10B6⟩,
  ⟨.s3, .s2, .s1, .s0, .s7, .s6, .s5, .s4,  1, 0xB4CC5C34⟩,
  ⟨.s2, .s1, .s0, .s7, .s6, .s5, .s4, .s3,  0, 0x1141E8CE⟩,
  ⟨.s1, .s0, .s7, .s6, .s5, .s4, .s3, .s2, 18, 0xA15486AF⟩,
  ⟨.s0, .s7, .s6, .s5, .s4, .s3, .s2, .s1, 27, 0x7C72E993⟩,

  ⟨.s7, .s6, .s5, .s4, .s3, .s2, .s1, .s0, 13, 0xB3EE1411⟩,
  ⟨.s6, .s5, .s4, .s3, .s2, .s1, .s0, .s7,  6, 0x636FBC2A⟩,
  ⟨.s5, .s4, .s3, .s2, .s1, .s0, .s7, .s6, 21, 0x2BA9C55D⟩,
  ⟨.s4, .s3, .s2, .s1, .s0, .s7, .s6, .s5, 10, 0x741831F6⟩,
  ⟨.s3, .s2, .s1, .s0, .s7, .s6, .s5, .s4, 23, 0xCE5C3E16⟩,
  ⟨.s2, .s1, .s0, .s7, .s6, .s5, .s4, .s3, 11, 0x9B87931E⟩,
  ⟨.s1, .s0, .s7, .s6, .s5, .s4, .s3, .s2,  5, 0xAFD6BA33⟩,
  ⟨.s0, .s7, .s6, .s5, .s4, .s3, .s2, .s1,  2, 0x6C24CF5C⟩]

/-- `PASS4(n, in)`, unrolled: its thirty-two `STEP` lines in order. -/
def pass4Lines : List StepLine := [
  ⟨.s7, .s6, .s5, .s4, .s3, .s2, .s1, .s0, 24, 0x7A325381⟩,
  ⟨.s6, .s5, .s4, .s3, .s2, .s1, .s0, .s7,  4, 0x28958677⟩,
  ⟨.s5, .s4, .s3, .s2, .s1, .s0, .s7, .s6,  0, 0x3B8F4898⟩,
  ⟨.s4, .s3, .s2, .s1, .s0, .s7, .s6, .s5, 14, 0x6B4BB9AF⟩,
  ⟨.s3, .s2, .s1, .s0, .s7, .s6, .s5, .s4,  2, 0xC4BFE81B⟩,
  ⟨.s2, .s1, .s0, .s7, .s6, .s5, .s4, .s3,  7, 0x66282193⟩,
  ⟨.s1, .s0, .s7, .s6, .s5, .s4, .s3, .s2, 28, 0x61D809CC⟩,
  ⟨.s0, .s7, .s6, .s5, .s4, .s3, .s2, .s1, 23, 0xFB21A991⟩,

  ⟨.s7, .s6, .s5, .s4, .s3, .s2, .s1, .s0, 26, 0x487CAC60⟩,
  ⟨.s6, .s5, .s4, .s3, .s2, .s1, .s0, .s7,  6, 0x5DEC8032⟩,
  ⟨.s5, .s4, .s3, .s2, .s1, .s0, .s7, .s6, 30, 0xEF845D5D⟩,
  ⟨.s4, .s3, .s2, .s1, .s0, .s7, .s6, .s5, 20, 0xE98575B1⟩,
  ⟨.s3, .s2, .s1, .s0, .s7, .s6, .s5, .s4, 18, 0xDC262302⟩,
  ⟨.s2, .s1, .s0, .s7, .s6, .s5, .s4, .s3, 25, 0xEB651B88⟩,
  ⟨.s1, .s0, .s7, .s6, .s5, .s4, .s3, .s2, 19, 0x23893E81⟩,
  ⟨.s0, .s7, .s6, .s5, .s4, .s3, .s2, .s1,  3, 0xD396ACC5⟩,

  ⟨.s7, .s6, .s5, .s4, .s3, .s2, .s1, .s0, 22, 0x0F6D6FF3⟩,
  ⟨.s6, .s5, .s4, .s3, .s2, .s1, .s0, .s7, 11, 0x83F44239⟩,
  ⟨.s5, .s4, .s3, .s2, .s1, .s0, .s7, .s6, 31, 0x2E0B4482⟩,
  ⟨.s4, .s3, .s2, .s1, .s0, .s7, .s6, .s5, 21, 0xA4842004⟩,
  ⟨.s3, .s2, .s1, .s0, .s7, .s6, .s5, .s4,  8, 0x69C8F04A⟩,
  ⟨.s2, .s1, .s0, .s7, .s6, .s5, .s4, .s3, 27, 0x9E1F9B5E⟩,
  ⟨.s1, .s0, .s7, .s6, .s5, .s4, .s3, .s2, 12, 0x21C66842⟩,
  ⟨.s0, .s7, .s6, .s5, .s4, .s3, .s2, .s1,  9, 0xF6E96C9A⟩,

  ⟨.s7, .s6, .s5, .s4, .s3, .s2, .s1, .s0,  1, 0x670C9C61⟩,
  ⟨.s6, .s5, .s4, .s3, .s2, .s1, .s0, .s7, 29, 0xABD388F0⟩,
  ⟨.s5, .s4, .s3, .s2, .s1, .s0, .s7, .s6,  5, 0x6A51A0D2⟩,
  ⟨.s4, .s3, .s2, .s1, .s0, .s7, .s6, .s5, 15, 0xD8542F68⟩,
  ⟨.s3, .s2, .s1, .s0, .s7, .s6, .s5, .s4, 17, 0x960FA728⟩,
  ⟨.s2, .s1, .s0, .s7, .s6, .s5, .s4, .s3, 10, 0xAB5133A3⟩,
  ⟨.s1, .s0, .s7, .s6, .s5, .s4, .s3, .s2, 16, 0x6EEF0B6C⟩,
  ⟨.s0, .s7, .s6, .s5, .s4, .s3, .s2, .s1, 13, 0x137A3BE4⟩]

/-- `PASS5(n, in)`, unrolled: its thirty-two `STEP` lines in order. -/
def pass5Lines : List StepLine := [
  ⟨.s7, .s6, .s5, .s4, .s3, .s2, .s1, .s0, 27, 0xBA3BF050⟩,
  ⟨.s6, .s5, .s4, .s3, .s2, .s1, .s0, .s7,  3, 0x7EFB2A98⟩,
  ⟨.s5, .s4, .s3, .s2, .s1, .s0, .s7, .s6, 21, 0xA1F1651D⟩,
  ⟨.s4, .s3, .s2, .s1, .s0, .s7, .s6, .s5, 26, 0x39AF0176⟩,
  ⟨.s3, .s2, .s1, .s0, .s7, .s6, .s5, .s4, 17, 0x66CA593E⟩,
  ⟨.s2, .s1, .s0, .s7, .s6, .s5, .s4, .s3, 11, 0x82430E88⟩,
  ⟨.s1, .s0, .s7, .s6, .s5, .s4, .s3, .s2, 20, 0x8CEE8619⟩,
  ⟨.s0, .s7, .s6, .s5, .s4, .s3, .s2, .s1, 29, 0x456F9FB4⟩,

  ⟨.s7, .s6, .s5, .s4, .s3, .s2, .s1, .s0, 19, 0x7D84A5C3⟩,
  ⟨.s6, .s5, .s4, .s3, .s2, .s1, .s0, .s7,  0, 0x3B8B5EBE⟩,
  ⟨.s5, .s4, .s3, .s2, .s1, .s0, .s7, .s6, 12, 0xE06F75D8⟩,
  ⟨.s4, .s3, .s2, .s1, .s0, .s7, .s6, .s5,  7, 0x85C12073⟩,
  ⟨.s3, .s2, .s1, .s0, .s7, .s6, .s5, .s4, 13, 0x401A449F⟩,
  ⟨.s2, .s1, .s0, .s7, .s6, .s5, .s4, .s3,  8, 0x56C16AA6⟩,
  ⟨.s1, .s0, .s7, .s6, .s5, .s4, .s3, .s2, 31, 0x4ED3AA62⟩,
  ⟨.s0, .s7, .s6, .s5, .s4, .s3, .s2, .s1, 10, 0x363F7706⟩,

  ⟨.s7, .s6, .s5, .s4, .s3, .s2, .s1, .s0,  5, 0x1BFEDF72⟩,
  ⟨.s6, .s5, .s4, .s3, .s2, .s1, .s0, .s7,  9, 0x429B023D⟩,
  ⟨.s5, .s4, .s3, .s2, .s1, .s0, .s7, .s6, 14, 0x37D0D724⟩,
  ⟨.s4, .s3, .s2, .s1, .s0, .s7, .s6, .s5, 30, 0xD00A1248⟩,
  ⟨.s3, .s2, .s1, .s0, .s7, .s6, .s5, .s4, 18, 0xDB0FEAD3⟩,
  ⟨.s2, .s1, .s0, .s7, .s6, .s5, .s4, .s3,  6, 0x49F1C09B⟩,
  ⟨.s1, .s0, .s7, .s6, .s5, .s4, .s3, .s2, 28, 0x075372C9⟩,
  ⟨.s0, .s7, .s6, .s5, .s4, .s3, .s2, .s1, 24, 0x80991B7B⟩,

  ⟨.s7, .s6, .s5, .s4, .s3, .s2, .s1, .s0,  2, 0x25D479D8⟩,
  ⟨.s6, .s5, .s4, .s3, .s2, .s1, .s0, .s7, 23, 0xF6E8DEF7⟩,
  ⟨.s5, .s4, .s3, .s2, .s1, .s0, .s7, .s6, 16, 0xE3FE501A⟩,
  ⟨.s4, .s3, .s2, .s1, .s0, .s7, .s6, .s5, 22, 0xB6794C3B⟩,
  ⟨.s3, .s2, .s1, .s0, .s7, .s6, .s5, .s4,  4, 0x976CE0BD⟩,
  ⟨.s2, .s1, .s0, .s7, .s6, .s5, .s4, .s3,  1, 0x04C006BA⟩,
  ⟨.s1, .s0, .s7, .s6, .s5, .s4, .s3, .s2, 25, 0xC1A94FB6⟩,
  ⟨.s0, .s7, .s6, .s5, .s4, .s3, .s2, .s1, 15, 0x409F60C4⟩]
/-- `PASS1(n, in)`, with `fp` the `FPn_1` that `n` selects. -/
def pass1 (fp : Fn7) (inw : Nat → Word) : State → State := runSteps fp inw pass1Lines
/-- `PASS2(n, in)`. -/
def pass2 (fp : Fn7) (inw : Nat → Word) : State → State := runSteps fp inw pass2Lines
/-- `PASS3(n, in)`. -/
def pass3 (fp : Fn7) (inw : Nat → Word) : State → State := runSteps fp inw pass3Lines
/-- `PASS4(n, in)`. -/
def pass4 (fp : Fn7) (inw : Nat → Word) : State → State := runSteps fp inw pass4Lines
/-- `PASS5(n, in)`. -/
def pass5 (fp : Fn7) (inw : Nat → Word) : State → State := runSteps fp inw pass5Lines

end Unrolled

/-! ## 2. The small-footprint build -/

namespace SmallFootprint

/-- `MP2[32]`: the message word each step of pass 2 reads. -/
def mp2 : Array Nat := #[
   5, 14, 26, 18, 11, 28,  7, 16,
   0, 23, 20, 22,  1, 10,  4,  8,
  30,  3, 21,  9, 17, 24, 29,  6,
  19, 12, 15, 13,  2, 25, 31, 27]

/-- `MP3[32]`: the message word each step of pass 3 reads. -/
def mp3 : Array Nat := #[
  19,  9,  4, 20, 28, 17,  8, 22,
  29, 14, 25, 12, 24, 30, 16, 26,
  31, 15,  7,  3,  1,  0, 18, 27,
  13,  6, 21, 10, 23, 11,  5,  2]

/-- `MP4[32]`: the message word each step of pass 4 reads. -/
def mp4 : Array Nat := #[
  24,  4,  0, 14,  2,  7, 28, 23,
  26,  6, 30, 20, 18, 25, 19,  3,
  22, 11, 31, 21,  8, 27, 12,  9,
   1, 29,  5, 15, 17, 10, 16, 13]

/-- `MP5[32]`: the message word each step of pass 5 reads. -/
def mp5 : Array Nat := #[
  27,  3, 21, 26, 17, 11, 20, 29,
  19,  0, 12,  7, 13,  8, 31, 10,
   5,  9, 14, 30, 18,  6, 28, 24,
   2, 23, 16, 22,  4,  1, 25, 15]

/-- `RK2[32]`: the step constants of pass 2. -/
def rk2 : Array Word := #[
  0x452821E6, 0x38D01377, 0xBE5466CF, 0x34E90C6C,
  0xC0AC29B7, 0xC97C50DD, 0x3F84D5B5, 0xB5470917,
  0x9216D5D9, 0x8979FB1B, 0xD1310BA6, 0x98DFB5AC,
  0x2FFD72DB, 0xD01ADFB7, 0xB8E1AFED, 0x6A267E96,
  0xBA7C9045, 0xF12C7F99, 0x24A19947, 0xB3916CF7,
  0x0801F2E2, 0x858EFC16, 0x636920D8, 0x71574E69,
  0xA458FEA3, 0xF4933D7E, 0x0D95748F, 0x728EB658,
  0x718BCD58, 0x82154AEE, 0x7B54A41D, 0xC25A59B5]

/-- `RK3[32]`: the step constants of pass 3. -/
def rk3 : Array Word := #[
  0x9C30D539, 0x2AF26013, 0xC5D1B023, 0x286085F0,
  0xCA417918, 0xB8DB38EF, 0x8E79DCB0, 0x603A180E,
  0x6C9E0E8B, 0xB01E8A3E, 0xD71577C1, 0xBD314B27,
  0x78AF2FDA, 0x55605C60, 0xE65525F3, 0xAA55AB94,
  0x57489862, 0x63E81440, 0x55CA396A, 0x2AAB10B6,
  0xB4CC5C34, 0x1141E8CE, 0xA15486AF, 0x7C72E993,
  0xB3EE1411, 0x636FBC2A, 0x2BA9C55D, 0x741831F6,
  0xCE5C3E16, 0x9B87931E, 0xAFD6BA33, 0x6C24CF5C]

/-- `RK4[32]`: the step constants of pass 4. -/
def rk4 : Array Word := #[
  0x7A325381, 0x28958677, 0x3B8F4898, 0x6B4BB9AF,
  0xC4BFE81B, 0x66282193, 0x61D809CC, 0xFB21A991,
  0x487CAC60, 0x5DEC8032, 0xEF845D5D, 0xE98575B1,
  0xDC262302, 0xEB651B88, 0x23893E81, 0xD396ACC5,
  0x0F6D6FF3, 0x83F44239, 0x2E0B4482, 0xA4842004,
  0x69C8F04A, 0x9E1F9B5E, 0x21C66842, 0xF6E96C9A,
  0x670C9C61, 0xABD388F0, 0x6A51A0D2, 0xD8542F68,
  0x960FA728, 0xAB5133A3, 0x6EEF0B6C, 0x137A3BE4]

/-- `RK5[32]`: the step constants of pass 5. -/
def rk5 : Array Word := #[
  0xBA3BF050, 0x7EFB2A98, 0xA1F1651D, 0x39AF0176,
  0x66CA593E, 0x82430E88, 0x8CEE8619, 0x456F9FB4,
  0x7D84A5C3, 0x3B8B5EBE, 0xE06F75D8, 0x85C12073,
  0x401A449F, 0x56C16AA6, 0x4ED3AA62, 0x363F7706,
  0x1BFEDF72, 0x429B023D, 0x37D0D724, 0xD00A1248,
  0xDB0FEAD3, 0x49F1C09B, 0x075372C9, 0x80991B7B,
  0x25D479D8, 0xF6E8DEF7, 0xE3FE501A, 0xB6794C3B,
  0x976CE0BD, 0x04C006BA, 0xC1A94FB6, 0x409F60C4]

/-! ### The loop -/

/-- `for (; pass_count < 32; pass_count += 8) body`, from the given `pass_count` on; the
    passes enter it with `pass_count = 0`. -/
def forPassCount (body : Nat → State → State) (pass_count : Nat) (s : State) : State :=
  if pass_count < 32 then forPassCount body (pass_count + 8) (body pass_count s) else s
termination_by 32 - pass_count

/-- Entered at `pass_count = 0`, the loop runs its body at 0, 8, 16 and 24. -/
theorem forPassCount_zero (body : Nat → State → State) (s : State) :
    forPassCount body 0 s = body 24 (body 16 (body 8 (body 0 s))) := by
  simp [forPassCount]

/-- `PASS1(n, in)` of the small-footprint build. -/
def pass1 (fp : Fn7) (inw : Nat → Word) : State → State :=
  forPassCount (fun pass_count s => s
    |> step fp .s7 .s6 .s5 .s4 .s3 .s2 .s1 .s0 (inw (pass_count + 0)) 0x00000000
    |> step fp .s6 .s5 .s4 .s3 .s2 .s1 .s0 .s7 (inw (pass_count + 1)) 0x00000000
    |> step fp .s5 .s4 .s3 .s2 .s1 .s0 .s7 .s6 (inw (pass_count + 2)) 0x00000000
    |> step fp .s4 .s3 .s2 .s1 .s0 .s7 .s6 .s5 (inw (pass_count + 3)) 0x00000000
    |> step fp .s3 .s2 .s1 .s0 .s7 .s6 .s5 .s4 (inw (pass_count + 4)) 0x00000000
    |> step fp .s2 .s1 .s0 .s7 .s6 .s5 .s4 .s3 (inw (pass_count + 5)) 0x00000000
    |> step fp .s1 .s0 .s7 .s6 .s5 .s4 .s3 .s2 (inw (pass_count + 6)) 0x00000000
    |> step fp .s0 .s7 .s6 .s5 .s4 .s3 .s2 .s1 (inw (pass_count + 7)) 0x00000000) 0

/-- `PASSG(p, n, in)`, with `MP`, `RK` and `fp` the `MPp`, `RKp` and `FPn_p` that the token
    pasting of `p` and `n` selects. -/
def passG (MP : Array Nat) (RK : Array Word) (fp : Fn7) (inw : Nat → Word) : State → State :=
  forPassCount (fun pass_count s => s
    |> step fp .s7 .s6 .s5 .s4 .s3 .s2 .s1 .s0 (inw MP[pass_count + 0]!) RK[pass_count + 0]!
    |> step fp .s6 .s5 .s4 .s3 .s2 .s1 .s0 .s7 (inw MP[pass_count + 1]!) RK[pass_count + 1]!
    |> step fp .s5 .s4 .s3 .s2 .s1 .s0 .s7 .s6 (inw MP[pass_count + 2]!) RK[pass_count + 2]!
    |> step fp .s4 .s3 .s2 .s1 .s0 .s7 .s6 .s5 (inw MP[pass_count + 3]!) RK[pass_count + 3]!
    |> step fp .s3 .s2 .s1 .s0 .s7 .s6 .s5 .s4 (inw MP[pass_count + 4]!) RK[pass_count + 4]!
    |> step fp .s2 .s1 .s0 .s7 .s6 .s5 .s4 .s3 (inw MP[pass_count + 5]!) RK[pass_count + 5]!
    |> step fp .s1 .s0 .s7 .s6 .s5 .s4 .s3 .s2 (inw MP[pass_count + 6]!) RK[pass_count + 6]!
    |> step fp .s0 .s7 .s6 .s5 .s4 .s3 .s2 .s1 (inw MP[pass_count + 7]!) RK[pass_count + 7]!) 0

/-- `PASS2(n, in)`: `PASSG(2, n, in)`. -/
def pass2 (fp : Fn7) (inw : Nat → Word) : State → State := passG mp2 rk2 fp inw
/-- `PASS3(n, in)`: `PASSG(3, n, in)`. -/
def pass3 (fp : Fn7) (inw : Nat → Word) : State → State := passG mp3 rk3 fp inw
/-- `PASS4(n, in)`: `PASSG(4, n, in)`. -/
def pass4 (fp : Fn7) (inw : Nat → Word) : State → State := passG mp4 rk4 fp inw
/-- `PASS5(n, in)`: `PASSG(5, n, in)`. -/
def pass5 (fp : Fn7) (inw : Nat → Word) : State → State := passG mp5 rk5 fp inw

/-! ### One iteration is eight lines -/

/-- The eight `STEP` lines of one loop iteration, reading message index `idx k` and constant
    `rk k` at step `k = pass_count + 0 .. pass_count + 7`. -/
def bodyLines (idx : Nat → Nat) (rk : Nat → Word) (pass_count : Nat) : List StepLine := [
  ⟨.s7, .s6, .s5, .s4, .s3, .s2, .s1, .s0, idx (pass_count + 0), rk (pass_count + 0)⟩,
  ⟨.s6, .s5, .s4, .s3, .s2, .s1, .s0, .s7, idx (pass_count + 1), rk (pass_count + 1)⟩,
  ⟨.s5, .s4, .s3, .s2, .s1, .s0, .s7, .s6, idx (pass_count + 2), rk (pass_count + 2)⟩,
  ⟨.s4, .s3, .s2, .s1, .s0, .s7, .s6, .s5, idx (pass_count + 3), rk (pass_count + 3)⟩,
  ⟨.s3, .s2, .s1, .s0, .s7, .s6, .s5, .s4, idx (pass_count + 4), rk (pass_count + 4)⟩,
  ⟨.s2, .s1, .s0, .s7, .s6, .s5, .s4, .s3, idx (pass_count + 5), rk (pass_count + 5)⟩,
  ⟨.s1, .s0, .s7, .s6, .s5, .s4, .s3, .s2, idx (pass_count + 6), rk (pass_count + 6)⟩,
  ⟨.s0, .s7, .s6, .s5, .s4, .s3, .s2, .s1, idx (pass_count + 7), rk (pass_count + 7)⟩]

/-- A loop whose body runs a block of lines runs the four blocks one after the other. -/
theorem forPassCount_runSteps (fp : Fn7) (inw : Nat → Word) (f : Nat → List StepLine)
    (s : State) :
    forPassCount (fun pc => runSteps fp inw (f pc)) 0 s
      = runSteps fp inw (f 0 ++ f 8 ++ f 16 ++ f 24) s := by
  simp only [forPassCount_zero, runSteps_append]

/-! ### The concatenated iterations are the unrolled lines -/

theorem pass1Lines_eq :
    bodyLines id (fun _ => 0) 0 ++ bodyLines id (fun _ => 0) 8 ++ bodyLines id (fun _ => 0) 16
      ++ bodyLines id (fun _ => 0) 24 = Unrolled.pass1Lines := rfl

theorem pass2Lines_eq :
    bodyLines (mp2[·]!) (rk2[·]!) 0 ++ bodyLines (mp2[·]!) (rk2[·]!) 8
      ++ bodyLines (mp2[·]!) (rk2[·]!) 16 ++ bodyLines (mp2[·]!) (rk2[·]!) 24
      = Unrolled.pass2Lines := rfl

theorem pass3Lines_eq :
    bodyLines (mp3[·]!) (rk3[·]!) 0 ++ bodyLines (mp3[·]!) (rk3[·]!) 8
      ++ bodyLines (mp3[·]!) (rk3[·]!) 16 ++ bodyLines (mp3[·]!) (rk3[·]!) 24
      = Unrolled.pass3Lines := rfl

theorem pass4Lines_eq :
    bodyLines (mp4[·]!) (rk4[·]!) 0 ++ bodyLines (mp4[·]!) (rk4[·]!) 8
      ++ bodyLines (mp4[·]!) (rk4[·]!) 16 ++ bodyLines (mp4[·]!) (rk4[·]!) 24
      = Unrolled.pass4Lines := rfl

theorem pass5Lines_eq :
    bodyLines (mp5[·]!) (rk5[·]!) 0 ++ bodyLines (mp5[·]!) (rk5[·]!) 8
      ++ bodyLines (mp5[·]!) (rk5[·]!) 16 ++ bodyLines (mp5[·]!) (rk5[·]!) 24
      = Unrolled.pass5Lines := rfl

/-- `PASS1` of the small-footprint build is the unrolled `PASS1`. -/
theorem pass1_eq_unrolled : pass1 = Unrolled.pass1 := by
  funext fp inw s
  rw [Unrolled.pass1, ← pass1Lines_eq]
  exact forPassCount_runSteps fp inw (bodyLines id fun _ => 0) s

/-- `PASSG` over tables whose four iterations spell out the lines `ls` runs `ls`: with
    `pass2Lines_eq` .. `pass5Lines_eq`, `PASS2` .. `PASS5` of the two builds agree. -/
theorem passG_eq_runSteps {MP : Array Nat} {RK : Array Word} {ls : List StepLine}
    (h : bodyLines (MP[·]!) (RK[·]!) 0 ++ bodyLines (MP[·]!) (RK[·]!) 8
      ++ bodyLines (MP[·]!) (RK[·]!) 16 ++ bodyLines (MP[·]!) (RK[·]!) 24 = ls) :
    passG MP RK = fun fp inw => runSteps fp inw ls := by
  funext fp inw s
  rw [← h]
  exact forPassCount_runSteps fp inw (bodyLines (MP[·]!) (RK[·]!)) s

end SmallFootprint

/-! ## 3. What every line of every pass satisfies -/

/-- Every `STEP` line of `PASS1` names eight distinct registers; likewise below. -/
theorem Unrolled.pass1Lines_distinct : ∀ l ∈ Unrolled.pass1Lines, l.Distinct := by decide

theorem Unrolled.pass2Lines_distinct : ∀ l ∈ Unrolled.pass2Lines, l.Distinct := by decide

theorem Unrolled.pass3Lines_distinct : ∀ l ∈ Unrolled.pass3Lines, l.Distinct := by decide

theorem Unrolled.pass4Lines_distinct : ∀ l ∈ Unrolled.pass4Lines, l.Distinct := by decide

theorem Unrolled.pass5Lines_distinct : ∀ l ∈ Unrolled.pass5Lines, l.Distinct := by decide

end Haval
