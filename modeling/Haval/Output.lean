import Haval.State

/-!
# `Haval/Output.lean` — `haval_init`, `haval_out`, and what the output tailoring keeps

HAVAL's shorter digests are not truncations. `haval_out` writes `olen` words; for
`olen < 8` the words `s(olen)`..`s7` are **folded** into the others: `mix128`, `mix160_k`,
`mix192_k` and the shift/mask chain of the 224-bit branch each take a few bits of every folded
word and add them to one output word.

**`havalOut_determines_folded` says the folding loses nothing**: two contexts of the same
`olen` ∈ {4, 5, 6, 7} that agree on the `olen` output positions and write the same digest agree
on the folded words too. The proof runs the tailoring backwards. For each branch there is an
explicit decoder (`untailor128` .. `untailor224`) that rebuilds the folded words from the
tailoring's outputs, and each decoder's left-inverse lemma is one normalisation: distribute
`&&&` over `|||`, let core's simprocs evaluate the literal masks, fold the pieces of each word
back together (`Word.and_or_distrib_left` reversed), and the union of its masks is `0xFFFFFFFF`.
A mask typo — two fields overlapping, or a bit no field covers — leaves a literal other than
`0xFFFFFFFF` there and the proof stops.

The 128-bit decoder is also a right inverse, so that branch is a bijection on the 128 folded
bits, a byte transpose up to rotations (`untailor128_inverse_tailor128`).

`sph_haval_context`'s `buf` is left out: only the update and close functions of
`haval_helper.c` touch it, and that file is not in the source.
-/

set_option autoImplicit false

namespace Haval

/-! ## 1. The context -/

/-- `sph_haval_context` without `buf`. `count` is the `SPH_64` build's `sph_u64 count`; the
    other build keeps it as `count_high`/`count_low`, both set to 0 by `haval_init` as well. -/
structure Context where
  s0 : Word
  s1 : Word
  s2 : Word
  s3 : Word
  s4 : Word
  s5 : Word
  s6 : Word
  s7 : Word
  olen : Nat
  passes : Nat
  count : BitVec 64
deriving DecidableEq, Repr

/-- `RSTATE`: load `s0`..`s7` from the context. -/
def rstate (sc : Context) : State :=
  ⟨sc.s0, sc.s1, sc.s2, sc.s3, sc.s4, sc.s5, sc.s6, sc.s7⟩

/-- `haval_init(sc, olen, passes)`. It writes every field this model keeps. -/
def havalInit (olen passes : Nat) : Context where
  s0 := 0x243F6A88
  s1 := 0x85A308D3
  s2 := 0x13198A2E
  s3 := 0x03707344
  s4 := 0xA4093822
  s5 := 0x299F31D0
  s6 := 0x082EFA98
  s7 := 0xEC4E6C89
  olen := olen
  passes := passes
  count := 0

/-- `sph_havalxxx_y_init` as `API(xxx, y)` generates it: `haval_init(cc, xxx >> 5, y)`. -/
def apiInit (xxx y : Nat) : Context := havalInit (xxx >>> 5) y

/-! ## 2. The tailoring functions -/

/-- `mix128(a0, a1, a2, a3, n)`: byte 0 of `a0`, byte 1 of `a1`, byte 2 of `a2`, byte 3 of `a3`,
    rotated left by `n` when `n > 0`. -/
def mix128 (a0 a1 a2 a3 : Word) (n : Int) : Word :=
  let tmp := (a0 &&& 0x000000FF) ||| (a1 &&& 0x0000FF00) ||| (a2 &&& 0x00FF0000)
    ||| (a3 &&& 0xFF000000)
  if n > 0 then sphRotl32 tmp n.toNat else tmp

/-- `mix160_0(x5, x6, x7)`. -/
def mix160_0 (x5 x6 x7 : Word) : Word :=
  sphRotl32 ((x5 &&& 0x01F80000) ||| (x6 &&& 0xFE000000) ||| (x7 &&& 0x0000003F)) 13

/-- `mix160_1(x5, x6, x7)`. -/
def mix160_1 (x5 x6 x7 : Word) : Word :=
  sphRotl32 ((x5 &&& 0xFE000000) ||| (x6 &&& 0x0000003F) ||| (x7 &&& 0x00000FC0)) 7

/-- `mix160_2(x5, x6, x7)`. -/
def mix160_2 (x5 x6 x7 : Word) : Word :=
  (x5 &&& 0x0000003F) ||| (x6 &&& 0x00000FC0) ||| (x7 &&& 0x0007F000)

/-- `mix160_3(x5, x6, x7)`. -/
def mix160_3 (x5 x6 x7 : Word) : Word :=
  ((x5 &&& 0x00000FC0) ||| (x6 &&& 0x0007F000) ||| (x7 &&& 0x01F80000)) >>> 6

/-- `mix160_4(x5, x6, x7)`. -/
def mix160_4 (x5 x6 x7 : Word) : Word :=
  ((x5 &&& 0x0007F000) ||| (x6 &&& 0x01F80000) ||| (x7 &&& 0xFE000000)) >>> 12

/-- `mix192_0(x6, x7)`. -/
def mix192_0 (x6 x7 : Word) : Word :=
  sphRotl32 ((x6 &&& 0xFC000000) ||| (x7 &&& 0x0000001F)) 6

/-- `mix192_1(x6, x7)`. -/
def mix192_1 (x6 x7 : Word) : Word := (x6 &&& 0x0000001F) ||| (x7 &&& 0x000003E0)

/-- `mix192_2(x6, x7)`. -/
def mix192_2 (x6 x7 : Word) : Word := ((x6 &&& 0x000003E0) ||| (x7 &&& 0x0000FC00)) >>> 5

/-- `mix192_3(x6, x7)`. -/
def mix192_3 (x6 x7 : Word) : Word := ((x6 &&& 0x0000FC00) ||| (x7 &&& 0x001F0000)) >>> 10

/-- `mix192_4(x6, x7)`. -/
def mix192_4 (x6 x7 : Word) : Word := ((x6 &&& 0x001F0000) ||| (x7 &&& 0x03E00000)) >>> 16

/-- `mix192_5(x6, x7)`. -/
def mix192_5 (x6 x7 : Word) : Word := ((x6 &&& 0x03E00000) ||| (x7 &&& 0xFC000000)) >>> 21

/-! ## 3. `haval_out` -/

/-- `haval_out(sc, dst)`: the bytes it writes to `dst`, in order. The `switch` has no
    `default`, so an `olen` outside 4..8 writes nothing. -/
def havalOut (sc : Context) : List Byte :=
  let s := rstate sc
  match sc.olen with
  | 4 =>
    sphEnc32le (s.s0 + mix128 s.s7 s.s4 s.s5 s.s6 24)
      ++ sphEnc32le (s.s1 + mix128 s.s6 s.s7 s.s4 s.s5 16)
      ++ sphEnc32le (s.s2 + mix128 s.s5 s.s6 s.s7 s.s4 8)
      ++ sphEnc32le (s.s3 + mix128 s.s4 s.s5 s.s6 s.s7 0)
  | 5 =>
    sphEnc32le (s.s0 + mix160_0 s.s5 s.s6 s.s7)
      ++ sphEnc32le (s.s1 + mix160_1 s.s5 s.s6 s.s7)
      ++ sphEnc32le (s.s2 + mix160_2 s.s5 s.s6 s.s7)
      ++ sphEnc32le (s.s3 + mix160_3 s.s5 s.s6 s.s7)
      ++ sphEnc32le (s.s4 + mix160_4 s.s5 s.s6 s.s7)
  | 6 =>
    sphEnc32le (s.s0 + mix192_0 s.s6 s.s7)
      ++ sphEnc32le (s.s1 + mix192_1 s.s6 s.s7)
      ++ sphEnc32le (s.s2 + mix192_2 s.s6 s.s7)
      ++ sphEnc32le (s.s3 + mix192_3 s.s6 s.s7)
      ++ sphEnc32le (s.s4 + mix192_4 s.s6 s.s7)
      ++ sphEnc32le (s.s5 + mix192_5 s.s6 s.s7)
  | 7 =>
    sphEnc32le (s.s0 + ((s.s7 >>> 27) &&& 0x1F))
      ++ sphEnc32le (s.s1 + ((s.s7 >>> 22) &&& 0x1F))
      ++ sphEnc32le (s.s2 + ((s.s7 >>> 18) &&& 0x0F))
      ++ sphEnc32le (s.s3 + ((s.s7 >>> 13) &&& 0x1F))
      ++ sphEnc32le (s.s4 + ((s.s7 >>> 9) &&& 0x0F))
      ++ sphEnc32le (s.s5 + ((s.s7 >>> 4) &&& 0x1F))
      ++ sphEnc32le (s.s6 + (s.s7 &&& 0x0F))
  | 8 =>
    sphEnc32le s.s0 ++ sphEnc32le s.s1 ++ sphEnc32le s.s2 ++ sphEnc32le s.s3
      ++ sphEnc32le s.s4 ++ sphEnc32le s.s5 ++ sphEnc32le s.s6 ++ sphEnc32le s.s7
  | _ => []

/-! ## 4. Running the tailoring backwards

Each decoder undoes the final rotation or shift of every output word, then takes from each
word the field that came from the folded word being rebuilt. -/

/-- Rebuild `(s4, s5, s6, s7)` from the four `mix128` results. Once the rotations are undone
    the branch is a transpose of a 4×4 byte matrix, so `mix128` is its own inverse there. -/
def untailor128 (o0 o1 o2 o3 : Word) : Word × Word × Word × Word :=
  let t0 := sphRotr32 o0 24
  let t1 := sphRotr32 o1 16
  let t2 := sphRotr32 o2 8
  (mix128 o3 t0 t1 t2 0, mix128 t2 o3 t0 t1 0, mix128 t1 t2 o3 t0 0, mix128 t0 t1 t2 o3 0)

/-- Rebuild `(s5, s6, s7)` from the five `mix160_k` results. -/
def untailor160 (o0 o1 o2 o3 o4 : Word) : Word × Word × Word :=
  let t0 := sphRotr32 o0 13
  let t1 := sphRotr32 o1 7
  let t3 := o3 <<< 6
  let t4 := o4 <<< 12
  ((t0 &&& 0x01F80000) ||| (t1 &&& 0xFE000000) ||| (o2 &&& 0x0000003F) ||| (t3 &&& 0x00000FC0)
      ||| (t4 &&& 0x0007F000),
    (t0 &&& 0xFE000000) ||| (t1 &&& 0x0000003F) ||| (o2 &&& 0x00000FC0) ||| (t3 &&& 0x0007F000)
      ||| (t4 &&& 0x01F80000),
    (t0 &&& 0x0000003F) ||| (t1 &&& 0x00000FC0) ||| (o2 &&& 0x0007F000) ||| (t3 &&& 0x01F80000)
      ||| (t4 &&& 0xFE000000))

/-- Rebuild `(s6, s7)` from the six `mix192_k` results. -/
def untailor192 (o0 o1 o2 o3 o4 o5 : Word) : Word × Word :=
  let t0 := sphRotr32 o0 6
  let t2 := o2 <<< 5
  let t3 := o3 <<< 10
  let t4 := o4 <<< 16
  let t5 := o5 <<< 21
  ((t0 &&& 0xFC000000) ||| (o1 &&& 0x0000001F) ||| (t2 &&& 0x000003E0) ||| (t3 &&& 0x0000FC00)
      ||| (t4 &&& 0x001F0000) ||| (t5 &&& 0x03E00000),
    (t0 &&& 0x0000001F) ||| (o1 &&& 0x000003E0) ||| (t2 &&& 0x0000FC00) ||| (t3 &&& 0x001F0000)
      ||| (t4 &&& 0x03E00000) ||| (t5 &&& 0xFC000000))

/-- Rebuild `s7` from the seven fields the 224-bit branch adds. -/
def untailor224 (f0 f1 f2 f3 f4 f5 f6 : Word) : Word :=
  (f0 <<< 27) ||| (f1 <<< 22) ||| (f2 <<< 18) ||| (f3 <<< 13) ||| (f4 <<< 9) ||| (f5 <<< 4) ||| f6

theorem untailor128_tailor (x4 x5 x6 x7 : Word) :
    untailor128 (mix128 x7 x4 x5 x6 24) (mix128 x6 x7 x4 x5 16) (mix128 x5 x6 x7 x4 8)
      (mix128 x4 x5 x6 x7 0) = (x4, x5, x6, x7) := by
  simp only [untailor128, mix128, show ((24 : Int) > 0) by decide, show ((16 : Int) > 0) by decide,
    show ((8 : Int) > 0) by decide, show ¬ ((0 : Int) > 0) by decide, if_true, if_false,
    sphRotr32_sphRotl32]
  simp [Word.and_or_distrib_right, BitVec.and_assoc]
  simp only [← Word.and_or_distrib_left]
  simp

theorem untailor160_tailor (x5 x6 x7 : Word) :
    untailor160 (mix160_0 x5 x6 x7) (mix160_1 x5 x6 x7) (mix160_2 x5 x6 x7) (mix160_3 x5 x6 x7)
      (mix160_4 x5 x6 x7) = (x5, x6, x7) := by
  simp only [untailor160, mix160_0, mix160_1, mix160_2, mix160_3, mix160_4, sphRotr32_sphRotl32,
    BitVec.shiftLeft_ushiftRight, Word.allOnes_eq]
  simp [Word.and_or_distrib_right, BitVec.and_assoc]
  simp only [← Word.and_or_distrib_left]
  simp

theorem untailor192_tailor (x6 x7 : Word) :
    untailor192 (mix192_0 x6 x7) (mix192_1 x6 x7) (mix192_2 x6 x7) (mix192_3 x6 x7)
      (mix192_4 x6 x7) (mix192_5 x6 x7) = (x6, x7) := by
  simp only [untailor192, mix192_0, mix192_1, mix192_2, mix192_3, mix192_4, mix192_5,
    sphRotr32_sphRotl32, BitVec.shiftLeft_ushiftRight, Word.allOnes_eq]
  simp [Word.and_or_distrib_right, BitVec.and_assoc]
  simp only [← Word.and_or_distrib_left]
  simp

theorem untailor224_tailor (x7 : Word) :
    untailor224 ((x7 >>> 27) &&& 0x1F) ((x7 >>> 22) &&& 0x1F) ((x7 >>> 18) &&& 0x0F)
      ((x7 >>> 13) &&& 0x1F) ((x7 >>> 9) &&& 0x0F) ((x7 >>> 4) &&& 0x1F) (x7 &&& 0x0F) = x7 := by
  simp only [untailor224, BitVec.shiftLeft_and_distrib, BitVec.shiftLeft_ushiftRight,
    Word.allOnes_eq]
  simp [BitVec.and_assoc]
  simp only [← Word.and_or_distrib_left]
  simp

/-- **The 128-bit tailoring is a bijection on the four folded words**: `untailor128` is both a
    left and a right inverse of the four `mix128` words that `haval_out` writes for `olen = 4`. -/
theorem untailor128_inverse_tailor128 :
    (∀ x4 x5 x6 x7 : Word,
      untailor128 (mix128 x7 x4 x5 x6 24) (mix128 x6 x7 x4 x5 16) (mix128 x5 x6 x7 x4 8)
        (mix128 x4 x5 x6 x7 0) = (x4, x5, x6, x7)) ∧
    (∀ o0 o1 o2 o3 : Word,
      let u := untailor128 o0 o1 o2 o3
      (mix128 u.2.2.2 u.1 u.2.1 u.2.2.1 24, mix128 u.2.2.1 u.2.2.2 u.1 u.2.1 16,
        mix128 u.2.1 u.2.2.1 u.2.2.2 u.1 8, mix128 u.1 u.2.1 u.2.2.1 u.2.2.2 0)
        = (o0, o1, o2, o3)) := by
  refine ⟨untailor128_tailor, fun o0 o1 o2 o3 => ?_⟩
  simp only [untailor128, mix128, show ((24 : Int) > 0) by decide, show ((16 : Int) > 0) by decide,
    show ((8 : Int) > 0) by decide, show ¬ ((0 : Int) > 0) by decide, if_true, if_false]
  simp [Word.and_or_distrib_right, BitVec.and_assoc]
  simp only [← Word.and_or_distrib_left]
  simp

/-! ## 5. The digest determines the folded words

One lemma per branch, each the theorem at a fixed `olen`: unfold `haval_out` there, split the
byte string into its encoded words, cancel the unfolded words the two contexts share, and hand
the tailoring outputs to the branch's decoder. -/

section Branches

variable {sc sc' : Context}

theorem havalOut_olen4 (h : sc.olen = 4) (h' : sc'.olen = 4)
    (hlow : ∀ r : Reg, r.idx < 4 → (rstate sc).get r = (rstate sc').get r)
    (hout : havalOut sc = havalOut sc') :
    ∀ r : Reg, 4 ≤ r.idx → (rstate sc).get r = (rstate sc').get r := by
  simp only [Reg.forall, Reg.idx, rstate, State.get, Nat.reduceLT, Nat.reduceLeDiff, true_implies,
    false_implies, and_true, true_and] at hlow ⊢
  obtain ⟨e0, e1, e2, e3⟩ := hlow
  simp only [havalOut, rstate, h, h', List.append_assoc, sphEnc32le_append_inj, sphEnc32le_inj,
    e0, e1, e2, e3, add_right_inj] at hout
  obtain ⟨m0, m1, m2, m3⟩ := hout
  have key : (sc.s4, sc.s5, sc.s6, sc.s7) = (sc'.s4, sc'.s5, sc'.s6, sc'.s7) := by
    rw [← untailor128_tailor sc.s4, m0, m1, m2, m3, untailor128_tailor]
  simpa using key

theorem havalOut_olen5 (h : sc.olen = 5) (h' : sc'.olen = 5)
    (hlow : ∀ r : Reg, r.idx < 5 → (rstate sc).get r = (rstate sc').get r)
    (hout : havalOut sc = havalOut sc') :
    ∀ r : Reg, 5 ≤ r.idx → (rstate sc).get r = (rstate sc').get r := by
  simp only [Reg.forall, Reg.idx, rstate, State.get, Nat.reduceLT, Nat.reduceLeDiff, true_implies,
    false_implies, and_true, true_and] at hlow ⊢
  obtain ⟨e0, e1, e2, e3, e4⟩ := hlow
  simp only [havalOut, rstate, h, h', List.append_assoc, sphEnc32le_append_inj, sphEnc32le_inj,
    e0, e1, e2, e3, e4, add_right_inj] at hout
  obtain ⟨m0, m1, m2, m3, m4⟩ := hout
  have key : (sc.s5, sc.s6, sc.s7) = (sc'.s5, sc'.s6, sc'.s7) := by
    rw [← untailor160_tailor sc.s5, m0, m1, m2, m3, m4, untailor160_tailor]
  simpa using key

theorem havalOut_olen6 (h : sc.olen = 6) (h' : sc'.olen = 6)
    (hlow : ∀ r : Reg, r.idx < 6 → (rstate sc).get r = (rstate sc').get r)
    (hout : havalOut sc = havalOut sc') :
    ∀ r : Reg, 6 ≤ r.idx → (rstate sc).get r = (rstate sc').get r := by
  simp only [Reg.forall, Reg.idx, rstate, State.get, Nat.reduceLT, Nat.reduceLeDiff, true_implies,
    false_implies, and_true, true_and] at hlow ⊢
  obtain ⟨e0, e1, e2, e3, e4, e5⟩ := hlow
  simp only [havalOut, rstate, h, h', List.append_assoc, sphEnc32le_append_inj, sphEnc32le_inj,
    e0, e1, e2, e3, e4, e5, add_right_inj] at hout
  obtain ⟨m0, m1, m2, m3, m4, m5⟩ := hout
  have key : (sc.s6, sc.s7) = (sc'.s6, sc'.s7) := by
    rw [← untailor192_tailor sc.s6, m0, m1, m2, m3, m4, m5, untailor192_tailor]
  simpa using key

theorem havalOut_olen7 (h : sc.olen = 7) (h' : sc'.olen = 7)
    (hlow : ∀ r : Reg, r.idx < 7 → (rstate sc).get r = (rstate sc').get r)
    (hout : havalOut sc = havalOut sc') :
    ∀ r : Reg, 7 ≤ r.idx → (rstate sc).get r = (rstate sc').get r := by
  simp only [Reg.forall, Reg.idx, rstate, State.get, Nat.reduceLT, Nat.reduceLeDiff, true_implies,
    false_implies, and_true, true_and] at hlow ⊢
  obtain ⟨e0, e1, e2, e3, e4, e5, e6⟩ := hlow
  simp only [havalOut, rstate, h, h', List.append_assoc, sphEnc32le_append_inj, sphEnc32le_inj,
    e0, e1, e2, e3, e4, e5, e6, add_right_inj] at hout
  obtain ⟨m0, m1, m2, m3, m4, m5, m6⟩ := hout
  rw [← untailor224_tailor sc.s7, m0, m1, m2, m3, m4, m5, m6, untailor224_tailor]

end Branches

/-- **The tailoring loses no bit of the folded words.** For an output length of 4 to 7 words
    (HAVAL-128 to HAVAL-224), two contexts that agree on the words written directly and write
    the same digest agree on every folded word `s(olen)`..`s7` as well. -/
theorem havalOut_determines_folded (sc sc' : Context) (holen : sc.olen = sc'.olen)
    (hrange : 4 ≤ sc.olen ∧ sc.olen ≤ 7)
    (hlow : ∀ r : Reg, r.idx < sc.olen → (rstate sc).get r = (rstate sc').get r)
    (hout : havalOut sc = havalOut sc') :
    ∀ r : Reg, sc.olen ≤ r.idx → (rstate sc).get r = (rstate sc').get r := by
  rcases (by omega : sc.olen = 4 ∨ sc.olen = 5 ∨ sc.olen = 6 ∨ sc.olen = 7)
    with h | h | h | h <;> rw [h] at hlow ⊢
  · exact havalOut_olen4 h (holen ▸ h) hlow hout
  · exact havalOut_olen5 h (holen ▸ h) hlow hout
  · exact havalOut_olen6 h (holen ▸ h) hlow hout
  · exact havalOut_olen7 h (holen ▸ h) hlow hout

/-- HAVAL-128/3 and HAVAL-128/5 contexts fresh from `haval_init` differ (in `passes`) yet write
    the same digest; the theorem then says they agree on the folded `s7`. -/
theorem havalOut_determines_folded_init :
    havalOut (apiInit 128 3) = havalOut (apiInit 128 5) ∧
      (rstate (apiInit 128 3)).get .s7 = (rstate (apiInit 128 5)).get .s7 :=
  ⟨rfl, havalOut_determines_folded (apiInit 128 3) (apiInit 128 5) rfl (by decide)
    (fun r _ => by cases r <;> rfl) rfl .s7 (by decide)⟩

/-! ## 6. The 256-bit digest -/

/-- The 256-bit digest is the state itself: equal digests mean equal `s0`..`s7`. -/
theorem havalOut_olen8_injective {sc sc' : Context} (h : sc.olen = 8) (h' : sc'.olen = 8)
    (hout : havalOut sc = havalOut sc') : rstate sc = rstate sc' := by
  simp only [havalOut, rstate, h, h', List.append_assoc, sphEnc32le_append_inj,
    sphEnc32le_inj] at hout
  obtain ⟨e0, e1, e2, e3, e4, e5, e6, e7⟩ := hout
  simp only [rstate, e0, e1, e2, e3, e4, e5, e6, e7]

theorem havalOut_olen8_injective_init : rstate (apiInit 256 3) = rstate (apiInit 256 5) :=
  havalOut_olen8_injective rfl rfl rfl

end Haval
