import Haval.Word
import Mathlib.Data.Vector.Defs
import Mathlib.Logic.Function.Basic

/-!
# `Haval/Chain.lean` — `Hash9`, the chain HAVAL-256/5 is a step of

`hashblock.h` hashes a block header through a fixed chain of sphlib primitives. Its `Hash9`
declares one context for each primitive it uses and an array `uint512 hash[N]`, and then makes
three calls per step: `sph_f_init(&ctx)`; `sph_f(&ctx, src, len)`, where `src` is the message
for the first step and, after it, all 64 bytes of the buffer the step before wrote; and
`sph_f_close(&ctx, &hash[k])`. It returns `hash[N - 1].trim256()`. The source holds two
versions of the header: one chains five steps over four primitives, the other twenty-four
steps, the twentieth of them `sph_haval256_5`.

The primitives other than HAVAL, `uint512` and `trim256` are not in the source, and HAVAL's own
update and close live in the missing `haval_helper.c`. So the primitives are a parameter here
(`Library`), with only the fact that a digest fits in a `uint512` (`keepLibrary` is one such
library), and what is modelled is the listing itself: `FiveStep.calls` and
`TwentyFourStep.calls` have one entry per source call, arguments in the source's order, and
`runCalls` runs them over the function's locals (`Frame`).

**`hash9_eq_chain` says each listing computes the chain it is meant to**: for every library,
every initial frame and every message, `Hash9` returns `trim256` of `chain`, in which step
`k` hashes the buffer of step `k - 1` from a fresh context. A step reading the wrong buffer, a
close overwriting a buffer a later step still reads, or an update on another step's context
would each break it. The proof has the shape of the passes' bridge (`Haval/Passes.lean`): the
three calls of one step have a closed-form effect (`stepCalls_run`), a run of such steps is
the chain by induction (`restCalls_run`), and each listing is `chainCalls` of its primitives
by `rfl`.

A digest shorter than 64 bytes overwrites only the start of its buffer, and the next step
still reads all 64 bytes. Both levels keep that: `writeDigest` leaves the rest of the buffer as
it was, and the initial buffers are a parameter of `chain` as of `Hash9`.
-/

set_option autoImplicit false

namespace Haval

/-! ## 1. The locals and the calls -/

/-- A primitive `f` of `hashblock.h`, named as in its functions `sph_f_init`, `sph_f` and
    `sph_f_close`. A context variable is named here by the primitive of its declared type
    (`ctx_lowcube` is a `sph_cubehash384_context`): each `Hash9` declares one context of every
    type it uses. -/
inductive Prim
  | blake512 | bmw512 | cubehash384 | cubehash512 | echo512 | fugue512 | groestl512 | hamsi512
  | haval256_5 | jh512 | keccak512 | luffa512 | panama | ripemd160 | sha512 | shabal512
  | shavite512 | simd512 | skein512 | tiger | tiger2 | whirlpool | whirlpool1
deriving DecidableEq, Repr

/-- A `uint512`: 64 bytes, in memory order. -/
abbrev Wide := Mathlib.Vector Byte 64

/-- Modelled from the spec: `uint512::trim256()` (`uint256.h`, not in the source), the first
    32 bytes of the buffer. -/
def trim256 (x : Wide) : Mathlib.Vector Byte 32 := ⟨x.toList.take 32, by simp⟩

/-- What the primitives' functions do, over a type `σ` of contexts. `close` gives the context it
    leaves and the digest it writes. A digest fits in a `uint512`, so `sph_f_close(&ctx,
    &hash[k])` writes inside `hash[k]`. -/
structure Library (σ : Type) where
  init : Prim → σ
  update : Prim → σ → List Byte → σ
  close : Prim → σ → σ × List Byte
  digest_le : ∀ f c, (close f c).2.length ≤ 64

/-- Where `sph_f(&ctx, src, len)` reads: the message range `[pbegin, pend)`, or the first
    `len` bytes of `hash[k]`. -/
inductive Src
  | message
  | hash (k len : Nat)
deriving DecidableEq, Repr

/-- One call of `Hash9`, on the context declared for primitive `c`:
    `sph_f_init(&ctx)`, `sph_f(&ctx, src, len)` or `sph_f_close(&ctx, &hash[k])`. -/
inductive Call
  | init (f c : Prim)
  | update (f c : Prim) (src : Src)
  | close (f c : Prim) (k : Nat)
deriving DecidableEq, Repr

/-- The locals of `Hash9`: its contexts and its buffers. -/
structure Frame (σ : Type) where
  ctx : Prim → σ
  hash : Nat → Wide

/-- `static unsigned char pblank[1]`, zero as every static is. -/
def pblank : List Byte := [0]

/-- The bytes `sph_f(&ctx, src, len)` reads. For the message `src` is `pblank` when
    `pbegin == pend` and `&pbegin[0]` otherwise, and `len` is `(pend - pbegin) *
    sizeof(pbegin[0])`; `msg` is the range's bytes. -/
def Src.read (msg : List Byte) (hash : Nat → Wide) : Src → List Byte
  | .message => (if msg = [] then pblank else msg).take msg.length
  | .hash k len => (hash k).toList.take len

/-- `sph_f_close` writing the digest `d` to a buffer: `d`, then the buffer's bytes past it as
    they were. -/
def writeDigest (d : List Byte) (hd : d.length ≤ 64) (buf : Wide) : Wide :=
  ⟨d ++ buf.toList.drop d.length, by simp [hd]⟩

section Run

variable {σ : Type} (lib : Library σ) (msg : List Byte)

/-- One call, run over the locals. -/
def Call.exec : Call → Frame σ → Frame σ
  | .init f c, fr => { fr with ctx := Function.update fr.ctx c (lib.init f) }
  | .update f c src, fr =>
    { fr with ctx := Function.update fr.ctx c (lib.update f (fr.ctx c) (src.read msg fr.hash)) }
  | .close f c k, fr =>
    { ctx := Function.update fr.ctx c (lib.close f (fr.ctx c)).1
      hash := Function.update fr.hash k
        (writeDigest (lib.close f (fr.ctx c)).2 (lib.digest_le f _) (fr.hash k)) }

/-- A listing of calls, run in order. -/
def runCalls : List Call → Frame σ → Frame σ
  | [], fr => fr
  | c :: cs, fr => runCalls cs (c.exec lib msg fr)

theorem runCalls_append (cs cs' : List Call) (fr : Frame σ) :
    runCalls lib msg (cs ++ cs') fr = runCalls lib msg cs' (runCalls lib msg cs fr) := by
  induction cs generalizing fr with
  | nil => rfl
  | cons c cs ih => exact ih _

end Run

/-! ## 2. The chain a listing is meant to compute -/

section Chain

variable {σ : Type} (lib : Library σ)

/-- One step of a chain: hash `input` with `f` from a fresh context, into the buffer `buf`. -/
def hashInto (f : Prim) (input : List Byte) (buf : Wide) : Wide :=
  writeDigest (lib.close f (lib.update f (lib.init f) input)).2 (lib.digest_le _ _) buf

/-- The chain `fs` from step `k` on, over the initial buffers `hash0`: step `k` hashes `input`
    into `hash0 k`, and each later step hashes all of the buffer before it. The result is the
    last buffer written, `last` when there is no step. -/
def chainFrom (hash0 : Nat → Wide) : List Prim → Nat → List Byte → Wide → Wide
  | [], _, _, last => last
  | f :: fs, k, input, _ =>
    let b := hashInto lib f input (hash0 k)
    chainFrom hash0 fs (k + 1) b.toList b

/-- The chain `fs` over the message `msg`: the last of its buffers. -/
def chain (hash0 : Nat → Wide) (fs : List Prim) (msg : List Byte) : Wide :=
  chainFrom lib hash0 fs 0 msg (hash0 0)

end Chain

/-- The three calls of step `k`, on the context of `f`, reading `src`. -/
def stepCalls (f : Prim) (src : Src) (k : Nat) : List Call :=
  [.init f f, .update f f src, .close f f k]

/-- Steps `k`, `k + 1`, .. of a chain, each reading the buffer of the step before. -/
def restCalls : List Prim → Nat → List Call
  | [], _ => []
  | f :: fs, k => stepCalls f (.hash (k - 1) 64) k ++ restCalls fs (k + 1)

/-- The listing of a chain: step 0 reads the message, each later step the buffer before it. -/
def chainCalls : List Prim → List Call
  | [] => []
  | f :: fs => stepCalls f .message 0 ++ restCalls fs 1

/-! ## 3. A chain listing computes its chain -/

section Bridge

variable {σ : Type} (lib : Library σ) (msg : List Byte)

/-- Whether `pblank` stands in or not, the first step reads the message. -/
theorem read_message (hash : Nat → Wide) : Src.message.read msg hash = msg := by
  by_cases h : msg = [] <;> simp [Src.read, h]

/-- Reading 64 bytes of a `uint512` reads all of it. -/
theorem read_hash_64 (hash : Nat → Wide) (k : Nat) :
    (Src.hash k 64).read msg hash = (hash k).toList :=
  List.take_of_length_le (by simp)

/-- A step writes its buffer, and only it, with the digest of what it read; the contexts it
    found do not matter, as it starts from `init`. -/
theorem stepCalls_run (f : Prim) (src : Src) (k : Nat) (fr : Frame σ) :
    (runCalls lib msg (stepCalls f src k) fr).hash
      = Function.update fr.hash k (hashInto lib f (src.read msg fr.hash) (fr.hash k)) := by
  simp [runCalls, stepCalls, Call.exec, hashInto]

/-- Steps `k` on, run from locals whose buffers from `k` on are still the initial ones, end
    with the chain's last buffer. -/
theorem restCalls_run (hash0 : Nat → Wide) (fs : List Prim) (k : Nat) (fr : Frame σ)
    (hk : 1 ≤ k) (hfr : ∀ j, k ≤ j → fr.hash j = hash0 j) :
    (runCalls lib msg (restCalls fs k) fr).hash (k - 1 + fs.length)
      = chainFrom lib hash0 fs k (fr.hash (k - 1)).toList (fr.hash (k - 1)) := by
  induction fs generalizing k fr with
  | nil => rfl
  | cons f fs ih =>
    rw [restCalls, runCalls_append]
    have hstep := stepCalls_run lib msg f (.hash (k - 1) 64) k fr
    have hlen : k - 1 + (f :: fs).length = k + 1 - 1 + fs.length := by simp; omega
    rw [hlen, ih (k + 1) _ (by omega) fun j hj => by
      rw [hstep, Function.update_noteq (by omega), hfr j (by omega)]]
    simp [hstep, chainFrom, read_hash_64, hfr k le_rfl]

/-- A chain listing leaves the chain in the buffer of its last step. -/
theorem chainCalls_run (fs : List Prim) (fr : Frame σ) :
    (runCalls lib msg (chainCalls fs) fr).hash (fs.length - 1) = chain lib fr.hash fs msg := by
  cases fs with
  | nil => rfl
  | cons f fs =>
    rw [chainCalls, runCalls_append]
    have hstep := stepCalls_run lib msg f .message 0 fr
    have hrest := restCalls_run lib msg fr.hash fs 1 _ le_rfl fun j hj => by
      rw [hstep, Function.update_noteq (by omega)]
    simp only [List.length_cons, Nat.add_sub_cancel, Nat.sub_self, Nat.zero_add] at hrest ⊢
    rw [hrest, hstep]
    simp [chain, chainFrom, read_message]

end Bridge

/-! ## 4. The two listings -/

namespace FiveStep

/-- The primitives of the five-step `Hash9`, in order. -/
def prims : List Prim := [.panama, .whirlpool, .keccak512, .panama, .cubehash512]

/-- The calls of the five-step `Hash9`. -/
def calls : List Call := [
  Call.init .panama .panama,
  Call.update .panama .panama .message,
  Call.close .panama .panama 0,

  Call.init .whirlpool .whirlpool,
  Call.update .whirlpool .whirlpool (.hash 0 64),
  Call.close .whirlpool .whirlpool 1,

  Call.init .keccak512 .keccak512,
  Call.update .keccak512 .keccak512 (.hash 1 64),
  Call.close .keccak512 .keccak512 2,

  Call.init .panama .panama,
  Call.update .panama .panama (.hash 2 64),
  Call.close .panama .panama 3,

  Call.init .cubehash512 .cubehash512,
  Call.update .cubehash512 .cubehash512 (.hash 3 64),
  Call.close .cubehash512 .cubehash512 4]

/-- The five-step `Hash9(pbegin, pend)`, over the bytes `msg` of the range, from the locals
    `fr` as declared. -/
def hash9 {σ : Type} (lib : Library σ) (fr : Frame σ) (msg : List Byte) :
    Mathlib.Vector Byte 32 :=
  trim256 ((runCalls lib msg calls fr).hash 4)

theorem calls_eq : calls = chainCalls prims := rfl

end FiveStep

namespace TwentyFourStep

/-- The primitives of the twenty-four-step `Hash9`, in order. -/
def prims : List Prim :=
  [.whirlpool1, .bmw512, .groestl512, .echo512, .hamsi512, .fugue512, .shabal512, .jh512,
    .keccak512, .skein512, .luffa512, .tiger, .cubehash512, .panama, .sha512, .shavite512,
    .simd512, .blake512, .ripemd160, .haval256_5, .cubehash384, .whirlpool1, .tiger2, .whirlpool]

/-- The calls of the twenty-four-step `Hash9`. -/
def calls : List Call := [
  Call.init .whirlpool1 .whirlpool1,
  Call.update .whirlpool1 .whirlpool1 .message,
  Call.close .whirlpool1 .whirlpool1 0,

  Call.init .bmw512 .bmw512,
  Call.update .bmw512 .bmw512 (.hash 0 64),
  Call.close .bmw512 .bmw512 1,

  Call.init .groestl512 .groestl512,
  Call.update .groestl512 .groestl512 (.hash 1 64),
  Call.close .groestl512 .groestl512 2,

  Call.init .echo512 .echo512,
  Call.update .echo512 .echo512 (.hash 2 64),
  Call.close .echo512 .echo512 3,

  Call.init .hamsi512 .hamsi512,
  Call.update .hamsi512 .hamsi512 (.hash 3 64),
  Call.close .hamsi512 .hamsi512 4,

  Call.init .fugue512 .fugue512,
  Call.update .fugue512 .fugue512 (.hash 4 64),
  Call.close .fugue512 .fugue512 5,

  Call.init .shabal512 .shabal512,
  Call.update .shabal512 .shabal512 (.hash 5 64),
  Call.close .shabal512 .shabal512 6,

  Call.init .jh512 .jh512,
  Call.update .jh512 .jh512 (.hash 6 64),
  Call.close .jh512 .jh512 7,

  Call.init .keccak512 .keccak512,
  Call.update .keccak512 .keccak512 (.hash 7 64),
  Call.close .keccak512 .keccak512 8,

  Call.init .skein512 .skein512,
  Call.update .skein512 .skein512 (.hash 8 64),
  Call.close .skein512 .skein512 9,

  Call.init .luffa512 .luffa512,
  Call.update .luffa512 .luffa512 (.hash 9 64),
  Call.close .luffa512 .luffa512 10,

  Call.init .tiger .tiger,
  Call.update .tiger .tiger (.hash 10 64),
  Call.close .tiger .tiger 11,

  Call.init .cubehash512 .cubehash512,
  Call.update .cubehash512 .cubehash512 (.hash 11 64),
  Call.close .cubehash512 .cubehash512 12,

  Call.init .panama .panama,
  Call.update .panama .panama (.hash 12 64),
  Call.close .panama .panama 13,

  Call.init .sha512 .sha512,
  Call.update .sha512 .sha512 (.hash 13 64),
  Call.close .sha512 .sha512 14,

  Call.init .shavite512 .shavite512,
  Call.update .shavite512 .shavite512 (.hash 14 64),
  Call.close .shavite512 .shavite512 15,

  Call.init .simd512 .simd512,
  Call.update .simd512 .simd512 (.hash 15 64),
  Call.close .simd512 .simd512 16,

  Call.init .blake512 .blake512,
  Call.update .blake512 .blake512 (.hash 16 64),
  Call.close .blake512 .blake512 17,

  Call.init .ripemd160 .ripemd160,
  Call.update .ripemd160 .ripemd160 (.hash 17 64),
  Call.close .ripemd160 .ripemd160 18,

  Call.init .haval256_5 .haval256_5,
  Call.update .haval256_5 .haval256_5 (.hash 18 64),
  Call.close .haval256_5 .haval256_5 19,

  Call.init .cubehash384 .cubehash384,
  Call.update .cubehash384 .cubehash384 (.hash 19 64),
  Call.close .cubehash384 .cubehash384 20,

  Call.init .whirlpool1 .whirlpool1,
  Call.update .whirlpool1 .whirlpool1 (.hash 20 64),
  Call.close .whirlpool1 .whirlpool1 21,

  Call.init .tiger2 .tiger2,
  Call.update .tiger2 .tiger2 (.hash 21 64),
  Call.close .tiger2 .tiger2 22,

  Call.init .whirlpool .whirlpool,
  Call.update .whirlpool .whirlpool (.hash 22 64),
  Call.close .whirlpool .whirlpool 23]

/-- The twenty-four-step `Hash9(pbegin, pend)`. -/
def hash9 {σ : Type} (lib : Library σ) (fr : Frame σ) (msg : List Byte) :
    Mathlib.Vector Byte 32 :=
  trim256 ((runCalls lib msg calls fr).hash 23)

theorem calls_eq : calls = chainCalls prims := rfl

end TwentyFourStep

/-- **Each `Hash9` computes its chain**: for every library of primitives, every initial state
    of the locals and every message, the digest is `trim256` of the chain of its primitives
    over the message. -/
theorem hash9_eq_chain {σ : Type} (lib : Library σ) (fr : Frame σ) (msg : List Byte) :
    FiveStep.hash9 lib fr msg = trim256 (chain lib fr.hash FiveStep.prims msg) ∧
    TwentyFourStep.hash9 lib fr msg = trim256 (chain lib fr.hash TwentyFourStep.prims msg) :=
  ⟨congrArg trim256 (FiveStep.calls_eq ▸ chainCalls_run lib msg FiveStep.prims fr),
   congrArg trim256 (TwentyFourStep.calls_eq ▸ chainCalls_run lib msg TwentyFourStep.prims fr)⟩

/-- A library whose every primitive keeps the bytes it absorbs and closes on the first 64 of
    them: its digests fit in a `uint512`, so `Library` has values. -/
def keepLibrary : Library (List Byte) where
  init _ := []
  update _ c d := c ++ d
  close _ c := ([], c.take 64)
  digest_le _ c := List.length_take_le 64 c

theorem hash9_eq_chain_keepLibrary :
    FiveStep.hash9 keepLibrary ⟨fun _ => [], fun _ => Mathlib.Vector.replicate 64 0⟩ [1, 2, 3]
        = trim256 (chain keepLibrary (fun _ => Mathlib.Vector.replicate 64 0) FiveStep.prims
          [1, 2, 3]) ∧
      TwentyFourStep.hash9 keepLibrary ⟨fun _ => [], fun _ => Mathlib.Vector.replicate 64 0⟩
          [1, 2, 3]
        = trim256 (chain keepLibrary (fun _ => Mathlib.Vector.replicate 64 0) TwentyFourStep.prims
          [1, 2, 3]) :=
  hash9_eq_chain keepLibrary ⟨fun _ => [], fun _ => Mathlib.Vector.replicate 64 0⟩ [1, 2, 3]

end Haval
