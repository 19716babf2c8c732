import HyperliquidSdk.Foundation.Bytes
import Mathlib.Algebra.Group.Nat.Defs

/-!
# The hash

`sha3.c`: the permutation of 25 words and the context that takes a message in pieces.
-/

set_option autoImplicit false

namespace HyperliquidSdk.Signing.Sha3

open Foundation

/-- `uint64_t s[25]`. -/
abbrev Words := Vector (BitVec 64) 25

/-- `SHA3_ROTL64`. -/
def rotl64 (x : BitVec 64) (y : Nat) : BitVec 64 := (x <<< y) ||| (x >>> (64 - y))

def keccakfRndc : List (BitVec 64) := [
  0x0000000000000001, 0x0000000000008082, 0x800000000000808a, 0x8000000080008000,
  0x000000000000808b, 0x0000000080000001, 0x8000000080008081, 0x8000000000008009,
  0x000000000000008a, 0x0000000000000088, 0x0000000080008009, 0x000000008000000a,
  0x000000008000808b, 0x800000000000008b, 0x8000000000008089, 0x8000000000008003,
  0x8000000000008002, 0x8000000000000080, 0x000000000000800a, 0x800000008000000a,
  0x8000000080008081, 0x8000000000008080, 0x0000000080000001, 0x8000000080008008]

def keccakfRotc : List Nat :=
  [1, 3, 6, 10, 15, 21, 28, 36, 45, 55, 2, 14, 27, 41, 56, 8, 25, 43, 62, 18, 39, 61, 20, 44]

def keccakfPiln : List (Fin 25) :=
  [10, 7, 11, 17, 18, 3, 5, 16, 8, 21, 24, 4, 15, 23, 19, 13, 12, 2, 20, 14, 22, 9, 6, 1]

def theta (s : Words) : Words :=
  let bc := Vector.ofFn fun i : Fin 5 =>
    s[i.val] ^^^ s[i.val + 5] ^^^ s[i.val + 10] ^^^ s[i.val + 15] ^^^ s[i.val + 20]
  Vector.ofFn fun k : Fin 25 =>
    s[k.val] ^^^ (bc[(k.val % 5 + 4) % 5] ^^^ rotl64 bc[(k.val % 5 + 1) % 5] 1)

/-- One word is carried along the cycle: `t`, with the words as they are overwritten. -/
def rhoPi (s : Words) : Words :=
  ((keccakfPiln.zip keccakfRotc).foldl (fun (t, s) (j, distance) =>
    (s[j.val], s.set j.val (rotl64 t distance))) (s[1], s)).2

def chi (s : Words) : Words :=
  Vector.ofFn fun k : Fin 25 =>
    s[k.val] ^^^ (~~~ s[5 * (k.val / 5) + (k.val % 5 + 1) % 5] &&&
      s[5 * (k.val / 5) + (k.val % 5 + 2) % 5])

def iota (constant : BitVec 64) (s : Words) : Words := s.set 0 (s[0] ^^^ constant)

def keccakf (s : Words) : Words :=
  keccakfRndc.foldl (fun s constant => iota constant (chi (rhoPi (theta s)))) s

structure Context where
  saved : BitVec 64
  s : Words
  byteIndex : Nat
  wordIndex : Nat
  capacityWords : BitVec 32

/-- `SHA3_USE_KECCAK_FLAG`. -/
def useKeccakFlag : BitVec 32 := 0x80000000

/-- `SHA3_KECCAK_SPONGE_WORDS - SHA3_CW(ctx->capacityWords)`. -/
def Context.rateWords (ctx : Context) : Nat := 25 - (ctx.capacityWords &&& ~~~ useKeccakFlag).toNat

/-- Any size but three is `SHA3_RETURN_BAD_PARAMS`. -/
def sha3Init (bitSize : Nat) : Option Context :=
  if bitSize ≠ 256 ∧ bitSize ≠ 384 ∧ bitSize ≠ 512 then none
  else some {
    saved := 0
    s := Vector.replicate 25 0
    byteIndex := 0
    wordIndex := 0
    capacityWords := .ofNat 32 (2 * bitSize / 64) }

/-- The flags as they are understood, with the context. -/
def sha3SetFlags (ctx : Context) (flags : UInt32) : UInt32 × Context :=
  let flags := flags &&& 1
  (flags, { ctx with
    capacityWords := ctx.capacityWords ||| (if flags = 1 then useKeccakFlag else 0) })

/-- `s[index] ^= word`. -/
def xorWord (index : Nat) (word : BitVec 64) (s : Words) : Words :=
  Vector.ofFn fun k : Fin 25 => if k.val = index then s[k.val] ^^^ word else s[k.val]

/-- `saved |= (uint64_t) byte << (byteIndex++ * 8)`. -/
def saveByte (ctx : Context) (byte : UInt8) : Context :=
  { ctx with
    saved := ctx.saved ||| byte.toBitVec.setWidth 64 <<< (8 * ctx.byteIndex)
    byteIndex := ctx.byteIndex + 1 }

def addWord (word : BitVec 64) (ctx : Context) : Context :=
  let s := xorWord ctx.wordIndex word ctx.s
  if ctx.wordIndex + 1 = ctx.rateWords then { ctx with s := keccakf s, wordIndex := 0 }
  else { ctx with s := s, wordIndex := ctx.wordIndex + 1 }

def addSaved (ctx : Context) : Context :=
  addWord ctx.saved { ctx with saved := 0, byteIndex := 0 }

/-- Full words directly from the input; what is left of a word is saved. -/
def addWords (ctx : Context) : Bytes → Context
  | b0 :: b1 :: b2 :: b3 :: b4 :: b5 :: b6 :: b7 :: buf =>
      let t := b0.toBitVec.setWidth 64 ||| b1.toBitVec.setWidth 64 <<< (8 * 1) |||
        b2.toBitVec.setWidth 64 <<< (8 * 2) ||| b3.toBitVec.setWidth 64 <<< (8 * 3) |||
        b4.toBitVec.setWidth 64 <<< (8 * 4) ||| b5.toBitVec.setWidth 64 <<< (8 * 5) |||
        b6.toBitVec.setWidth 64 <<< (8 * 6) ||| b7.toBitVec.setWidth 64 <<< (8 * 7)
      addWords (addWord t ctx) buf
  | tail => tail.foldl saveByte ctx

def sha3Update (ctx : Context) (buf : Bytes) : Context :=
  let oldTail := (8 - ctx.byteIndex) % 8
  if buf.length < oldTail then buf.foldl saveByte ctx
  else if oldTail ≠ 0 then
    addWords (addSaved ((buf.take oldTail).foldl saveByte ctx)) (buf.drop oldTail)
  else addWords ctx buf

def wordBytes (word : BitVec 64) : Bytes :=
  let t1 : BitVec 32 := word.setWidth 32
  let t2 : BitVec 32 := ((word >>> 16) >>> 16).setWidth 32
  ([t1, t1 >>> 8, t1 >>> 16, t1 >>> 24, t2, t2 >>> 8, t2 >>> 16, t2 >>> 24] : List (BitVec 32)).map
    fun part => .ofBitVec (part.setWidth 8)

/-- All the bytes of the state. -/
def sha3Finalize (ctx : Context) : Bytes :=
  let suffix : BitVec 64 :=
    if ctx.capacityWords &&& useKeccakFlag ≠ 0 then 1 else 0x02 ||| 1 <<< 2
  let s := xorWord ctx.wordIndex (ctx.saved ^^^ suffix <<< (8 * ctx.byteIndex)) ctx.s
  let s := keccakf (xorWord (ctx.rateWords - 1) 0x8000000000000000 s)
  s.toList.flatMap wordBytes

/-- `none` is `SHA3_RETURN_BAD_PARAMS`. -/
def sha3HashBuffer (bitSize : Nat) (flags : UInt32) (input : Bytes) (outBytes : Nat) :
    Option Bytes := do
  let c ← sha3Init bitSize
  let (understood, c) := sha3SetFlags c flags
  if understood ≠ flags then none
  else some ((sha3Finalize (sha3Update c input)).take (min outBytes (bitSize / 8)))

end HyperliquidSdk.Signing.Sha3
