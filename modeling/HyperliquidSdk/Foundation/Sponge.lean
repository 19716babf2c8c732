import HyperliquidSdk.Foundation.Bytes
import Mathlib.Algebra.Group.Nat.Defs

/-!
# Sponges

Hashing by absorbing a padded message, block by block, into a state. A machine that takes
the bytes one at a time ends in the same state, however its input is cut into pieces.
-/

set_option autoImplicit false

namespace Foundation

universe u

/-- A state whose first `rate` bytes can be changed one by one, with its permutation. -/
structure Sponge (State : Type u) where
  rate : Nat
  permute : State → State
  xorByte : State → Nat → UInt8 → State
  rate_pos : 0 < rate
  xorByte_zero : ∀ state position, xorByte state position 0 = state
  xorByte_xorByte : ∀ state position first second,
    xorByte (xorByte state position first) position second =
      xorByte state position (first ^^^ second)

namespace Sponge

variable {State : Type u} (sponge : Sponge State)

/-- Bytes that follow each other, the first of them at the position. -/
def xorBytes (state : State) (position : Nat) : Bytes → State
  | [] => state
  | byte :: rest => xorBytes (sponge.xorByte state position byte) (position + 1) rest

def absorbBlock (state : State) (block : Bytes) : State :=
  sponge.permute (sponge.xorBytes state 0 block)

/-- Block number `index` of a text. -/
def block (text : Bytes) (index : Nat) : Bytes :=
  (text.drop (index * sponge.rate)).take sponge.rate

def absorb (state : State) (text : Bytes) : State :=
  (List.range (text.length / sponge.rate)).foldl
    (fun state index => sponge.absorbBlock state (sponge.block text index)) state

/-- From one byte to a whole block: the suffix begins the padding and the topmost bit ends it. -/
def padding (suffix : UInt8) (length : Nat) : Bytes :=
  match sponge.rate - length % sponge.rate - 1 with
  | 0 => [suffix ^^^ 0x80]
  | zeros + 1 => suffix :: (List.replicate zeros 0 ++ [0x80])

def pad (suffix : UInt8) (message : Bytes) : Bytes :=
  message ++ sponge.padding suffix message.length

/-- The state that a message is hashed to. -/
def hash (suffix : UInt8) (initial : State) (message : Bytes) : State :=
  sponge.absorb initial (sponge.pad suffix message)

/-! ## One byte at a time -/

/-- The state with the position of the next byte. -/
def absorbByte (current : State × Nat) (byte : UInt8) : State × Nat :=
  let state := sponge.xorByte current.1 current.2 byte
  if current.2 + 1 = sponge.rate then (sponge.permute state, 0) else (state, current.2 + 1)

def absorbBytes (current : State × Nat) (bytes : Bytes) : State × Nat :=
  bytes.foldl sponge.absorbByte current

def finalize (suffix : UInt8) (current : State × Nat) : State :=
  sponge.permute
    (sponge.xorByte (sponge.xorByte current.1 current.2 suffix) (sponge.rate - 1) 0x80)

@[simp] theorem absorbBytes_nil (current : State × Nat) :
    sponge.absorbBytes current [] = current :=
  rfl

theorem absorbBytes_cons (current : State × Nat) (byte : UInt8) (rest : Bytes) :
    sponge.absorbBytes current (byte :: rest) =
      sponge.absorbBytes (sponge.absorbByte current byte) rest := rfl

theorem absorbBytes_append (current : State × Nat) (first second : Bytes) :
    sponge.absorbBytes current (first ++ second) =
      sponge.absorbBytes (sponge.absorbBytes current first) second := List.foldl_append

theorem absorbByte_position_lt {current : State × Nat} (below : current.2 < sponge.rate)
    (byte : UInt8) : (sponge.absorbByte current byte).2 < sponge.rate := by
  simp only [absorbByte]
  split
  · exact sponge.rate_pos
  · next inside => exact Nat.lt_of_le_of_ne below inside

theorem absorbBytes_position (bytes : Bytes) {current : State × Nat}
    (below : current.2 < sponge.rate) :
    (sponge.absorbBytes current bytes).2 = (current.2 + bytes.length) % sponge.rate := by
  induction bytes generalizing current with
  | nil => exact (Nat.mod_eq_of_lt below).symm
  | cons byte rest ih =>
      rw [absorbBytes_cons, ih (sponge.absorbByte_position_lt below byte)]
      simp only [absorbByte, List.length_cons]
      split
      · next full => rw [Nat.zero_add, ← Nat.add_assoc, Nat.add_right_comm, full,
          Nat.add_mod_left]
      · rw [Nat.add_right_comm, Nat.add_assoc]

/-- Bytes that fill the block are absorbed with it. -/
theorem absorbBytes_fill (bytes : Bytes) (state : State) {position : Nat} (some : bytes ≠ [])
    (fills : position + bytes.length = sponge.rate) :
    sponge.absorbBytes (state, position) bytes =
      (sponge.permute (sponge.xorBytes state position bytes), 0) := by
  induction bytes generalizing state position with
  | nil => exact absurd rfl some
  | cons byte rest ih =>
      rw [absorbBytes_cons]
      simp only [List.length_cons] at fills
      cases rest with
      | nil =>
          simp only [absorbByte]
          rw [if_pos (by simpa using fills), absorbBytes_nil]
          rfl
      | cons following others =>
          simp only [absorbByte]
          rw [if_neg (by simp only [List.length_cons] at fills; omega),
            ih _ (List.cons_ne_nil _ _) (by omega)]
          rfl

/-- Blocks are absorbed as they are by the sponge. -/
theorem absorbBytes_blocks (count : Nat) (state : State) {text : Bytes}
    (whole : text.length = count * sponge.rate) :
    sponge.absorbBytes (state, 0) text = (sponge.absorb state text, 0) := by
  have blocks : text.length / sponge.rate = count := by
    rw [whole, Nat.mul_div_cancel _ sponge.rate_pos]
  rw [absorb, blocks]
  clear blocks
  induction count generalizing text with
  | zero =>
      have empty : text = [] := List.eq_nil_of_length_eq_zero (by simpa using whole)
      rw [empty]
      rfl
  | succ count ih =>
      rw [Nat.succ_mul] at whole
      have split : text.take (count * sponge.rate) ++ text.drop (count * sponge.rate) = text :=
        List.take_append_drop _ _
      have lastLength : (text.drop (count * sponge.rate)).length = sponge.rate := by
        rw [List.length_drop, whole, Nat.add_sub_cancel_left]
      have before (index : Nat) (earlier : index ∈ List.range count) :
          sponge.block (text.take (count * sponge.rate)) index = sponge.block text index := by
        have inside : index + 1 ≤ count := List.mem_range.mp earlier
        have fits := Nat.mul_le_mul_right sponge.rate inside
        rw [Nat.succ_mul] at fits
        rw [block, block, List.drop_take, List.take_take, Nat.min_eq_left (by omega)]
      conv_lhs => rw [← split]
      rw [absorbBytes_append, ih (List.length_take_of_le (by omega)), List.range_succ,
        List.foldl_append, List.foldl_cons, List.foldl_nil,
        sponge.absorbBytes_fill _ _ (List.ne_nil_of_length_pos (by
          rw [lastLength]; exact sponge.rate_pos)) (by rw [Nat.zero_add, lastLength])]
      rw [List.foldl_ext _ _ _ fun state index earlier => by rw [before index earlier],
        absorbBlock, block, List.take_of_length_le (Nat.le_of_eq lastLength)]

theorem xorBytes_zeros (zeros : Nat) (state : State) (position : Nat) (last : UInt8) :
    sponge.xorBytes state position (List.replicate zeros 0 ++ [last]) =
      sponge.xorByte state (position + zeros) last := by
  induction zeros generalizing position with
  | zero => rfl
  | succ zeros ih =>
      rw [List.replicate_succ, List.cons_append, xorBytes, sponge.xorByte_zero, ih]
      congr 1
      omega

/-- The padding has the effect of changing two bytes, or the same one twice. -/
theorem absorbBytes_padding (suffix : UInt8) (state : State) {position length : Nat}
    (reached : position = length % sponge.rate) :
    sponge.absorbBytes (state, position) (sponge.padding suffix length) =
      (sponge.finalize suffix (state, position), 0) := by
  have below : position < sponge.rate := reached ▸ Nat.mod_lt _ sponge.rate_pos
  simp only [padding, finalize]
  rw [← reached]
  split
  · next alone =>
      rw [sponge.absorbBytes_fill _ _ (List.cons_ne_nil _ _) (by simp; omega)]
      have last : sponge.rate - 1 = position := by omega
      rw [last, sponge.xorByte_xorByte]
      rfl
  · next zeros apart =>
      rw [sponge.absorbBytes_fill _ _ (List.cons_ne_nil _ _) (by simp; omega), xorBytes,
        sponge.xorBytes_zeros]
      have last : position + 1 + zeros = sponge.rate - 1 := by omega
      rw [last]

theorem length_pad (suffix : UInt8) (message : Bytes) :
    (sponge.pad suffix message).length =
      (message.length / sponge.rate + 1) * sponge.rate := by
  have parts := Nat.div_add_mod message.length sponge.rate
  have below := Nat.mod_lt message.length sponge.rate_pos
  have padded : (sponge.padding suffix message.length).length =
      sponge.rate - message.length % sponge.rate := by
    simp only [padding]
    split
    · simp only [List.length_singleton]
      omega
    · simp only [List.length_append, List.length_cons, List.length_replicate, List.length_nil]
      omega
  rw [pad, List.length_append, padded, Nat.succ_mul, Nat.mul_comm]
  omega

/-- Taking the message byte by byte and then the padding is hashing it. -/
theorem finalize_absorbBytes (suffix : UInt8) (initial : State) (message : Bytes) :
    sponge.finalize suffix (sponge.absorbBytes (initial, 0) message) =
      sponge.hash suffix initial message := by
  have position := @absorbBytes_position _ sponge message (initial, 0) sponge.rate_pos
  have whole := sponge.absorbBytes_blocks _ initial (sponge.length_pad suffix message)
  rw [pad, absorbBytes_append] at whole
  simp only [Nat.zero_add] at position
  have padded := sponge.absorbBytes_padding suffix
    (sponge.absorbBytes (initial, 0) message).1 position
  rw [padded] at whole
  exact congrArg Prod.fst whole

end Sponge

end Foundation
