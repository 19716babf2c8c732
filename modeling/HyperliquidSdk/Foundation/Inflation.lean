import HyperliquidSdk.Foundation.Bytes
import Mathlib.Algebra.Group.Nat.Defs

/-!
# Inflation

What compressed data decompresses to, and how it ends. Blocks that are stored and not
compressed are an example of a format.
-/

set_option autoImplicit false

namespace Foundation

/-- The data has its end, it stops before, or what comes next cannot be decompressed. -/
inductive StreamEnding where
  | complete
  | truncated
  | corrupt
  deriving DecidableEq, Repr

structure Inflation where
  output : Bytes
  ending : StreamEnding
  deriving DecidableEq, Repr

namespace Inflation

/-- The inflation with this in front of its output. -/
def after (written : Bytes) (inflation : Inflation) : Inflation :=
  { inflation with output := written ++ inflation.output }

@[simp] theorem after_output (written : Bytes) (inflation : Inflation) :
    (inflation.after written).output = written ++ inflation.output := rfl

@[simp] theorem after_ending (written : Bytes) (inflation : Inflation) :
    (inflation.after written).ending = inflation.ending := rfl

end Inflation

/-- A format whose data says itself where it ends. -/
structure Decompressor where
  decompress : Bytes → Inflation
  endsItself : ∀ {compressed : Bytes} (more : Bytes), (decompress compressed).ending = .complete →
    decompress (compressed ++ more) = decompress compressed

/-! ## Stored blocks -/

/-- The header of a block and its length, which comes twice. -/
def storedBlock (final : Bool) (payload : Bytes) : Bytes :=
  let low := UInt8.ofNat payload.length
  let high := UInt8.ofNat (payload.length / 256)
  (if final then 1 else 0) :: low :: high :: ~~~low :: ~~~high :: payload

/-- Blocks of any other kind are not read. -/
def inflateStored : Bytes → Inflation
  | header :: low :: high :: lowAgain :: highAgain :: rest =>
      let length := low.toNat + 256 * high.toNat
      if header.toNat % 8 ≥ 2 ∨ lowAgain ≠ ~~~low ∨ highAgain ≠ ~~~high then ⟨[], .corrupt⟩
      else if rest.length < length then ⟨rest, .truncated⟩
      else if header.toNat % 2 = 1 then ⟨rest.take length, .complete⟩
      else (inflateStored (rest.drop length)).after (rest.take length)
  | _ => ⟨[], .truncated⟩
termination_by compressed => compressed.length
decreasing_by
  simp only [List.length_drop, List.length_cons]
  omega

theorem inflateStored_endsItself {compressed : Bytes} (more : Bytes)
    (ends : (inflateStored compressed).ending = .complete) :
    inflateStored (compressed ++ more) = inflateStored compressed := by
  fun_induction inflateStored compressed with
  | case1 header low high lowAgain highAgain rest malformed => cases ends
  | case2 header low high lowAgain highAgain rest length wellFormed short => cases ends
  | case3 header low high lowAgain highAgain rest length wellFormed enough final =>
      simp only [List.cons_append]
      have longer : ¬ (rest ++ more).length < length := by
        rw [List.length_append]
        omega
      rw [inflateStored, if_neg wellFormed, if_neg longer, if_pos final]
      rw [List.take_append_of_le_length (Nat.le_of_not_lt enough)]
  | case4 header low high lowAgain highAgain rest length wellFormed enough further ih =>
      simp only [List.cons_append]
      have longer : ¬ (rest ++ more).length < length := by
        rw [List.length_append]
        omega
      rw [inflateStored, if_neg wellFormed, if_neg longer, if_neg further]
      rw [List.take_append_of_le_length (Nat.le_of_not_lt enough),
        List.drop_append_of_le_length (Nat.le_of_not_lt enough), ih ends]
  | case5 compressed short => cases ends

/-- The format of stored blocks. -/
def storedBlocks : Decompressor where
  decompress := inflateStored
  endsItself := inflateStored_endsItself

theorem storedLength {payload : Bytes} (short : payload.length < 2 ^ 16) :
    (UInt8.ofNat payload.length).toNat + 256 * (UInt8.ofNat (payload.length / 256)).toNat =
      payload.length := by
  rw [UInt8.toNat_ofNat', UInt8.toNat_ofNat']
  omega

theorem inflateStored_block (final : Bool) {payload : Bytes} (short : payload.length < 2 ^ 16)
    (rest : Bytes) :
    inflateStored (storedBlock final payload ++ rest) =
      if final then ⟨payload, .complete⟩ else (inflateStored rest).after payload := by
  unfold storedBlock
  simp only [List.cons_append]
  have enough : ¬ (payload ++ rest).length < payload.length := by
    rw [List.length_append]
    omega
  rw [inflateStored, storedLength short, if_neg (by cases final <;> simp), if_neg enough,
    List.take_left, List.drop_left]
  cases final with
  | false => rfl
  | true => rfl

/-- Blocks one after another decompress to what is stored in them. -/
theorem inflateStored_blocks (payloads : List Bytes)
    (short : ∀ payload ∈ payloads, payload.length < 2 ^ 16) (rest : Bytes) :
    inflateStored ((payloads.map (storedBlock false)).flatten ++ rest) =
      (inflateStored rest).after payloads.flatten := by
  induction payloads with
  | nil => rfl
  | cons payload payloads ih =>
      obtain ⟨first, others⟩ := List.forall_mem_cons.mp short
      rw [List.map_cons, List.flatten_cons, List.append_assoc, inflateStored_block false first,
        ih others]
      simp only [Bool.false_eq_true, if_false, Inflation.after, List.flatten_cons,
        List.append_assoc]

theorem storedBlock_length (final : Bool) (payload : Bytes) :
    (storedBlock final payload).length = payload.length + 5 := rfl

end Foundation
