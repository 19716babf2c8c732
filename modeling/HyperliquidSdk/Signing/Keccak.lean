import HyperliquidSdk.Foundation.KeccakP
import HyperliquidSdk.Foundation.Relocation
import HyperliquidSdk.Signing.Sha3
import HyperliquidSdk.Signing.SigningHelpers

/-!
# What the hash computes

The words of `sha3.c` are the lanes of the Keccak permutation, row by row, and a context that
takes a message in pieces is a sponge that takes it byte by byte.
-/

set_option autoImplicit false

namespace HyperliquidSdk.Signing.Sha3

open Foundation

def place (x y : Fin 5) : Fin 25 := ⟨x.val + 5 * y.val, by omega⟩

def lanesOf (s : Words) : KeccakP.Lanes := fun x y => s[(place x y).val]

/-! ## The permutation -/

theorem rotl64_eq_rotateLeft (x : BitVec 64) {y : Nat} (turns : 0 < y) (below : y < 64) :
    rotl64 x y = x.rotateLeft y := by
  apply BitVec.eq_of_getLsbD_eq
  intro bit inside
  rw [KeccakP.getLsbD_rotateLeft _ _ inside, rotl64, BitVec.getLsbD_or, BitVec.getLsbD_shiftLeft,
    BitVec.getLsbD_ushiftRight, Nat.mod_eq_of_lt below]
  by_cases carried : bit < y
  · simp only [inside, carried, decide_true, Bool.not_true, Bool.and_false, Bool.false_and,
      Bool.false_or]
    congr 1
    omega
  · rw [BitVec.getLsbD_of_ge x (64 - y + bit) (by omega), Bool.or_false]
    simp only [inside, carried, decide_true, decide_false, Bool.not_false, Bool.and_true,
      Bool.true_and]
    congr 1
    omega

@[simp] theorem place_val (x y : Fin 5) : (place x y).val = x.val + 5 * y.val := rfl

@[simp] theorem place_mod (x y : Fin 5) : (x.val + 5 * y.val) % 5 = x.val := by omega

@[simp] theorem place_div (x y : Fin 5) : (x.val + 5 * y.val) / 5 = y.val := by omega

theorem val_sub_one : ∀ x : Fin 5, (x.val + 4) % 5 = (x - 1).val := by decide

theorem val_add_one : ∀ x : Fin 5, (x.val + 1) % 5 = (x + 1).val := by decide

theorem val_add_two : ∀ x : Fin 5, (x.val + 2) % 5 = (x + 2).val := by decide

theorem lanesOf_theta (s : Words) : lanesOf (theta s) = KeccakP.theta (lanesOf s) := by
  funext x y
  have column (index : Fin 5) :
      s[index.val] ^^^ s[index.val + 5] ^^^ s[index.val + 10] ^^^ s[index.val + 15] ^^^
        s[index.val + 20] = KeccakP.column (lanesOf s) index := rfl
  simp only [lanesOf, theta, Vector.getElem_ofFn, place_val, place_mod, column, KeccakP.theta,
    rotl64_eq_rotateLeft _ Nat.one_pos (by decide : 1 < 64), val_sub_one, val_add_one]

/-- Where the cells of the cycle are filled from, and the distances. -/
theorem origin_piln : ∀ x y : Fin 5, origin (keccakfPiln.zip keccakfRotc) 1 (place x y) =
    if x = 0 ∧ y = 0 then none
    else some (place (x + 3 * y) x, KeccakP.offset (x + 3 * y) x % 64) := by decide

theorem offset_pos : ∀ x y : Fin 5, ¬ (x = 0 ∧ y = 0) →
    0 < KeccakP.offset (x + 3 * y) x % 64 := by decide

theorem lanesOf_rhoPi (s : Words) :
    lanesOf (rhoPi s) = KeccakP.pi (KeccakP.rho (lanesOf s)) := by
  funext x y
  have distinct : ((keccakfPiln.zip keccakfRotc).map Prod.fst).Nodup := by decide
  have filled := getElem_relocate (fun distance word => rotl64 word distance) distinct s 1
    (place x y)
  change (rhoPi s)[(place x y).val] = _ at filled
  rw [lanesOf, filled, origin_piln]
  by_cases first : x = 0 ∧ y = 0
  · rw [if_pos first]
    obtain ⟨rfl, rfl⟩ := first
    have unturned : (lanesOf s 0 0).rotateLeft (KeccakP.offset 0 0) = lanesOf s 0 0 := by
      rw [← BitVec.rotateLeft_mod_eq_rotateLeft, show KeccakP.offset 0 0 % 64 = 64 % 64 by
        decide, BitVec.rotateLeft_mod_eq_rotateLeft, KeccakP.rotateLeft_whole]
    exact unturned.symm
  · rw [if_neg first]
    simp only [KeccakP.pi, KeccakP.rho]
    rw [rotl64_eq_rotateLeft _ (offset_pos x y first) (Nat.mod_lt _ (by decide)),
      BitVec.rotateLeft_mod_eq_rotateLeft]
    rfl

theorem lanesOf_chi (s : Words) : lanesOf (chi s) = KeccakP.chi (lanesOf s) := by
  funext x y
  simp only [lanesOf, chi, Vector.getElem_ofFn, place_val, place_mod, place_div, KeccakP.chi,
    val_add_one, val_add_two, Nat.add_comm (5 * y.val)]

theorem lanesOf_iota (constant : BitVec 64) (s : Words) :
    lanesOf (iota constant s) = KeccakP.iota constant (lanesOf s) := by
  funext x y
  simp only [lanesOf, iota, KeccakP.iota]
  split
  · next first =>
      obtain ⟨rfl, rfl⟩ := first
      exact Vector.getElem_set_self _
  · next other =>
      exact Vector.getElem_set_ne _ _ (by simp only [place_val]; omega)

theorem keccakfRndc_eq : keccakfRndc = (List.range 24).map KeccakP.roundConstant := by
  decide

/-- The tables and the loops in place compute the permutation. -/
theorem lanesOf_keccakf (s : Words) :
    lanesOf (keccakf s) = KeccakP.permutation (lanesOf s) := by
  rw [keccakf, keccakfRndc_eq, KeccakP.permutation, List.foldl_map]
  induction List.range 24 generalizing s with
  | nil => rfl
  | cons index rest ih =>
      rw [List.foldl_cons, List.foldl_cons, ih, lanesOf_iota, lanesOf_chi, lanesOf_rhoPi,
        lanesOf_theta]
      rfl

/-- The words with which a state is the given one. -/
def wordsOf (lanes : KeccakP.Lanes) : Words :=
  Vector.ofFn fun k : Fin 25 => lanes ⟨k.val % 5, by omega⟩ ⟨k.val / 5, by omega⟩

theorem lanesOf_wordsOf (lanes : KeccakP.Lanes) : lanesOf (wordsOf lanes) = lanes := by
  funext x y
  simp only [lanesOf, wordsOf, Vector.getElem_ofFn, place_val, place_mod, place_div]

theorem wordsOf_lanesOf (s : Words) : wordsOf (lanesOf s) = s := by
  apply Vector.ext
  intro k below
  simp only [wordsOf, lanesOf, Vector.getElem_ofFn, place_val, Nat.mod_add_div]

/-- Each state of the words is the image of exactly one. -/
theorem bijective_keccakf : Function.Bijective keccakf := by
  have same : keccakf = wordsOf ∘ KeccakP.permutation ∘ lanesOf := by
    funext s
    rw [Function.comp_apply, Function.comp_apply, ← lanesOf_keccakf, wordsOf_lanesOf]
  have lanes : Function.Bijective lanesOf :=
    ⟨Function.LeftInverse.injective wordsOf_lanesOf,
      Function.RightInverse.surjective lanesOf_wordsOf⟩
  have words : Function.Bijective wordsOf :=
    ⟨Function.LeftInverse.injective lanesOf_wordsOf,
      Function.RightInverse.surjective wordsOf_lanesOf⟩
  rw [same]
  exact words.comp (KeccakP.permutation_bijective.comp lanes)

/-! ## The context -/

/-- The bits from the place on are zero. -/
def ClearFrom (word : BitVec 64) (start : Nat) : Prop :=
  ∀ bit, start ≤ bit → word.getLsbD bit = false

/-- What the assertions of the source say, and that the saved bytes are all there is. -/
structure Buffered (ctx : Context) : Prop where
  byteIndex : ctx.byteIndex < 8
  wordIndex : ctx.wordIndex < ctx.rateWords
  saved : ClearFrom ctx.saved (8 * ctx.byteIndex)

/-- The state with the saved bytes in it, and where the next byte goes. -/
def absorbed (ctx : Context) : KeccakP.Lanes × Nat :=
  (lanesOf (xorWord ctx.wordIndex ctx.saved ctx.s), 8 * ctx.wordIndex + ctx.byteIndex)

/-- One byte more: it is saved, and the word added when it is full. -/
def takeByte (ctx : Context) (byte : UInt8) : Context :=
  let ctx := saveByte ctx byte
  if ctx.byteIndex = 8 then addSaved ctx else ctx

theorem lanesOf_xorWord (index : Nat) (word : BitVec 64) (s : Words) (x y : Fin 5) :
    lanesOf (xorWord index word s) x y =
      if x.val + 5 * y.val = index then lanesOf s x y ^^^ word else lanesOf s x y := by
  simp only [lanesOf, xorWord, Vector.getElem_ofFn, place_val]

theorem ClearFrom.or_eq_xor {word byte : BitVec 64} {start : Nat} (clear : ClearFrom word start) :
    word ||| byte <<< start = word ^^^ byte <<< start := by
  apply BitVec.eq_of_getLsbD_eq
  intro bit inside
  rw [BitVec.getLsbD_or, BitVec.getLsbD_xor, BitVec.getLsbD_shiftLeft]
  by_cases later : start ≤ bit
  · rw [clear bit later, Bool.false_or, Bool.false_xor]
  · simp [Nat.lt_of_not_le later]

theorem ClearFrom.or {word : BitVec 64} {start : Nat} (clear : ClearFrom word start)
    (byte : UInt8) : ClearFrom (word ||| byte.toBitVec.setWidth 64 <<< start) (start + 8) := by
  intro bit later
  rw [BitVec.getLsbD_or, clear bit (by omega), BitVec.getLsbD_shiftLeft, BitVec.getLsbD_setWidth,
    BitVec.getLsbD_of_ge _ _ (by omega)]
  simp

theorem xorWord_zero (index : Nat) (s : Words) : xorWord index 0 s = s := by
  apply Vector.ext
  intro k below
  simp [xorWord]

/-- The sponge that the context is. -/
def spongeOf (ctx : Context) (rate_pos : 0 < ctx.rateWords) : Sponge KeccakP.Lanes :=
  KeccakP.sponge (8 * ctx.rateWords) (by omega)

/-- A shifted byte goes to its own place in the word. -/
theorem lanesOf_xorWord_byte (word : BitVec 64) (s : Words) (byte : UInt8) {index offset : Nat}
    (below : offset < 8) :
    lanesOf (xorWord index (word ^^^ byte.toBitVec.setWidth 64 <<< (8 * offset)) s) =
      KeccakP.xorByte (lanesOf (xorWord index word s)) (8 * index + offset) byte := by
  funext x y
  have inWord : (8 * index + offset) / 8 = index := by omega
  have inByte : (8 * index + offset) % 8 = offset := by omega
  simp only [lanesOf_xorWord, KeccakP.xorByte, inWord, inByte]
  split
  · rw [BitVec.xor_assoc]
  · rfl

theorem lanesOf_saveByte {ctx : Context} (buffered : Buffered ctx) (byte : UInt8) :
    lanesOf (xorWord ctx.wordIndex (saveByte ctx byte).saved ctx.s) =
      KeccakP.xorByte (absorbed ctx).1 (absorbed ctx).2 byte := by
  rw [saveByte, buffered.saved.or_eq_xor]
  exact lanesOf_xorWord_byte ctx.saved ctx.s byte buffered.byteIndex

theorem rateWords_congr {ctx next : Context} (same : next.capacityWords = ctx.capacityWords) :
    next.rateWords = ctx.rateWords := by
  rw [Context.rateWords, Context.rateWords, same]

@[simp] theorem wordIndex_saveByte (ctx : Context) (byte : UInt8) :
    (saveByte ctx byte).wordIndex = ctx.wordIndex := rfl

@[simp] theorem byteIndex_saveByte (ctx : Context) (byte : UInt8) :
    (saveByte ctx byte).byteIndex = ctx.byteIndex + 1 := rfl

@[simp] theorem s_saveByte (ctx : Context) (byte : UInt8) : (saveByte ctx byte).s = ctx.s := rfl

@[simp] theorem rateWords_saveByte (ctx : Context) (byte : UInt8) :
    (saveByte ctx byte).rateWords = ctx.rateWords := rateWords_congr rfl

theorem capacityWords_addWord (word : BitVec 64) (ctx : Context) :
    (addWord word ctx).capacityWords = ctx.capacityWords := by
  rw [addWord]
  split
  · rfl
  · rfl

theorem capacityWords_takeByte (ctx : Context) (byte : UInt8) :
    (takeByte ctx byte).capacityWords = ctx.capacityWords := by
  rw [takeByte]
  split
  · exact capacityWords_addWord _ _
  · rfl

theorem addSaved_eq (ctx : Context) :
    addSaved ctx =
      if ctx.wordIndex + 1 = ctx.rateWords then
        { ctx with
          saved := 0
          byteIndex := 0
          s := keccakf (xorWord ctx.wordIndex ctx.saved ctx.s)
          wordIndex := 0 }
      else
        { ctx with
          saved := 0
          byteIndex := 0
          s := xorWord ctx.wordIndex ctx.saved ctx.s
          wordIndex := ctx.wordIndex + 1 } := by
  rw [addSaved, addWord, @rateWords_congr ctx { ctx with saved := 0, byteIndex := 0 } rfl]

/-- A full word goes into the state, and a full block through the permutation. -/
theorem absorbed_addSaved (ctx : Context) :
    absorbed (addSaved ctx) =
      if ctx.wordIndex + 1 = ctx.rateWords then
        (KeccakP.permutation (lanesOf (xorWord ctx.wordIndex ctx.saved ctx.s)), 0)
      else (lanesOf (xorWord ctx.wordIndex ctx.saved ctx.s), 8 * (ctx.wordIndex + 1)) := by
  rw [addSaved_eq]
  by_cases full : ctx.wordIndex + 1 = ctx.rateWords
  · rw [if_pos full, if_pos full]
    simp only [absorbed, xorWord_zero, lanesOf_keccakf, Nat.mul_zero, Nat.add_zero]
  · rw [if_neg full, if_neg full]
    simp only [absorbed, xorWord_zero, Nat.add_zero]

theorem clearFrom_zero (start : Nat) : ClearFrom 0 start := fun _ _ => BitVec.getLsbD_zero

theorem buffered_addSaved {ctx : Context} (inside : ctx.wordIndex < ctx.rateWords) :
    Buffered (addSaved ctx) := by
  rw [addSaved_eq]
  by_cases full : ctx.wordIndex + 1 = ctx.rateWords
  · rw [if_pos full]
    exact ⟨Nat.zero_lt_succ 7, Nat.lt_of_le_of_lt (Nat.zero_le _) inside, clearFrom_zero _⟩
  · rw [if_neg full]
    exact ⟨Nat.zero_lt_succ 7, Nat.lt_of_le_of_ne inside full, clearFrom_zero _⟩

theorem buffered_takeByte {ctx : Context} (buffered : Buffered ctx) (byte : UInt8) :
    Buffered (takeByte ctx byte) := by
  simp only [takeByte]
  split
  · exact buffered_addSaved buffered.wordIndex
  · next partly =>
      exact ⟨Nat.lt_of_le_of_ne buffered.byteIndex partly, buffered.wordIndex,
        buffered.saved.or byte⟩

/-- A context takes a byte like its sponge. -/
theorem absorbed_takeByte {ctx : Context} (buffered : Buffered ctx)
    (rate_pos : 0 < ctx.rateWords) (byte : UInt8) :
    absorbed (takeByte ctx byte) = (spongeOf ctx rate_pos).absorbByte (absorbed ctx) byte := by
  have below := buffered.byteIndex
  have inside := buffered.wordIndex
  have changed := lanesOf_saveByte buffered byte
  simp only [takeByte]
  change _ = if (absorbed ctx).2 + 1 = 8 * ctx.rateWords then
      (KeccakP.permutation (KeccakP.xorByte (absorbed ctx).1 (absorbed ctx).2 byte), 0)
    else (KeccakP.xorByte (absorbed ctx).1 (absorbed ctx).2 byte, (absorbed ctx).2 + 1)
  rw [← changed]
  have position : (absorbed ctx).2 = 8 * ctx.wordIndex + ctx.byteIndex := rfl
  by_cases full : (saveByte ctx byte).byteIndex = 8
  · have last : ctx.byteIndex = 7 := Nat.succ_inj.mp full
    rw [if_pos full, absorbed_addSaved, position, last, wordIndex_saveByte, s_saveByte,
      rateWords_saveByte]
    by_cases block : ctx.wordIndex + 1 = ctx.rateWords
    · rw [if_pos block, if_pos (by omega)]
    · rw [if_neg block, if_neg (by omega)]
      rfl
  · have partly : ctx.byteIndex + 1 ≠ 8 := full
    rw [if_neg full, if_neg (by rw [position]; omega)]
    rfl

/-! ### One update is many bytes -/

theorem foldl_takeByte {ctx : Context} (buffered : Buffered ctx) (rate_pos : 0 < ctx.rateWords)
    (bytes : Bytes) :
    Buffered (bytes.foldl takeByte ctx) ∧
      (bytes.foldl takeByte ctx).capacityWords = ctx.capacityWords ∧
      absorbed (bytes.foldl takeByte ctx) =
        (spongeOf ctx rate_pos).absorbBytes (absorbed ctx) bytes := by
  induction bytes generalizing ctx with
  | nil => exact ⟨buffered, rfl, rfl⟩
  | cons byte rest ih =>
      have same := rateWords_congr (capacityWords_takeByte ctx byte)
      obtain ⟨valid, kept, steps⟩ := ih (buffered_takeByte buffered byte) (same ▸ rate_pos)
      refine ⟨valid, kept.trans (capacityWords_takeByte ctx byte), ?_⟩
      have sponge : spongeOf (takeByte ctx byte) (same ▸ rate_pos) = spongeOf ctx rate_pos := by
        simp only [spongeOf, same]
      rw [List.foldl_cons, steps, sponge, absorbed_takeByte buffered rate_pos,
        Sponge.absorbBytes_cons]

theorem byteIndex_foldl_saveByte (bytes : Bytes) (ctx : Context) :
    (bytes.foldl saveByte ctx).byteIndex = ctx.byteIndex + bytes.length := by
  induction bytes generalizing ctx with
  | nil => rfl
  | cons byte rest ih =>
      rw [List.foldl_cons, ih, List.length_cons, byteIndex_saveByte]
      omega

/-- Bytes that do not complete the word are saved. -/
theorem foldl_saveByte_partly (bytes : Bytes) {ctx : Context}
    (partly : ctx.byteIndex + bytes.length < 8) :
    bytes.foldl saveByte ctx = bytes.foldl takeByte ctx := by
  induction bytes generalizing ctx with
  | nil => rfl
  | cons byte rest ih =>
      rw [List.length_cons] at partly
      have more : (saveByte ctx byte).byteIndex ≠ 8 := by
        rw [byteIndex_saveByte]
        omega
      rw [List.foldl_cons, List.foldl_cons, takeByte, if_neg more]
      exact ih (by rw [byteIndex_saveByte]; omega)

/-- Bytes that complete the word are saved, and the word added. -/
theorem addSaved_foldl_saveByte (bytes : Bytes) {ctx : Context} (some : bytes ≠ [])
    (completes : ctx.byteIndex + bytes.length = 8) :
    addSaved (bytes.foldl saveByte ctx) = bytes.foldl takeByte ctx := by
  obtain ⟨earlier, last, rfl⟩ := List.eq_nil_or_concat bytes |>.resolve_left some
  rw [List.concat_eq_append] at completes ⊢
  rw [List.length_append, List.length_singleton] at completes
  have full : (saveByte (earlier.foldl saveByte ctx) last).byteIndex = 8 := by
    rw [byteIndex_saveByte, byteIndex_foldl_saveByte]
    omega
  rw [List.foldl_append, List.foldl_append, ← foldl_saveByte_partly earlier (by omega)]
  simp only [List.foldl_cons, List.foldl_nil]
  rw [takeByte, if_pos full]

/-- A word that is added is eight saved bytes. -/
theorem addWord_eq (b0 b1 b2 b3 b4 b5 b6 b7 : UInt8) {ctx : Context} (aligned : ctx.byteIndex = 0)
    (empty : ctx.saved = 0) :
    addWord (b0.toBitVec.setWidth 64 ||| b1.toBitVec.setWidth 64 <<< (8 * 1) |||
        b2.toBitVec.setWidth 64 <<< (8 * 2) ||| b3.toBitVec.setWidth 64 <<< (8 * 3) |||
        b4.toBitVec.setWidth 64 <<< (8 * 4) ||| b5.toBitVec.setWidth 64 <<< (8 * 5) |||
        b6.toBitVec.setWidth 64 <<< (8 * 6) ||| b7.toBitVec.setWidth 64 <<< (8 * 7)) ctx =
      [b0, b1, b2, b3, b4, b5, b6, b7].foldl takeByte ctx := by
  rw [← addSaved_foldl_saveByte _ (List.cons_ne_nil _ _) (by rw [aligned]; rfl)]
  obtain ⟨saved, s, byteIndex, wordIndex, capacityWords⟩ := ctx
  subst aligned empty
  simp only [List.foldl_cons, List.foldl_nil, saveByte, addSaved, BitVec.ofNat_eq_ofNat,
    BitVec.zero_or, Nat.mul_zero, BitVec.shiftLeft_zero, Nat.zero_add, Nat.reduceAdd]

theorem addWord_aligned (word : BitVec 64) {ctx : Context} (aligned : ctx.byteIndex = 0)
    (empty : ctx.saved = 0) :
    (addWord word ctx).byteIndex = 0 ∧ (addWord word ctx).saved = 0 := by
  rw [addWord]
  split
  · exact ⟨aligned, empty⟩
  · exact ⟨aligned, empty⟩

theorem addSaved_aligned (ctx : Context) :
    (addSaved ctx).byteIndex = 0 ∧ (addSaved ctx).saved = 0 := addWord_aligned _ rfl rfl

theorem length_lt_of_short {tail : Bytes}
    (short : ∀ b0 b1 b2 b3 b4 b5 b6 b7 buf,
      tail = b0 :: b1 :: b2 :: b3 :: b4 :: b5 :: b6 :: b7 :: buf → False) : tail.length < 8 := by
  match tail, short with
  | [], _ | [_], _ | [_, _], _ | [_, _, _], _ | [_, _, _, _], _ | [_, _, _, _, _], _
  | [_, _, _, _, _, _], _ | [_, _, _, _, _, _, _], _ => simp
  | b0 :: b1 :: b2 :: b3 :: b4 :: b5 :: b6 :: b7 :: buf, short =>
      exact (short b0 b1 b2 b3 b4 b5 b6 b7 buf rfl).elim

theorem addWords_eq (bytes : Bytes) {ctx : Context} (aligned : ctx.byteIndex = 0)
    (empty : ctx.saved = 0) : addWords ctx bytes = bytes.foldl takeByte ctx := by
  fun_induction addWords ctx bytes with
  | case1 ctx b0 b1 b2 b3 b4 b5 b6 b7 buf t ih =>
      have still := addWord_aligned t aligned empty
      have word := addWord_eq b0 b1 b2 b3 b4 b5 b6 b7 aligned empty
      rw [ih still.1 still.2]
      simp only [t, word, List.foldl_cons, List.foldl_nil]
  | case2 ctx tail short =>
      refine foldl_saveByte_partly tail ?_
      rw [aligned, Nat.zero_add]
      exact length_lt_of_short short

/-- An update takes its bytes one after the other, whatever was saved before. -/
theorem sha3Update_eq {ctx : Context} (buffered : Buffered ctx) (buf : Bytes) :
    sha3Update ctx buf = buf.foldl takeByte ctx := by
  have below := buffered.byteIndex
  rw [sha3Update]
  by_cases short : buf.length < (8 - ctx.byteIndex) % 8
  · rw [if_pos short]
    exact foldl_saveByte_partly buf (by omega)
  · rw [if_neg short]
    by_cases started : (8 - ctx.byteIndex) % 8 ≠ 0
    · rw [if_pos started]
      have some : buf.take ((8 - ctx.byteIndex) % 8) ≠ [] :=
        List.ne_nil_of_length_pos (by rw [List.length_take]; omega)
      have aligned := addSaved_aligned ((buf.take ((8 - ctx.byteIndex) % 8)).foldl saveByte ctx)
      rw [addWords_eq _ aligned.1 aligned.2,
        addSaved_foldl_saveByte _ some (by rw [List.length_take]; omega), ← List.foldl_append,
        List.take_append_drop]
    · rw [if_neg started]
      have aligned : ctx.byteIndex = 0 := by omega
      have empty : ctx.saved = 0 := by
        apply BitVec.eq_of_getLsbD_eq
        intro bit _
        rw [buffered.saved bit (by rw [aligned]; exact Nat.zero_le _)]
        exact BitVec.getLsbD_zero.symm
      exact addWords_eq buf aligned empty

theorem buffered_sha3Update {ctx : Context} (buffered : Buffered ctx)
    (rate_pos : 0 < ctx.rateWords) (buf : Bytes) :
    Buffered (sha3Update ctx buf) ∧
      (sha3Update ctx buf).capacityWords = ctx.capacityWords ∧
      absorbed (sha3Update ctx buf) = (spongeOf ctx rate_pos).absorbBytes (absorbed ctx) buf := by
  rw [sha3Update_eq buffered]
  exact foldl_takeByte buffered rate_pos buf

/-- However a message is cut into updates, the context takes it as one. -/
theorem foldl_sha3Update {ctx : Context} (buffered : Buffered ctx) (rate_pos : 0 < ctx.rateWords)
    (pieces : List Bytes) : pieces.foldl sha3Update ctx = sha3Update ctx pieces.flatten := by
  induction pieces generalizing ctx with
  | nil => exact (sha3Update_eq buffered []).symm
  | cons piece rest ih =>
      obtain ⟨valid, same, -⟩ := buffered_sha3Update buffered rate_pos piece
      rw [List.foldl_cons, ih valid (rateWords_congr same ▸ rate_pos), sha3Update_eq valid,
        sha3Update_eq buffered, sha3Update_eq buffered, List.flatten_cons, List.foldl_append]

/-! ### The digest -/

theorem range_mul_map {α : Type} (count size : Nat) (item : Nat → α) :
    (List.range (size * count)).map item =
      (List.range count).flatMap fun index =>
        (List.range size).map fun offset => item (size * index + offset) := by
  induction count with
  | zero => rfl
  | succ count ih =>
      rw [Nat.mul_succ, List.range_add, List.map_append, ih, List.range_succ, List.flatMap_append,
        List.flatMap_singleton, List.map_map]
      rfl

theorem low_byte (word : BitVec 64) {shift : Nat} (below : shift ≤ 24) :
    (word.setWidth 32 >>> shift).setWidth 8 = (word >>> shift).setWidth 8 := by
  apply BitVec.eq_of_getLsbD_eq
  intro bit inside
  have fits : shift + bit < 32 := by omega
  simp only [BitVec.getLsbD_setWidth, BitVec.getLsbD_ushiftRight, fits, decide_true, Bool.true_and]

theorem wordBytes_eq (word : BitVec 64) :
    wordBytes word = (List.range 8).map fun offset =>
      UInt8.ofBitVec ((word >>> (8 * offset)).setWidth 8) := by
  have eight : List.range 8 = [0, 1, 2, 3, 4, 5, 6, 7] := rfl
  have first (part : BitVec 64) : (part.setWidth 32).setWidth 8 = part.setWidth 8 := by
    have unshifted := @low_byte part 0 (by decide)
    rwa [BitVec.ushiftRight_zero, BitVec.ushiftRight_zero] at unshifted
  simp (disch := decide) only [wordBytes, eight, List.map_cons, List.map_nil, first, low_byte,
    ← BitVec.shiftRight_add, Nat.reduceMul, Nat.reduceAdd, BitVec.ushiftRight_zero]

theorem toList_eq (s : Words) :
    s.toList = (List.range 25).map fun index =>
      lanesOf s (Fin.ofNat 5 index) (Fin.ofNat 5 (index / 5)) := by
  apply List.ext_getElem
  · rw [Vector.length_toList, List.length_map, List.length_range]
  · intro index below _
    rw [Vector.length_toList] at below
    rw [List.getElem_map, List.getElem_range, Vector.getElem_toList]
    simp only [lanesOf, place_val, Fin.val_ofNat]
    congr 1
    omega

theorem flatMap_wordBytes (s : Words) : s.toList.flatMap wordBytes = KeccakP.bytes (lanesOf s) := by
  rw [KeccakP.bytes, range_mul_map 25 8, toList_eq, List.flatMap_map]
  congr 1
  funext index
  rw [wordBytes_eq]
  apply List.map_congr_left
  intro offset member
  have below := List.mem_range.mp member
  simp only [KeccakP.byteAt]
  rw [show (8 * index + offset) / 8 = index by omega, show (8 * index + offset) / 40 = index / 5 by
    omega, show (8 * index + offset) % 8 = offset by omega]

/-- The byte that begins the padding: of Keccak as it was submitted, or of the standard. -/
def suffix (ctx : Context) : UInt8 :=
  if ctx.capacityWords &&& useKeccakFlag ≠ 0 then 0x01 else 0x06

theorem sha3Finalize_eq {ctx : Context} (buffered : Buffered ctx) (rate_pos : 0 < ctx.rateWords) :
    sha3Finalize ctx =
      KeccakP.bytes ((spongeOf ctx rate_pos).finalize (suffix ctx) (absorbed ctx)) := by
  have widened : (if ctx.capacityWords &&& useKeccakFlag ≠ 0 then (1 : BitVec 64)
      else 0x02 ||| 1 <<< 2) = (suffix ctx).toBitVec.setWidth 64 := by
    rw [suffix]
    split
    · rfl
    · rfl
  have ending : (0x8000000000000000 : BitVec 64) =
      (0 : BitVec 64) ^^^ (0x80 : UInt8).toBitVec.setWidth 64 <<< (8 * 7) := by decide
  have last : 8 * ctx.rateWords - 1 = 8 * (ctx.rateWords - 1) + 7 := by omega
  rw [sha3Finalize]
  simp only [flatMap_wordBytes, lanesOf_keccakf]
  rw [widened, ending, lanesOf_xorWord_byte _ _ _ (by decide), xorWord_zero,
    lanesOf_xorWord_byte _ _ _ buffered.byteIndex, ← last]
  rfl

/-- The context that `sha3_Init` and `sha3_SetFlags` leave. -/
def started (bitSize : Nat) (flags : UInt32) : Option Context :=
  (sha3Init bitSize).map fun ctx => (sha3SetFlags ctx flags).2

/-- The byte that begins the padding, by the flags that are understood. -/
def suffixOf (flags : UInt32) : UInt8 := if flags &&& 1 = 1 then 0x01 else 0x06

theorem absorbed_initial (capacityWords : BitVec 32) :
    absorbed ⟨0, Vector.replicate 25 0, 0, 0, capacityWords⟩ = (fun _ _ => 0, 0) := by
  simp only [absorbed, xorWord_zero, Nat.mul_zero, Nat.add_zero]
  congr 1
  funext x y
  exact Vector.getElem_replicate _

/-- What the size and the flags leave in the context, for a size that is accepted. -/
structure Started (bitSize : Nat) (flags : UInt32) (ctx : Context) : Prop where
  rate : 8 * ctx.rateWords = 200 - bitSize / 4
  suffix : suffix ctx = suffixOf flags
  buffered : Buffered ctx
  absorbed : absorbed ctx = (fun _ _ => 0, 0)

/-- The sizes that are no bad parameters. -/
def IsAccepted (bitSize : Nat) : Prop := bitSize = 256 ∨ bitSize = 384 ∨ bitSize = 512

instance (bitSize : Nat) : Decidable (IsAccepted bitSize) :=
  inferInstanceAs (Decidable (bitSize = 256 ∨ bitSize = 384 ∨ bitSize = 512))

theorem started_none {bitSize : Nat} (refused : ¬ IsAccepted bitSize) (flags : UInt32) :
    started bitSize flags = none := by
  rw [IsAccepted, not_or, not_or] at refused
  rw [started, sha3Init, if_pos refused, Option.map_none]

theorem started_some {bitSize : Nat} (accepted : IsAccepted bitSize) (flags : UInt32) :
    ∃ ctx, started bitSize flags = some ctx ∧ Started bitSize flags ctx := by
  have usual : ¬ (bitSize ≠ 256 ∧ bitSize ≠ 384 ∧ bitSize ≠ 512) := by
    rw [IsAccepted] at accepted
    omega
  rw [started, sha3Init, if_neg usual, Option.map_some, sha3SetFlags]
  refine ⟨_, rfl, ?_⟩
  by_cases keccak : flags &&& 1 = 1
  · simp only [keccak, if_true]
    have padded : suffixOf flags = 0x01 := if_pos keccak
    rcases accepted with rfl | rfl | rfl
    all_goals exact ⟨by decide, padded ▸ by decide, ⟨by decide, by decide, clearFrom_zero _⟩,
      absorbed_initial _⟩
  · simp only [keccak, if_false]
    have padded : suffixOf flags = 0x06 := if_neg keccak
    rcases accepted with rfl | rfl | rfl
    all_goals exact ⟨by decide, padded ▸ by decide, ⟨by decide, by decide, clearFrom_zero _⟩,
      absorbed_initial _⟩

theorem rate_pos {bitSize : Nat} (accepted : IsAccepted bitSize) : 0 < 200 - bitSize / 4 := by
  rw [IsAccepted] at accepted
  omega

theorem sha3Finalize_pieces {bitSize : Nat} {flags : UInt32} {ctx : Context}
    (accepted : IsAccepted bitSize) (begun : Started bitSize flags ctx) (pieces : List Bytes) :
    sha3Finalize (pieces.foldl sha3Update ctx) =
      KeccakP.digest (200 - bitSize / 4) (rate_pos accepted) (suffixOf flags)
        pieces.flatten := by
  have positive : 0 < ctx.rateWords := by
    have rate := begun.rate
    have block := rate_pos accepted
    omega
  obtain ⟨buffered, same, taken⟩ := buffered_sha3Update begun.buffered positive pieces.flatten
  have rate := rateWords_congr same
  have sponge (positive : 0 < (sha3Update ctx pieces.flatten).rateWords) :
      spongeOf (sha3Update ctx pieces.flatten) positive =
        KeccakP.sponge (200 - bitSize / 4) (rate_pos accepted) := by
    simp only [spongeOf, rate, begun.rate]
  have start : spongeOf ctx positive = KeccakP.sponge (200 - bitSize / 4) (rate_pos accepted) := by
    simp only [spongeOf, begun.rate]
  have padded : suffix (sha3Update ctx pieces.flatten) = suffixOf flags := by
    rw [suffix, same]
    exact begun.suffix
  rw [foldl_sha3Update begun.buffered positive, sha3Finalize_eq buffered (rate ▸ positive), taken,
    sponge, start, padded, begun.absorbed, Sponge.finalize_absorbBytes]
  rfl

theorem sha3HashBuffer_eq (bitSize : Nat) (flags : UInt32) (input : Bytes) (outBytes : Nat) :
    sha3HashBuffer bitSize flags input outBytes =
      (started bitSize flags).bind fun ctx =>
        if flags &&& 1 ≠ flags then none
        else some ((sha3Finalize (sha3Update ctx input)).take (min outBytes (bitSize / 8))) := by
  rw [sha3HashBuffer, started]
  cases sha3Init bitSize with
  | none => simp only [Option.bind_eq_bind, Option.bind_none, Option.map_none]
  | some ctx =>
      simp only [Option.bind_eq_bind, Option.bind_some, Option.map_some]
      rfl

/-- Updates with any pieces and the finalization give the digest of the pieces in a row, for
every size that is accepted and all flags; so does the single call, for flags that it knows. -/
theorem pieces_hash_as_one (bitSize : Nat) (flags : UInt32) (pieces : List Bytes)
    (outBytes : Nat) :
    (started bitSize flags).map (fun ctx => sha3Finalize (pieces.foldl sha3Update ctx)) =
      (if accepted : IsAccepted bitSize then
        some (KeccakP.digest (200 - bitSize / 4) (rate_pos accepted) (suffixOf flags)
          pieces.flatten)
      else none) ∧
    sha3HashBuffer bitSize flags pieces.flatten outBytes =
      if accepted : IsAccepted bitSize ∧ flags &&& 1 = flags then
        some ((KeccakP.digest (200 - bitSize / 4) (rate_pos accepted.1) (suffixOf flags)
          pieces.flatten).take (min outBytes (bitSize / 8)))
      else none := by
  by_cases accepted : IsAccepted bitSize
  · obtain ⟨ctx, starts, begun⟩ := started_some accepted flags
    rw [sha3HashBuffer_eq, starts, Option.map_some, Option.bind_some, dif_pos accepted,
      sha3Finalize_pieces accepted begun pieces]
    refine ⟨rfl, ?_⟩
    have whole := sha3Finalize_pieces accepted begun [pieces.flatten]
    rw [List.flatten_singleton, List.foldl_cons, List.foldl_nil] at whole
    by_cases understood : flags &&& 1 = flags
    · rw [dif_pos ⟨accepted, understood⟩, if_neg (not_not_intro understood), whole]
    · rw [dif_neg fun both => understood both.2, if_pos understood]
  · rw [sha3HashBuffer_eq, started_none accepted, dif_neg accepted,
      dif_neg fun both => accepted both.1]
    exact ⟨rfl, rfl⟩

/-- The tables and loops of `keccakf` compute the permutation by coordinates, and no two states
of the words are permuted to the same one. -/
theorem keccakf_permutes :
    (∀ s, lanesOf (keccakf s) = KeccakP.permutation (lanesOf s)) ∧ Function.Bijective keccakf :=
  ⟨lanesOf_keccakf, bijective_keccakf⟩

/-! ## The signing helper -/

theorem length_bytes (lanes : KeccakP.Lanes) : (KeccakP.bytes lanes).length = 200 := by
  rw [KeccakP.bytes, List.length_map, List.length_range]

theorem sha3HashBuffer_keccak (data : Bytes) :
    sha3HashBuffer 256 1 data 32 = some ((KeccakP.digest 136 (by decide) 0x01 data).take 32) := by
  obtain ⟨ctx, starts, begun⟩ := started_some (.inl rfl : IsAccepted 256) 1
  have hashed := sha3Finalize_pieces (.inl rfl) begun [data]
  rw [List.flatten_singleton, List.foldl_cons, List.foldl_nil] at hashed
  rw [sha3HashBuffer_eq, starts, Option.bind_some, if_neg (by decide), hashed]
  rfl

/-- `sha3_HashBuffer` as the signing helpers call it. -/
def sha3Keccak256 (data : Bytes) : Digest :=
  ⟨(sha3HashBuffer 256 1 data 32).getD [], by
    rw [sha3HashBuffer_keccak, Option.getD_some, KeccakP.digest, List.length_take, length_bytes]
    rfl⟩

/-- With the hash of `sha3.c`, the signing helpers hash a message of at most `2 ^ 32 - 1` bytes
to the first 32 bytes of its digest. -/
theorem keccak256_eq_digest {primitives : Primitives}
    (hash : primitives.sha3Keccak256 = sha3Keccak256) {data : Bytes} (fits : data.length < 2 ^ 32) :
    (keccak256 primitives data).val = (KeccakP.digest 136 (by decide) 0x01 data).take 32 := by
  rw [keccak256, hash, Nat.mod_eq_of_lt fits, List.take_length]
  simp only [sha3Keccak256, sha3HashBuffer_keccak, Option.getD_some]

end HyperliquidSdk.Signing.Sha3
