import HyperliquidSdk.Foundation.Numeral
import HyperliquidSdk.Websocket.WebsocketParsingUtils

/-!
# Base64 text

`base64Decode` inverts the encoding of RFC 4648. Its accumulator keeps all bits that fit
in 32, but a byte is taken off before the bits above it can reach it.
-/

set_option autoImplicit false

namespace HyperliquidSdk.Websocket

open Foundation

/-! ## The encoding -/

/-- Upper case, lower case, digits, plus and slash. -/
def base64Character (digit : Nat) : UInt8 :=
  if digit < 26 then UInt8.ofNat (65 + digit)
  else if digit < 52 then UInt8.ofNat (97 + (digit - 26))
  else if digit < 62 then UInt8.ofNat (48 + (digit - 52))
  else if digit = 62 then 43
  else 47

/-- The last `count` digits of a group of bits. -/
def base64Group : Nat → Nat → Bytes
  | 0, _ => []
  | count + 1, group => base64Character (group / 64 ^ count % 64) :: base64Group count group

def base64Padding (padded : Bool) (count : Nat) : Bytes :=
  if padded then List.replicate count 61 else []

/-- Three bytes are four digits. The last group is filled up with zero bits. -/
def base64Encode (padded : Bool) : Bytes → Bytes
  | first :: second :: third :: rest =>
      base64Group 4 (numeral 256 [first.toNat, second.toNat, third.toNat]) ++
        base64Encode padded rest
  | [first, second] =>
      base64Group 3 (4 * numeral 256 [first.toNat, second.toNat]) ++ base64Padding padded 1
  | [first] => base64Group 2 (16 * numeral 256 [first.toNat]) ++ base64Padding padded 2
  | [] => []

/-- The text with foreign characters inserted anywhere. -/
inductive Interspersed (foreign : UInt8 → Prop) : Bytes → Bytes → Prop where
  | nil : Interspersed foreign [] []
  | keep {original text : Bytes} (character : UInt8) :
      Interspersed foreign original text →
      Interspersed foreign (character :: original) (character :: text)
  | insert {original text : Bytes} {character : UInt8} :
      foreign character → Interspersed foreign original text →
      Interspersed foreign original (character :: text)

example : base64Encode true (utf8 "fooba") = utf8 "Zm9vYmE=" := by decide +kernel

/-! ## The accumulator -/

theorem low_byte_sshiftRight (value : BitVec 32) (shift : Nat) (inside : shift + 8 ≤ 32) :
    ((value.sshiftRight shift).signExtend 8).toNat = value.toNat / 2 ^ shift % 256 := by
  have same : (value.sshiftRight shift).signExtend 8 = (value >>> shift).setWidth 8 := by
    ext index bound
    have inWord : shift + index < 32 := by omega
    simp [BitVec.getElem_signExtend, BitVec.getElem_sshiftRight, inWord]
    omega
  rw [same, BitVec.toNat_setWidth, BitVec.toNat_ushiftRight, Nat.shiftRight_eq_div_pow]

/-- The shifts at which a byte is taken off. -/
theorem byte_of_accumulator (val : Int32) {shift : Nat} (takenAt : shift = 4 ∨ shift = 2 ∨ shift = 0) :
    (val >>> Int32.ofInt shift).toInt8.toUInt8 =
      UInt8.ofNat (val.toBitVec.toNat / 2 ^ shift) := by
  rw [← UInt8.toNat_inj, UInt8.toNat_ofNat']
  obtain rfl | rfl | rfl := takenAt
  · exact low_byte_sshiftRight val.toBitVec 4 (by decide)
  · exact low_byte_sshiftRight val.toBitVec 2 (by decide)
  · exact low_byte_sshiftRight val.toBitVec 0 (by decide)

/-- The bits that do not fit are lost. -/
theorem accumulate (val : Int32) (digit : Nat) :
    ((val <<< 6) + Int32.ofNat digit).toBitVec.toNat =
      (64 * val.toBitVec.toNat + digit) % 2 ^ 32 := by
  have shifted : (val <<< 6).toBitVec.toNat = (val.toBitVec.toNat <<< 6) % 2 ^ 32 :=
    BitVec.toNat_shiftLeft
  have added : (Int32.ofNat digit).toBitVec.toNat = digit % 2 ^ 32 := BitVec.toNat_ofNat digit 32
  rw [Int32.toBitVec_add, BitVec.toNat_add, shifted, added, Nat.shiftLeft_eq]
  omega

/-! ## What is decoded -/

def base64Digits (text : Bytes) : List Nat := text.filterMap base64Digit

/-- The state after the digits: of their number, the accumulator has the last 32 bits and
the output all but the last few. -/
structure Accumulated (digits : List Nat) (state : Base64State) : Prop where
  val : state.val.toBitVec.toNat = numeral 64 digits % 2 ^ 32
  bits : state.bits = (6 * digits.length % 8 : Nat) - 8
  length : state.out.length = 6 * digits.length / 8
  value : numeral 256 (state.out.map UInt8.toNat) =
    numeral 64 digits / 2 ^ (6 * digits.length % 8)

theorem accumulated_nil : Accumulated [] {} := ⟨rfl, rfl, rfl, rfl⟩

theorem base64Digit_lt {character : UInt8} {digit : Nat} (read : base64Digit character = some digit) :
    digit < 64 := by
  simp only [base64Digit] at read
  split at read
  · exact Option.some.inj read ▸ ‹_›
  · cases read

theorem Accumulated.push {digits : List Nat} {state : Base64State} {character : UInt8} {digit : Nat}
    (before : Accumulated digits state) (read : base64Digit character = some digit) :
    Accumulated (digits ++ [digit]) (state.push character) := by
  have small := base64Digit_lt read
  have accumulated := accumulate state.val digit
  rw [before.val] at accumulated
  have number := numeral_snoc 64 digits digit
  have length : (digits ++ [digit]).length = digits.length + 1 := by simp
  have bits := before.bits
  have value := before.value
  have outLength := before.length
  unfold Base64State.push
  rw [read]
  simp only
  split
  case isTrue taken =>
    obtain ⟨shift, residue, takenAt⟩ : ∃ shift, 6 * digits.length % 8 = shift + 2 ∧
        (shift = 4 ∨ shift = 2 ∨ shift = 0) := ⟨6 * digits.length % 8 - 2, by omega, by omega⟩
    have shifted : state.bits + 6 = (shift : Int) := by omega
    rw [residue] at value
    rw [shifted]
    refine ⟨?_, ?_, ?_, ?_⟩
    · simp only [accumulated, number]
      omega
    · simp only [length]
      omega
    · simp only [length, List.length_append, List.length_singleton]
      omega
    · rw [byte_of_accumulator _ takenAt, accumulated, List.map_append, List.map_singleton,
        numeral_snoc, value, UInt8.toNat_ofNat', number, length,
        show 6 * (digits.length + 1) % 8 = shift by omega]
      -- the byte is below the lost bits, since at most 12 bits are not yet in the output
      obtain rfl | rfl | rfl := takenAt <;> omega
  case isFalse kept =>
    have residue : 6 * digits.length % 8 = 0 := by omega
    rw [residue] at bits value
    refine ⟨?_, ?_, ?_, ?_⟩
    · simp only [accumulated, number]
      omega
    · simp only [length]
      omega
    · simp only [length]
      omega
    · rw [value, number, length, show 6 * (digits.length + 1) % 8 = 6 by omega]
      omega

theorem Accumulated.foldl {digits : List Nat} {state : Base64State} (text : Bytes)
    (before : Accumulated digits state) :
    Accumulated (digits ++ base64Digits text) (text.foldl Base64State.push state) := by
  induction text generalizing digits state with
  | nil => simpa [base64Digits] using before
  | cons character text ih =>
      cases read : base64Digit character with
      | none =>
          have skipped : state.push character = state := by rw [Base64State.push, read]
          rw [List.foldl_cons, skipped, base64Digits, List.filterMap_cons_none read]
          exact ih before
      | some digit =>
          rw [List.foldl_cons, base64Digits, List.filterMap_cons_some read, List.append_cons]
          exact ih (before.push read)

/-- Whatever the text is, its digits are decoded as one number, to whole bytes. -/
theorem base64Decode_accumulated (text : Bytes) :
    (base64Decode text).length = 6 * (base64Digits text).length / 8 ∧
      numeral 256 ((base64Decode text).map UInt8.toNat) =
        numeral 64 (base64Digits text) / 2 ^ (6 * (base64Digits text).length % 8) := by
  have decoded := accumulated_nil.foldl text
  rw [List.nil_append] at decoded
  exact ⟨decoded.length, decoded.value⟩

/-! ## What is encoded -/

theorem base64Digit_base64Character {digit : Nat} (small : digit < 64) :
    base64Digit (base64Character digit) = some digit := by
  have all : ∀ number : Fin 64, base64Digit (base64Character number) = some number.val := by
    decide +kernel
  exact all ⟨digit, small⟩

theorem base64Digit_foreign {character : UInt8} (foreign : character ∉ base64Alphabet) :
    base64Digit character = none := by
  have length : base64Alphabet.length = 64 := by decide +kernel
  have missing : base64Alphabet.idxOf character = base64Alphabet.length :=
    List.idxOf_eq_length_iff.mpr foreign
  simp [base64Digit, missing, length]

theorem Interspersed.base64Digits_eq {original text : Bytes}
    (noise : Interspersed (· ∉ base64Alphabet) original text) :
    base64Digits text = base64Digits original := by
  induction noise with
  | nil => rfl
  | keep character _ ih =>
      unfold base64Digits at ih ⊢
      rw [List.filterMap_cons, List.filterMap_cons, ih]
  | insert foreign _ ih =>
      unfold base64Digits at ih ⊢
      rw [List.filterMap_cons_none (base64Digit_foreign foreign), ih]

theorem base64Digits_append (first second : Bytes) :
    base64Digits (first ++ second) = base64Digits first ++ base64Digits second :=
  List.filterMap_append

theorem base64Digits_padding (padded : Bool) (count : Nat) :
    base64Digits (base64Padding padded count) = [] := by
  have equals : base64Digit 61 = none := by decide +kernel
  unfold base64Padding
  cases padded with
  | false => rfl
  | true => simp [base64Digits, equals]

theorem base64Digits_group (count group : Nat) :
    (base64Digits (base64Group count group)).length = count ∧
      numeral 64 (base64Digits (base64Group count group)) = group % 64 ^ count := by
  induction count with
  | zero => exact ⟨rfl, (Nat.mod_one group).symm⟩
  | succ count ih =>
      have digit := base64Digit_base64Character (Nat.mod_lt (group / 64 ^ count) (by decide : 0 < 64))
      obtain ⟨length, value⟩ := ih
      unfold base64Digits at length value ⊢
      rw [base64Group, List.filterMap_cons_some digit]
      refine ⟨by rw [List.length_cons, length], ?_⟩
      rw [numeral_cons, length, value, Nat.mod_pow_succ]
      ring

theorem byteNumeral_lt (bytes : Bytes) :
    numeral 256 (bytes.map UInt8.toNat) < 256 ^ bytes.length := by
  have small : ∀ digit ∈ bytes.map UInt8.toNat, digit < 256 := by
    intro digit present
    obtain ⟨byte, -, rfl⟩ := List.mem_map.mp present
    exact byte.toNat_lt
  have bounded := numeral_lt (by decide) small
  rwa [List.length_map] at bounded

/-- The digits of the text write the number of the bytes and the bits that fill up the
last digit. -/
theorem base64Digits_encode (padded : Bool) (data : Bytes) :
    ∃ filler, filler < 8 ∧
      6 * (base64Digits (base64Encode padded data)).length = 8 * data.length + filler ∧
      numeral 64 (base64Digits (base64Encode padded data)) =
        numeral 256 (data.map UInt8.toNat) * 2 ^ filler := by
  fun_induction base64Encode padded data with
  | case1 first second third rest ih =>
      obtain ⟨filler, small, length, value⟩ := ih
      have bounded := byteNumeral_lt [first, second, third]
      obtain ⟨groupLength, groupValue⟩ := base64Digits_group 4
        (numeral 256 ([first, second, third].map UInt8.toNat))
      rw [Nat.mod_eq_of_lt (by simp only [List.length_cons, List.length_nil] at bounded; omega)]
        at groupValue
      have bytes : first :: second :: third :: rest = [first, second, third] ++ rest := rfl
      have scale : 64 ^ (base64Digits (base64Encode padded rest)).length =
          256 ^ rest.length * 2 ^ filler := by
        rw [show 64 = 2 ^ 6 from rfl, show 256 = 2 ^ 8 from rfl, ← Nat.pow_mul, ← Nat.pow_mul,
          ← Nat.pow_add, length]
      refine ⟨filler, small, ?_, ?_⟩
      · rw [base64Digits_append, List.length_append, bytes, List.length_append]
        simp only [List.map_cons, List.map_nil] at groupLength
        rw [groupLength, List.length_cons, List.length_cons, List.length_singleton]
        omega
      · rw [base64Digits_append, numeral_append, scale, value, bytes, List.map_append,
          numeral_append, List.length_map, Nat.add_mul, Nat.mul_assoc]
        exact congrArg (· * _ + _) groupValue
  | case2 first second =>
      have bounded := byteNumeral_lt [first, second]
      obtain ⟨groupLength, groupValue⟩ := base64Digits_group 3
        (4 * numeral 256 ([first, second].map UInt8.toNat))
      rw [Nat.mod_eq_of_lt (by simp only [List.length_cons, List.length_nil] at bounded; omega)]
        at groupValue
      refine ⟨2, by decide, ?_, ?_⟩ <;>
        rw [base64Digits_append, base64Digits_padding, List.append_nil]
      · exact congrArg (6 * ·) groupLength
      · exact groupValue.trans (Nat.mul_comm _ _)
  | case3 first =>
      have bounded := byteNumeral_lt [first]
      obtain ⟨groupLength, groupValue⟩ := base64Digits_group 2
        (16 * numeral 256 ([first].map UInt8.toNat))
      rw [Nat.mod_eq_of_lt (by simp only [List.length_cons, List.length_nil] at bounded; omega)]
        at groupValue
      refine ⟨4, by decide, ?_, ?_⟩ <;>
        rw [base64Digits_append, base64Digits_padding, List.append_nil]
      · exact congrArg (6 * ·) groupLength
      · exact groupValue.trans (Nat.mul_comm _ _)
  | case4 => exact ⟨0, by decide, rfl, rfl⟩

theorem byteNumeral_injective {first second : Bytes} (length : first.length = second.length)
    (same : numeral 256 (first.map UInt8.toNat) = numeral 256 (second.map UInt8.toNat)) :
    first = second := by
  have small (bytes : Bytes) : ∀ digit ∈ bytes.map UInt8.toNat, digit < 256 := by
    intro digit present
    obtain ⟨byte, -, rfl⟩ := List.mem_map.mp present
    exact byte.toNat_lt
  have numbers := numeral_injective (by decide) (by rw [List.length_map, List.length_map, length])
    (small first) (small second) same
  exact List.map_injective_iff.mpr (fun _ _ => UInt8.toNat_inj.mp) numbers

/-- The text of any bytes, padded or not and with foreign characters anywhere in it, is
decoded to these bytes. -/
theorem base64Decode_interspersed {padded : Bool} {data text : Bytes}
    (noise : Interspersed (· ∉ base64Alphabet) (base64Encode padded data) text) :
    base64Decode text = data := by
  obtain ⟨length, value⟩ := base64Decode_accumulated text
  obtain ⟨filler, small, digits, number⟩ := base64Digits_encode padded data
  rw [noise.base64Digits_eq, digits] at length value
  rw [number, show (8 * data.length + filler) % 8 = filler by omega,
    Nat.mul_div_cancel _ (Nat.two_pow_pos filler)] at value
  apply byteNumeral_injective
  · rw [length]
    omega
  · exact value

theorem base64Decode_lineBreak :
    Interspersed (· ∉ base64Alphabet) (base64Encode true (utf8 "hi")) (utf8 "aG\nk=") ∧
      base64Decode (utf8 "aG\nk=") = utf8 "hi" := by
  have encoded : base64Encode true (utf8 "hi") = [97, 71, 107, 61] := by decide +kernel
  have broken : utf8 "aG\nk=" = [97, 71, 10, 107, 61] := by decide +kernel
  have foreign : 10 ∉ base64Alphabet := by decide +kernel
  have noise : Interspersed (· ∉ base64Alphabet) (base64Encode true (utf8 "hi"))
      (utf8 "aG\nk=") := by
    rw [encoded, broken]
    exact .keep 97 (.keep 71 (.insert foreign (.keep 107 (.keep 61 .nil))))
  exact ⟨noise, base64Decode_interspersed noise⟩

end HyperliquidSdk.Websocket
