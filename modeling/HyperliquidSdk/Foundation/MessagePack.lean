import HyperliquidSdk.Foundation.OrderedJson
import HyperliquidSdk.Foundation.PrefixCode
import HyperliquidSdk.Foundation.Significand

/-!
# MessagePack

The encoding of JSON values: a head that tells the kind and the size, then the content.
A reader takes one head off a text, so the encoding is a prefix code of the values up
to the two representations of a non-negative integer.
-/

set_option autoImplicit false

namespace Foundation

/-! ## Numbers of a fixed width -/

/-- The last bytes of a number, most significant first. -/
def bytesOfNat : Nat → Nat → Bytes
  | 0, _ => []
  | width + 1, value => bytesOfNat width (value / 256) ++ [UInt8.ofNat value]

/-- The number that bytes spell. -/
def natOfBytes (bytes : Bytes) : Nat :=
  bytes.foldl (fun value byte => 256 * value + byte.toNat) 0

theorem bytesOfNat_length (width value : Nat) : (bytesOfNat width value).length = width := by
  induction width generalizing value with
  | zero => rfl
  | succ width ih => simp [bytesOfNat, ih]

theorem natOfBytes_bytesOfNat {width value : Nat} (bounded : value < 256 ^ width) :
    natOfBytes (bytesOfNat width value) = value := by
  induction width generalizing value with
  | zero =>
      rw [Nat.pow_zero, Nat.lt_one_iff] at bounded
      rw [bounded]
      rfl
  | succ width ih =>
      have higher : natOfBytes (bytesOfNat width (value / 256)) = value / 256 := by
        apply ih
        rw [Nat.div_lt_iff_lt_mul (by decide), ← Nat.pow_succ]
        exact bounded
      have appended : natOfBytes (bytesOfNat (width + 1) value) =
          256 * natOfBytes (bytesOfNat width (value / 256)) + value % 256 := by
        simp [natOfBytes, bytesOfNat]
      rw [appended, higher]
      exact Nat.div_add_mod value 256

def readNat (width : Nat) (text : Bytes) : Option (Nat × Bytes) :=
  if width ≤ text.length then some (natOfBytes (text.take width), text.drop width) else none

theorem readNat_append {width value : Nat} (rest : Bytes) (bounded : value < 256 ^ width) :
    readNat width (bytesOfNat width value ++ rest) = some (value, rest) := by
  have length := bytesOfNat_length width value
  have enough : width ≤ (bytesOfNat width value ++ rest).length := by
    rw [List.length_append, length]
    exact Nat.le_add_right _ _
  rw [readNat, if_pos enough, List.take_left' length, List.drop_left' length,
    natOfBytes_bytesOfNat bounded]

/-! ## Heads -/

/-- The kind of a value, with what precedes its content. -/
inductive MsgpackHead where
  | null
  | boolean (value : Bool)
  | integer (value : Int)
  | float32 (bits : Nat)
  | float64 (bits : Nat)
  | string (size : Nat)
  | array (size : Nat)
  | object (size : Nat)

namespace MsgpackHead

/-- The numbers that the format has a place for. -/
def Valid : MsgpackHead → Prop
  | .integer value => -2 ^ 63 ≤ value ∧ value < 2 ^ 64
  | .float32 bits => bits < 2 ^ 32
  | .float64 bits => bits < 2 ^ 64
  | .null | .boolean _ | .string _ | .array _ | .object _ => True

def integerBytes (value : Int) : Bytes :=
  if 0 ≤ value then
    if value < 2 ^ 7 then [UInt8.ofNat value.toNat]
    else if value < 2 ^ 8 then 0xcc :: bytesOfNat 1 value.toNat
    else if value < 2 ^ 16 then 0xcd :: bytesOfNat 2 value.toNat
    else if value < 2 ^ 32 then 0xce :: bytesOfNat 4 value.toNat
    else 0xcf :: bytesOfNat 8 value.toNat
  else if -2 ^ 5 ≤ value then [UInt8.ofNat (value + 2 ^ 8).toNat]
  else if -2 ^ 7 ≤ value then 0xd0 :: bytesOfNat 1 (value + 2 ^ 8).toNat
  else if -2 ^ 15 ≤ value then 0xd1 :: bytesOfNat 2 (value + 2 ^ 16).toNat
  else if -2 ^ 31 ≤ value then 0xd2 :: bytesOfNat 4 (value + 2 ^ 32).toNat
  else 0xd3 :: bytesOfNat 8 (value + 2 ^ 64).toNat

/-- The format has no place for a size of more than 32 bits. Such a size is written here
after the code `0xc1`, which the format never uses. -/
def sizeBytes (short limit : Nat) (code16 code32 kind : UInt8) (size : Nat) : Bytes :=
  if size < limit then [UInt8.ofNat (short + size)]
  else if size < 2 ^ 16 then code16 :: bytesOfNat 2 size
  else if size < 2 ^ 32 then code32 :: bytesOfNat 4 size
  else 0xc1 :: kind :: (List.replicate size 1 ++ [0])

def bytes : MsgpackHead → Bytes
  | .null => [0xc0]
  | .boolean value => [if value then 0xc3 else 0xc2]
  | .integer value => integerBytes value
  | .float32 bits => 0xca :: bytesOfNat 4 bits
  | .float64 bits => 0xcb :: bytesOfNat 8 bits
  | .string size =>
      if 2 ^ 5 ≤ size ∧ size < 2 ^ 8 then 0xd9 :: bytesOfNat 1 size
      else sizeBytes 0xa0 (2 ^ 5) 0xda 0xdb 0 size
  | .array size => sizeBytes 0x90 (2 ^ 4) 0xdc 0xdd 1 size
  | .object size => sizeBytes 0x80 (2 ^ 4) 0xde 0xdf 2 size

/-- The number of ones before the first zero. -/
def readOnes : Bytes → Nat → Option (Nat × Bytes)
  | [], _ => none
  | byte :: rest, count => if byte = 1 then readOnes rest (count + 1) else some (count, rest)

theorem readOnes_append (size count : Nat) (rest : Bytes) :
    readOnes (List.replicate size 1 ++ 0 :: rest) count = some (count + size, rest) := by
  induction size generalizing count with
  | zero => simp [readOnes]
  | succ size ih =>
      rw [List.replicate_succ, List.cons_append, readOnes, if_pos rfl, ih]
      congr 2
      omega

def readSize (kind : UInt8) (rest : Bytes) : Option (MsgpackHead × Bytes) :=
  (readOnes rest 0).map fun (size, rest) =>
    (if kind = 0 then .string size else if kind = 1 then .array size else .object size, rest)

/-- Take a head off a text. -/
def read : Bytes → Option (MsgpackHead × Bytes)
  | [] => none
  | byte :: rest =>
      let code := byte.toNat
      let number (width : Nat) (head : Nat → MsgpackHead) :=
        (readNat width rest).map fun (value, rest) => (head value, rest)
      if code < 0x80 then some (.integer code, rest)
      else if code < 0x90 then some (.object (code - 0x80), rest)
      else if code < 0xa0 then some (.array (code - 0x90), rest)
      else if code < 0xc0 then some (.string (code - 0xa0), rest)
      else if 0xe0 ≤ code then some (.integer (code - 2 ^ 8), rest)
      else
        match code with
        | 0xc0 => some (.null, rest)
        | 0xc1 => readSize (rest.headD 0) rest.tail
        | 0xc2 => some (.boolean false, rest)
        | 0xc3 => some (.boolean true, rest)
        | 0xca => number 4 .float32
        | 0xcb => number 8 .float64
        | 0xcc => number 1 fun value => .integer value
        | 0xcd => number 2 fun value => .integer value
        | 0xce => number 4 fun value => .integer value
        | 0xcf => number 8 fun value => .integer value
        | 0xd0 => number 1 fun value => .integer (value - 2 ^ 8)
        | 0xd1 => number 2 fun value => .integer (value - 2 ^ 16)
        | 0xd2 => number 4 fun value => .integer (value - 2 ^ 32)
        | 0xd3 => number 8 fun value => .integer (value - 2 ^ 64)
        | 0xd9 => number 1 .string
        | 0xda => number 2 .string
        | 0xdb => number 4 .string
        | 0xdc => number 2 .array
        | 0xdd => number 4 .array
        | 0xde => number 2 .object
        | 0xdf => number 4 .object
        | _ => none

theorem read_integerBytes {value : Int} (rest : Bytes) (valid : (MsgpackHead.integer value).Valid) :
    read (integerBytes value ++ rest) = some (.integer value, rest) := by
  obtain ⟨lower, upper⟩ := valid
  unfold integerBytes
  by_cases positive : 0 ≤ value
  · obtain ⟨magnitude, rfl⟩ := Int.eq_ofNat_of_zero_le positive
    split_ifs
    · have small : magnitude < 256 := by omega
      have code : magnitude < 0x80 := by omega
      simp [read, Nat.mod_eq_of_lt small, code]
    all_goals
      simp only [Int.toNat_natCast, List.cons_append, read]
      rw [readNat_append rest (by omega)]
      simp
  · split_ifs
    · have small : (value + 2 ^ 8).toNat < 256 := by omega
      have code : 0xe0 ≤ (value + 2 ^ 8).toNat := by omega
      have back : ((value + 2 ^ 8).toNat : Int) - 2 ^ 8 = value := by omega
      simp only [List.cons_append, List.nil_append, read, UInt8.toNat_ofNat',
        Nat.mod_eq_of_lt small]
      rw [if_neg (by omega), if_neg (by omega), if_neg (by omega), if_neg (by omega), if_pos code,
        back]
    all_goals
      simp only [List.cons_append, read]
      rw [readNat_append rest (by omega)]
      simp
      omega

theorem read_sizeBytes {short limit : Nat} {code16 code32 kind : UInt8} {head : Nat → MsgpackHead}
    (size : Nat) (rest : Bytes)
    (readShort : ∀ size < limit, read (UInt8.ofNat (short + size) :: rest) = some (head size, rest))
    (read16 : ∀ text, read (code16 :: text) =
      (readNat 2 text).map fun (value, rest) => (head value, rest))
    (read32 : ∀ text, read (code32 :: text) =
      (readNat 4 text).map fun (value, rest) => (head value, rest))
    (readLong : ∀ text, read (0xc1 :: kind :: text) =
      (readOnes text 0).map fun (size, rest) => (head size, rest)) :
    read (sizeBytes short limit code16 code32 kind size ++ rest) = some (head size, rest) := by
  unfold sizeBytes
  split_ifs with fits
  · exact readShort size fits
  · rw [List.cons_append, read16, readNat_append rest (by omega)]
    rfl
  · rw [List.cons_append, read32, readNat_append rest (by omega)]
    rfl
  · rw [List.cons_append, List.cons_append, List.append_assoc, readLong]
    simp [readOnes_append]

/-- A head is read back, whatever follows it. -/
theorem read_bytes {head : MsgpackHead} (rest : Bytes) (valid : head.Valid) :
    read (head.bytes ++ rest) = some (head, rest) := by
  cases head with
  | null => rfl
  | boolean value => cases value <;> rfl
  | integer value => exact read_integerBytes rest valid
  | float32 bits =>
      simp only [Valid] at valid
      simp only [bytes, List.cons_append, read]
      rw [readNat_append rest (by omega)]
      rfl
  | float64 bits =>
      simp only [Valid] at valid
      simp only [bytes, List.cons_append, read]
      rw [readNat_append rest (by omega)]
      rfl
  | string size =>
      rw [bytes]
      split_ifs with middle
      · simp only [List.cons_append, read]
        rw [readNat_append rest (by omega)]
        rfl
      · apply read_sizeBytes size rest _ (fun _ => rfl) (fun _ => rfl) (fun _ => rfl)
        intro size fits
        have small : 0xa0 + size < 256 := by omega
        simp only [read, UInt8.toNat_ofNat', Nat.mod_eq_of_lt small]
        rw [if_neg (by omega), if_neg (by omega), if_neg (by omega), if_pos (by omega),
          Nat.add_sub_cancel_left]
  | array size =>
      apply read_sizeBytes size rest _ (fun _ => rfl) (fun _ => rfl) (fun _ => rfl)
      intro size fits
      have small : 0x90 + size < 256 := by omega
      simp only [read, UInt8.toNat_ofNat', Nat.mod_eq_of_lt small]
      rw [if_neg (by omega), if_neg (by omega), if_pos (by omega), Nat.add_sub_cancel_left]
  | object size =>
      apply read_sizeBytes size rest _ (fun _ => rfl) (fun _ => rfl) (fun _ => rfl)
      intro size fits
      have small : 0x80 + size < 256 := by omega
      simp only [read, UInt8.toNat_ofNat', Nat.mod_eq_of_lt small]
      rw [if_neg (by omega), if_pos (by omega), Nat.add_sub_cancel_left]

theorem bytes_injective {first second : MsgpackHead} {left right : Bytes}
    (valid : first.Valid) (validSecond : second.Valid)
    (texts : first.bytes ++ left = second.bytes ++ right) : first = second ∧ left = right := by
  have same := congrArg read texts
  rw [read_bytes left valid, read_bytes right validSecond] at same
  exact Prod.mk.inj (Option.some.inj same)

end MsgpackHead

/-! ## Floating-point numbers -/

/-- The exponent and the significand of a magnitude, packed as IEEE 754 packs them. -/
def packedBits (precision units : Nat) : Nat :=
  excessOver precision units * 2 ^ (precision - 1) + units / 2 ^ excessOver precision units

theorem two_pow_eq_double {precision : Nat} (positive : 0 < precision) :
    2 ^ precision = 2 * 2 ^ (precision - 1) := by
  rw [← Nat.pow_succ', Nat.succ_eq_add_one, Nat.sub_add_cancel positive]

theorem packedBits_lt {precision places units : Nat} (positive : 0 < precision)
    (bounded : units < 2 ^ (precision + places)) :
    packedBits precision units < (places + 2) * 2 ^ (precision - 1) := by
  have exponent : excessOver precision units ≤ places := by
    by_cases zero : units = 0
    · simp [zero, excessOver]
      omega
    · have log := (Nat.log2_lt zero).mpr bounded
      unfold excessOver
      omega
  have exponents := Nat.mul_le_mul_right (2 ^ (precision - 1)) exponent
  have significand := significand_lt precision units
  rw [two_pow_eq_double positive] at significand
  rw [packedBits, Nat.add_mul]
  omega

/-- The exponent is read back from the packed bits. -/
theorem packedBits_div {precision : Nat} (units : Nat) (positive : 0 < precision) :
    packedBits precision units / 2 ^ (precision - 1) - 1 = excessOver precision units := by
  have significand := significand_lt precision units
  rw [two_pow_eq_double positive] at significand
  rw [packedBits, Nat.mul_comm, Nat.mul_add_div (Nat.two_pow_pos _)]
  have upper := Nat.div_lt_of_lt_mul (Nat.mul_comm 2 _ ▸ significand)
  by_cases long : excessOver precision units = 0
  · omega
  · have lower := Nat.div_pos (le_significand positive long) (Nat.two_pow_pos _)
    omega

theorem packedBits_injective {precision first second : Nat} (positive : 0 < precision)
    (precise : HasPrecision precision first) (preciseSecond : HasPrecision precision second)
    (same : packedBits precision first = packedBits precision second) : first = second := by
  have exponents := packedBits_div first positive
  rw [same, packedBits_div second positive] at exponents
  rw [packedBits, packedBits, exponents] at same
  have significands := Nat.add_left_cancel same
  rw [HasPrecision, exponents] at preciseSecond
  rw [← Nat.div_mul_cancel precise, significands, Nat.div_mul_cancel preciseSecond]

theorem packedBits_lt_infinity {units : Nat} (valid : IsMagnitude units) :
    packedBits 53 units < 2047 * 2 ^ 52 := by
  have scaled (places : Nat) : (2 ^ 53 - 1) * 2 ^ places < 2 ^ (53 + places) := by
    rw [Nat.pow_add]
    exact Nat.mul_lt_mul_of_pos_right (by decide) (Nat.two_pow_pos places)
  exact packedBits_lt (by decide) (Nat.lt_of_le_of_lt valid.bounded (scaled 2045))

def signBit (negative : Bool) : Nat := if negative then 1 else 0

theorem signBit_injective {first second : Bool} (same : signBit first = signBit second) :
    first = second := by
  cases first <;> cases second <;> first | rfl | cases same

namespace Double

def isNegative : Double → Bool
  | .finite negative _ _ | .infinity negative => negative
  | .nan => false

/-- The bits of a `double` without its sign. -/
def unsignedBits : Double → Nat
  | .finite _ units _ => packedBits 53 units
  | .infinity _ => 2047 * 2 ^ 52
  | .nan => 2047 * 2 ^ 52 + 2 ^ 51

theorem unsignedBits_lt (value : Double) : value.unsignedBits < 2 ^ 63 := by
  cases value with
  | finite negative units valid =>
      exact Nat.lt_trans (packedBits_lt_infinity valid) (by decide)
  | infinity negative => simp [unsignedBits]
  | nan => simp [unsignedBits]

theorem eq_of_unsignedBits {first second : Double} (sign : first.isNegative = second.isNegative)
    (bits : first.unsignedBits = second.unsignedBits) : first = second := by
  cases first with
  | finite negative units valid =>
      have bound := packedBits_lt_infinity valid
      cases second with
      | finite other magnitude validSecond =>
          obtain rfl : negative = other := sign
          obtain rfl := packedBits_injective (by decide) valid.hasPrecision
            validSecond.hasPrecision bits
          rfl
      | infinity other => simp only [unsignedBits] at bits; omega
      | nan => simp only [unsignedBits] at bits; omega
  | infinity negative =>
      cases second with
      | finite other magnitude validSecond =>
          have bound := packedBits_lt_infinity validSecond
          simp only [unsignedBits] at bits
          omega
      | infinity other => exact congrArg infinity sign
      | nan => simp only [unsignedBits] at bits; omega
  | nan =>
      cases second with
      | finite other magnitude validSecond =>
          have bound := packedBits_lt_infinity validSecond
          simp only [unsignedBits] at bits
          omega
      | infinity other => simp only [unsignedBits] at bits; omega
      | nan => rfl

/-- The units of a finite value that a `float` represents too. -/
def float32Units : Double → Option Nat
  | .finite _ units _ =>
      if 2 ^ 925 ∣ units ∧ units / 2 ^ 925 < 2 ^ (24 + 253) ∧ HasPrecision 24 (units / 2 ^ 925) then
        some units
      else none
  | .infinity _ | .nan => none

/-- The shorter format is taken when it has the value. -/
def compactHead (value : Double) : MsgpackHead :=
  match value.float32Units with
  | some units =>
      .float32 (signBit value.isNegative * 2 ^ 31 + packedBits 24 (units / 2 ^ 925))
  | none => .float64 (signBit value.isNegative * 2 ^ 63 + value.unsignedBits)

/-- A value with a representation as a `float` is the finite one of its bits. -/
theorem float32Units_eq_some {value : Double} {units : Nat}
    (represented : value.float32Units = some units) :
    (2 ^ 925 ∣ units ∧ units / 2 ^ 925 < 2 ^ (24 + 253) ∧ HasPrecision 24 (units / 2 ^ 925)) ∧
      value.unsignedBits = packedBits 53 units := by
  cases value with
  | finite negative magnitude valid =>
      simp only [float32Units] at represented
      split_ifs at represented with fits
      obtain rfl := Option.some.inj represented
      exact ⟨fits, rfl⟩
  | infinity negative => cases represented
  | nan => cases represented

theorem signBit_le (negative : Bool) : signBit negative ≤ 1 := by
  cases negative <;> decide

theorem compactHead_valid (value : Double) : value.compactHead.Valid := by
  have sign := signBit_le value.isNegative
  unfold compactHead
  cases represented : value.float32Units with
  | none =>
      have bits := value.unsignedBits_lt
      simp only [MsgpackHead.Valid]
      omega
  | some units =>
      have bits := packedBits_lt (by decide) (float32Units_eq_some represented).1.2.1
      simp only [MsgpackHead.Valid]
      omega

theorem compactHead_injective {first second : Double}
    (same : first.compactHead = second.compactHead) : first = second := by
  unfold compactHead at same
  cases short : first.float32Units with
  | none =>
      cases shortSecond : second.float32Units with
      | none =>
          simp only [short, shortSecond] at same
          injection same with bits
          have bound := first.unsignedBits_lt
          have boundSecond := second.unsignedBits_lt
          exact eq_of_unsignedBits (signBit_injective (by omega)) (by omega)
      | some units => simp only [short, shortSecond] at same; cases same
  | some units =>
      cases shortSecond : second.float32Units with
      | none => simp only [short, shortSecond] at same; cases same
      | some magnitude =>
          obtain ⟨⟨divides, bounded, precise⟩, bitsFirst⟩ := float32Units_eq_some short
          obtain ⟨⟨dividesSecond, boundedSecond, preciseSecond⟩, bitsSecond⟩ :=
            float32Units_eq_some shortSecond
          have bound := packedBits_lt (by decide) bounded
          have boundSecond := packedBits_lt (by decide) boundedSecond
          simp only [short, shortSecond] at same
          injection same with bits
          have scaled := packedBits_injective (by decide) precise preciseSecond (by omega)
          have equal : units = magnitude := by
            rw [← Nat.div_mul_cancel divides, scaled, Nat.div_mul_cancel dividesSecond]
          apply eq_of_unsignedBits (signBit_injective (by omega))
          rw [bitsFirst, bitsSecond, equal]

end Double

/-! ## Values -/

theorem utf8_injective {first second : String} (same : utf8 first = utf8 second) :
    first = second := by
  apply String.toByteArray_inj.mp
  apply ByteArray.ext
  exact Array.toList_inj.mp same

namespace Json

def msgpackHead : Json → MsgpackHead
  | .null => .null
  | .boolean value => .boolean value
  | .integer value => .integer value.toInt
  | .unsigned value => .integer value.toNat
  | .float value => value.compactHead
  | .string value => .string value.length
  | .array items => .array items.length
  | .object members => .object members.length

theorem msgpackHead_valid (json : Json) : json.msgpackHead.Valid := by
  cases json with
  | integer value =>
      have lower := value.le_toInt
      have upper := value.toInt_lt
      exact ⟨lower, by omega⟩
  | unsigned value =>
      have upper := value.toNat_lt
      constructor <;> omega
  | float value => exact value.compactHead_valid
  | null | boolean _ | string _ | array _ | object _ => trivial

def msgpackText (text : Bytes) : Bytes := (MsgpackHead.string text.length).bytes ++ text

mutual

/-- `ordered_json::to_msgpack`. -/
def msgpack : Json → Bytes
  | .string value => (Json.string value).msgpackHead.bytes ++ value
  | .array items => (Json.array items).msgpackHead.bytes ++ msgpackItems items
  | .object members => (Json.object members).msgpackHead.bytes ++ msgpackMembers members
  | .null => Json.null.msgpackHead.bytes
  | .boolean value => (Json.boolean value).msgpackHead.bytes
  | .integer value => (Json.integer value).msgpackHead.bytes
  | .unsigned value => (Json.unsigned value).msgpackHead.bytes
  | .float value => (Json.float value).msgpackHead.bytes

def msgpackItems : List Json → Bytes
  | [] => []
  | item :: rest => msgpack item ++ msgpackItems rest

def msgpackMembers : List (String × Json) → Bytes
  | [] => []
  | (key, value) :: rest => msgpackText (utf8 key) ++ (msgpack value ++ msgpackMembers rest)

end

/-- The representation that an integer has when it is read. -/
def ofInteger (value : Int) : Json :=
  if 0 ≤ value then .unsigned (.ofInt value) else .integer (.ofInt value)

mutual

/-- A non-negative integer has two representations and one encoding. -/
def canonical : Json → Json
  | .integer value => ofInteger value.toInt
  | .unsigned value => ofInteger value.toNat
  | .array items => .array (canonicalItems items)
  | .object members => .object (canonicalMembers members)
  | .null => .null
  | .boolean value => .boolean value
  | .float value => .float value
  | .string value => .string value

def canonicalItems : List Json → List Json
  | [] => []
  | item :: rest => canonical item :: canonicalItems rest

def canonicalMembers : List (String × Json) → List (String × Json)
  | [] => []
  | (key, value) :: rest => (key, canonical value) :: canonicalMembers rest

end

/-- The values differ at most in how they represent integers. -/
def MsgpackEqual (first second : Json) : Prop := first.canonical = second.canonical

def msgpackContent : Json → Bytes
  | .string value => value
  | .array items => msgpackItems items
  | .object members => msgpackMembers members
  | .null | .boolean _ | .integer _ | .unsigned _ | .float _ => []

theorem msgpack_eq (json : Json) :
    json.msgpack = json.msgpackHead.bytes ++ json.msgpackContent := by
  cases json <;> simp [msgpack, msgpackContent]

theorem msgpackText_read {first second left right : Bytes}
    (texts : msgpackText first ++ left = msgpackText second ++ right) :
    first = second ∧ left = right := by
  simp only [msgpackText, List.append_assoc] at texts
  obtain ⟨heads, contents⟩ := @MsgpackHead.bytes_injective (.string _) (.string _) _ _ trivial trivial texts
  exact List.append_inj contents (MsgpackHead.string.inj heads)

/-- What a value with the head is. -/
def HasHead (json : Json) : MsgpackHead → Prop
  | .null => json = .null
  | .boolean value => json = .boolean value
  | .integer value => json.canonical = ofInteger value ∧ json.msgpackContent = []
  | .float32 bits => ∃ value : Double, json = .float value ∧ value.compactHead = .float32 bits
  | .float64 bits => ∃ value : Double, json = .float value ∧ value.compactHead = .float64 bits
  | .string size => ∃ text, json = .string text ∧ text.length = size
  | .array size => ∃ items, json = .array items ∧ items.length = size
  | .object size => ∃ members, json = .object members ∧ members.length = size

theorem hasHead_of_compactHead {json : Json} {value : Double} (shape : json.HasHead value.compactHead) :
    json = .float value := by
  have floating : ∃ other : Double, json = .float other ∧ other.compactHead = value.compactHead := by
    unfold Double.compactHead at shape ⊢
    split at shape <;> exact shape
  obtain ⟨other, rfl, heads⟩ := floating
  rw [Double.compactHead_injective heads]

theorem hasHead (json : Json) : json.HasHead json.msgpackHead := by
  cases json with
  | null => rfl
  | boolean value => rfl
  | integer value => exact ⟨by rw [canonical], rfl⟩
  | unsigned value => exact ⟨by rw [canonical], rfl⟩
  | float value =>
      have head : (Json.float value).msgpackHead = value.compactHead := rfl
      cases shape : value.compactHead with
      | float32 bits => rw [head, shape]; exact ⟨value, rfl, shape⟩
      | float64 bits => rw [head, shape]; exact ⟨value, rfl, shape⟩
      | null | boolean _ | integer _ | string _ | array _ | object _ =>
          unfold Double.compactHead at shape
          split at shape <;> cases shape
  | string value => exact ⟨value, rfl, rfl⟩
  | array items => exact ⟨items, rfl, rfl⟩
  | object members => exact ⟨members, rfl, rfl⟩

mutual

theorem msgpack_read (first second : Json) (left right : Bytes)
    (texts : first.msgpack ++ left = second.msgpack ++ right) :
    first.canonical = second.canonical ∧ left = right := by
  rw [msgpack_eq, msgpack_eq, List.append_assoc, List.append_assoc] at texts
  obtain ⟨heads, contents⟩ := MsgpackHead.bytes_injective first.msgpackHead_valid
    second.msgpackHead_valid texts
  have shape := hasHead second
  rw [← heads] at shape
  cases first with
  | null =>
      obtain rfl := shape
      exact ⟨rfl, contents⟩
  | boolean value =>
      obtain rfl := shape
      exact ⟨rfl, contents⟩
  | integer value =>
      obtain ⟨equal, empty⟩ := shape
      rw [empty] at contents
      exact ⟨by rw [equal, canonical], contents⟩
  | unsigned value =>
      obtain ⟨equal, empty⟩ := shape
      rw [empty] at contents
      exact ⟨by rw [equal, canonical], contents⟩
  | float value =>
      obtain rfl := hasHead_of_compactHead shape
      exact ⟨rfl, contents⟩
  | string value =>
      obtain ⟨text, rfl, length⟩ := shape
      obtain ⟨equal, ends⟩ := List.append_inj contents length.symm
      obtain rfl : value = text := equal
      exact ⟨rfl, ends⟩
  | array items =>
      obtain ⟨others, rfl, length⟩ := shape
      obtain ⟨equal, ends⟩ := msgpackItems_read items others left right length.symm contents
      exact ⟨by rw [canonical, canonical, equal], ends⟩
  | object members =>
      obtain ⟨others, rfl, length⟩ := shape
      obtain ⟨equal, ends⟩ := msgpackMembers_read members others left right length.symm contents
      exact ⟨by rw [canonical, canonical, equal], ends⟩

theorem msgpackItems_read (items others : List Json) (left right : Bytes)
    (lengths : items.length = others.length)
    (texts : msgpackItems items ++ left = msgpackItems others ++ right) :
    canonicalItems items = canonicalItems others ∧ left = right := by
  cases items with
  | nil =>
      obtain rfl := List.eq_nil_of_length_eq_zero lengths.symm
      exact ⟨rfl, texts⟩
  | cons item rest =>
      cases others with
      | nil => cases lengths
      | cons other others =>
          simp only [msgpackItems, List.append_assoc] at texts
          obtain ⟨equal, continued⟩ := msgpack_read item other _ _ texts
          obtain ⟨equalRest, ends⟩ := msgpackItems_read rest others left right
            (Nat.succ.inj lengths) continued
          exact ⟨by rw [canonicalItems, canonicalItems, equal, equalRest], ends⟩

theorem msgpackMembers_read (members others : List (String × Json)) (left right : Bytes)
    (lengths : members.length = others.length)
    (texts : msgpackMembers members ++ left = msgpackMembers others ++ right) :
    canonicalMembers members = canonicalMembers others ∧ left = right := by
  cases members with
  | nil =>
      obtain rfl := List.eq_nil_of_length_eq_zero lengths.symm
      exact ⟨rfl, texts⟩
  | cons member rest =>
      cases others with
      | nil => cases lengths
      | cons other others =>
          obtain ⟨key, value⟩ := member
          obtain ⟨name, second⟩ := other
          simp only [msgpackMembers, List.append_assoc] at texts
          obtain ⟨keys, values⟩ := msgpackText_read texts
          obtain ⟨equal, continued⟩ := msgpack_read value second _ _ values
          obtain ⟨equalRest, ends⟩ := msgpackMembers_read rest others left right
            (Nat.succ.inj lengths) continued
          exact ⟨by rw [canonicalMembers, canonicalMembers, utf8_injective keys, equal, equalRest],
            ends⟩

end

/-- What the library's encoder is relied on for: it tells values apart, and no encoding
starts another one. -/
structure MsgpackCodec (encode : Json → Bytes) : Prop where
  injective : ∀ first second, encode first = encode second → MsgpackEqual first second
  prefixFree : PrefixFree encode

theorem MsgpackCodec.uniquelyRead {encode : Json → Bytes} (codec : MsgpackCodec encode) :
    UniquelyRead MsgpackEqual encode :=
  codec.prefixFree.uniquelyRead fun first second => codec.injective first second

theorem msgpack_uniquelyRead : UniquelyRead MsgpackEqual msgpack :=
  fun first second left right => msgpack_read first second left right

theorem msgpackCodec : MsgpackCodec msgpack where
  injective _ _ equal := msgpack_uniquelyRead.injective equal
  prefixFree := msgpack_uniquelyRead.prefixFree

end Json

end Foundation
