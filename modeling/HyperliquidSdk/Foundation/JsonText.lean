import HyperliquidSdk.Foundation.Bytes

/-!
# The text of objects of strings

How an object whose values are strings is written without blanks, and a reader for such texts.
A string is quoted and its quotation marks, backslashes and control characters are escaped, so
that the reader gets back exactly the members that were written, whatever their texts are.
-/

set_option autoImplicit false

namespace Foundation.JsonText

/-! ## Writing -/

/-- The bytes with an escape of one letter. -/
def letterEscapes : List (UInt8 × UInt8) :=
  [(0x22, 0x22), (0x5c, 0x5c), (0x08, 0x62), (0x09, 0x74), (0x0a, 0x6e), (0x0c, 0x66), (0x0d, 0x72)]

def hexDigit (value : UInt8) : UInt8 := if value < 10 then 0x30 + value else 0x57 + value

def escape (byte : UInt8) : Bytes :=
  match letterEscapes.lookup byte with
  | some letter => [0x5c, letter]
  | none =>
      if byte < 0x20 then [0x5c, 0x75, 0x30, 0x30, hexDigit (byte / 16), hexDigit (byte % 16)]
      else [byte]

def quote (text : Bytes) : Bytes := 0x22 :: (text.flatMap escape ++ [0x22])

def writeMember (member : Bytes × Bytes) : Bytes := quote member.1 ++ 0x3a :: quote member.2

/-- The members with commas between them, and the bracket that ends the object. -/
def writeMembers : List (Bytes × Bytes) → Bytes
  | [] => [0x7d]
  | [member] => writeMember member ++ [0x7d]
  | member :: next :: rest => writeMember member ++ 0x2c :: writeMembers (next :: rest)

def writeObject (members : List (Bytes × Bytes)) : Bytes := 0x7b :: writeMembers members

/-! ## Reading -/

def hexValue? (digit : UInt8) : Option UInt8 :=
  if 0x30 ≤ digit ∧ digit < 0x3a then some (digit - 0x30)
  else if 0x61 ≤ digit ∧ digit < 0x67 then some (digit - 0x57)
  else none

/-- The four digits of a control character. -/
def readCode : Bytes → Option (UInt8 × Bytes)
  | first :: second :: high :: low :: rest => do
      guard (first = 0x30 ∧ second = 0x30)
      return ((← hexValue? high) * 16 + (← hexValue? low), rest)
  | _ => none

def readEscape : Bytes → Option (UInt8 × Bytes)
  | [] => none
  | letter :: rest =>
      if letter = 0x75 then readCode rest
      else (letterEscapes.find? fun entry => entry.2 = letter).map fun entry => (entry.1, rest)

def readCharacter : Bytes → Option (UInt8 × Bytes)
  | [] => none
  | byte :: rest =>
      if byte = 0x5c then readEscape rest else if byte < 0x20 then none else some (byte, rest)

/-- A string of less than so many characters up to its closing quotation mark, and what
follows. -/
def readQuoted : Nat → Bytes → Option (Bytes × Bytes)
  | 0, _ => none
  | fuel + 1, text =>
      if text.head? = some 0x22 then some ([], text.tail)
      else do
        let (byte, rest) ← readCharacter text
        let (text, rest) ← readQuoted fuel rest
        return (byte :: text, rest)

def readString : Bytes → Option (Bytes × Bytes)
  | 0x22 :: rest => readQuoted rest.length rest
  | _ => none

def readMember (text : Bytes) : Option ((Bytes × Bytes) × Bytes) := do
  let (key, rest) ← readString text
  match rest with
  | 0x3a :: rest =>
      let (value, rest) ← readString rest
      return ((key, value), rest)
  | _ => none

/-- At most so many members, up to the bracket that ends the object. -/
def readMembers : Nat → Bytes → Option (List (Bytes × Bytes) × Bytes)
  | 0, _ => none
  | fuel + 1, text => do
      let (member, rest) ← readMember text
      match rest with
      | 0x2c :: rest =>
          let (members, rest) ← readMembers fuel rest
          return (member :: members, rest)
      | 0x7d :: rest => return ([member], rest)
      | _ => none

def readObject : Bytes → Option (List (Bytes × Bytes) × Bytes)
  | 0x7b :: rest =>
      if rest.head? = some 0x7d then some ([], rest.tail) else readMembers rest.length rest
  | _ => none

/-- What follows a text that is expected. -/
def expect (expected text : Bytes) : Option Bytes :=
  if expected.isPrefixOf text then some (text.drop expected.length) else none

/-! ## Reading what was written -/

theorem expect_append (expected rest : Bytes) : expect expected (expected ++ rest) = some rest := by
  rw [expect, if_pos (List.isPrefixOf_iff_prefix.mpr (List.prefix_append expected rest)),
    List.drop_left]

theorem hexValue?_hexDigit {value : UInt8} (below : value < 16) :
    hexValue? (hexDigit value) = some value := by
  have digits : ∀ digit : Fin 16, hexValue? (hexDigit (.ofNat digit.val)) =
      some (.ofNat digit.val) := by decide
  have digit := digits ⟨value.toNat, below⟩
  rwa [UInt8.ofNat_toNat] at digit

theorem digits_of_control {byte : UInt8} (control : byte < 0x20) :
    byte / 16 < 16 ∧ byte % 16 < 16 ∧ byte / 16 * 16 + byte % 16 = byte := by
  have all : ∀ code : Fin 32, UInt8.ofNat code.val / 16 < 16 ∧ UInt8.ofNat code.val % 16 < 16 ∧
      UInt8.ofNat code.val / 16 * 16 + UInt8.ofNat code.val % 16 = .ofNat code.val := by decide
  have code := all ⟨byte.toNat, control⟩
  rwa [UInt8.ofNat_toNat] at code

/-- Every letter of an escape stands for the byte that is escaped with it. -/
theorem find?_letter {byte letter : UInt8} (found : letterEscapes.lookup byte = some letter) :
    letter ≠ 0x75 ∧
      letterEscapes.find? (fun entry => entry.2 = letter) = some (byte, letter) := by
  have all : ∀ entry ∈ letterEscapes, entry.2 ≠ 0x75 ∧
      letterEscapes.find? (fun other => other.2 = entry.2) = some entry := by
    simp [letterEscapes]
  obtain ⟨before, after, split, -⟩ := List.lookup_eq_some_iff.mp found
  exact all (byte, letter) (split ▸ by simp)

theorem readCharacter_escape (byte : UInt8) (rest : Bytes) :
    readCharacter (escape byte ++ rest) = some (byte, rest) := by
  unfold escape
  cases found : letterEscapes.lookup byte with
  | some letter =>
      obtain ⟨noCode, letters⟩ := find?_letter found
      change readEscape (letter :: rest) = _
      rw [readEscape, if_neg noCode, letters]
      rfl
  | none =>
      have plain : byte ≠ 0x5c := by
        rintro rfl
        cases found
      by_cases control : byte < 0x20
      · rw [if_pos control]
        change readCode (0x30 :: 0x30 :: hexDigit (byte / 16) :: hexDigit (byte % 16) :: rest) = _
        obtain ⟨high, low, whole⟩ := digits_of_control control
        change (hexValue? (hexDigit (byte / 16))).bind (fun high =>
          (hexValue? (hexDigit (byte % 16))).bind fun low => some (high * 16 + low, rest)) = _
        rw [hexValue?_hexDigit high, hexValue?_hexDigit low, Option.bind_some, Option.bind_some,
          whole]
      · rw [if_neg control]
        change (if byte = 0x5c then _ else if byte < 0x20 then _ else some (byte, rest)) = _
        rw [if_neg plain, if_neg control]

theorem head?_escape (byte : UInt8) (rest : Bytes) :
    (escape byte ++ rest).head? ≠ some 0x22 := by
  unfold escape
  cases found : letterEscapes.lookup byte with
  | some letter => exact fun same => absurd (Option.some.inj same) (by decide)
  | none =>
      have plain : byte ≠ 0x22 := by
        rintro rfl
        cases found
      by_cases control : byte < 0x20
      · rw [if_pos control]
        exact fun same => absurd (Option.some.inj same) (by decide)
      · rw [if_neg control]
        exact fun same => plain (Option.some.inj same)

theorem readQuoted_escaped (text rest : Bytes) {fuel : Nat} (enough : text.length < fuel) :
    readQuoted fuel (text.flatMap escape ++ 0x22 :: rest) = some (text, rest) := by
  induction text generalizing fuel with
  | nil =>
      cases fuel with
      | zero => exact absurd enough (Nat.not_lt_zero _)
      | succ fuel => rfl
  | cons byte text ih =>
      cases fuel with
      | zero => exact absurd enough (Nat.not_lt_zero _)
      | succ fuel =>
          rw [List.flatMap_cons, List.append_assoc, readQuoted, if_neg (head?_escape byte _),
            readCharacter_escape]
          simp only [Option.bind_eq_bind, Option.bind_some, ih (Nat.lt_of_succ_lt_succ enough)]
          rfl

theorem length_le_flatMap_escape (text : Bytes) : text.length ≤ (text.flatMap escape).length := by
  induction text with
  | nil => exact Nat.le_refl _
  | cons byte text ih =>
      have some : 1 ≤ (escape byte).length := by
        unfold escape
        split
        · simp
        · split <;> simp
      rw [List.flatMap_cons, List.length_cons, List.length_append]
      omega

theorem readString_quote (text rest : Bytes) :
    readString (quote text ++ rest) = some (text, rest) := by
  have long := length_le_flatMap_escape text
  rw [quote, List.cons_append, List.append_assoc, List.singleton_append, readString]
  apply readQuoted_escaped
  rw [List.length_append, List.length_cons]
  omega

theorem readMember_writeMember (member : Bytes × Bytes) (rest : Bytes) :
    readMember (writeMember member ++ rest) = some (member, rest) := by
  simp only [readMember, writeMember, List.append_assoc, List.cons_append, readString_quote,
    Option.bind_eq_bind, Option.bind_some]
  rfl

theorem readMembers_writeMembers (member : Bytes × Bytes) (members : List (Bytes × Bytes))
    (rest : Bytes) {fuel : Nat} (enough : members.length < fuel) :
    readMembers fuel (writeMembers (member :: members) ++ rest) =
      some (member :: members, rest) := by
  induction members generalizing member fuel with
  | nil =>
      cases fuel with
      | zero => exact absurd enough (Nat.not_lt_zero _)
      | succ fuel =>
          rw [writeMembers, List.append_assoc, readMembers, readMember_writeMember]
          rfl
  | cons next members ih =>
      cases fuel with
      | zero => exact absurd enough (Nat.not_lt_zero _)
      | succ fuel =>
          have following := ih next (Nat.lt_of_succ_lt_succ enough)
          rw [writeMembers, List.append_assoc, readMembers, readMember_writeMember]
          simp only [List.cons_append, Option.bind_eq_bind, Option.bind_some, following]
          rfl

theorem length_le_writeMembers (members : List (Bytes × Bytes)) :
    members.length ≤ (writeMembers members).length := by
  induction members using writeMembers.induct with
  | case1 => exact Nat.zero_le _
  | case2 member => simp [writeMembers]
  | case3 member next rest ih =>
      have longer : (44 :: writeMembers (next :: rest)).length ≤
          (writeMembers (member :: next :: rest)).length := by
        rw [writeMembers, List.length_append]
        exact Nat.le_add_left _ _
      exact Nat.le_trans (Nat.succ_le_succ ih) longer

/-- The reader gets back the members, whatever bytes they are made of. -/
theorem readObject_writeObject (members : List (Bytes × Bytes)) (rest : Bytes) :
    readObject (writeObject members ++ rest) = some (members, rest) := by
  cases members with
  | nil => rfl
  | cons member members =>
      have enough := length_le_writeMembers (member :: members)
      have quoted : (writeMembers (member :: members) ++ rest).head? = some 0x22 := by
        cases members <;> rfl
      rw [writeObject, List.cons_append, readObject, quoted, if_neg (by decide)]
      apply readMembers_writeMembers
      rw [List.length_append]
      exact Nat.lt_of_lt_of_le enough (Nat.le_add_right _ _)

end Foundation.JsonText
