import Mathlib.Data.Nat.Digits.Defs

/-!
# Positional numerals

Numbers written with the most significant digit first.
-/

set_option autoImplicit false

namespace Foundation

def numeral (base : Nat) (digits : List Nat) : Nat :=
  Nat.ofDigits base digits.reverse

@[simp]
theorem numeral_nil (base : Nat) : numeral base [] = 0 := rfl

theorem numeral_append (base : Nat) (leading digits : List Nat) :
    numeral base (leading ++ digits) =
      numeral base leading * base ^ digits.length + numeral base digits := by
  unfold numeral
  rw [List.reverse_append, Nat.ofDigits_append, List.length_reverse, Nat.add_comm, Nat.mul_comm]

theorem numeral_cons (base digit : Nat) (digits : List Nat) :
    numeral base (digit :: digits) = digit * base ^ digits.length + numeral base digits := by
  have appended := numeral_append base [digit] digits
  rwa [List.singleton_append, show numeral base [digit] = digit from
    Nat.ofDigits_singleton] at appended

@[simp]
theorem numeral_zero_cons (base : Nat) (digits : List Nat) :
    numeral base (0 :: digits) = numeral base digits := by
  rw [numeral_cons, Nat.zero_mul, Nat.zero_add]

theorem numeral_snoc (base : Nat) (digits : List Nat) (digit : Nat) :
    numeral base (digits ++ [digit]) = base * numeral base digits + digit := by
  rw [numeral_append, numeral_cons, numeral_nil, Nat.mul_comm]
  simp

theorem numeral_lt {base : Nat} (positive : 1 < base) {digits : List Nat}
    (small : ∀ digit ∈ digits, digit < base) : numeral base digits < base ^ digits.length := by
  have bounded := Nat.ofDigits_lt_base_pow_length positive (l := digits.reverse)
    (fun digit present => small digit (List.mem_reverse.mp present))
  rwa [List.length_reverse] at bounded

/-- Numerals of one length are different numbers. -/
theorem numeral_injective {base : Nat} (positive : 1 < base) {first second : List Nat}
    (length : first.length = second.length) (firstSmall : ∀ digit ∈ first, digit < base)
    (secondSmall : ∀ digit ∈ second, digit < base)
    (same : numeral base first = numeral base second) : first = second := by
  rw [← List.reverse_inj]
  apply Nat.ofDigits_inj_of_len_eq positive
  · rw [List.length_reverse, List.length_reverse, length]
  · exact fun digit present => firstSmall digit (List.mem_reverse.mp present)
  · exact fun digit present => secondSmall digit (List.mem_reverse.mp present)
  · exact same

/-- Each digit of the square of the base is two digits of the base. -/
theorem numeral_pairs (base : Nat) (digits : List Nat) :
    numeral base (digits.flatMap fun digit => [digit / base, digit % base]) =
      numeral (base ^ 2) digits := by
  induction digits with
  | nil => rfl
  | cons digit digits ih =>
      have length : (digits.flatMap fun digit => [digit / base, digit % base]).length =
          2 * digits.length := by
        simp [List.length_flatMap, List.map_const', Nat.mul_comm]
      rw [List.flatMap_cons, numeral_append, ih, length, numeral_cons, Nat.pow_mul]
      rw [numeral_cons, numeral_cons, numeral_nil]
      simp [Nat.div_add_mod']

end Foundation
