import Mathlib.Algebra.Group.Int.Defs
import Mathlib.Algebra.Group.Nat.Defs
import Mathlib.Data.Nat.Basic

/-!
# Binary64 arithmetic

Every finite `double` is a whole number of units of `2 ^ -1074`, the smallest
subnormal. Its magnitude is that number of units, so exact results are fractions
of naturals and rounding is one integer division, half to even.
-/

set_option autoImplicit false

namespace Foundation

/-- The units in the value one. -/
def unitsPerOne : Nat := 2 ^ 1074

/-- The units of the largest finite `double`. -/
def maxUnits : Nat := (2 ^ 53 - 1) * 2 ^ 2045

/-- The integer nearest to `numerator / denominator`, ties to the even one. -/
def roundHalfEven (numerator denominator : Nat) : Nat :=
  let quotient := numerator / denominator
  let twice := 2 * (numerator % denominator)
  if twice < denominator ∨ twice = denominator ∧ quotient % 2 = 0 then quotient
  else quotient + 1

theorem roundHalfEven_le {numerator denominator bound : Nat}
    (below : numerator / denominator < bound) :
    roundHalfEven numerator denominator ≤ bound := by
  simp only [roundHalfEven]
  split
  · exact Nat.le_of_lt below
  · exact below

/-- The places by which a magnitude is longer than a significand. -/
def excessBits (magnitude : Nat) : Nat := magnitude.log2 + 1 - 53

theorem div_excessBits_lt (magnitude : Nat) : magnitude / 2 ^ excessBits magnitude < 2 ^ 53 := by
  rw [Nat.div_lt_iff_lt_mul (Nat.two_pow_pos _), ← Nat.pow_add]
  refine Nat.lt_of_lt_of_le Nat.lt_log2_self (Nat.pow_le_pow_right Nat.zero_lt_two ?_)
  simp only [excessBits]
  omega

/-- Round a fraction of units to a significand of 53 bits, without a bound on
the exponent from above. -/
def roundUnits (numerator denominator : Nat) : Nat :=
  let shift := excessBits (numerator / denominator)
  roundHalfEven numerator (denominator * 2 ^ shift) * 2 ^ shift

/-- A magnitude that a `double` represents. -/
structure IsMagnitude (units : Nat) : Prop where
  significand : ∃ digits shift, digits ≤ 2 ^ 53 ∧ units = digits * 2 ^ shift
  bounded : units ≤ maxUnits

theorem roundUnits_isMagnitude {numerator denominator : Nat}
    (bounded : roundUnits numerator denominator ≤ maxUnits) :
    IsMagnitude (roundUnits numerator denominator) where
  significand := by
    refine ⟨_, _, roundHalfEven_le ?_, rfl⟩
    rw [← Nat.div_div_eq_div_mul]
    exact div_excessBits_lt _
  bounded := bounded

inductive Double where
  | finite (negative : Bool) (units : Nat) (valid : IsMagnitude units)
  | infinity (negative : Bool)
  | nan
  deriving DecidableEq

namespace Double

/-- The `double` nearest to a signed fraction of units; infinite on overflow. -/
def ofUnits (negative : Bool) (numerator denominator : Nat) : Double :=
  if bounded : roundUnits numerator denominator ≤ maxUnits then
    .finite negative (roundUnits numerator denominator) (roundUnits_isMagnitude bounded)
  else .infinity negative

def zero : Double := .ofUnits false 0 1

/-- The number of units, with its sign. -/
def signedUnits (negative : Bool) (units : Nat) : Int :=
  if negative then -units else units

/-- The nearest `double` to a whole number of units; a zero is positive. -/
def ofSignedUnits (units : Int) : Double :=
  .ofUnits (decide (units < 0)) units.natAbs 1

def neg : Double → Double
  | .finite negative units valid => .finite (!negative) units valid
  | .infinity negative => .infinity (!negative)
  | .nan => .nan

def abs : Double → Double
  | .finite _ units valid => .finite false units valid
  | .infinity _ => .infinity false
  | .nan => .nan

def add : Double → Double → Double
  | .nan, _ | _, .nan => .nan
  | .infinity left, .infinity right => if left = right then .infinity left else .nan
  | .infinity left, .finite _ _ _ => .infinity left
  | .finite _ _ _, .infinity right => .infinity right
  | .finite left leftUnits _, .finite right rightUnits _ =>
      let sum := signedUnits left leftUnits + signedUnits right rightUnits
      -- an exact zero is negative only when both operands are
      if sum = 0 then .ofUnits (left && right) 0 1 else .ofSignedUnits sum

def sub (left right : Double) : Double := left.add right.neg

def mul : Double → Double → Double
  | .nan, _ | _, .nan => .nan
  | .infinity left, .infinity right => .infinity (left ^^ right)
  | .infinity left, .finite right units _ | .finite right units _, .infinity left =>
      if units = 0 then .nan else .infinity (left ^^ right)
  | .finite left leftUnits _, .finite right rightUnits _ =>
      .ofUnits (left ^^ right) (leftUnits * rightUnits) unitsPerOne

/-- The comparison `left >= right`, false on a NaN. -/
def ge : Double → Double → Bool
  | .nan, _ | _, .nan => false
  | .infinity left, .infinity right => !left || right
  | .infinity left, .finite _ _ _ => !left
  | .finite _ _ _, .infinity right => right
  | .finite left leftUnits _, .finite right rightUnits _ =>
      decide (signedUnits left leftUnits ≥ signedUnits right rightUnits)

/-- `std::llround`, half away from zero. The result out of range is unspecified;
x86-64 gives the least `long long`. -/
def llround : Double → Int64
  | .finite negative units _ =>
      let magnitude : Int := ((2 * units + unitsPerOne) / (2 * unitsPerOne) : Nat)
      let value := if negative then -magnitude else magnitude
      if -2 ^ 63 ≤ value ∧ value < 2 ^ 63 then .ofInt value else .minValue
  | .infinity _ | .nan => .minValue

end Double

end Foundation
