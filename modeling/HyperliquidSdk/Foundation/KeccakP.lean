import HyperliquidSdk.Foundation.Sponge
import Mathlib.Data.BitVec
import Mathlib.Data.Finite.Prod
import Mathlib.Data.Fintype.EquivFin
import Mathlib.Logic.Function.Iterate

/-!
# The Keccak permutation

The step mappings on five by five lanes of 64 bits, by the coordinates of the lanes. The
offsets of the rotations, the order in which the lanes are visited and the constants of the
rounds are computed from their definitions.
-/

set_option autoImplicit false

namespace Foundation.KeccakP

/-- The lane in column `x` and row `y`. -/
abbrev Lanes := Fin 5 → Fin 5 → BitVec 64

def column (lanes : Lanes) (x : Fin 5) : BitVec 64 :=
  lanes x 0 ^^^ lanes x 1 ^^^ lanes x 2 ^^^ lanes x 3 ^^^ lanes x 4

def theta (lanes : Lanes) : Lanes := fun x y =>
  lanes x y ^^^ (column lanes (x - 1) ^^^ (column lanes (x + 1)).rotateLeft 1)

/-- The lanes other than the first, in the order in which the offsets grow. -/
def visit : Nat → Fin 5 × Fin 5
  | 0 => (1, 0)
  | step + 1 => ((visit step).2, 2 * (visit step).1 + 3 * (visit step).2)

/-- The triangular number of the step at which the lane is visited. -/
def offset (x y : Fin 5) : Nat :=
  match (List.range 24).find? fun step => visit step = (x, y) with
  | some step => (step + 1) * (step + 2) / 2
  | none => 0

def rho (lanes : Lanes) : Lanes := fun x y => (lanes x y).rotateLeft (offset x y)

def pi (lanes : Lanes) : Lanes := fun x y => lanes (x + 3 * y) x

def chi (lanes : Lanes) : Lanes := fun x y =>
  lanes x y ^^^ (~~~ lanes (x + 1) y &&& lanes (x + 2) y)

def iota (constant : BitVec 64) (lanes : Lanes) : Lanes := fun x y =>
  if x = 0 ∧ y = 0 then lanes x y ^^^ constant else lanes x y

/-- The shift register of the round constants, with feedback `x⁸ + x⁶ + x⁵ + x⁴ + 1`. -/
def shiftRegister (register : BitVec 8) : BitVec 8 :=
  (register <<< 1) ^^^ (if register.msb then 0x71 else 0)

def constantBit (step : Nat) : Bool := (shiftRegister^[step] 1).getLsbD 0

/-- The constant has bits at the places one below a power of two only. -/
def roundConstant (round : Nat) : BitVec 64 :=
  (List.range 7).foldl (fun constant place =>
    if constantBit (7 * round + place) then constant ||| 1 <<< (2 ^ place - 1) else constant) 0

def round (constant : BitVec 64) (lanes : Lanes) : Lanes :=
  iota constant (chi (pi (rho (theta lanes))))

def permutation (lanes : Lanes) : Lanes :=
  (List.range 24).foldl (fun lanes index => round (roundConstant index) lanes) lanes

/-! ## The sponge

Byte number `position` of a state is byte `position % 8` of lane `position / 8`, the lowest
first, and the lanes are counted row by row. -/

def xorByte (lanes : Lanes) (position : Nat) (byte : UInt8) : Lanes := fun x y =>
  if x.val + 5 * y.val = position / 8 then
    lanes x y ^^^ byte.toBitVec.setWidth 64 <<< (8 * (position % 8))
  else lanes x y

def sponge (rate : Nat) (rate_pos : 0 < rate) : Sponge Lanes where
  rate := rate
  permute := permutation
  xorByte := xorByte
  rate_pos := rate_pos
  xorByte_zero lanes position := by
    funext x y
    simp [xorByte]
  xorByte_xorByte lanes position first second := by
    funext x y
    simp only [xorByte]
    split
    · simp [BitVec.xor_assoc, BitVec.shiftLeft_xor_distrib]
    · rfl

def byteAt (lanes : Lanes) (position : Nat) : UInt8 :=
  let lane := lanes (Fin.ofNat 5 (position / 8)) (Fin.ofNat 5 (position / 40))
  .ofBitVec ((lane >>> (8 * (position % 8))).setWidth 8)

def bytes (lanes : Lanes) : Bytes := (List.range 200).map (byteAt lanes)

/-- The whole state that a message is hashed to; a digest is the beginning of it. -/
def digest (rate : Nat) (rate_pos : 0 < rate) (suffix : UInt8) (message : Bytes) : Bytes :=
  bytes ((sponge rate rate_pos).hash suffix (fun _ _ => 0) message)

/-! ## The permutation is one -/

theorem getLsbD_rotateLeft (lane : BitVec 64) (distance : Nat) {place : Nat} (inside : place < 64) :
    (lane.rotateLeft distance).getLsbD place =
      lane.getLsbD ((place + 64 - distance % 64) % 64) := by
  rw [BitVec.getLsbD_rotateLeft, Bool.cond_decide]
  split
  · congr 1
    omega
  · rw [decide_eq_true inside, Bool.true_and]
    congr 1
    omega

theorem rotateLeft_xor (first second : BitVec 64) (distance : Nat) :
    (first ^^^ second).rotateLeft distance =
      first.rotateLeft distance ^^^ second.rotateLeft distance := by
  apply BitVec.eq_of_getLsbD_eq
  intro place inside
  rw [BitVec.getLsbD_xor, getLsbD_rotateLeft _ _ inside, getLsbD_rotateLeft _ _ inside,
    getLsbD_rotateLeft _ _ inside, BitVec.getLsbD_xor]

theorem rotateLeft_rotateLeft (lane : BitVec 64) (first second : Nat) :
    (lane.rotateLeft first).rotateLeft second = lane.rotateLeft (first + second) := by
  apply BitVec.eq_of_getLsbD_eq
  intro place inside
  rw [getLsbD_rotateLeft _ _ inside, getLsbD_rotateLeft _ _ (Nat.mod_lt _ (by decide)),
    getLsbD_rotateLeft _ _ inside]
  congr 1
  omega

theorem rotateLeft_whole (lane : BitVec 64) : lane.rotateLeft 64 = lane := by
  apply BitVec.eq_of_getLsbD_eq
  intro place inside
  rw [getLsbD_rotateLeft _ _ inside]
  congr 1
  omega

theorem rotateLeft_injective (distance : Nat) :
    Function.Injective fun lane : BitVec 64 => lane.rotateLeft distance := by
  intro first second same
  have back (lane : BitVec 64) :
      (lane.rotateLeft distance).rotateLeft (64 - distance % 64) = lane := by
    apply BitVec.eq_of_getLsbD_eq
    intro place inside
    rw [rotateLeft_rotateLeft, getLsbD_rotateLeft _ _ inside]
    congr 1
    omega
  rw [← back first, ← back second]
  exact congrArg (BitVec.rotateLeft · (64 - distance % 64)) same

/-! ### Theta

Two states with one image differ by columns alone. The difference of the columns is the sum of
its neighbours, one of them rotated; taken six times, this drives the rotation to a full turn. -/

theorem xor_cancel_middle (left middle right : BitVec 64) :
    (left ^^^ middle) ^^^ (middle ^^^ right) = left ^^^ right := by
  rw [BitVec.xor_assoc, ← BitVec.xor_assoc middle, BitVec.xor_self, BitVec.zero_xor]

theorem xor_exchange {first second third fourth : BitVec 64}
    (same : first ^^^ second = third ^^^ fourth) : first ^^^ third = second ^^^ fourth := by
  rw [← xor_cancel_middle first second third, same, BitVec.xor_comm third, BitVec.xor_comm second,
    xor_cancel_middle, BitVec.xor_comm]

/-- Each lane is the sum of its two neighbours at the distance, one of them rotated by it. -/
def SumOfNeighbours (difference : Fin 5 → BitVec 64) (places : Fin 5) (turn : Nat) : Prop :=
  ∀ x, difference x = difference (x - places) ^^^ (difference (x + places)).rotateLeft turn

theorem SumOfNeighbours.double {difference : Fin 5 → BitVec 64} {places : Fin 5} {turn : Nat}
    (sum : SumOfNeighbours difference places turn) :
    SumOfNeighbours difference (places + places) (turn + turn) := by
  intro x
  have below := sum (x - places)
  have above := sum (x + places)
  rw [sub_add_cancel] at below
  rw [add_sub_cancel_right] at above
  have here := sum x
  rw [below, above, rotateLeft_xor, rotateLeft_rotateLeft, xor_cancel_middle, sub_sub, add_assoc]
    at here
  exact here

theorem SumOfNeighbours.eq_zero {difference : Fin 5 → BitVec 64}
    (sum : SumOfNeighbours difference 1 1) (x : Fin 5) : difference x = 0 := by
  have turned : SumOfNeighbours difference 4 64 := sum.double.double.double.double.double.double
  have plain (x : Fin 5) : difference x = difference (x + 1) ^^^ difference (x + 4) := by
    have here := turned x
    rwa [rotateLeft_whole, show x - 4 = x + 1 by omega] at here
  -- lanes two apart are equal, so all five are
  have apart (x : Fin 5) : difference (x + 2) = difference x := by
    have here := plain (x + 3)
    rw [plain (x + 3 + 1), show x + 3 + 1 + 1 = x by omega, show x + 3 + 1 + 4 = x + 3 by omega,
      show x + 3 + 4 = x + 2 by omega, BitVec.xor_comm (difference x), BitVec.xor_assoc] at here
    have same : difference x ^^^ difference (x + 2) = 0 := by
      rw [← BitVec.xor_right_inj (difference (x + 3)), ← here, BitVec.ofNat_eq_ofNat,
        BitVec.xor_zero]
    exact (BitVec.xor_eq_zero_iff.mp same).symm
  have next : difference (x + 1) = difference x := by
    rw [show x + 1 = x + 2 + 2 + 2 by omega, apart, apart, apart]
  rw [plain x, next, show x + 4 = x + 2 + 2 by omega, apart, apart, BitVec.xor_self]
  rfl

theorem column_theta (lanes : Lanes) (x : Fin 5) :
    column (theta lanes) x =
      column lanes x ^^^ (column lanes (x - 1) ^^^ (column lanes (x + 1)).rotateLeft 1) := by
  simp only [column, theta]
  generalize (lanes (x - 1) 0 ^^^ lanes (x - 1) 1 ^^^ lanes (x - 1) 2 ^^^ lanes (x - 1) 3 ^^^
    lanes (x - 1) 4) ^^^ _ = change
  apply BitVec.eq_of_getLsbD_eq
  intro place _
  simp only [BitVec.getLsbD_xor]
  cases change.getLsbD place <;> simp

theorem theta_injective : Function.Injective theta := by
  intro first second same
  have columns (x : Fin 5) : column first x = column second x := by
    have sum : SumOfNeighbours (fun x => column first x ^^^ column second x) 1 1 := by
      intro x
      have image := congrArg (column · x) same
      simp only [column_theta] at image
      change column first x ^^^ column second x =
        (column first (x - 1) ^^^ column second (x - 1)) ^^^
          (column first (x + 1) ^^^ column second (x + 1)).rotateLeft 1
      rw [rotateLeft_xor, xor_exchange image]
      ac_rfl
    exact BitVec.xor_eq_zero_iff.mp (sum.eq_zero x)
  funext x y
  have image := congrFun (congrFun same x) y
  simp only [theta, columns] at image
  simpa [BitVec.xor_right_inj] using image

/-! ### The other steps -/

theorem rho_injective : Function.Injective rho := by
  intro first second same
  funext x y
  exact rotateLeft_injective _ (congrFun (congrFun same x) y)

theorem pi_injective : Function.Injective pi := by
  intro first second same
  funext x y
  -- the lane comes to row `2 * (x - y)` of column `y`
  have image := congrFun (congrFun same y) (2 * (x - y))
  have origin : y + 3 * (2 * (x - y)) = x := by omega
  simpa only [pi, origin] using image

theorem chi_bits : ∀ a b c d e : Bool,
    ((a ^^ (!b && c)) ^^ (!(b ^^ (!c && d)) && ((c ^^ (!d && e)) ^^ (!(d ^^ (!e && a)) &&
      (e ^^ (!a && b)))))) = a := by decide

def chiInverse (lanes : Lanes) : Lanes := fun x y =>
  lanes x y ^^^ (~~~ lanes (x + 1) y &&&
    (lanes (x + 2) y ^^^ (~~~ lanes (x + 3) y &&& lanes (x + 4) y)))

theorem chiInverse_chi (lanes : Lanes) : chiInverse (chi lanes) = lanes := by
  funext x y
  apply BitVec.eq_of_getLsbD_eq
  intro place inside
  simp only [chiInverse, chi, add_assoc, show (1 + 1 : Fin 5) = 2 from rfl,
    show (1 + 2 : Fin 5) = 3 from rfl, show (2 + 1 : Fin 5) = 3 from rfl,
    show (2 + 2 : Fin 5) = 4 from rfl, show (3 + 1 : Fin 5) = 4 from rfl,
    show (3 + 2 : Fin 5) = 0 from rfl, show (4 + 1 : Fin 5) = 0 from rfl,
    show (4 + 2 : Fin 5) = 1 from rfl, add_zero, BitVec.getLsbD_xor, BitVec.getLsbD_and,
    BitVec.getLsbD_not, inside, decide_true, Bool.true_and]
  exact chi_bits _ _ _ _ _

theorem iota_injective (constant : BitVec 64) : Function.Injective (iota constant) := by
  intro first second same
  funext x y
  have image := congrFun (congrFun same x) y
  simp only [iota] at image
  split at image
  · exact BitVec.xor_left_inj constant |>.mp image
  · exact image

theorem round_injective (constant : BitVec 64) : Function.Injective (round constant) :=
  (iota_injective constant).comp <|
    (Function.LeftInverse.injective chiInverse_chi).comp <|
      pi_injective.comp <| rho_injective.comp theta_injective

theorem rounds_injective (rounds : List Nat) :
    Function.Injective fun lanes : Lanes =>
      rounds.foldl (fun lanes index => round (roundConstant index) lanes) lanes := by
  induction rounds with
  | nil => exact Function.injective_id
  | cons index rest ih => exact ih.comp (round_injective (roundConstant index))

/-- No two states are permuted to the same one, and each state is the image of one. -/
theorem permutation_bijective : Function.Bijective permutation := by
  have : Finite (BitVec 64) := Finite.of_equiv _ BitVec.equivFin.symm.toEquiv
  exact Finite.injective_iff_bijective.mp (rounds_injective (List.range 24))

end Foundation.KeccakP
