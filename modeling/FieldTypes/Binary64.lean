set_option autoImplicit false

namespace FieldTypes

/-- A number of the 64-bit binary format: sign, eleven bits of exponent, 52 bits of fraction. -/
structure Binary64 where
  bits : UInt64
  deriving DecidableEq, Repr, Inhabited

namespace Binary64

/-- The pattern of positive infinity; every finite magnitude has a smaller pattern. -/
def infinityPattern : Nat := 2047 * Nat.pow 2 52

def magnitude (x : Binary64) : Nat := x.bits.toNat % Nat.pow 2 63

def isNegative (x : Binary64) : Bool := decide (Nat.pow 2 63 ≤ x.bits.toNat)

def isZero (x : Binary64) : Bool := x.magnitude == 0

def isFinite (x : Binary64) : Bool := decide (x.magnitude < infinityPattern)

/-- Finite, and with the leading bit of the significand implied: neither zero nor subnormal. -/
def isNormal (x : Binary64) : Bool := x.isFinite && decide (Nat.pow 2 52 ≤ x.magnitude)

def biased (x : Binary64) : Nat := x.magnitude / Nat.pow 2 52

/-- A finite magnitude is `significand * 2 ^ exponent`. -/
def significand (x : Binary64) : Nat :=
  if x.biased = 0 then x.magnitude % Nat.pow 2 52 else Nat.pow 2 52 + x.magnitude % Nat.pow 2 52

def exponent (x : Binary64) : Int := (max x.biased 1 : Nat) - 1075

def negate (x : Binary64) : Binary64 := ⟨x.bits ^^^ 0x8000000000000000⟩

/-- The natural nearest to `num / den`, a tie going to the even one. -/
def roundQuotient (num den : Nat) : Nat :=
  let quotient := num / den
  let rest := num % den
  if 2 * rest > den ∨ (2 * rest = den ∧ quotient % 2 = 1) then quotient + 1 else quotient

/-- Numerator and denominator of `num / (den * 2 ^ power)`. -/
def divideByPower (num den : Nat) (power : Int) : Nat × Nat :=
  (num * Nat.pow 2 (-power).toNat, den * Nat.pow 2 power.toNat)

def leadingExponent (num den : Nat) : Int :=
  let estimate : Int := (num.log2 : Int) - den.log2
  let scaled := divideByPower num den estimate
  if scaled.1 < scaled.2 then estimate - 1 else estimate

/-- The non-negative number nearest to `num / den`; infinity from the first magnitude out of range. -/
def nearest (num den : Nat) : Binary64 :=
  if num = 0 then ⟨0⟩
  else
    let lowest := max (leadingExponent num den - 52) (-1074)
    let scaled := divideByPower num den lowest
    let pattern := (lowest + 1074).toNat * Nat.pow 2 52 + roundQuotient scaled.1 scaled.2
    ⟨UInt64.ofNat (min pattern infinityPattern)⟩

/-- The number nearest to the product of two finite magnitudes. -/
def multiply (x y : Binary64) : Binary64 :=
  let power := x.exponent + y.exponent
  nearest (x.significand * y.significand * Nat.pow 2 power.toNat) (Nat.pow 2 (-power).toNat)

def divide (x y : Binary64) : Binary64 :=
  let power := x.exponent - y.exponent
  nearest (x.significand * Nat.pow 2 power.toNat) (y.significand * Nat.pow 2 (-power).toNat)

def powerOfTen (power : Nat) : Binary64 := nearest (Nat.pow 10 power) 1

end Binary64

end FieldTypes
