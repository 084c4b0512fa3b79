/-!
Double precision numbers by their bits. Every finite one is a whole number of units, where a unit is
the least positive number, two to the power of -1074; arithmetic rounds the exact result to the
nearest number, with ties to the one whose last bit is zero.
-/
namespace OutlineQuery

/-- A double precision number: sign, eleven bits of exponent, fifty-two bits of fraction. -/
structure Binary64 where
  bits : UInt64
deriving DecidableEq, Repr

namespace Binary64

def one : Binary64 := ⟨0x3ff0000000000000⟩

/-- The number of fractions. -/
def fractionSize : Nat := 0x10000000000000

def signBit : Nat := 0x8000000000000000

/-- The first bit pattern without a sign that is no finite number. -/
def infinity : Nat := 2047 * fractionSize

def magnitude (x : Binary64) : Nat :=
  x.bits.toNat % signBit

def negative (x : Binary64) : Bool :=
  signBit ≤ x.bits.toNat

def isFinite (x : Binary64) : Bool :=
  x.magnitude < infinity

def ofMagnitude (negative : Bool) (magnitude : Nat) : Binary64 :=
  ⟨UInt64.ofNat (if negative then signBit + magnitude else magnitude)⟩

def withSign (negative : Bool) (x : Binary64) : Binary64 :=
  ofMagnitude negative x.magnitude

/-- The part of a number before its power of two: the fraction, with the bit that stands before it
unless the exponent field is zero. -/
def significand (x : Binary64) : Nat :=
  if x.magnitude < fractionSize then x.magnitude else fractionSize + x.magnitude % fractionSize

/-- The power of two, in units, by which the significand counts. -/
def scale (x : Binary64) : Nat :=
  x.magnitude / fractionSize - 1

/-- How many units a finite number is away from zero. -/
def units (x : Binary64) : Nat :=
  x.significand * Nat.pow 2 x.scale

def unitsOfOne : Nat := Nat.pow 2 1074

/-- The quotient rounded to the nearest natural number, ties to even. -/
def roundDiv (num den : Nat) : Nat :=
  let q := num / den
  let r := num % den
  if den < 2 * r ∨ (2 * r = den ∧ q % 2 = 1) then q + 1 else q

/-- The number, without a sign, that is nearest to `num / den` units; infinity lies beyond the
finite ones. -/
def nearest (num den : Nat) : Binary64 :=
  let e := (num / den).log2 - 52
  -- The exponent field and the fraction are one number, so a carry out of the fraction raises the
  -- exponent.
  ofMagnitude false (min infinity (e * fractionSize + roundDiv num (den * Nat.pow 2 e)))

def ofNat (n : Nat) : Binary64 :=
  nearest (n * unitsOfOne) 1

/-- The product of two finite numbers without their signs. -/
def mul (x y : Binary64) : Binary64 :=
  nearest (x.units * y.units) unitsOfOne

/-- The quotient of two finite numbers without their signs; the divisor is not zero. -/
def div (x y : Binary64) : Binary64 :=
  nearest (x.units * unitsOfOne) y.units

def powerOfTen (n : Nat) : Binary64 :=
  ofNat (Nat.pow 10 n)

def ofInt (i : Int) : Binary64 :=
  withSign (i < 0) (ofNat i.natAbs)

/-- The bits as sixteen hexadecimal digits after `0x`. -/
def hex (x : Binary64) : String :=
  let ds := Nat.toDigits 16 x.bits.toNat
  "0x" ++ String.ofList (List.replicate (16 - ds.length) '0' ++ ds)

end Binary64

end OutlineQuery
