import OutlineQuery.Number.Binary64

/-!
Numbers as they are written, with a point and an exponent or without. What has neither and fits in
64 bits is an integer. Any other numeral is a double, found in two steps that each round: as many
leading digits as fit in 64 bits make a whole number, and a power of ten then scales it. The result
can therefore be off the nearest double by its last bit.
-/
namespace OutlineQuery

/-- A number as it is written. The digits are numbers below ten. -/
structure Numeral where
  negative : Bool
  whole : List Nat
  fraction : List Nat
  exponent : Option Int
deriving DecidableEq, Repr

namespace Numeral

/-- Whole numbers without a sign are below this, as are the digits that count. -/
def wordSize : Nat := 0x10000000000000000

/-- Appends digits to a whole number while the result fits in 64 bits, and counts those appended. -/
def absorb (n : Nat) : List Nat → Nat × Nat
  | [] => (n, 0)
  | d :: rest =>
    if n * 10 + d < wordSize then
      let (m, taken) := absorb (n * 10 + d) rest
      (m, taken + 1)
    else (n, 0)

def digitsValue (ds : List Nat) : Nat :=
  ds.foldl (fun n d => n * 10 + d) 0

/-- The integer that a numeral stands for, if it is written as one and fits in 64 bits. -/
def integer? (n : Numeral) : Option Int :=
  let value := digitsValue n.whole
  if !n.fraction.isEmpty || n.exponent.isSome then none
  else if n.negative then
    -- Minus zero is no integer.
    if 0 < value ∧ value ≤ wordSize / 2 then some (-(value : Int)) else none
  else if value < wordSize then some value else none

/-- The greatest power of ten that is a double. -/
def largestPower : Nat := 308

/-- A number times a power of ten, unless that is beyond all finite ones. -/
def scale? (x : Binary64) (e : Int) : Option Binary64 :=
  if (largestPower : Int) < e then if x.units = 0 then some x else none
  else if 0 ≤ e then
    let y := x.mul (.powerOfTen e.toNat)
    if y.isFinite then some y else none
  else
    let down := (-e).toNat
    if down ≤ largestPower then some (x.div (.powerOfTen down))
    -- The power itself is beyond all doubles, so it is divided by in two steps.
    else if down ≤ 2 * largestPower then
      some ((x.div (.powerOfTen largestPower)).div (.powerOfTen (down - largestPower)))
    else some (.ofNat 0)

/-- The double that a numeral stands for, unless it is beyond all finite ones. -/
def double? (n : Numeral) : Option Binary64 :=
  let (m, taken) := absorb 0 n.whole
  let (m, more) := absorb m n.fraction
  -- A digit before the point that is left out still counts for the power of ten; one after the
  -- point does not.
  let e : Int := n.exponent.getD 0 + (n.whole.length - taken : Nat) - more
  (scale? (.ofNat m) e).map (·.withSign n.negative)

end Numeral

end OutlineQuery
