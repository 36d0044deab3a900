/-!
# Finite binary64 numbers

A finite binary64 number is kept as its sign and the remaining sixty-three bits read as a natural
number.  That number, the *magnitude*, grows with the value it stands for, so rounding is
arithmetic on natural numbers: `roundRatio` rounds a fraction once, to nearest and halves to even,
and every other operation of this module is an exact fraction followed by `roundRatio`.  Infinities
and NaN have no representation here.
-/

namespace WaterRegistry

/-- A finite binary64 number: its sign, and its other bits as a natural number. -/
structure Binary64 where
  negative : Bool
  magnitude : Nat
  finite : magnitude < 2047 * Nat.pow 2 52
  deriving DecidableEq

namespace Binary64

/-- Positive or negative zero. -/
def zero (negative : Bool) : Binary64 :=
  ⟨negative, 0, by decide⟩

/-- Both zeros are equal as numbers; the positive one stands for them. -/
def unsignedZero (x : Binary64) : Binary64 :=
  if x.magnitude = 0 then zero false else x

/-- The integer `m` with `|x| = m * 2 ^ exponent x`. -/
def significand (x : Binary64) : Nat :=
  if x.magnitude < Nat.pow 2 52 then x.magnitude
  else x.magnitude % Nat.pow 2 52 + Nat.pow 2 52

/-- The power of two that scales `significand x`. -/
def exponent (x : Binary64) : Int :=
  if x.magnitude < Nat.pow 2 52 then -1074 else (x.magnitude / Nat.pow 2 52 : Nat) - 1075

/-- The quotient of `num` by `den`, to nearest, halves to even. -/
def divHalfEven (num den : Nat) : Nat :=
  let quotient := num / den
  let twice := 2 * (num % den)
  if twice < den ∨ (twice = den ∧ quotient % 2 = 0) then quotient else quotient + 1

/-- `num / den` divided by `2 ^ e`, as a fraction of natural numbers. -/
def scaleDown (num den : Nat) (e : Int) : Nat × Nat :=
  if 0 ≤ e then (num, den * Nat.pow 2 e.toNat) else (num * Nat.pow 2 (-e).toNat, den)

/-- The power of two that leaves `num / den` with a 53-bit integer part, or the least one there
is. -/
def exponentOfRatio (num den : Nat) : Int :=
  let guess : Int := (num.log2 : Int) - den.log2 - 52
  let (scaledNum, scaledDen) := scaleDown num den guess
  max (-1074) (if scaledNum < scaledDen * Nat.pow 2 52 then guess - 1 else guess)

/-- The magnitude nearest to `num / den`, halves to even; it may lie beyond the finite ones. -/
def magnitudeOfRatio (num den : Nat) : Nat :=
  if num = 0 then 0
  else
    let e := exponentOfRatio num den
    let (scaledNum, scaledDen) := scaleDown num den e
    (e + 1074).toNat * Nat.pow 2 52 + divHalfEven scaledNum scaledDen

/-- The number nearest to `± num / den`, halves to even, unless that is infinite. -/
def roundRatio (negative : Bool) (num den : Nat) : Option Binary64 :=
  if h : magnitudeOfRatio num den < 2047 * Nat.pow 2 52 then
    some ⟨negative, magnitudeOfRatio num den, h⟩
  else
    none

/-- The absolute value as a fraction. -/
def ratio (x : Binary64) : Nat × Nat :=
  if 0 ≤ x.exponent then (x.significand * Nat.pow 2 x.exponent.toNat, 1)
  else (x.significand, Nat.pow 2 (-x.exponent).toNat)

/-- The product, rounded once, unless it is infinite. -/
def mul (x y : Binary64) : Option Binary64 :=
  let (xn, xd) := x.ratio
  let (yn, yd) := y.ratio
  roundRatio (x.negative != y.negative) (xn * yn) (xd * yd)

/-- The quotient by a number other than zero, rounded once, unless it is infinite. -/
def div (x y : Binary64) : Option Binary64 :=
  let (xn, xd) := x.ratio
  let (yn, yd) := y.ratio
  roundRatio (x.negative != y.negative) (xn * yd) (xd * yn)

/-- The number nearest to a natural number, unless that is infinite. -/
def ofNat? (n : Nat) : Option Binary64 :=
  roundRatio false n 1

/-- How many decimal digits `n` is written with; zero has none. -/
def decimalLength (n : Nat) : Nat :=
  if n = 0 then 0 else (Nat.toDigits 10 n).length

/-- The number nearest to `± n * 10 ^ e`, unless that is infinite.  Powers that are far outside the
range on either side are settled without being computed. -/
def ofDecimal? (negative : Bool) (n : Nat) (e : Int) : Option Binary64 :=
  if n = 0 then some (zero negative)
  else if decimalLength n + e > 310 then none
  else if decimalLength n + e < -330 then some (zero negative)
  else if 0 ≤ e then roundRatio negative (n * Nat.pow 10 e.toNat) 1
  else roundRatio negative n (Nat.pow 10 (-e).toNat)

end Binary64
end WaterRegistry
