import WaterRegistry.Numeric.Binary64

/-!
# The shortest decimal that reads back

Of all decimals that round to a given number, the one written has the fewest digits, and among
those it is the nearest, with an even last digit if two are equally near.  `shortest` looks on the
grid of one-digit decimals, then on the grid of two-digit decimals, and so on: on each grid only the
two neighbours of the number can qualify.  Seventeen digits always suffice.

`Binary64.text` lays these digits out: plainly when the decimal point falls close to them, and with
an exponent otherwise.
-/

namespace WaterRegistry
namespace Binary64

/-- The decimals that round to a number, as bounds on a common denominator. -/
structure RoundingInterval where
  low : Nat
  value : Nat
  high : Nat
  denominator : Nat
  closed : Bool

/-- Half way to either neighbour; below a power of two the lower neighbour is closer.  The ends
round to the number itself exactly when its significand is even. -/
def roundingInterval (x : Binary64) : RoundingInterval :=
  let m := x.significand
  let below := if m = Nat.pow 2 52 ∧ x.exponent ≠ -1074 then 1 else 2
  let e := x.exponent - 2
  let scale := Nat.pow 2 e.toNat
  { low := (4 * m - below) * scale
    value := 4 * m * scale
    high := (4 * m + 2) * scale
    denominator := Nat.pow 2 (-e).toNat
    closed := m % 2 = 0 }

/-- Whether the fraction `num / den` rounds to the number the interval belongs to. -/
def RoundingInterval.admits (i : RoundingInterval) (num den : Nat) : Bool :=
  let low := i.low * den
  let point := num * i.denominator
  let high := i.high * den
  if i.closed then low ≤ point ∧ point ≤ high else low < point ∧ point < high

/-- The `k` with `10 ^ (k - 1) ≤ num / den < 10 ^ k`. -/
def pointPosition (num den : Nat) : Int :=
  if den ≤ num then decimalLength (num / den)
  else 1 - decimalLength ((den + num - 1) / num - 1)

/-- The multiple of `10 ^ exponent` on the grid next to the number, if one rounds to it: the nearer
of two, and the even one half way between them. -/
def RoundingInterval.onGrid (i : RoundingInterval) (exponent : Int) : Option Nat :=
  let up := Nat.pow 10 exponent.toNat
  let down := Nat.pow 10 (-exponent).toNat
  let below := i.value * down / (i.denominator * up)
  let above := below + 1
  match i.admits (below * up) down, i.admits (above * up) down with
  | true, false => some below
  | false, true => some above
  | false, false => none
  | true, true =>
    let twice := 2 * i.value * down
    let middle := (below + above) * up * i.denominator
    some (if twice < middle ∨ (twice = middle ∧ below % 2 = 0) then below else above)

/-- Looks on the grids of `count`, `count + 1`, … digits, `fuel` of them at most. -/
def RoundingInterval.search (i : RoundingInterval) (point : Int) : Nat → Nat → Nat × Int
  | 0, _ => (0, 0)
  | fuel + 1, count =>
    match i.onGrid (point - count) with
    | some n => (n, point - count)
    | none => i.search point fuel (count + 1)

/-- The shortest decimal `n * 10 ^ e` that rounds to the absolute value of a number, as `(n, e)`. -/
def shortest (x : Binary64) : Nat × Int :=
  let i := x.roundingInterval
  i.search (pointPosition i.value i.denominator) 17 1

/-- The digits of a positive decimal without its trailing zeros. -/
def significantDigits (n : Nat) : List Char :=
  ((Nat.toDigits 10 n).reverse.dropWhile (· = '0')).reverse

/-- Lays digits out around the decimal point that follows the first `point` of them: plainly from
five places behind the point to sixteen before it, with an exponent and its sign otherwise. -/
def layOut (digits : List Char) (point : Int) : List Char :=
  if 0 < point ∧ point ≤ 16 then
    let whole := point.toNat
    if digits.length ≤ whole then
      digits ++ List.replicate (whole - digits.length) '0' ++ ['.', '0']
    else
      digits.take whole ++ '.' :: digits.drop whole
  else if -5 < point ∧ point ≤ 0 then
    '0' :: '.' :: List.replicate (-point).toNat '0' ++ digits
  else
    let mantissa := match digits with
      | [] => []
      | [d] => [d]
      | d :: rest => d :: '.' :: rest
    let power := point - 1
    mantissa ++ 'e' :: (if power < 0 then '-' else '+') :: Nat.toDigits 10 power.natAbs

/-- How a number is written: its shortest digits, and always a fraction or an exponent. -/
def text (x : Binary64) : String :=
  let sign := if x.negative then ['-'] else []
  if x.magnitude = 0 then String.ofList (sign ++ ['0', '.', '0'])
  else
    let (n, e) := x.shortest
    String.ofList (sign ++ layOut (significantDigits n) ((Nat.toDigits 10 n).length + e))

end Binary64
end WaterRegistry
