import WaterRegistry.Json.Basic
import WaterRegistry.Numeric.Digits

/-!
# Number literals

A literal without point and exponent is an integer while it fits 64 bits, signed below zero and
unsigned above; `-0` and all other literals are doubles.  A double keeps the leading digits that
fit an unsigned 64-bit word, is rounded once from these, and is then multiplied or divided by a
power of ten that is itself a double.  Literals that come out infinite have no value.
-/

namespace WaterRegistry

/-- Why a text cannot be followed any further: it is malformed, or it ends too early. -/
inductive Fault where
  | malformed
  | truncated
  deriving DecidableEq

/-- A number literal, taken apart. -/
structure Literal where
  negative : Bool
  whole : List Nat
  fraction : List Nat
  exponent : Int
  isDouble : Bool

namespace Literal

/-- At least one digit. -/
def someDigits (cs : List Char) : Except Fault (List Nat × List Char) :=
  match leadingDigits cs with
  | ([], []) => .error .truncated
  | ([], _ :: _) => .error .malformed
  | found => .ok found

/-- The digits before the point; a zero stands alone. -/
def wholePart : List Char → Except Fault (List Nat × List Char)
  | '0' :: c :: rest => if c.isDigit then .error .malformed else .ok ([0], c :: rest)
  | cs => someDigits cs

/-- The digits after a point, if there is one. -/
def fractionPart : List Char → Except Fault (Option (List Nat) × List Char)
  | '.' :: rest => (someDigits rest).map fun (ds, rest) => (some ds, rest)
  | cs => .ok (none, cs)

/-- The power after an exponent mark, if there is one. -/
def exponentPart : List Char → Except Fault (Option Int × List Char)
  | [] => .ok (none, [])
  | c :: rest =>
    if c = 'e' ∨ c = 'E' then do
      let (negative, rest) := leadingSign rest
      let (ds, rest) ← someDigits rest
      let power := natOfDigits ds
      pure (some (if negative then -(power : Int) else power), rest)
    else .ok (none, c :: rest)

/-- The literal that a text starts with, and what follows it. -/
def scan (cs : List Char) : Except Fault (Literal × List Char) := do
  let (negative, cs) := match cs with
    | '-' :: rest => (true, rest)
    | cs => (false, cs)
  let (whole, cs) ← wholePart cs
  let (fraction, cs) ← fractionPart cs
  let (exponent, cs) ← exponentPart cs
  pure ({ negative
          whole
          fraction := fraction.getD []
          exponent := exponent.getD 0
          isDouble := fraction.isSome || exponent.isSome }, cs)

/-- Appends digits to a number as long as it fits an unsigned 64-bit word; also counts the digits
left over. -/
def accumulate (n : Nat) : List Nat → Nat × Nat
  | [] => (n, 0)
  | d :: rest =>
    if n * 10 + d < Nat.pow 2 64 then accumulate (n * 10 + d) rest else (n, rest.length + 1)

/-- A power of ten as a double. -/
def powerOfTen (e : Nat) : Option Binary64 :=
  Binary64.ofNat? (Nat.pow 10 e)

/-- `n * 10 ^ e` for `n` below `2 ^ 64`: one rounding for `n`, one for the power of ten and one for
their product or quotient.  Below `10 ^ -308` the division is done in two steps; a third would leave
zero. -/
def scaled (n : Nat) (e : Int) : Option Binary64 := do
  let x ← Binary64.ofNat? n
  if x.magnitude = 0 then some x
  else if 308 < e then none
  else if 0 ≤ e then x.mul (← powerOfTen e.toNat)
  else if -308 ≤ e then x.div (← powerOfTen (-e).toNat)
  else if -616 ≤ e then (← x.div (← powerOfTen 308)).div (← powerOfTen (-e - 308).toNat)
  else some (Binary64.zero false)

/-- A double with the sign of a literal. -/
def signed (negative : Bool) (x : Binary64) : Number :=
  .double { x with negative }

/-- The number that a literal stands for, unless it is out of range. -/
def value (literal : Literal) : Option Number :=
  let (n, dropped) := accumulate 0 literal.whole
  if literal.isDouble then
    let (n, unused) := accumulate n literal.fraction
    let taken := literal.fraction.length - unused
    (scaled n (dropped - taken + literal.exponent)).map (signed literal.negative)
  else if 0 < dropped then
    (scaled n dropped).map (signed literal.negative)
  else if ¬ literal.negative then
    some (.int n)
  else if 0 < n ∧ n ≤ Nat.pow 2 63 then
    some (.int (-n))
  else
    (Binary64.ofNat? n).map (signed true)

end Literal
end WaterRegistry
