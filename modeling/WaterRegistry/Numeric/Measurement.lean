import WaterRegistry.Numeric.Binary64
import WaterRegistry.Numeric.Digits

/-!
# Measurements

A measurement is a number as survey tables write it: decimal, with an optional sign, an optional
fraction with digits on at least one side of the point, and an optional exponent.  Infinities and
NaN can be written out, and a decimal beyond all doubles is infinite.
-/

namespace WaterRegistry

/-- A number of a survey table. -/
inductive Measurement where
  | finite (value : Binary64)
  | infinite (negative : Bool)
  | notANumber
  deriving DecidableEq

namespace Measurement

/-- The digits behind a point, if there is one. -/
def fraction : List Char → List Nat × List Char
  | '.' :: rest => leadingDigits rest
  | cs => ([], cs)

/-- The power that an exponent mark and what follows it write; without a mark it is zero. -/
def power? : List Char → Option Int
  | [] => some 0
  | c :: rest =>
    if c = 'e' ∨ c = 'E' then
      let (negative, rest) := leadingSign rest
      match leadingDigits rest with
      | (d :: ds, []) =>
        let n := natOfDigits (d :: ds)
        some (if negative then -(n : Int) else n)
      | _ => none
    else none

/-- A decimal with its sign taken off. -/
def decimal? (negative : Bool) (cs : List Char) : Option Measurement :=
  let (whole, rest) := leadingDigits cs
  let (behind, rest) := fraction rest
  if whole.isEmpty && behind.isEmpty then none
  else
    (power? rest).map fun power =>
      let n := natOfDigits (whole ++ behind)
      match Binary64.ofDecimal? negative n (power - behind.length) with
      | some value => .finite value
      | none => .infinite negative

/-- The measurement that a text writes. -/
def ofText? (text : String) : Option Measurement :=
  let (negative, cs) := leadingSign text.toList
  let word := String.ofList (cs.map Char.toLower)
  if word = "nan" then some .notANumber
  else if word = "inf" ∨ word = "infinity" then some (.infinite negative)
  else decimal? negative cs

end Measurement
end WaterRegistry
