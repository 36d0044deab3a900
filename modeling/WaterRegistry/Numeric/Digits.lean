/-!
# Decimal digits

The parts that numbers are read from: a run of decimal digits, and an optional sign.  A natural
number can be told from its digits.
-/

namespace WaterRegistry

/-- The value of a decimal digit. -/
def digitValue (c : Char) : Nat :=
  c.toNat - '0'.toNat

/-- The decimal digits that a text starts with, and what follows them. -/
def leadingDigits (cs : List Char) : List Nat × List Char :=
  ((cs.takeWhile Char.isDigit).map digitValue, cs.dropWhile Char.isDigit)

/-- The natural number that digits write. -/
def natOfDigits (ds : List Nat) : Nat :=
  ds.foldl (fun n d => n * 10 + d) 0

/-- Numbers that are written alike are the same. -/
theorem toString_nat_inj {m n : Nat} : toString m = toString n ↔ m = n := by
  constructor
  · intro h
    rw [Nat.toString_eq_ofList_toDigits, Nat.toString_eq_ofList_toDigits, String.ofList_inj] at h
    have hvalue : Nat.ofDigitChars 10 (Nat.toDigits 10 m) 0 =
        Nat.ofDigitChars 10 (Nat.toDigits 10 n) 0 := by rw [h]
    rwa [Nat.ofDigitChars_ten_toDigits, Nat.ofDigitChars_ten_toDigits] at hvalue
  · rintro rfl
    rfl

/-- An optional sign, as whether it is a minus, and what follows it. -/
def leadingSign : List Char → Bool × List Char
  | '-' :: rest => (true, rest)
  | '+' :: rest => (false, rest)
  | cs => (false, cs)

end WaterRegistry
