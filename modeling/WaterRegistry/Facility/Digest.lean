import WaterRegistry.Digest.Sha256
import WaterRegistry.Text.Normal

/-!
# The digest of identifying values

The values that identify a facility are brought to normal form, joined by bars and digested.  Three
bytes of the digest are kept: enough to tell facilities of one kind in one district apart, and few
enough that collisions happen.
-/

namespace WaterRegistry

/-- The normal forms of the values, joined by bars. -/
def canonicalText (values : List String) : String :=
  String.intercalate "|" (values.map normalize)

/-- The bytes of the digest that are kept. -/
def digestBytes (values : List String) : List UInt8 :=
  (Sha256.digest (canonicalText values).toUTF8.data.toList).take 3

/-- A hexadecimal digit, in capitals. -/
def capitalHexDigit (n : Nat) : Char :=
  (Nat.digitChar n).toUpper

/-- A byte as two hexadecimal digits. -/
def hexByte (byte : UInt8) : List Char :=
  [capitalHexDigit (byte.toNat / 16), capitalHexDigit (byte.toNat % 16)]

/-- The six hexadecimal digits of the kept bytes. -/
def hashSuffix (values : List String) : String :=
  String.ofList ((digestBytes values).flatMap hexByte)

end WaterRegistry
