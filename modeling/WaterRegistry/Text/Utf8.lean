/-!
# Bytes that are not UTF-8

Reading bytes as UTF-8 goes from left to right.  Where no character can be read, the longest run
of bytes that could still have begun one is passed over as a single fault, and reading goes on
behind it.
-/

namespace WaterRegistry
namespace Utf8

/-- Whether a byte continues a character. -/
def isContinuation (b : UInt8) : Bool :=
  0x80 ≤ b && b ≤ 0xBF

/-- The payload of a continuation byte. -/
def payload (b : UInt8) : Nat :=
  b.toNat % 64

/-- Whether `b` may follow the first byte `a` of a character of three or four bytes. -/
def mayFollow (a b : UInt8) : Bool :=
  if a = 0xE0 then 0xA0 ≤ b && b ≤ 0xBF
  else if a = 0xED then 0x80 ≤ b && b ≤ 0x9F
  else if a = 0xF0 then 0x90 ≤ b && b ≤ 0xBF
  else if a = 0xF4 then 0x80 ≤ b && b ≤ 0x8F
  else isContinuation b

/-- The character that starts with byte `a` and goes on with `rest`, if there is one, and how many
bytes of `rest` are used up. -/
def next (a : UInt8) (rest : List UInt8) : Option Char × Nat :=
  if a < 0x80 then (some (Char.ofNat a.toNat), 0)
  else if 0xC2 ≤ a && a ≤ 0xDF then
    match rest with
    | b :: _ =>
      if isContinuation b then (some (Char.ofNat (a.toNat % 32 * 64 + payload b)), 1)
      else (none, 0)
    | [] => (none, 0)
  else if 0xE0 ≤ a && a ≤ 0xEF then
    match rest with
    | b :: more =>
      if mayFollow a b then
        match more with
        | c :: _ =>
          if isContinuation c then
            (some (Char.ofNat ((a.toNat % 16 * 64 + payload b) * 64 + payload c)), 2)
          else (none, 1)
        | [] => (none, 1)
      else (none, 0)
    | [] => (none, 0)
  else if 0xF0 ≤ a && a ≤ 0xF4 then
    match rest with
    | b :: more =>
      if mayFollow a b then
        match more with
        | c :: more =>
          if isContinuation c then
            match more with
            | d :: _ =>
              if isContinuation d then
                (some (Char.ofNat
                  (((a.toNat % 8 * 64 + payload b) * 64 + payload c) * 64 + payload d)), 3)
              else (none, 2)
            | [] => (none, 2)
          else (none, 1)
        | [] => (none, 1)
      else (none, 0)
    | [] => (none, 0)
  else (none, 0)

/-- Characters and faults from left to right, each with its offset; every step uses up at least one
of the `fuel` bytes. -/
def scanFrom (offset : Nat) : Nat → List UInt8 → List (Nat × Option Char)
  | 0, _ | _, [] => []
  | fuel + 1, a :: rest =>
    let (found, used) := next a rest
    (offset, found) :: scanFrom (offset + 1 + used) fuel (rest.drop used)

/-- Characters and faults of some bytes, each with its offset. -/
def scan (bytes : List UInt8) : List (Nat × Option Char) :=
  scanFrom 0 bytes.length bytes

/-- The offset of the first fault. -/
def firstFault? (bytes : List UInt8) : Option Nat :=
  ((scan bytes).find? (·.2.isNone)).map (·.1)

/-- The text of some bytes, with U+FFFD for every fault. -/
def lossyText (bytes : List UInt8) : String :=
  String.ofList ((scan bytes).map fun found => found.2.getD '\uFFFD')

end Utf8
end WaterRegistry
