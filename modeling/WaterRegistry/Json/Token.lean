import WaterRegistry.Json.Literal

/-!
# Tokens of a JSON text

The lexical layer cuts a text into punctuation, words, numbers and strings.  It never stops at a
value that merely cannot be used: a number out of range and a string with half a surrogate pair are
tokens without a value, because a reader that skips them goes on.  A text that cannot be cut any
further ends in a broken token.  Reading and skipping can find different faults there: a number
that ends too early counts as malformed when it is skipped.
-/

namespace WaterRegistry

/-- A token of a JSON text. -/
inductive Token where
  | openBracket
  | closeBracket
  | openBrace
  | closeBrace
  | comma
  | colon
  | null
  | bool (value : Bool)
  | number (value : Option Number)
  /-- A string: what reading it gives, and the fault that skipping it finds, if any.  After such a
  fault the text cannot be followed. -/
  | text (reading : Except Fault String) (skipping : Option Fault)
  /-- Something that is no token: the faults that reading and skipping it find. -/
  | broken (reading skipping : Fault)

namespace Token

/-- The value of a hexadecimal digit. -/
def hexValue? (c : Char) : Option Nat :=
  if '0' ≤ c ∧ c ≤ '9' then some (c.toNat - '0'.toNat)
  else if 'a' ≤ c ∧ c ≤ 'f' then some (c.toNat - 'a'.toNat + 10)
  else if 'A' ≤ c ∧ c ≤ 'F' then some (c.toNat - 'A'.toNat + 10)
  else none

/-- The fault of a text that should go on with four hexadecimal digits and does not: it ends too
early when fewer than four bytes are left. -/
def hexFault (cs : List Char) : Fault :=
  if (String.ofList cs).utf8ByteSize < 4 then .truncated else .malformed

/-- The 16-bit unit that four hexadecimal digits write. -/
def hexUnit : List Char → Except Fault (Nat × List Char)
  | a :: b :: c :: d :: rest =>
    match hexValue? a, hexValue? b, hexValue? c, hexValue? d with
    | some a, some b, some c, some d => .ok (((a * 16 + b) * 16 + c) * 16 + d, rest)
    | _, _, _, _ => .error (hexFault (a :: b :: c :: d :: rest))
  | cs => .error (hexFault cs)

/-- Whether a 16-bit unit is the first half of a surrogate pair. -/
def isLeading (unit : Nat) : Bool :=
  0xD800 ≤ unit ∧ unit ≤ 0xDBFF

/-- Whether a 16-bit unit is the second half of a surrogate pair. -/
def isTrailing (unit : Nat) : Bool :=
  0xDC00 ≤ unit ∧ unit ≤ 0xDFFF

/-- The character that an escape writes after its `\u`: one unit, or a surrogate pair with a second
escape. -/
def unicodeEscape (cs : List Char) : Except Fault (Char × List Char) := do
  let (unit, rest) ← hexUnit cs
  if isTrailing unit then .error .malformed
  else if isLeading unit then
    match rest with
    | [] | ['\\'] => .error .truncated
    | '\\' :: 'u' :: rest =>
      let (second, rest) ← hexUnit rest
      if isTrailing second then
        pure (Char.ofNat (0x10000 + (unit - 0xD800) * 0x400 + (second - 0xDC00)), rest)
      else .error .malformed
    | _ => .error .malformed
  else pure (Char.ofNat unit, rest)

/-- The character that a one-letter escape writes. -/
def shortEscape? (c : Char) : Option Char :=
  match c with
  | '"' => some '"'
  | '\\' => some '\\'
  | '/' => some '/'
  | 'b' => some '\x08'
  | 'f' => some '\x0c'
  | 'n' => some '\n'
  | 'r' => some '\r'
  | 't' => some '\t'
  | _ => none

/-- Reads the rest of a string up to its closing quote.  `done` holds the characters so far, last
first; every step uses up at least one of the `fuel` characters. -/
def readString (done : List Char) : Nat → List Char → Except Fault (String × List Char)
  | 0, _ | _, [] => .error .truncated
  | fuel + 1, c :: rest =>
    if c = '"' then .ok (String.ofList done.reverse, rest)
    else if c = '\\' then
      match rest with
      | [] => .error .truncated
      | 'u' :: rest => do
        let (c, rest) ← unicodeEscape rest
        readString (c :: done) fuel rest
      | e :: rest =>
        match shortEscape? e with
        | some c => readString (c :: done) fuel rest
        | none => .error .malformed
    else if c.val < 32 then .error .malformed
    else readString (c :: done) fuel rest

/-- Skips the rest of a string up to its closing quote; any four digits do after `\u`. -/
def skipString : Nat → List Char → Except Fault (List Char)
  | 0, _ | _, [] => .error .truncated
  | fuel + 1, c :: rest =>
    if c = '"' then .ok rest
    else if c = '\\' then
      match rest with
      | [] => .error .truncated
      | 'u' :: rest => do
        let (_, rest) ← hexUnit rest
        skipString fuel rest
      | e :: rest =>
        match shortEscape? e with
        | some _ => skipString fuel rest
        | none => .error .malformed
    else if c.val < 32 then .error .malformed
    else skipString fuel rest

/-- The string that a text goes on with after an opening quote, and what follows it. -/
def string (cs : List Char) : Token × List Char :=
  match readString [] cs.length cs with
  | .ok (value, rest) => (.text (.ok value) none, rest)
  | .error fault =>
    match skipString cs.length cs with
    | .ok rest => (.text (.error fault) none, rest)
    | .error skipping => (.text (.error fault) (some skipping), [])

/-- The number that a text starts with, and what follows it. -/
def numeral (cs : List Char) : Token × List Char :=
  match Literal.scan cs with
  | .ok (literal, rest) => (.number literal.value, rest)
  | .error fault => (.broken fault .malformed, [])

/-- A word whose remaining letters are known. -/
def word (token : Token) : List Char → List Char → Token × List Char
  | [], cs => (token, cs)
  | _ :: _, [] => (.broken .truncated .truncated, [])
  | expected :: more, c :: rest =>
    if c = expected then word token more rest else (.broken .malformed .malformed, [])

/-- Whether a character may stand between tokens. -/
def isSpacing (c : Char) : Bool :=
  c = ' ' || c = '\n' || c = '\t' || c = '\r'

/-- The token that starts with `c`, and what follows it. -/
def next (c : Char) (rest : List Char) : Token × List Char :=
  match c with
  | '[' => (.openBracket, rest)
  | ']' => (.closeBracket, rest)
  | '\x7b' => (.openBrace, rest)
  | '\x7d' => (.closeBrace, rest)
  | ',' => (.comma, rest)
  | ':' => (.colon, rest)
  | '"' => string rest
  | 'n' => word .null ['u', 'l', 'l'] rest
  | 't' => word (.bool true) ['r', 'u', 'e'] rest
  | 'f' => word (.bool false) ['a', 'l', 's', 'e'] rest
  | _ => if c = '-' || c.isDigit then numeral (c :: rest) else (.broken .malformed .malformed, [])

/-- The tokens of a text, each step using up at least one of the `fuel` characters. -/
def scanFrom : Nat → List Char → List Token
  | 0, _ | _, [] => []
  | fuel + 1, c :: rest =>
    if isSpacing c then scanFrom fuel rest
    else
      let (token, rest) := next c rest
      token :: scanFrom fuel rest

/-- The tokens of a text. -/
def scan (text : String) : List Token :=
  scanFrom text.length text.toList

end Token
end WaterRegistry
