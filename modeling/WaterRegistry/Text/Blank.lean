import WaterRegistry.Text.Ranges

/-!
# White space

Three notions of white space meet in a registry: the Unicode property `White_Space`, which is what
trimming a text removes; the six ASCII characters that separate words of a name; and everything up
to U+0020, which is dropped around a name.
-/

namespace WaterRegistry

/-- The ranges of `White_Space`. -/
def blankRanges : CharRanges :=
  [(0x9, 0xD), (0x20, 0x20), (0x85, 0x85), (0xA0, 0xA0), (0x1680, 0x1680), (0x2000, 0x200A),
    (0x2028, 0x2029), (0x202F, 0x202F), (0x205F, 0x205F), (0x3000, 0x3000)]

/-- Whether a character is white space. -/
def isBlank (c : Char) : Bool :=
  blankRanges.contains c

/-- A list without the elements at its start and end that satisfy `p`. -/
def trimList (p : Char → Bool) (cs : List Char) : List Char :=
  ((cs.dropWhile p).reverse.dropWhile p).reverse

/-- A text without white space at its start and end. -/
def trim (text : String) : String :=
  String.ofList (trimList isBlank text.toList)

end WaterRegistry
