import WaterRegistry.Text.Cased
import WaterRegistry.Text.LowercaseTable

/-!
# Lowercasing

Full Unicode lowercasing.  Almost every character is mapped on its own.  `İ` becomes an `i` with a
combining dot above, and `Σ` becomes `ς` at the end of a word: behind a letter, with no letter
after it, characters that ignore case left aside on both sides.
-/

namespace WaterRegistry

/-- Whether the first character that does not ignore case has case. -/
def startsCased (cs : List Char) : Bool :=
  match cs.dropWhile isCaseIgnorable with
  | [] => false
  | c :: _ => isCased c

/-- The lowercase form of `c` behind `before`, nearest character first, and in front of `after`. -/
def lowercaseAt (before : List Char) (c : Char) (after : List Char) : List Char :=
  if c = 'Σ' then
    if startsCased before && !startsCased after then ['ς'] else ['σ']
  else if c = 'İ' then ['i', '\u0307']
  else [lowercaseChar c]

/-- Lowercases what follows `before`, nearest character first. -/
def lowercaseFrom (before : List Char) : List Char → List Char
  | [] => []
  | c :: rest => lowercaseAt before c rest ++ lowercaseFrom (c :: before) rest

/-- The lowercase form of a text. -/
def lowercase (text : String) : String :=
  String.ofList (lowercaseFrom [] text.toList)

end WaterRegistry
