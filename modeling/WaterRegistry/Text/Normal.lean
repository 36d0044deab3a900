import WaterRegistry.Text.Blank
import WaterRegistry.Text.Lowercase

/-!
# The normal form of a name

Names that differ only in case and spacing have one normal form: lowercase, without the spaces and
control characters around it, and with a single space for every run of white space inside.  Only
the six ASCII white space characters make runs, so a no-break space stays part of a name.
-/

namespace WaterRegistry

/-- Whether a character is dropped at the ends of a name: U+0020 and everything below. -/
def isMargin (c : Char) : Bool :=
  c ≤ ' '

/-- Whether a character belongs to runs of white space: space, tab, line feed, vertical tab, form
feed and carriage return. -/
def isRunSpace (c : Char) : Bool :=
  c = ' ' || c = '\t' || c = '\n' || c = '\x0b' || c = '\x0c' || c = '\r'

/-- Writes a single space for every run of white space; `inRun` tells whether a run has begun. -/
def collapseFrom (inRun : Bool) : List Char → List Char
  | [] => []
  | c :: rest =>
    if isRunSpace c then
      if inRun then collapseFrom true rest else ' ' :: collapseFrom true rest
    else c :: collapseFrom false rest

/-- Writes a single space for every run of white space. -/
def collapse (cs : List Char) : List Char :=
  collapseFrom false cs

/-- The normal form of a name. -/
def normalize (name : String) : String :=
  String.ofList (collapse (trimList isMargin (lowercase name).toList))

end WaterRegistry
