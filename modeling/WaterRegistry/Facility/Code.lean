/-!
# Short codes

The readable part of a facility identifier: an abbreviation of the county and of the district, and
the code of the kind of water point.  What has no code of its own gets the placeholder `UNK`.
-/

namespace WaterRegistry

/-- The code of what has no code of its own. -/
def unknownCode : String := "UNK"

/-- The kinds of water points with their codes. -/
def typeCodes : List (String × String) := [
  ("Protected dug well", "PDW"),
  ("Unprotected dug well", "UDW"),
  ("Tube well or borehole", "TWB"),
  ("Protected spring", "PS"),
  ("Unprotected spring", "US"),
  ("Piped water into dwelling/plot/yard", "PWD"),
  ("Public tap/standpipe", "PTS"),
  ("Unequipped borehole", "UEB"),
  ("Rainwater (harvesting)", "RWH"),
  ("Sand/Sub-surface dam (with well or standpipe)", "SSD"),
  ("Other", "OTH")]

/-- The code of a kind of water point, which has to be spelled exactly. -/
def typeCode (waterPointType : String) : String :=
  (typeCodes.lookup waterPointType).getD unknownCode

/-- The first three ASCII letters and digits of a name, in capitals. -/
def initials (name : String) : List Char :=
  ((name.toList.filter Char.isAlphanum).take 3).map Char.toUpper

/-- The abbreviation of a place name: its initials, or the placeholder if there are none. -/
def abbreviate (name : String) : String :=
  if (initials name).isEmpty then unknownCode else String.ofList (initials name)

end WaterRegistry
