import WaterRegistry.Json.Basic
import WaterRegistry.Numeric.Measurement
import WaterRegistry.Survey.Table

/-!
# Survey rows

A row of the survey table describes one water point.  `Row.toDocument` is its document: the five
identifying values always, and of the other columns those that hold something.  Numbers without a
finite value are left out, and so are coordinates when none is left.
-/

namespace WaterRegistry
namespace Survey

/-- One row of the survey table. -/
structure Row where
  geoCode : String
  waterPointType : String
  county : String
  district : String
  community : String
  lat : Option Measurement
  lon : Option Measurement
  elevation : Option Measurement
  waterPointTypeOther : Option String
  extractionType : Option String
  extractionTypeOther : Option String
  pumpType : Option String
  pumpTypeOther : Option String
  numTaps : Option Measurement
  hasDepthInfo : Option String
  depthMetres : Option Measurement
  installer : Option String
  installerOther : Option String
  owner : Option String
  funder : Option String
  photoUrl : Option String
  deriving DecidableEq

/-- A number field, if the column holds a finite number. -/
def numberField (key : String) : Option Measurement → Fields
  | some (.finite value) => [(key, .num (.double value))]
  | _ => []

/-- A text field, if the column holds a text that is not empty. -/
def textField (key : String) : Option String → Fields
  | some text => if text = "" then [] else [(key, .str text)]
  | none => []

/-- A field that tells whether the column says yes, in any case, if it says something. -/
def yesField (key : String) : Option String → Fields
  | some text => [(key, .bool (text.toList.map Char.toLower = ['y', 'e', 's']))]
  | none => []

/-- A field with an object, unless the object would be empty. -/
def objectField (key : String) (fields : Fields) : Fields :=
  if fields.isEmpty then [] else [(key, .obj fields)]

namespace Row

/-- The row of a table that says nothing. -/
def blank : Row where
  geoCode := ""
  waterPointType := ""
  county := ""
  district := ""
  community := ""
  lat := none
  lon := none
  elevation := none
  waterPointTypeOther := none
  extractionType := none
  extractionTypeOther := none
  pumpType := none
  pumpTypeOther := none
  numTaps := none
  hasDepthInfo := none
  depthMetres := none
  installer := none
  installerOther := none
  owner := none
  funder := none
  photoUrl := none

/-- The coordinates that a row gives. -/
def coordinates (row : Row) : Fields :=
  numberField "lat" row.lat ++ numberField "lon" row.lon ++ numberField "elevation" row.elevation

/-- The location that a row gives. -/
def location (row : Row) : Fields :=
  [("county", .str row.county), ("district", .str row.district),
    ("community", .str row.community)] ++ objectField "coordinates" row.coordinates

/-- The fields that a row fills only where its columns hold something. -/
def details (row : Row) : Fields :=
  textField "waterPointTypeOther" row.waterPointTypeOther ++
  textField "extractionType" row.extractionType ++
  textField "extractionTypeOther" row.extractionTypeOther ++
  textField "pumpType" row.pumpType ++
  textField "pumpTypeOther" row.pumpTypeOther ++
  numberField "numTaps" row.numTaps ++
  yesField "hasDepthInfo" row.hasDepthInfo ++
  numberField "depthMetres" row.depthMetres ++
  textField "installer" row.installer ++
  textField "installerOther" row.installerOther ++
  textField "owner" row.owner ++
  textField "funder" row.funder ++
  textField "photoUrl" row.photoUrl

/-- The document of the water point that a row describes. -/
def toDocument (row : Row) : Json :=
  .obj ([("geoCode", .str row.geoCode), ("waterPointType", .str row.waterPointType),
    ("location", .obj row.location)] ++ row.details)

end Row

/-- A column of the survey table: its name, and how a cell is put into a row, unless the cell does
not fit the column. -/
structure Column where
  name : String
  assign : Row → String → Option Row

/-- A cell of an optional column; an empty one is absent. -/
def optionalText (cell : String) : Option String :=
  if cell = "" then none else some cell

/-- A column of texts. -/
def textColumn (name : String) (put : Row → String → Row) : Column :=
  ⟨name, fun row cell => some (put row cell)⟩

/-- A column of optional texts. -/
def optionalColumn (name : String) (put : Row → Option String → Row) : Column :=
  ⟨name, fun row cell => some (put row (optionalText cell))⟩

/-- A column of optional numbers. -/
def numberColumn (name : String) (put : Row → Option Measurement → Row) : Column :=
  ⟨name, fun row cell =>
    if cell = "" then some (put row none)
    else (Measurement.ofText? cell).map fun value => put row (some value)⟩

/-- The columns of the survey table. -/
def columns : List Column := [
  textColumn "geo_code" fun row geoCode => { row with geoCode },
  textColumn "water_point_type" fun row waterPointType => { row with waterPointType },
  textColumn "county" fun row county => { row with county },
  textColumn "district" fun row district => { row with district },
  textColumn "community" fun row community => { row with community },
  numberColumn "lat" fun row lat => { row with lat },
  numberColumn "lon" fun row lon => { row with lon },
  numberColumn "elevation" fun row elevation => { row with elevation },
  optionalColumn "water_point_type_other" fun row waterPointTypeOther =>
    { row with waterPointTypeOther },
  optionalColumn "extraction_type" fun row extractionType => { row with extractionType },
  optionalColumn "extraction_type_other" fun row extractionTypeOther =>
    { row with extractionTypeOther },
  optionalColumn "pump_type" fun row pumpType => { row with pumpType },
  optionalColumn "pump_type_other" fun row pumpTypeOther => { row with pumpTypeOther },
  numberColumn "num_taps" fun row numTaps => { row with numTaps },
  optionalColumn "has_depth_info" fun row hasDepthInfo => { row with hasDepthInfo },
  numberColumn "depth_metres" fun row depthMetres => { row with depthMetres },
  optionalColumn "installer" fun row installer => { row with installer },
  optionalColumn "installer_other" fun row installerOther => { row with installerOther },
  optionalColumn "owner" fun row owner => { row with owner },
  optionalColumn "funder" fun row funder => { row with funder },
  optionalColumn "photo_url" fun row photoUrl => { row with photoUrl }]

/-- Why a record is no survey row. -/
inductive RowError where
  | duplicateColumn (position : Position) (name : String)
  | notANumber (position : Position) (field : Nat)
  deriving DecidableEq

/-- The wording of a row error. -/
def RowError.message : RowError → String
  | .duplicateColumn position name => located position ++ "duplicate field `" ++ name ++ "`"
  | .notANumber position field =>
    located position ++ "field " ++ toString field ++ ": invalid float literal"
where
  located (position : Position) : String :=
    "CSV deserialize error: record " ++ toString position.record ++ " (line: " ++
      toString position.line ++ ", byte: " ++ toString position.byte ++ "): "

namespace Row

/-- Puts the cells of a record into a row, in the order of the header.  `seen` are the columns met
so far; none may be met twice, and names that are no columns are passed over. -/
def assignCells (position : Position) (index : Nat) (seen : List String) (row : Row) :
    List (String × String) → Except RowError Row
  | [] => .ok row
  | (name, cell) :: rest =>
    match columns.find? (·.name = name) with
    | none => assignCells position (index + 1) seen row rest
    | some column =>
      if name ∈ seen then .error (.duplicateColumn position name)
      else
        match column.assign row cell with
        | none => .error (.notANumber position index)
        | some row => assignCells position (index + 1) (name :: seen) row rest

/-- The row that a record holds. -/
def ofRecord (header : List String) (record : Record) : Except RowError Row :=
  assignCells record.position 0 [] blank (header.zip record.fields)

end Row
end Survey
end WaterRegistry
