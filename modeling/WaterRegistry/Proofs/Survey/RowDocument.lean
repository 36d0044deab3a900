import WaterRegistry.Facility.Key
import WaterRegistry.Document.Path
import WaterRegistry.Proofs.Document.Optional
import WaterRegistry.Survey.Row

/-!
# The document of a survey row

A row has twenty-one columns, and there are four rules for when a column is present in its document.
All of them give a key that may have no value, so the document can be looked up key by key: what is
read as the key of the facility is what five of the columns say, verbatim, and no other column has a
part in it.  Nothing in the document is null or an empty object.
-/

namespace WaterRegistry
namespace Survey

/-- The value for a column of texts, unless it is empty. -/
def textValue (column : Option String) : Option Json :=
  (column.filter (· ≠ "")).map .str

/-- The value for a column of numbers, unless it is not finite. -/
def numberValue : Option Measurement → Option Json
  | some (.finite value) => some (.num (.double value))
  | _ => none

/-- The value for a column that says yes or something else. -/
def yesValue (column : Option String) : Option Json :=
  column.map fun text => .bool (text.toList.map Char.toLower = ['y', 'e', 's'])

/-- The value for fields, unless there are none. -/
def objectValue (fields : Fields) : Option Json :=
  if fields.isEmpty then none else some (.obj fields)

theorem textField_eq (key : String) (column : Option String) :
    textField key column = Fields.present [(key, textValue column)] := by
  cases column with
  | none => rfl
  | some text =>
      by_cases h : text = "" <;> simp [textField, textValue, Fields.present, h, Option.filter]

theorem numberField_eq (key : String) (column : Option Measurement) :
    numberField key column = Fields.present [(key, numberValue column)] := by
  rcases column with _ | _ | _ | _ <;> rfl

theorem yesField_eq (key : String) (column : Option String) :
    yesField key column = Fields.present [(key, yesValue column)] := by
  cases column <;> rfl

theorem objectField_eq (key : String) (fields : Fields) :
    objectField key fields = Fields.present [(key, objectValue fields)] := by
  cases fields <;> rfl

theorem textValue_eq_some_iff {column : Option String} {value : Json} :
    textValue column = some value ↔ ∃ text, column = some text ∧ text ≠ "" ∧ value = .str text := by
  simp only [textValue, Option.map_eq_some_iff, Option.filter_eq_some_iff, decide_eq_true_eq,
    and_assoc, eq_comm (a := value)]

theorem numberValue_eq_some_iff {column : Option Measurement} {value : Json} :
    numberValue column = some value ↔
      ∃ number, column = some (.finite number) ∧ value = .num (.double number) := by
  rcases column with _ | _ | _ | _ <;> simp [numberValue, eq_comm]

theorem yesValue_eq_some_iff {column : Option String} {value : Json} :
    yesValue column = some value ↔ ∃ text, column = some text ∧
      value = .bool (text.toList.map Char.toLower = ['y', 'e', 's']) := by
  simp only [yesValue, Option.map_eq_some_iff, eq_comm (a := value)]

theorem objectValue_eq_some_iff {fields : Fields} {value : Json} :
    objectValue fields = some value ↔ fields ≠ [] ∧ value = .obj fields := by
  cases fields <;> simp [objectValue, eq_comm]

namespace Row

/-- The columns of numbers, with the keys that lead to them in a document. -/
def numbers (row : Row) : List (List String × Option Measurement) := [
  (["location", "coordinates", "lat"], row.lat),
  (["location", "coordinates", "lon"], row.lon),
  (["location", "coordinates", "elevation"], row.elevation),
  (["numTaps"], row.numTaps),
  (["depthMetres"], row.depthMetres)]

/-- The columns of texts that may be absent, with their keys in a document. -/
def texts (row : Row) : List (String × Option String) := [
  ("waterPointTypeOther", row.waterPointTypeOther),
  ("extractionType", row.extractionType),
  ("extractionTypeOther", row.extractionTypeOther),
  ("pumpType", row.pumpType),
  ("pumpTypeOther", row.pumpTypeOther),
  ("installer", row.installer),
  ("installerOther", row.installerOther),
  ("owner", row.owner),
  ("funder", row.funder),
  ("photoUrl", row.photoUrl)]

/-- The keys of the coordinates with their values. -/
def coordinateEntries (row : Row) : List (String × Option Json) := [
  ("lat", numberValue row.lat), ("lon", numberValue row.lon),
  ("elevation", numberValue row.elevation)]

/-- The keys of the location with their values. -/
def locationEntries (row : Row) : List (String × Option Json) := [
  ("county", some (.str row.county)), ("district", some (.str row.district)),
  ("community", some (.str row.community)), ("coordinates", objectValue row.coordinates)]

/-- The keys of the document with their values. -/
def entries (row : Row) : List (String × Option Json) := [
  ("geoCode", some (.str row.geoCode)), ("waterPointType", some (.str row.waterPointType)),
  ("location", some (.obj row.location)),
  ("waterPointTypeOther", textValue row.waterPointTypeOther),
  ("extractionType", textValue row.extractionType),
  ("extractionTypeOther", textValue row.extractionTypeOther),
  ("pumpType", textValue row.pumpType), ("pumpTypeOther", textValue row.pumpTypeOther),
  ("numTaps", numberValue row.numTaps), ("hasDepthInfo", yesValue row.hasDepthInfo),
  ("depthMetres", numberValue row.depthMetres), ("installer", textValue row.installer),
  ("installerOther", textValue row.installerOther), ("owner", textValue row.owner),
  ("funder", textValue row.funder), ("photoUrl", textValue row.photoUrl)]

theorem coordinates_eq (row : Row) : row.coordinates = Fields.present row.coordinateEntries := by
  simp only [coordinates, numberField_eq, ← Fields.present_append]
  rfl

theorem location_eq (row : Row) : row.location = Fields.present row.locationEntries := by
  simp only [location, objectField_eq]
  rfl

theorem toDocument_eq (row : Row) : row.toDocument = .obj (Fields.present row.entries) := by
  simp only [toDocument, details, textField_eq, numberField_eq, yesField_eq,
    ← Fields.present_append]
  rfl

theorem get?_coordinates (row : Row) {key : String} {value : Option Json}
    (h : (key, value) ∈ row.coordinateEntries) : Fields.get? key row.coordinates = value := by
  have hnames : (row.coordinateEntries.map (·.1)).Nodup := by
    simp only [coordinateEntries, List.map_cons, List.map_nil]
    decide
  rw [coordinates_eq, Fields.get?_present hnames h]

theorem get?_location (row : Row) {key : String} {value : Option Json}
    (h : (key, value) ∈ row.locationEntries) : Fields.get? key row.location = value := by
  have hnames : (row.locationEntries.map (·.1)).Nodup := by
    simp only [locationEntries, List.map_cons, List.map_nil]
    decide
  rw [location_eq, Fields.get?_present hnames h]

theorem get?_toDocument (row : Row) {key : String} {value : Option Json}
    (h : (key, value) ∈ row.entries) : row.toDocument.get? key = value := by
  have hnames : (row.entries.map (·.1)).Nodup := by
    simp only [entries, List.map_cons, List.map_nil]
    decide
  rw [toDocument_eq]
  exact Fields.get?_present hnames h

/-- The document leads to its coordinates if there are any. -/
theorem getKeys?_coordinates (row : Row) :
    row.toDocument.getKeys? ["location", "coordinates"] = objectValue row.coordinates := by
  have hlocation : row.toDocument.get? "location" = some (.obj row.location) :=
    row.get?_toDocument (by simp [entries])
  have hinner : Fields.get? "coordinates" row.location = objectValue row.coordinates :=
    row.get?_location (by simp [locationEntries])
  rw [Json.getKeys?, hlocation, Option.bind_some, Json.getKeys?, Json.get?, hinner]
  exact Option.bind_fun_some _

theorem getKeys?_coordinate (row : Row) {key : String} {value : Option Json}
    (h : (key, value) ∈ row.coordinateEntries) :
    row.toDocument.getKeys? ["location", "coordinates", key] = value := by
  have hcoordinates := row.get?_coordinates h
  have hway : row.toDocument.getKeys? ["location", "coordinates", key] =
      (row.toDocument.getKeys? ["location", "coordinates"]).bind fun inner => inner.get? key := by
    simp [Json.getKeys?, Option.bind_assoc]
  rw [hway, getKeys?_coordinates, objectValue]
  -- If the object is left out, there is no value for the key in it either.
  cases hfields : row.coordinates with
  | nil => rw [← hcoordinates, hfields]; rfl
  | cons field rest => rw [← hcoordinates, hfields]; rfl

/-- Each column of numbers is found where its keys lead. -/
theorem getKeys?_of_mem_numbers (row : Row) {column : List String × Option Measurement}
    (h : column ∈ row.numbers) : row.toDocument.getKeys? column.1 = numberValue column.2 := by
  have hroot {key : String} {value : Option Json} (hmem : (key, value) ∈ row.entries) :
      row.toDocument.getKeys? [key] = value := by
    rw [Json.getKeys?, row.get?_toDocument hmem]
    exact Option.bind_fun_some _
  simp only [numbers, List.mem_cons, List.not_mem_nil, or_false] at h
  rcases h with rfl | rfl | rfl | rfl | rfl
  · exact row.getKeys?_coordinate (by simp [coordinateEntries])
  · exact row.getKeys?_coordinate (by simp [coordinateEntries])
  · exact row.getKeys?_coordinate (by simp [coordinateEntries])
  · exact hroot (by simp [entries])
  · exact hroot (by simp [entries])

/-- So is each column of texts. -/
theorem get?_of_mem_texts (row : Row) {column : String × Option String} (h : column ∈ row.texts) :
    row.toDocument.get? column.1 = textValue column.2 := by
  apply row.get?_toDocument
  simp only [texts, List.mem_cons, List.not_mem_nil, or_false] at h
  rcases h with rfl | rfl | rfl | rfl | rfl | rfl | rfl | rfl | rfl | rfl <;> simp [entries]

/-- There are coordinates exactly if one of the three has a finite value. -/
theorem coordinates_ne_nil_iff (row : Row) : row.coordinates ≠ [] ↔
    ∃ column ∈ [row.lat, row.lon, row.elevation], ∃ value, column = some (.finite value) := by
  have hfinite {column : Option Measurement} :
      numberValue column ≠ none ↔ ∃ value, column = some (.finite value) := by
    rw [Option.ne_none_iff_exists']
    simp [numberValue_eq_some_iff]
  rw [coordinates_eq, ne_eq, Fields.present_eq_nil_iff]
  simp only [coordinateEntries, List.mem_cons, List.not_mem_nil, or_false, forall_eq_or_imp,
    forall_eq, exists_eq_or_imp, exists_eq_left, ← hfinite]
  tauto

theorem ofDocument_toDocument (row : Row) : FacilityKey.ofDocument row.toDocument =
    ⟨row.geoCode, row.waterPointType, row.county, row.district, row.community⟩ := by
  have hroot {key text : String} (h : (key, some (.str text)) ∈ row.entries) :
      row.toDocument.textField key = text := by
    rw [Json.textField, row.get?_toDocument h]
    rfl
  have hlocation {key text : String} (h : (key, some (.str text)) ∈ row.locationEntries) :
      row.toDocument.nestedTextField "location" key = text := by
    have hobject : row.toDocument.get? "location" = some (.obj row.location) :=
      row.get?_toDocument (by simp [entries])
    rw [Json.nestedTextField, hobject, Option.bind_some, Json.get?, row.get?_location h]
    rfl
  have hcode : row.toDocument.textField "geoCode" = row.geoCode := hroot (by simp [entries])
  have htype : row.toDocument.textField "waterPointType" = row.waterPointType :=
    hroot (by simp [entries])
  have hcounty : row.toDocument.nestedTextField "location" "county" = row.county :=
    hlocation (by simp [locationEntries])
  have hdistrict : row.toDocument.nestedTextField "location" "district" = row.district :=
    hlocation (by simp [locationEntries])
  have hcommunity : row.toDocument.nestedTextField "location" "community" = row.community :=
    hlocation (by simp [locationEntries])
  rw [FacilityKey.ofDocument, hcode, htype, hcounty, hdistrict, hcommunity]

/-- What stands within the document of a row. -/
inductive Part (row : Row) : Json → Prop
  | document : Part row row.toDocument
  | location : Part row (.obj row.location)
  | coordinates : row.coordinates ≠ [] → Part row (.obj row.coordinates)
  | text (text : String) : Part row (.str text)
  | flag (value : Bool) : Part row (.bool value)
  | number {keys : List String} {value : Binary64} :
      (keys, some (.finite value)) ∈ row.numbers → Part row (.num (.double value))

/-- The five kinds of values in the document. -/
theorem entries_cases (row : Row) {entry : String × Option Json} (h : entry ∈ row.entries) :
    (∃ text, entry.2 = some (.str text)) ∨ entry.2 = some (.obj row.location) ∨
      (∃ column, entry.2 = textValue column) ∨
      (∃ column ∈ row.numbers, entry.2 = numberValue column.2) ∨
      entry.2 = yesValue row.hasDepthInfo := by
  simp only [entries, List.mem_cons, List.not_mem_nil, or_false] at h
  rcases h with rfl | rfl | rfl | rfl | rfl | rfl | rfl | rfl | rfl | rfl | rfl | rfl | rfl | rfl |
    rfl | rfl <;> simp [numbers]

theorem part_of_numberValue {row : Row} {keys : List String} {column : Option Measurement}
    (hcolumn : (keys, column) ∈ row.numbers) {value inner : Json}
    (hvalue : numberValue column = some value) (hinner : inner.Within value) :
    Part row inner := by
  obtain ⟨number, rfl, rfl⟩ := numberValue_eq_some_iff.1 hvalue
  obtain rfl := hinner.eq_of_scalar nofun nofun
  exact .number hcolumn

theorem part_of_within_coordinates {row : Row} {inner : Json} (hne : row.coordinates ≠ [])
    (h : inner.Within (.obj row.coordinates)) : Part row inner := by
  rw [coordinates_eq] at h
  rcases h.present_cases with rfl | ⟨entry, hentry, value, hvalue, hinner⟩
  · rw [← coordinates_eq]
    exact .coordinates hne
  · have hlat : (["location", "coordinates", "lat"], row.lat) ∈ row.numbers := by simp [numbers]
    have hlon : (["location", "coordinates", "lon"], row.lon) ∈ row.numbers := by simp [numbers]
    have helevation : (["location", "coordinates", "elevation"], row.elevation) ∈ row.numbers := by
      simp [numbers]
    simp only [coordinateEntries, List.mem_cons, List.not_mem_nil, or_false] at hentry
    rcases hentry with rfl | rfl | rfl
    · exact part_of_numberValue hlat hvalue hinner
    · exact part_of_numberValue hlon hvalue hinner
    · exact part_of_numberValue helevation hvalue hinner

theorem part_of_within_location {row : Row} {inner : Json} (h : inner.Within (.obj row.location)) :
    Part row inner := by
  have htext {text : String} (hinner : inner.Within (.str text)) : Part row inner := by
    obtain rfl := hinner.eq_of_scalar nofun nofun
    exact .text text
  rw [location_eq] at h
  rcases h.present_cases with rfl | ⟨entry, hentry, value, hvalue, hinner⟩
  · rw [← location_eq]
    exact .location
  · simp only [locationEntries, List.mem_cons, List.not_mem_nil, or_false] at hentry
    rcases hentry with rfl | rfl | rfl | rfl
    · exact htext (Option.some.inj hvalue ▸ hinner)
    · exact htext (Option.some.inj hvalue ▸ hinner)
    · exact htext (Option.some.inj hvalue ▸ hinner)
    · obtain ⟨hne, rfl⟩ := objectValue_eq_some_iff.1 hvalue
      exact part_of_within_coordinates hne hinner

/-- There are no other parts. -/
theorem part_of_within {row : Row} {inner : Json} (h : inner.Within row.toDocument) :
    Part row inner := by
  rw [toDocument_eq] at h
  rcases h.present_cases with rfl | ⟨entry, hentry, value, hvalue, hinner⟩
  · rw [← toDocument_eq]
    exact .document
  · rcases row.entries_cases hentry with ⟨text, hkind⟩ | hkind | ⟨column, hkind⟩ |
      ⟨column, hcolumn, hkind⟩ | hkind <;> rw [hkind] at hvalue
    · obtain rfl := Option.some.inj hvalue
      obtain rfl := hinner.eq_of_scalar nofun nofun
      exact .text text
    · obtain rfl := Option.some.inj hvalue
      exact part_of_within_location hinner
    · obtain ⟨text, _, _, rfl⟩ := textValue_eq_some_iff.1 hvalue
      obtain rfl := hinner.eq_of_scalar nofun nofun
      exact .text text
    · exact part_of_numberValue hcolumn hvalue hinner
    · obtain ⟨_, _, rfl⟩ := yesValue_eq_some_iff.1 hvalue
      obtain rfl := hinner.eq_of_scalar nofun nofun
      exact .flag _

/-- The document of a row has the key that five of its columns say, verbatim, whatever the others
hold, and so the identifier depends on these five.  Nothing in it is null or an empty object, and all
its numbers are finite values of columns.  A number is present exactly if its column is finite, a text
exactly if its column is not empty, the flag exactly if its column is present, and the coordinates
exactly if one of the three is finite. -/
theorem toDocument_keeps_identity (row : Row) :
    FacilityKey.ofDocument row.toDocument =
      ⟨row.geoCode, row.waterPointType, row.county, row.district, row.community⟩ ∧
    (∀ other : Row, other.geoCode = row.geoCode → other.waterPointType = row.waterPointType →
      other.county = row.county → other.district = row.district →
      other.community = row.community →
      (FacilityKey.ofDocument other.toDocument).id = (FacilityKey.ofDocument row.toDocument).id) ∧
    (∀ inner : Json, inner.Within row.toDocument → inner ≠ .null ∧ inner ≠ .obj [] ∧
      ∀ number, inner = .num number → ∃ value, number = .double value ∧
        ∃ column ∈ row.numbers, column.2 = some (.finite value)) ∧
    (∀ column ∈ row.numbers, ∀ found, row.toDocument.getKeys? column.1 = some found ↔
      ∃ value, column.2 = some (.finite value) ∧ found = .num (.double value)) ∧
    (∀ column ∈ row.texts, ∀ found, row.toDocument.get? column.1 = some found ↔
      ∃ text, column.2 = some text ∧ text ≠ "" ∧ found = .str text) ∧
    (∀ found, row.toDocument.get? "hasDepthInfo" = some found ↔
      ∃ text, row.hasDepthInfo = some text ∧
        found = .bool (text.toList.map Char.toLower = ['y', 'e', 's'])) ∧
    ((∃ found, row.toDocument.getKeys? ["location", "coordinates"] = some found) ↔
      ∃ column ∈ [row.lat, row.lon, row.elevation], ∃ value, column = some (.finite value)) := by
  refine ⟨row.ofDocument_toDocument, ?_, ?_, fun column hcolumn found => ?_,
    fun column hcolumn found => ?_, fun found => ?_, ?_⟩
  · intro other hcode htype hcounty hdistrict hcommunity
    rw [ofDocument_toDocument, ofDocument_toDocument, hcode, htype, hcounty, hdistrict, hcommunity]
  · intro inner hinner
    cases part_of_within hinner with
    | document => exact ⟨nofun, nofun, nofun⟩
    | location => exact ⟨nofun, nofun, nofun⟩
    | coordinates hne => exact ⟨nofun, fun hempty => hne (Json.obj.inj hempty), nofun⟩
    | text text => exact ⟨nofun, nofun, nofun⟩
    | flag value => exact ⟨nofun, nofun, nofun⟩
    | number hcolumn =>
        refine ⟨nofun, nofun, fun number hnumber => ?_⟩
        exact ⟨_, (Json.num.inj hnumber).symm, _, hcolumn, rfl⟩
  · rw [row.getKeys?_of_mem_numbers hcolumn, numberValue_eq_some_iff]
  · rw [row.get?_of_mem_texts hcolumn, textValue_eq_some_iff]
  · have hflag : row.toDocument.get? "hasDepthInfo" = yesValue row.hasDepthInfo :=
      row.get?_toDocument (by simp [entries])
    rw [hflag, yesValue_eq_some_iff]
  · rw [getKeys?_coordinates, ← coordinates_ne_nil_iff]
    simp [objectValue_eq_some_iff]

/-- A row with a latitude, no other number that is finite, a flag and an empty text. -/
theorem toDocument_keeps_identity_of_well :
    let row : Row := { blank with
      geoCode := "6CVX", county := "Nimba", lat := some (.finite (.zero true)),
      elevation := some .notANumber, owner := some "", hasDepthInfo := some "YES" }
    FacilityKey.ofDocument row.toDocument = ⟨"6CVX", "", "Nimba", "", ""⟩ ∧
      (["location", "coordinates", "lat"], row.lat) ∈ row.numbers ∧
      row.toDocument.getKeys? ["location", "coordinates", "lat"] =
        some (.num (.double (.zero true))) ∧
      (["location", "coordinates", "elevation"], row.elevation) ∈ row.numbers ∧
      (∀ found, row.toDocument.getKeys? ["location", "coordinates", "elevation"] ≠ some found) ∧
      ("owner", row.owner) ∈ row.texts ∧ (∀ found, row.toDocument.get? "owner" ≠ some found) ∧
      row.toDocument.get? "hasDepthInfo" = some (.bool true) ∧
      row.toDocument.Within row.toDocument ∧ row.toDocument ≠ .null := by
  intro row
  have hlat : (["location", "coordinates", "lat"], row.lat) ∈ row.numbers := by simp [numbers]
  have helevation : (["location", "coordinates", "elevation"], row.elevation) ∈ row.numbers := by
    simp [numbers]
  have howner : ("owner", row.owner) ∈ row.texts := by simp [texts]
  obtain ⟨hkey, _, hparts, hnumbers, htexts, hflag, _⟩ := row.toDocument_keeps_identity
  refine ⟨hkey, hlat, (hnumbers _ hlat _).2 ⟨_, rfl, rfl⟩, helevation, fun found h => ?_, howner,
    fun found h => ?_, (hflag _).2 ⟨_, rfl, by decide⟩, .self, (hparts _ .self).1⟩
  · obtain ⟨_, hfinite, _⟩ := (hnumbers _ helevation found).1 h
    cases hfinite
  · obtain ⟨_, htext, hne, _⟩ := (htexts _ howner found).1 h
    exact hne (Option.some.inj htext).symm

end Row
end Survey
end WaterRegistry
