import WaterRegistry.Document.FieldText
import WaterRegistry.Facility.Code
import WaterRegistry.Facility.Digest
import WaterRegistry.Json.Reader

/-!
# The key of a facility and its identifier

Five values identify a water point.  Its identifier shows the county, the district and the kind of
water point in short codes and ends in the digest of all five, `WF-NIM-SAN-TWB-DAA7B4`, so
submitting a facility again yields the identifier it already has.
-/

namespace WaterRegistry

/-- The type of the entities that are water points. -/
def facilityType : String := "WaterFacility"

/-- The field that holds the identifier of a water point. -/
def facilityIdField : String := "wfId"

/-- The five values that identify a water point. -/
structure FacilityKey where
  geoCode : String
  waterPointType : String
  county : String
  district : String
  community : String
  deriving DecidableEq

namespace FacilityKey

/-- The key in a facility's document; what is missing is empty. -/
def ofDocument (document : Json) : FacilityKey where
  geoCode := document.textField "geoCode"
  waterPointType := document.textField "waterPointType"
  county := document.nestedTextField "location" "county"
  district := document.nestedTextField "location" "district"
  community := document.nestedTextField "location" "community"

/-- The values in the order in which they are digested. -/
def values (key : FacilityKey) : List String :=
  [key.geoCode, key.waterPointType, key.county, key.district, key.community]

/-- The identifier of the facility. -/
def id (key : FacilityKey) : String :=
  String.intercalate "-"
    ["WF", abbreviate key.county, abbreviate key.district, typeCode key.waterPointType,
      hashSuffix key.values]

/-- A key as it is written on its own. -/
def shape : RecordShape FacilityKey where
  name := "FacilityKey"
  blank := ⟨"", "", "", "", ""⟩
  fields := [
    ⟨"geo_code", true, fun key found => do pure { key with geoCode := ← Reader.text found }⟩,
    ⟨"water_point_type", true,
      fun key found => do pure { key with waterPointType := ← Reader.text found }⟩,
    ⟨"county", true, fun key found => do pure { key with county := ← Reader.text found }⟩,
    ⟨"district", true, fun key found => do pure { key with district := ← Reader.text found }⟩,
    ⟨"community", true, fun key found => do pure { key with community := ← Reader.text found }⟩]

end FacilityKey
end WaterRegistry
