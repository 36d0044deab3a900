import WaterRegistry.Proofs.Facility.Abbreviation
import WaterRegistry.Proofs.Facility.FailOpen
import WaterRegistry.Proofs.Facility.Parts

/-!
# Spellings of one facility

The values of a facility are spelled in many ways that have one normal form.  The digest in the
identifier is the same for all of them.  The codes in front of it are taken from the values as they
are spelled: the type has to be one of the listed ones to the letter, and the abbreviations take the
ASCII letters and digits of a name, which case and spacing leave alone.  So two spellings have one
identifier exactly when their codes agree.
-/

namespace WaterRegistry

namespace FacilityKey

/-- Whether the values of two keys differ in nothing but case and spacing. -/
def SameFacility (key other : FacilityKey) : Prop :=
  key.values.map normalize = other.values.map normalize

theorem SameFacility.hashSuffix_eq {key other : FacilityKey} (h : key.SameFacility other) :
    hashSuffix key.values = hashSuffix other.values := by
  rw [hashSuffix, digestBytes, canonicalText, h]
  rfl

/-- Spellings of one facility have one identifier exactly when their codes agree. -/
theorem SameFacility.id_eq_iff {key other : FacilityKey} (h : key.SameFacility other) :
    key.id = other.id ↔
      (key.waterPointType = other.waterPointType ∨
        key.waterPointType ∉ typeCodes.map (·.1) ∧ other.waterPointType ∉ typeCodes.map (·.1)) ∧
      abbreviate key.county = abbreviate other.county ∧
      abbreviate key.district = abbreviate other.district := by
  rw [FacilityKey.id_eq_iff, typeCode_eq_iff]
  constructor
  · rintro ⟨hcounty, hdistrict, htype, _⟩
    exact ⟨htype, hcounty, hdistrict⟩
  · rintro ⟨htype, hcounty, hdistrict⟩
    exact ⟨hcounty, hdistrict, htype, h.hashSuffix_eq⟩

theorem SameFacility.abbreviate_eq {key other : FacilityKey} (h : key.SameFacility other)
    (hplain : ∀ name ∈ [key.county, other.county, key.district, other.district],
      ∀ c ∈ name.toList, hidesLetter c = false) :
    abbreviate key.county = abbreviate other.county ∧
      abbreviate key.district = abbreviate other.district := by
  simp only [SameFacility, values, List.map_cons, List.cons.injEq] at h
  obtain ⟨_, _, hcounty, hdistrict, _⟩ := h
  simp only [List.forall_mem_cons] at hplain
  obtain ⟨hkeyCounty, hotherCounty, hkeyDistrict, hotherDistrict, _⟩ := hplain
  exact ⟨abbreviate_eq_of_normalize_eq hcounty hkeyCounty hotherCounty,
    abbreviate_eq_of_normalize_eq hdistrict hkeyDistrict hotherDistrict⟩

end FacilityKey

namespace FacilityRegistry

/-- A facility whose identifier is held is refused as a duplicate, whatever its search gives. -/
theorem createWith_of_hasFacility {registry : FacilityRegistry} {schema : Schema}
    {field : IdentifierField} (hschema : registry.config.schema? facilityType = some schema)
    (hfield : field ∈ schema.identifierFields) (hnamed : field.isNamed facilityIdField)
    {contender : Contender} (h : registry.store.HasFacility contender.id)
    (search : SearchQuery → SearchResult) :
    ∃ error, registry.createWith search contender.root = (.error error, registry) ∧
      error.status = .duplicate := by
  rcases Facility.decide_cases contender.id schema.identifierFields
    (search (Facility.duplicateQuery contender.id)) with hissue | ⟨hrefused, _⟩
  · -- The check lets the identifier pass, and the store meets it.
    obtain ⟨path, value, hinsert⟩ := contender.insert_of_hasFacility hfield hnamed h
    refine ⟨.uniqueConstraint path value, createWith_eq ?_, rfl⟩
    rw [Store.create_of_issued hschema hfield hnamed search rfl hissue, hinsert]
  · exact ⟨.generation (Facility.duplicateError contender.id),
      createWith_eq (Store.create_of_refused hschema hfield search rfl hrefused registry.store),
      rfl⟩

/-- Two spellings of one facility have one identifier exactly when their types are spelled the same
way, or none of them is listed, and when their places have the same abbreviations, as they do unless
the name of a place hides a letter.  A registry that has the facility in one of the spellings
refuses it as a duplicate in the other, whatever searches give. -/
theorem respelled_facility_recognized {key other : FacilityKey} (hsame : key.SameFacility other) :
    (key.id = other.id ↔
      (key.waterPointType = other.waterPointType ∨
        key.waterPointType ∉ typeCodes.map (·.1) ∧ other.waterPointType ∉ typeCodes.map (·.1)) ∧
      abbreviate key.county = abbreviate other.county ∧
      abbreviate key.district = abbreviate other.district) ∧
    ((∀ name ∈ [key.county, other.county, key.district, other.district],
        ∀ c ∈ name.toList, hidesLetter c = false) →
      abbreviate key.county = abbreviate other.county ∧
      abbreviate key.district = abbreviate other.district) ∧
    ∀ (config : Config) (schema : Schema) (field : IdentifierField)
      (requests : List FacilityRequest),
      config.schema? facilityType = some schema → field ∈ schema.identifierFields →
      field.isNamed facilityIdField = true →
      let registry := (createAll ⟨config, .empty⟩ requests).2
      (∃ document ∈ registry.store.documentsOf facilityType,
        FacilityKey.ofDocument document = key) →
      key.id = other.id →
      ∀ (contender : Contender) (search : SearchQuery → SearchResult),
        FacilityKey.ofDocument (.obj contender.fields) = other →
        ∃ error, registry.createWith search contender.root = (.error error, registry) ∧
          error.status = .duplicate := by
  refine ⟨hsame.id_eq_iff, hsame.abbreviate_eq, ?_⟩
  intro config schema field requests hschema hfield hnamed registry hstored hid contender search hkey
  obtain ⟨document, hmem, rfl⟩ := hstored
  have hregistered : registry.store.Registered :=
    registered_createAll Store.registered_empty hschema hfield hnamed requests
  have hheld : registry.store.HasFacility contender.id := by
    refine ⟨document, hmem, ?_⟩
    rw [Contender.id, hkey, ← hid]
    exact hregistered.identified document hmem
  have hkept : registry.config.schema? facilityType = some schema := by
    show (createAll ⟨config, .empty⟩ requests).2.config.schema? facilityType = some schema
    rw [createAll_eq]
    exact hschema
  exact createWith_of_hasFacility hkept hfield hnamed hheld search

def boreholeKey : FacilityKey :=
  ⟨"xvksf3s", "Tube well or borehole", "Kru Coast", "Nimba", "Kpaytuo Town"⟩

/-- The document of a facility with given values. -/
def keyFields (key : FacilityKey) : Fields :=
  [("geoCode", .str key.geoCode), ("waterPointType", .str key.waterPointType),
    ("location", .obj [("county", .str key.county), ("district", .str key.district),
      ("community", .str key.community)])]

/-- Other case and spacing in all values but the type. -/
def respelledKey : FacilityKey :=
  ⟨" XVKSF3S", "Tube well or borehole", "KRU\tCOAST", " nimba ", "kpaytuo  town\n"⟩

/-- A borehole is recognized when it is submitted again with other case and spacing. -/
theorem respelled_facility_recognized_of_borehole :
    let registry := (createAll ⟨defaultConfig, .empty⟩
      [⟨.obj [(facilityType, .obj (keyFields boreholeKey))], fun _ => .error .timeout⟩]).2
    boreholeKey.SameFacility respelledKey ∧ boreholeKey.id = respelledKey.id ∧
      ∃ error, registry.createWith (fun _ => .error .timeout)
          (Contender.root ⟨keyFields respelledKey, []⟩) = (.error error, registry) ∧
        error.status = .duplicate := by
  intro registry
  have hsame : boreholeKey.SameFacility respelledKey := by
    unfold FacilityKey.SameFacility
    decide +kernel
  obtain ⟨hid, habbreviations, hrecognized⟩ := respelled_facility_recognized hsame
  have hplain : ∀ name ∈ [boreholeKey.county, respelledKey.county, boreholeKey.district,
      respelledKey.district], (name.toList.all fun c => !hidesLetter c) = true := by decide
  have hsameId : boreholeKey.id = respelledKey.id :=
    hid.2 ⟨.inl rfl, habbreviations fun name hname c hc => by
      simpa using List.all_eq_true.1 (hplain name hname) c hc⟩
  refine ⟨hsame, hsameId, ?_⟩
  exact hrecognized defaultConfig _ Facility.defaultField
    [⟨.obj [(facilityType, .obj (keyFields boreholeKey))], fun _ => .error .timeout⟩] rfl
    List.mem_cons_self Facility.isNamed_defaultField (by decide +kernel) hsameId
    ⟨keyFields respelledKey, []⟩ (fun _ => .error .timeout) (by decide +kernel)

/-- A type that is listed loses its code when it is written in lowercase, and a Kelvin sign in place of
a letter is left out of the abbreviation. -/
theorem respelled_facility_renamed :
    (∃ other : FacilityKey, other = { boreholeKey with waterPointType := "tube well or borehole" } ∧
      boreholeKey.SameFacility other ∧ boreholeKey.id ≠ other.id) ∧
    ∃ other : FacilityKey, other = { boreholeKey with county := "\u212aru Coast" } ∧
      boreholeKey.SameFacility other ∧ boreholeKey.id ≠ other.id := by
  unfold FacilityKey.SameFacility
  exact ⟨⟨_, rfl, by decide +kernel, by decide +kernel⟩, _, rfl, by decide +kernel,
    by decide +kernel⟩

end FacilityRegistry
end WaterRegistry
