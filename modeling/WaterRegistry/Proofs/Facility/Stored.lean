import WaterRegistry.Proofs.Facility.Identified

/-!
# Facilities in any registry

A configuration may ask for other fields than the identifier of facilities, or for none.  Even then a
facility that is created is stored behind the others, with the key of its request: nothing that is
generated for it belongs to the key, nor does the id that it is given.
-/

namespace WaterRegistry

/-- What is generated for a facility does not touch the values of its key, whatever fields it is asked
for. -/
theorem Facility.ofDocument_fill {config : Config} {search : SearchQuery → SearchResult}
    {root : Json} {draft : Draft} {generated : GeneratedIdentifier}
    (hdraft : Draft.ofRoot config root = .ok draft) (htype : draft.entityType = facilityType)
    (hgenerated : draft.generation (FacilityRegistry.generate search root) = .ok generated) :
    FacilityKey.ofDocument (Draft.fill draft.document generated) =
      FacilityKey.ofDocument draft.document := by
  by_cases hnamed : ∃ field ∈ draft.fields, field.isNamed facilityIdField
  · obtain ⟨field, hfield, hname⟩ := hnamed
    obtain ⟨fields, hdocument, hfill⟩ :=
      insertion_of_generated hdraft htype hfield hname hgenerated
    rw [hfill, hdocument, ofDocument_identify]
  · -- No field is meant for the identifier, so nothing is generated.
    suffices generated = .empty by rw [this]; rfl
    obtain ⟨fields, others, _, hroot, _⟩ := Draft.ofRoot_eq_ok hdraft
    rw [htype] at hroot
    unfold Draft.generation at hgenerated
    split at hgenerated
    · exact (Except.ok.inj hgenerated).symm
    · have hfind : draft.fields.find? (·.isNamed facilityIdField) = none := by
        rw [List.find?_eq_none]
        exact fun field hfield hname => hnamed ⟨field, hfield, hname⟩
      rw [FacilityRegistry.generate, hroot, inquire_capturing, Inquiry.answeredBy] at hgenerated
      rcases decide_cases _ _ _ with hissue | ⟨hrefused, _⟩
      · rw [hissue, issue, hfind] at hgenerated
        exact (Except.ok.inj hgenerated).symm
      · rw [hrefused] at hgenerated
        cases hgenerated

/-- A creation that fails leaves the registry as it is. -/
theorem FacilityRegistry.create_eq_error {registry after : FacilityRegistry} {root : Json}
    {error : RegistryError} (h : registry.create root = (.error error, after)) :
    after = registry := by
  rw [create, createWith] at h
  rcases hcreate : registry.store.create registry.config
      (generate (fun query => .ok (registry.store.search query)) root) root with ⟨answer, store⟩
  rw [hcreate] at h
  cases h
  rw [Store.create_eq_error hcreate]

/-- A facility that is created in any registry is stored behind the others, under the id that is given
and with the key of the request. -/
theorem FacilityRegistry.create_facility_eq_ok {registry after : FacilityRegistry} {fields : Fields}
    {others : List (String × Json)} {osid : String}
    (h : registry.create (.obj ((facilityType, .obj fields) :: others)) = (.ok osid, after)) :
    osid = registry.store.nextOsid ∧ ∃ document,
      FacilityKey.ofDocument document = FacilityKey.ofDocument (.obj fields) ∧
      ∀ entityType, after.store.entitiesOf entityType =
        if entityType = facilityType then
          registry.store.entitiesOf entityType ++ [⟨osid, document⟩]
        else registry.store.entitiesOf entityType := by
  rw [create, createWith] at h
  rcases hcreate : registry.store.create registry.config
      (generate (fun query => .ok (registry.store.search query))
        (.obj ((facilityType, .obj fields) :: others)))
      (.obj ((facilityType, .obj fields) :: others)) with ⟨answer, store⟩
  rw [hcreate] at h
  cases h
  obtain ⟨draft, generated, hdraft, hgenerated, hinsert⟩ := Store.create_eq_ok hcreate
  obtain ⟨hosid, filled, hfilled, hacc⟩ := Store.insert_eq_ok hinsert
  obtain ⟨_, _, _, hroot, _, hdocument, _⟩ := Draft.ofRoot_eq_ok hdraft
  -- The draft is that of the facility in the request.
  simp only [Json.obj.injEq, List.cons.injEq, Prod.mk.injEq] at hroot
  obtain ⟨⟨htype, rfl⟩, _⟩ := hroot
  have hkey := Facility.ofDocument_fill hdraft htype.symm hgenerated
  dsimp only at hfilled
  rw [hfilled, hdocument] at hkey
  refine ⟨hosid, (registry.store.accepted filled).document, ?_, fun entityType => ?_⟩
  · rw [Facility.ofDocument_accepted, hkey]
  · rw [hacc.entitiesOf_eq, htype, hosid]
    rfl

end WaterRegistry
