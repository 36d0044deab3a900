import WaterRegistry.Facility.Registry
import WaterRegistry.Proofs.Creation.Run

/-!
# Stored facilities carry their own identifier

The identifier of a facility is derived from the document that is bound in the relay, is written into
the document of the request, and is stored together with an id.  These are one document, and neither
of the two texts that are written into it belongs to the key.  So the identifier of a stored facility
can be derived again from the stored document.  As the store keeps identifiers unique, no two stored
facilities have one key.
-/

namespace WaterRegistry

/-- The key of a facility lies outside the fields that are written into its document. -/
theorem FacilityKey.ofDocument_set {key : String} (h : key = facilityIdField ∨ key = osidField)
    (value : Json) (fields : Fields) :
    ofDocument (.obj (Fields.set key value fields)) = ofDocument (.obj fields) := by
  have hget : ∀ name ∈ ["geoCode", "waterPointType", "location"],
      (Json.obj (Fields.set key value fields)).get? name = (Json.obj fields).get? name := by
    intro name hname
    apply Fields.get?_set_of_ne
    rcases h with rfl | rfl <;> rintro rfl <;> revert hname <;> decide
  simp only [ofDocument, Json.textField, Json.nestedTextField, hget, List.mem_cons, true_or, or_true]

namespace IdentifierField

/-- The field of facility identifiers is written in two ways. -/
theorem path_of_isNamed {field : IdentifierField} (h : field.isNamed facilityIdField) :
    field.path = "wfId" ∨ field.path = "/wfId" := by
  rw [isNamed, Bool.or_eq_true, decide_eq_true_eq, decide_eq_true_eq] at h
  exact h

theorem tokensOfPath_of_isNamed {field : IdentifierField} (h : field.isNamed facilityIdField) :
    Store.tokensOfPath field.path = [facilityIdField] := by
  rcases path_of_isNamed h with hpath | hpath <;> rw [hpath] <;> decide

theorem pathKeys_of_isNamed {field : IdentifierField} (h : field.isNamed facilityIdField) :
    Json.pathKeys field.path = [facilityIdField] := by
  rcases path_of_isNamed h with hpath | hpath <;> rw [hpath] <;> decide

/-- In either way the store finds the value of the field itself. -/
theorem pointer?_of_isNamed {field : IdentifierField} (h : field.isNamed facilityIdField)
    (document : Json) :
    document.pointer? (Store.pointerOfPath field.path) = document.get? facilityIdField := by
  -- The name of the field is no position in a list.
  have hstep : document.step? facilityIdField = document.get? facilityIdField :=
    Json.step?_eq_get? (by decide) document
  rw [Store.pointer?_pointerOfPath, tokensOfPath_of_isNamed h, Json.followTokens, hstep]
  cases document.get? facilityIdField <;> rfl

end IdentifierField

namespace Facility

/-- Whether a document holds the identifier that is derived from it. -/
def Identified (document : Json) : Prop :=
  document.get? facilityIdField = some (.str (FacilityKey.ofDocument document).id)

/-- The document of a facility with the identifier that is derived from it. -/
def identify (fields : Fields) : Fields :=
  Fields.set facilityIdField (.str (FacilityKey.ofDocument (.obj fields)).id) fields

/-- The identifier that is written into a document does not change it. -/
theorem ofDocument_identify (fields : Fields) :
    FacilityKey.ofDocument (.obj (identify fields)) = FacilityKey.ofDocument (.obj fields) :=
  FacilityKey.ofDocument_set (.inl rfl) _ fields

theorem identified_identify (fields : Fields) : Identified (.obj (identify fields)) := by
  rw [Identified, ofDocument_identify]
  exact Fields.get?_set_self _ _ _

theorem ofDocument_accepted (store : Store) (fields : Fields) :
    FacilityKey.ofDocument (store.accepted fields).document =
      FacilityKey.ofDocument (.obj fields) :=
  FacilityKey.ofDocument_set (.inr rfl) _ fields

/-- An identified document stays identified when it is stored under an id. -/
theorem Identified.accepted {fields : Fields} (h : Identified (.obj fields)) (store : Store) :
    Identified (store.accepted fields).document := by
  have hne : facilityIdField ≠ osidField := by decide
  rw [Identified, ofDocument_accepted, Store.accepted]
  exact (Fields.get?_set_of_ne hne _ _).trans h

/-- The store compares an identified document by its identifier. -/
theorem Identified.constrainedValue? {document : Json} (h : Identified document)
    {field : IdentifierField} (hnamed : field.isNamed facilityIdField) :
    Store.constrainedValue? document field.path =
      some (.str (FacilityKey.ofDocument document).id) := by
  apply Store.constrainedValue?_eq_some.2
  rw [IdentifierField.pointer?_of_isNamed hnamed]
  exact ⟨h, by simp⟩

/-- Filling in an issued identifier writes it into its field, whatever other fields are asked for. -/
theorem fill_issue {requested : List IdentifierField} {field : IdentifierField}
    (hmem : field ∈ requested) (hnamed : field.isNamed facilityIdField) (id : String)
    (fields : Fields) :
    Draft.fill (.obj fields) (issue id requested) =
      .obj (Fields.set facilityIdField (.str id) fields) := by
  cases hfind : requested.find? (·.isNamed facilityIdField) with
  | none => exact absurd hnamed (List.find?_eq_none.1 hfind field hmem)
  | some first =>
      have hfirst : first.isNamed facilityIdField := by simpa using List.find?_some hfind
      have hissue : issue id requested = SortedTable.empty.insert first.path id := by
        rw [issue, hfind]
      have hkeys : Json.pathKeys first.path = [facilityIdField] :=
        IdentifierField.pathKeys_of_isNamed hfirst
      rw [hissue]
      show ((Json.obj fields).writePath first.path (.str id)).1 = _
      rw [Json.writePath, hkeys]
      rfl

/-- The identifier is issued, unless a search reports a facility that has it. -/
theorem decide_cases (id : String) (requested : List IdentifierField) (result : SearchResult) :
    decide id requested result = .ok (issue id requested) ∨
      decide id requested result = .error (duplicateError id) ∧
        ∃ response count, result = .ok response ∧
          totalCount response facilityType = .ok (count + 1) := by
  unfold decide
  cases result with
  | error error => exact .inl rfl
  | ok response =>
      simp only [Except.bind]
      cases hcount : totalCount response facilityType with
      | error error => exact .inl rfl
      | ok count =>
          cases count with
          | zero => exact .inl rfl
          | succ count => exact .inr ⟨rfl, response, count, rfl, hcount⟩

/-- During the creation of a facility its own document is found in the relay. -/
theorem inquire_capturing (fields : Fields) (others : List (String × Json))
    (requested : List IdentifierField) :
    inquire (Relay.capturing (.obj ((facilityType, .obj fields) :: others))).current requested =
      .search (duplicateQuery (FacilityKey.ofDocument (.obj fields)).id)
        (decide (FacilityKey.ofDocument (.obj fields)).id requested) := by
  simp [inquire, Relay.capturing, Relay.bindRoot, Relay.fresh, Relay.set, Relay.current,
    Binding.ofRoot?]

/-- A facility that is created is stored with its identifier, and compared at its field. -/
theorem insertion_of_generated {config : Config} {search : SearchQuery → SearchResult}
    {root : Json} {draft : Draft} {generated : GeneratedIdentifier} {field : IdentifierField}
    (hdraft : Draft.ofRoot config root = .ok draft) (htype : draft.entityType = facilityType)
    (hfield : field ∈ draft.fields) (hnamed : field.isNamed facilityIdField)
    (hgenerated : draft.generation (FacilityRegistry.generate search root) = .ok generated) :
    ∃ fields, draft.document = .obj fields ∧
      Draft.fill draft.document generated = .obj (identify fields) := by
  obtain ⟨fields, others, schema, hroot, _, hdocument, _⟩ := Draft.ofRoot_eq_ok hdraft
  refine ⟨fields, hdocument, ?_⟩
  rw [htype] at hroot
  -- The generator reads the relay, not the draft, and finds the same document there.
  rw [Draft.generation_eq hfield, FacilityRegistry.generate, hroot, inquire_capturing,
    Inquiry.answeredBy] at hgenerated
  have hissued : generated = issue (FacilityKey.ofDocument (.obj fields)).id draft.fields := by
    rcases decide_cases _ _ _ with hissue | ⟨hrefused, _⟩
    · rw [hissue, Except.ok.injEq] at hgenerated
      exact hgenerated.symm
    · rw [hrefused] at hgenerated
      cases hgenerated
  rw [hdocument, hissued]
  exact fill_issue hfield hnamed _ fields

end Facility
end WaterRegistry
