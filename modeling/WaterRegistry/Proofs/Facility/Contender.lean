import WaterRegistry.Proofs.Facility.Contest
import WaterRegistry.Proofs.Facility.Registered
import WaterRegistry.Proofs.Store.Search

/-!
# What a contender can do

A contender is the creation of one facility among several.  It is searching, inserting or finished.
Its search lets it insert, or reports a stored facility with its identifier.  Its insertion adds the
identifier, or meets it in the store.  There is no other step, and what a contender has met is never
taken away again.
-/

namespace WaterRegistry

namespace Store

theorem HasFacility.accepts {store after : Store} {id : String} (h : store.HasFacility id)
    {entityType : String} {fields : Fields} {paths : List String}
    (hacc : store.Accepts entityType fields paths after) : after.HasFacility id := by
  obtain ⟨document, hmem, hid⟩ := h
  exact ⟨document, hacc.mem_documentsOf hmem, hid⟩

theorem meets_duplicateQuery {id : String} {document : Json} :
    meets (Facility.duplicateQuery id) document = true ↔
      document.get? facilityIdField = some (.str id) := by
  have hpath : document.lookupDotted facilityIdField = document.get? facilityIdField := by
    have hkeys : splitOnChar '.' facilityIdField = [facilityIdField] := by decide
    rw [Json.lookupDotted, hkeys, Json.getKeys?]
    cases document.get? facilityIdField <;> rfl
  have hfilters : (Facility.duplicateQuery id).filters.entries =
      [(facilityIdField, .eq (.str id))] := rfl
  rw [meets_of_filter hfilters, hpath]
  simp only [Json.same_str_iff, exists_eq_right]

/-- The search for an identifier finds the facilities that hold it. -/
theorem mem_hits_duplicateQuery {store : Store} {id : String} {document : Json} :
    document ∈ store.hits (Facility.duplicateQuery id) facilityType ↔
      document ∈ store.documentsOf facilityType ∧
        document.get? facilityIdField = some (.str id) := by
  rw [hits, List.mem_filter, meets_duplicateQuery]

/-- A search that reports a match of an identifier has found a facility with it. -/
theorem hasFacility_of_totalCount {store : Store} {id : String} {count : Nat}
    (h : totalCount (store.search (Facility.duplicateQuery id)) facilityType = .ok (count + 1)) :
    store.HasFacility id := by
  obtain ⟨hlength, _⟩ := (totalCount_search_eq_ok List.mem_cons_self).1 h
  obtain ⟨document, hmem⟩ := List.exists_mem_of_length_eq_add_one hlength
  exact ⟨document, mem_hits_duplicateQuery.1 hmem⟩

end Store

namespace Facility

/-- The field of identifiers, as it is configured by default. -/
def defaultField : IdentifierField :=
  ⟨"/" ++ facilityIdField⟩

theorem isNamed_defaultField : defaultField.isNamed facilityIdField := by
  decide

/-- The errors that say that an identifier is taken: one from the search, one from the store. -/
def IsRefusal (id : String) (error : RegistryError) : Prop :=
  error = .generation (duplicateError id) ∨ error = .uniqueConstraint facilityIdField id

end Facility

/-- A facility that is to be created, with what else its request carries. -/
structure Contender where
  fields : Fields
  others : List (String × Json)

namespace Contender

def root (contender : Contender) : Json :=
  .obj ((facilityType, .obj contender.fields) :: contender.others)

def id (contender : Contender) : String :=
  (FacilityKey.ofDocument (.obj contender.fields)).id

/-- The creation before its search has been served. -/
def searching (contender : Contender) : Stage :=
  .searching ⟨facilityType, .obj contender.fields, [Facility.defaultField]⟩
    (Facility.duplicateQuery contender.id)
    (Facility.decide contender.id [Facility.defaultField])

/-- What the creation asks the store to insert. -/
def insertion (contender : Contender) : Insertion :=
  ⟨facilityType, .obj (Facility.identify contender.fields), [Facility.defaultField.path]⟩

/-- Every creation of a facility starts with its search. -/
theorem start_root (contender : Contender) :
    Stage.start FacilityRegistry.defaultConfig contender.root = contender.searching := by
  have hdraft : Draft.ofRoot FacilityRegistry.defaultConfig contender.root =
      .ok ⟨facilityType, .obj contender.fields, [Facility.defaultField]⟩ := rfl
  rw [Stage.start, hdraft]
  simp only [List.isEmpty_cons, Bool.false_eq_true, if_false, root, Facility.inquire_capturing]
  rfl

/-- What holds of the stage of a creation, given what was stored at the start and is stored now. -/
inductive Stands (before now : Store) (contender : Contender) : Stage → Prop
  | searching : Stands before now contender contender.searching
  | inserting : Stands before now contender (.inserting contender.insertion)
  | accepted (osid : String) : now.HasFacility contender.id →
      ¬ before.HasFacility contender.id → Stands before now contender (.finished (.ok osid))
  | refused (error : RegistryError) : Facility.IsRefusal contender.id error →
      now.HasFacility contender.id → Stands before now contender (.finished (.error error))

theorem Stands.mono {before now after : Store} {contender : Contender} {stage : Stage}
    (h : contender.Stands before now stage)
    (hkept : ∀ id, now.HasFacility id → after.HasFacility id) :
    contender.Stands before after stage := by
  cases h with
  | searching => exact .searching
  | inserting => exact .inserting
  | accepted osid hnow hbefore => exact .accepted osid (hkept _ hnow) hbefore
  | refused error hrefusal hnow => exact .refused error hrefusal (hkept _ hnow)

/-- A search that is served, or fails, lets the creation insert or refuses it for good reason. -/
theorem serve_searching (contender : Contender) (failure : Option SearchError) (store : Store) :
    Stage.serve failure (contender.searching, store) = (.inserting contender.insertion, store) ∨
      Stage.serve failure (contender.searching, store) =
          (.finished (.error (.generation (Facility.duplicateError contender.id))), store) ∧
        store.HasFacility contender.id := by
  rcases Facility.decide_cases contender.id [Facility.defaultField]
    (Stage.searchResult failure store (Facility.duplicateQuery contender.id)) with
    hissue | ⟨hrefused, response, count, hresponse, hcount⟩
  · left
    have hfill : Draft.fill (.obj contender.fields)
        (Facility.issue contender.id [Facility.defaultField]) =
          .obj (Facility.identify contender.fields) :=
      Facility.fill_issue List.mem_cons_self Facility.isNamed_defaultField _ _
    simp only [searching, Stage.serve, hissue, Stage.ofGeneration, Draft.complete, hfill]
    rfl
  · right
    constructor
    · simp only [searching, Stage.serve, hrefused, Stage.ofGeneration, Draft.complete]
    · cases failure with
      | some error => cases hresponse
      | none =>
          cases hresponse
          exact Store.hasFacility_of_totalCount hcount

/-- An insertion that is refused has met its own identifier in the store. -/
theorem insert_eq_error {contender : Contender} {store after : Store} {error : RegistryError}
    (h : store.insert contender.insertion = (.error error, after)) :
    after = store ∧ Facility.IsRefusal contender.id error ∧ store.HasFacility contender.id := by
  obtain ⟨rfl, hcause⟩ := Store.insert_eq_error h
  refine ⟨rfl, ?_⟩
  rcases hcause with ⟨hnone, _⟩ | ⟨path, hpath, value, hvalue, hheld, rfl⟩
  · cases hnone
  · have hpath : path = Facility.defaultField.path := List.mem_singleton.1 hpath
    subst hpath
    have hown := (Facility.identified_identify contender.fields).constrainedValue?
      Facility.isNamed_defaultField
    rw [Facility.ofDocument_identify] at hown
    have hvalue : value = .str contender.id := Option.some.inj (hvalue.symm.trans hown)
    subst hvalue
    exact ⟨.inr rfl, (Store.holds_iff_hasFacility Facility.isNamed_defaultField).1 hheld⟩

/-- A facility is stored with its identifier. -/
theorem get?_accepted (contender : Contender) (store : Store) :
    (store.accepted (Facility.identify contender.fields)).document.get? facilityIdField =
      some (.str contender.id) := by
  have hown := (Facility.identified_identify contender.fields).accepted store
  rw [Facility.Identified, Facility.ofDocument_accepted, Facility.ofDocument_identify] at hown
  exact hown

/-- An insertion that is accepted adds the identifier, which has been new, and no other one. -/
theorem insert_eq_ok {contender : Contender} {store after : Store} {osid : String}
    (hregistered : store.Registered)
    (h : store.insert contender.insertion = (.ok osid, after)) :
    after.Registered ∧ ¬ store.HasFacility contender.id ∧
      ∀ id, after.HasFacility id ↔ store.HasFacility id ∨ id = contender.id := by
  obtain ⟨_, fields, hdocument, hacc⟩ := Store.insert_eq_ok h
  have hfields : Facility.identify contender.fields = fields := Json.obj.inj hdocument
  subst hfields
  have hidentified : Facility.Identified (.obj (Facility.identify contender.fields)) :=
    Facility.identified_identify contender.fields
  refine ⟨?_, ?_, ?_⟩
  · exact hregistered.accepts hacc fun _ =>
      ⟨hidentified, _, Facility.isNamed_defaultField, List.mem_cons_self⟩
  · have hnew := hacc.not_hasFacility hidentified Facility.isNamed_defaultField List.mem_cons_self
    rw [Facility.ofDocument_identify] at hnew
    exact hnew
  · intro id
    have hdocuments : after.documentsOf facilityType = store.documentsOf facilityType ++
        [(store.accepted (Facility.identify contender.fields)).document] := hacc.documentsOf_self
    constructor
    · rintro ⟨document, hmem, hid⟩
      rw [hdocuments] at hmem
      rcases List.mem_append.1 hmem with hmem | hmem
      · exact .inl ⟨document, hmem, hid⟩
      · rw [List.mem_singleton.1 hmem, contender.get?_accepted, Option.some.injEq, Json.str.injEq] at hid
        exact .inr hid.symm
    · rintro (hstored | rfl)
      · exact hstored.accepts hacc
      · refine ⟨_, ?_, contender.get?_accepted store⟩
        rw [hdocuments]
        exact List.mem_append_right _ List.mem_cons_self

end Contender

end WaterRegistry
