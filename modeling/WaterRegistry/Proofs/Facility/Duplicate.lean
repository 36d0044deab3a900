import WaterRegistry.Proofs.Facility.Contender

/-!
# The duplicate check decides as the store does

A creation of a facility is refused by its search, or asks the store for one insertion.  In a store
of registered facilities a search for an identifier finds the facility that holds it and no other
one, so its count is zero or one.  Hence the check refuses an identifier exactly when a facility
holds it, and what the check lets pass the store has no reason to refuse on account of the
identifier.
-/

namespace WaterRegistry
namespace Contender

/-- What a creation asks the store to insert if facilities have the given schema. -/
def insertionFor (contender : Contender) (schema : Schema) : Insertion :=
  ⟨facilityType, .obj (Facility.identify contender.fields), schema.identifierFields.map (·.path)⟩

theorem insertionFor_defaultField (contender : Contender) :
    contender.insertionFor ⟨facilityType, [Facility.defaultField]⟩ = contender.insertion :=
  rfl

theorem ofRoot_root {config : Config} {schema : Schema}
    (hschema : config.schema? facilityType = some schema) (contender : Contender) :
    Draft.ofRoot config contender.root =
      .ok ⟨facilityType, .obj contender.fields, schema.identifierFields⟩ := by
  simp [Draft.ofRoot, root, Binding.ofRoot?, Json.isObject, hschema]

/-- The identifier is decided upon by what the search for it gives. -/
theorem generation_eq_decide {requested : List IdentifierField} {field : IdentifierField}
    (hfield : field ∈ requested) {search : SearchQuery → SearchResult} {contender : Contender}
    {result : SearchResult}
    (hresult : search (Facility.duplicateQuery contender.id) = result) :
    (⟨facilityType, .obj contender.fields, requested⟩ : Draft).generation
        (FacilityRegistry.generate search contender.root) =
      Facility.decide contender.id requested result := by
  rw [Draft.generation_eq hfield, FacilityRegistry.generate, root, Facility.inquire_capturing,
    ← hresult]
  rfl

end Contender

namespace Store

/-- A facility that its search refuses is not created. -/
theorem create_of_refused {config : Config} {schema : Schema} {field : IdentifierField}
    (hschema : config.schema? facilityType = some schema)
    (hfield : field ∈ schema.identifierFields) (search : SearchQuery → SearchResult)
    {contender : Contender} {result : SearchResult}
    (hresult : search (Facility.duplicateQuery contender.id) = result) {error : GenerationError}
    (hdecide : Facility.decide contender.id schema.identifierFields result = .error error)
    (store : Store) :
    store.create config (FacilityRegistry.generate search contender.root) contender.root =
      (.error (.generation error), store) := by
  rw [create, contender.ofRoot_root hschema]
  simp only [contender.generation_eq_decide hfield hresult, hdecide, Draft.complete]

/-- A facility that its search lets pass is inserted with its identifier. -/
theorem create_of_issued {config : Config} {schema : Schema} {field : IdentifierField}
    (hschema : config.schema? facilityType = some schema)
    (hfield : field ∈ schema.identifierFields) (hnamed : field.isNamed facilityIdField)
    (search : SearchQuery → SearchResult) {contender : Contender} {result : SearchResult}
    (hresult : search (Facility.duplicateQuery contender.id) = result)
    (hdecide : Facility.decide contender.id schema.identifierFields result =
      .ok (Facility.issue contender.id schema.identifierFields)) (store : Store) :
    store.create config (FacilityRegistry.generate search contender.root) contender.root =
      store.insert (contender.insertionFor schema) := by
  rw [create, contender.ofRoot_root hschema]
  simp only [contender.generation_eq_decide hfield hresult, hdecide, Draft.complete,
    Facility.fill_issue hfield hnamed]
  rfl

/-- At most one registered facility is found by the search for an identifier. -/
theorem Registered.length_hits_le {store : Store} (h : store.Registered) (id : String) :
    (store.hits (Facility.duplicateQuery id) facilityType).length ≤ 1 := by
  have hdistinct : (store.hits (Facility.duplicateQuery id) facilityType).Pairwise
      fun earlier later =>
        (FacilityKey.ofDocument earlier).id ≠ (FacilityKey.ofDocument later).id :=
    h.distinct.sublist List.filter_sublist
  have hid : ∀ document ∈ store.hits (Facility.duplicateQuery id) facilityType,
      (FacilityKey.ofDocument document).id = id := by
    intro document hmem
    obtain ⟨hstored, hholds⟩ := mem_hits_duplicateQuery.1 hmem
    have hown := h.identified document hstored
    rw [Facility.Identified, hholds, Option.some.injEq, Json.str.injEq] at hown
    exact hown.symm
  cases hhits : store.hits (Facility.duplicateQuery id) facilityType with
  | nil => exact Nat.zero_le 1
  | cons first rest =>
      cases rest with
      | nil => exact Nat.le_refl 1
      | cons second more =>
          -- Two hits would hold one identifier, which is that of their keys.
          rw [hhits] at hdistinct hid
          have hfirst := hid first List.mem_cons_self
          have hsecond := hid second (List.mem_cons_of_mem _ List.mem_cons_self)
          exact absurd (hfirst.trans hsecond.symm)
            (List.rel_of_pairwise_cons hdistinct List.mem_cons_self)

/-- So the count that the store reports is the number of facilities that hold the identifier. -/
theorem Registered.totalCount_search {store : Store} (h : store.Registered) (id : String) :
    totalCount (store.search (Facility.duplicateQuery id)) facilityType =
      .ok (store.hits (Facility.duplicateQuery id) facilityType).length := by
  have hle := h.length_hits_le id
  exact (totalCount_search_eq_ok List.mem_cons_self).2 ⟨rfl, Nat.lt_of_le_of_lt hle (by decide)⟩

end Store

namespace Facility

/-- A response that reports a match refuses the identifier. -/
theorem decide_of_totalCount {response : Json} {count : Nat}
    (h : totalCount response facilityType = .ok (count + 1)) (id : String)
    (requested : List IdentifierField) :
    decide id requested (.ok response) = .error (duplicateError id) := by
  simp only [decide, Except.bind, h]

/-- The store's true answer refuses an identifier that a facility holds. -/
theorem decide_search_of_hasFacility {store : Store} {id : String} (hstore : store.Registered)
    (h : store.HasFacility id) (requested : List IdentifierField) :
    decide id requested (.ok (store.search (duplicateQuery id))) =
      .error (duplicateError id) := by
  obtain ⟨document, hmem, hid⟩ := h
  have hhit := Store.mem_hits_duplicateQuery.2 ⟨hmem, hid⟩
  obtain ⟨count, hcount⟩ :=
    Nat.exists_eq_add_one_of_ne_zero (Nat.ne_of_gt (List.length_pos_of_mem hhit))
  apply decide_of_totalCount
  rw [hstore.totalCount_search id, hcount]

/-- The store's true answer lets an identifier pass that no facility holds. -/
theorem decide_search_of_not_hasFacility {store : Store} {id : String}
    (h : ¬ store.HasFacility id) (requested : List IdentifierField) :
    decide id requested (.ok (store.search (duplicateQuery id))) = .ok (issue id requested) := by
  rcases decide_cases id requested (.ok (store.search (duplicateQuery id))) with
    hissue | ⟨_, response, count, hresponse, hcount⟩
  · exact hissue
  · cases hresponse
    exact absurd (Store.hasFacility_of_totalCount hcount) h

end Facility

namespace FacilityRegistry

variable {registry : FacilityRegistry} {schema : Schema} {field : IdentifierField}

/-- The store's true answers. -/
def truth (registry : FacilityRegistry) (query : SearchQuery) : SearchResult :=
  .ok (registry.store.search query)

theorem createWith_eq {search : SearchQuery → SearchResult} {root : Json}
    {answer : Except RegistryError String} {store : Store}
    (h : registry.store.create registry.config (generate search root) root = (answer, store)) :
    registry.createWith search root = (answer, { registry with store }) := by
  rw [createWith, h]

/-- A facility whose identifier is held already is refused by the check. -/
theorem create_of_hasFacility (hstore : registry.store.Registered)
    (hschema : registry.config.schema? facilityType = some schema)
    (hfield : field ∈ schema.identifierFields) {contender : Contender}
    (h : registry.store.HasFacility contender.id) :
    registry.create contender.root =
      (.error (.generation (Facility.duplicateError contender.id)), registry) :=
  createWith_eq (Store.create_of_refused hschema hfield registry.truth rfl
    (Facility.decide_search_of_hasFacility hstore h _) registry.store)

/-- A facility whose identifier nobody holds is left to the store. -/
theorem create_of_not_hasFacility
    (hschema : registry.config.schema? facilityType = some schema)
    (hfield : field ∈ schema.identifierFields) (hnamed : field.isNamed facilityIdField)
    {contender : Contender} (h : ¬ registry.store.HasFacility contender.id)
    {answer : Except RegistryError String} {store : Store}
    (hinsert : registry.store.insert (contender.insertionFor schema) = (answer, store)) :
    registry.create contender.root = (answer, { registry with store }) := by
  apply createWith_eq
  rw [← hinsert]
  exact Store.create_of_issued hschema hfield hnamed registry.truth rfl
    (Facility.decide_search_of_not_hasFacility h _) registry.store

end FacilityRegistry
end WaterRegistry
