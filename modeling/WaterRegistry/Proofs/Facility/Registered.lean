import WaterRegistry.Proofs.Facility.Identified

/-!
# Runs of the registry of water points

`Registered` is the invariant of the running registry: every stored facility holds the identifier
that is derived from its document, and these identifiers differ.  No assumption is made about the
answers of searches, so the invariant rests on the store's comparison alone.
-/

namespace WaterRegistry
namespace Store

/-- Whether a stored facility holds an identifier. -/
def HasFacility (store : Store) (id : String) : Prop :=
  ∃ document ∈ store.documentsOf facilityType, document.get? facilityIdField = some (.str id)

/-- What the store meets when it compares an identifier is a facility that holds it. -/
theorem holds_iff_hasFacility {store : Store} {id : String} {field : IdentifierField}
    (hnamed : field.isNamed facilityIdField) :
    holds (store.entitiesOf facilityType) field.path (.str id) = true ↔ store.HasFacility id := by
  rw [holds_iff, HasFacility, documentsOf]
  simp only [List.mem_map, IdentifierField.pointer?_of_isNamed hnamed, Json.same_str_iff]
  constructor
  · rintro ⟨entity, hentity, other, hother, rfl⟩
    exact ⟨entity.document, ⟨entity, hentity, rfl⟩, hother⟩
  · rintro ⟨_, ⟨entity, hentity, rfl⟩, hid⟩
    exact ⟨entity, hentity, _, hid, rfl⟩

/-- An accepted facility has an identifier that no stored facility has. -/
theorem Accepts.not_hasFacility {store after : Store} {fields : Fields} {paths : List String}
    (hacc : store.Accepts facilityType fields paths after)
    (hidentified : Facility.Identified (.obj fields)) {field : IdentifierField}
    (hnamed : field.isNamed facilityIdField) (hpath : field.path ∈ paths) :
    ¬ store.HasFacility (FacilityKey.ofDocument (.obj fields)).id := by
  intro hheld
  have hfree := hacc.free field.path hpath _ (hidentified.constrainedValue? hnamed)
  rw [(holds_iff_hasFacility hnamed).2 hheld] at hfree
  cases hfree

/-- A store whose facilities hold their own identifiers, all of them different. -/
structure Registered (store : Store) : Prop where
  identified : ∀ document ∈ store.documentsOf facilityType, Facility.Identified document
  distinct : (store.documentsOf facilityType).Pairwise fun earlier later =>
    (FacilityKey.ofDocument earlier).id ≠ (FacilityKey.ofDocument later).id

theorem registered_empty : empty.Registered where
  identified := by simp
  distinct := by simp

/-- Accepting a document keeps facilities registered, if a facility comes with its identifier and is
compared at the field of identifiers. -/
theorem Registered.accepts {store after : Store} (h : store.Registered) {entityType : String}
    {fields : Fields} {paths : List String} (hacc : store.Accepts entityType fields paths after)
    (hfacility : entityType = facilityType → Facility.Identified (.obj fields) ∧
      ∃ field : IdentifierField, field.isNamed facilityIdField ∧ field.path ∈ paths) :
    after.Registered := by
  by_cases htype : entityType = facilityType
  · subst htype
    obtain ⟨hidentified, field, hnamed, hpath⟩ := hfacility rfl
    have hnew := hacc.not_hasFacility hidentified hnamed hpath
    constructor
    · intro document hmem
      rw [hacc.documentsOf_self] at hmem
      rcases List.mem_append.1 hmem with hmem | hmem
      · exact h.identified document hmem
      · rw [List.mem_singleton.1 hmem]
        exact hidentified.accepted store
    · rw [hacc.documentsOf_self, List.pairwise_append]
      refine ⟨h.distinct, List.pairwise_singleton _ _, ?_⟩
      intro earlier hearlier later hlater hid
      rw [List.mem_singleton.1 hlater, Facility.ofDocument_accepted] at hid
      -- An equal identifier would have been met in the earlier facility.
      apply hnew
      rw [← hid]
      exact ⟨earlier, hearlier, h.identified earlier hearlier⟩
  · have hdocuments : after.documentsOf facilityType = store.documentsOf facilityType :=
      hacc.documentsOf_of_ne (Ne.symm htype)
    constructor
    · rw [hdocuments]
      exact h.identified
    · rw [hdocuments]
      exact h.distinct

/-- A creation keeps facilities registered if they have a field for their identifier, whatever the
search for duplicates gives. -/
theorem Registered.create {store after : Store} (h : store.Registered) {config : Config}
    {schema : Schema} {field : IdentifierField}
    (hschema : config.schema? facilityType = some schema)
    (hfield : field ∈ schema.identifierFields) (hnamed : field.isNamed facilityIdField)
    {search : SearchQuery → SearchResult} {root : Json} {osid : String}
    (hcreate : store.create config (FacilityRegistry.generate search root) root =
      (.ok osid, after)) :
    after.Registered := by
  obtain ⟨draft, generated, hdraft, hgenerated, hinsert⟩ := create_eq_ok hcreate
  obtain ⟨_, fields, hdocument, hacc⟩ := insert_eq_ok hinsert
  apply h.accepts hacc
  intro htype
  have hmem : field ∈ draft.fields := Draft.mem_fields hdraft htype hschema hfield
  obtain ⟨submitted, _, hfill⟩ :=
    Facility.insertion_of_generated hdraft htype hmem hnamed hgenerated
  have hidentify : Facility.identify submitted = fields := by
    rw [hfill, Json.obj.injEq] at hdocument
    exact hdocument
  rw [← hidentify]
  exact ⟨Facility.identified_identify submitted, field, hnamed, List.mem_map_of_mem hmem⟩

end Store

/-- A request to the registry of water points, and what searches give while it is served. -/
structure FacilityRequest where
  root : Json
  search : SearchQuery → SearchResult

/-- The request with what the facility generator makes of it. -/
def FacilityRequest.creation (request : FacilityRequest) : CreationRequest where
  root := request.root
  generate := FacilityRegistry.generate request.search request.root

namespace FacilityRegistry

/-- Serves requests one after the other, and gives the answers with the registry at the end. -/
def createAll : FacilityRegistry → List FacilityRequest →
    List (Except RegistryError String) × FacilityRegistry
  | registry, [] => ([], registry)
  | registry, request :: rest =>
    let (answer, next) := registry.createWith request.search request.root
    let (answers, last) := next.createAll rest
    (answer :: answers, last)

theorem createAll_eq (registry : FacilityRegistry) (requests : List FacilityRequest) :
    registry.createAll requests =
      ((Store.createAll registry.config (requests.map (·.creation)) registry.store).1,
        { registry with
          store :=
            (Store.createAll registry.config (requests.map (·.creation)) registry.store).2 }) := by
  induction requests generalizing registry with
  | nil => rfl
  | cons request rest ih =>
      rw [List.map_cons, Store.createAll_cons, createAll]
      simp only [ih]
      rfl

/-- Every run keeps facilities registered if they have a field for their identifier. -/
theorem registered_createAll {registry : FacilityRegistry} (h : registry.store.Registered)
    {schema : Schema} {field : IdentifierField}
    (hschema : registry.config.schema? facilityType = some schema)
    (hfield : field ∈ schema.identifierFields) (hnamed : field.isNamed facilityIdField)
    (requests : List FacilityRequest) : (registry.createAll requests).2.store.Registered := by
  rw [createAll_eq]
  -- The invariant does not count accepted documents, so the bound on their number is free.
  apply Store.createAll_preserves (fun _ store => store.Registered)
    (successes (Store.createAll registry.config (requests.map (·.creation)) registry.store).1 + 1)
    ?_ h
  · show 0 + _ < _
    omega
  · intro count store after request osid hmem _ hregistered hcreate
    obtain ⟨given, _, rfl⟩ := List.mem_map.1 hmem
    exact hregistered.create hschema hfield hnamed hcreate

/-- Every run of a registry that has a field for the identifiers of facilities, with any requests and
any answers of searches, stores facilities that hold the identifiers derived from their own stored
documents, and no two of them with the same key. -/
theorem stored_facilities_identified {config : Config} {registry : FacilityRegistry}
    (hstart : start? config = some registry) {schema : Schema} {field : IdentifierField}
    (hschema : config.schema? facilityType = some schema)
    (hfield : field ∈ schema.identifierFields) (hnamed : field.isNamed facilityIdField = true)
    (requests : List FacilityRequest) :
    (∀ document ∈ (registry.createAll requests).2.store.documentsOf facilityType,
      document.get? facilityIdField = some (.str (FacilityKey.ofDocument document).id)) ∧
    ((registry.createAll requests).2.store.documentsOf facilityType).Pairwise fun earlier later =>
      FacilityKey.ofDocument earlier ≠ FacilityKey.ofDocument later := by
  have hregistry : registry = ⟨config, .empty⟩ := by
    unfold start? at hstart
    split at hstart
    · exact (Option.some.inj hstart).symm
    · cases hstart
  subst hregistry
  have hregistered : ((⟨config, .empty⟩ : FacilityRegistry).createAll requests).2.store.Registered :=
    registered_createAll Store.registered_empty hschema hfield hnamed requests
  constructor
  · exact hregistered.identified
  · apply hregistered.distinct.imp
    intro earlier later hid hkey
    exact hid (by rw [hkey])

/-- The identifier is one of two fields that are asked for. -/
def wellConfig : Config :=
  { Config.basic with schemas := [⟨facilityType, [⟨"code"⟩, ⟨"wfId"⟩]⟩] }

/-- A well that is submitted with an identifier that is not its own, while searches time out. -/
def wellRequest : FacilityRequest where
  root := .obj [(facilityType, .obj [("wfId", .str "WF-1"), ("geoCode", .str "6CVX")])]
  search _ := .error .timeout

/-- Of two submissions of one well the first is stored, under the identifier that is its own. -/
theorem stored_facilities_identified_of_resubmission :
    start? wellConfig = some ⟨wellConfig, .empty⟩ ∧
      wellConfig.schema? facilityType = some ⟨facilityType, [⟨"code"⟩, ⟨"wfId"⟩]⟩ ∧
      (⟨"wfId"⟩ : IdentifierField).isNamed facilityIdField = true ∧
      successes (createAll ⟨wellConfig, .empty⟩ [wellRequest, wellRequest]).1 = 1 ∧
      ∀ document ∈ (createAll ⟨wellConfig, .empty⟩
          [wellRequest, wellRequest]).2.store.documentsOf facilityType,
        document.get? facilityIdField = some (.str (FacilityKey.ofDocument document).id) := by
  have hstart : start? wellConfig = some ⟨wellConfig, .empty⟩ := by decide
  have hschema : wellConfig.schema? facilityType =
      some ⟨facilityType, [⟨"code"⟩, ⟨"wfId"⟩]⟩ := by decide
  have hnamed : (⟨"wfId"⟩ : IdentifierField).isNamed facilityIdField = true := by decide
  have hidentified := stored_facilities_identified hstart hschema (by decide) hnamed
    [wellRequest, wellRequest]
  exact ⟨hstart, hschema, hnamed, by decide +kernel, hidentified.1⟩

end FacilityRegistry
end WaterRegistry
