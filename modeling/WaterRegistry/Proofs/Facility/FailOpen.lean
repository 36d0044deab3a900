import WaterRegistry.Proofs.Facility.Duplicate
import WaterRegistry.Survey.Status

/-!
# Failing open

A search for duplicates may fail, or give an answer that says nothing of a match.  The creation goes
on then, and an identifier that is held already is refused by the store instead of the check.  So a
run in which any of the searches fail in this way gives the same ids and ends in the same registry
as the run in which every search is answered by the store.  Only the errors of refused identifiers
can differ, and a survey counts both kinds as duplicates.
-/

namespace WaterRegistry
namespace Facility

/-- The results of a search that let every identifier pass: the search has failed, or its response
counts no match or has no count that could be read. -/
inductive Overlooks : SearchResult → Prop
  | unavailable (text : String) : Overlooks (.error (.unavailable text))
  | timeout : Overlooks (.error .timeout)
  | unmatched (response : Json) : totalCount response facilityType = .ok 0 → Overlooks (.ok response)
  | malformed (response : Json) (text : String) :
      totalCount response facilityType = .error (.malformed text) → Overlooks (.ok response)

theorem Overlooks.decide_eq {result : SearchResult} (h : Overlooks result) (id : String)
    (requested : List IdentifierField) :
    decide id requested result = .ok (issue id requested) := by
  cases h with
  | unavailable text => rfl
  | timeout => rfl
  | unmatched response hcount => simp only [decide, Except.bind, hcount]
  | malformed response text hcount => simp only [decide, Except.bind, hcount]

/-- Entities of other types get no identifier, whatever searches give. -/
theorem generate_of_ne {entityType : String} (h : entityType ≠ facilityType)
    (search : SearchQuery → SearchResult) (document : Json) (others : List (String × Json))
    (requested : List IdentifierField) :
    FacilityRegistry.generate search (.obj ((entityType, document) :: others)) requested =
      .ok .empty := by
  simp [FacilityRegistry.generate, inquire, Relay.capturing, Relay.bindRoot, Relay.fresh,
    Relay.set, Relay.current, Binding.ofRoot?, h, Inquiry.answeredBy]

end Facility

/-- A creation request, and what its search for duplicates gives in place of the store's answer, if
it gives anything else. -/
structure CheckedRequest where
  root : Json
  substitute : Option SearchResult

namespace FacilityRegistry

/-- What the search of a request gives. -/
def searchFor (registry : FacilityRegistry) (request : CheckedRequest) (query : SearchQuery) :
    SearchResult :=
  request.substitute.getD (registry.truth query)

/-- Serves requests one after the other with the searches that they bring. -/
def createChecked : FacilityRegistry → List CheckedRequest →
    List (Except RegistryError String) × FacilityRegistry
  | registry, [] => ([], registry)
  | registry, request :: rest =>
    let (answer, next) := registry.createWith (registry.searchFor request) request.root
    let (answers, last) := next.createChecked rest
    (answer :: answers, last)

/-- Serves requests one after the other, with every search answered by the store. -/
def createEach : FacilityRegistry → List Json →
    List (Except RegistryError String) × FacilityRegistry
  | registry, [] => ([], registry)
  | registry, root :: rest =>
    let (answer, next) := registry.create root
    let (answers, last) := next.createEach rest
    (answer :: answers, last)

end FacilityRegistry

/-- Two answers to one request that differ at most in who has refused the identifier: the first is
refused by the check and the second by the store. -/
def AgreeUpToKind (answer other : Except RegistryError String) : Prop :=
  answer = other ∨ ∃ id text field value,
    answer = .error (.generation (.duplicate id text)) ∧
      other = .error (.uniqueConstraint field value)

/-- Such errors are counted alike. -/
theorem AgreeUpToKind.status_eq {error other : RegistryError}
    (h : AgreeUpToKind (.error error) (.error other)) : error.status = other.status := by
  rcases h with hsame | ⟨id, text, field, value, hduplicate, hconstraint⟩
  · cases hsame
    rfl
  · cases hduplicate
    cases hconstraint
    rfl

namespace Contender

variable {config : Config} {schema : Schema} {field : IdentifierField}

/-- Where the check refuses a facility, the store refuses it too. -/
theorem insert_of_hasFacility (hfield : field ∈ schema.identifierFields)
    (hnamed : field.isNamed facilityIdField) {contender : Contender} {store : Store}
    (h : store.HasFacility contender.id) :
    ∃ path value, store.insert (contender.insertionFor schema) =
      (.error (.uniqueConstraint path value), store) := by
  have hown := (Facility.identified_identify contender.fields).constrainedValue? hnamed
  rw [Facility.ofDocument_identify] at hown
  exact Store.insert_of_holds rfl (List.mem_map_of_mem hfield) hown
    ((Store.holds_iff_hasFacility hnamed).2 h)

/-- In place of the store's answer, a result that lets the identifier pass changes nothing but the
kind of the error. -/
theorem create_agrees (contender : Contender)
    (hschema : config.schema? facilityType = some schema)
    (hfield : field ∈ schema.identifierFields) (hnamed : field.isNamed facilityIdField)
    (store : Store) (truth search : SearchQuery → SearchResult)
    (htruth : truth (Facility.duplicateQuery contender.id) =
      .ok (store.search (Facility.duplicateQuery contender.id)))
    (hsearch : Facility.Overlooks (search (Facility.duplicateQuery contender.id))) :
    (store.create config (FacilityRegistry.generate search contender.root) contender.root).2 =
        (store.create config (FacilityRegistry.generate truth contender.root) contender.root).2 ∧
      AgreeUpToKind
        (store.create config (FacilityRegistry.generate truth contender.root) contender.root).1
        (store.create config (FacilityRegistry.generate search contender.root) contender.root).1 := by
  rw [Store.create_of_issued hschema hfield hnamed search rfl (hsearch.decide_eq _ _)]
  rcases Facility.decide_cases contender.id schema.identifierFields
    (truth (Facility.duplicateQuery contender.id)) with
    hissue | ⟨hrefused, response, count, hresponse, hcount⟩
  · -- The check lets the identifier pass as well.
    rw [Store.create_of_issued hschema hfield hnamed truth rfl hissue]
    exact ⟨rfl, .inl rfl⟩
  · -- The check has found the facility that the store meets.
    have hheld : store.HasFacility contender.id := by
      rw [htruth, Except.ok.injEq] at hresponse
      rw [← hresponse] at hcount
      exact Store.hasFacility_of_totalCount hcount
    obtain ⟨path, value, hinsert⟩ := insert_of_hasFacility hfield hnamed hheld
    rw [Store.create_of_refused hschema hfield truth rfl hrefused, hinsert]
    exact ⟨rfl, .inr ⟨_, _, path, value, rfl, rfl⟩⟩

end Contender

namespace FacilityRegistry

variable {registry : FacilityRegistry} {schema : Schema} {field : IdentifierField}

/-- A creation that asks for no facility does not depend on searches. -/
theorem createWith_of_not_contender {root : Json} (h : ∀ contender : Contender, root ≠ contender.root)
    (search other : SearchQuery → SearchResult) :
    registry.createWith search root = registry.createWith other root := by
  have hstore : registry.store.create registry.config (generate search root) root =
      registry.store.create registry.config (generate other root) root := by
    apply Store.create_congr
    intro draft hdraft
    obtain ⟨fields, others, _, hroot, _⟩ := Draft.ofRoot_eq_ok hdraft
    have htype : draft.entityType ≠ facilityType := by
      intro htype
      rw [htype] at hroot
      exact h ⟨fields, others⟩ hroot
    rw [hroot, Draft.generation, Draft.generation, Facility.generate_of_ne htype,
      Facility.generate_of_ne htype]
  rw [createWith, createWith, hstore]

/-- One creation, with the store's answer to its search or with a result that lets the identifier
pass. -/
theorem createWith_agrees (hschema : registry.config.schema? facilityType = some schema)
    (hfield : field ∈ schema.identifierFields) (hnamed : field.isNamed facilityIdField)
    {search : SearchQuery → SearchResult}
    (hsearch : search = registry.truth ∨ ∀ query, Facility.Overlooks (search query)) (root : Json) :
    (registry.createWith search root).2 = (registry.create root).2 ∧
      AgreeUpToKind (registry.create root).1 (registry.createWith search root).1 := by
  rcases hsearch with rfl | hoverlooks
  · exact ⟨rfl, .inl rfl⟩
  · by_cases hroot : ∃ contender : Contender, root = contender.root
    · obtain ⟨contender, rfl⟩ := hroot
      obtain ⟨hstore, hanswer⟩ := contender.create_agrees hschema hfield hnamed registry.store
        registry.truth search rfl (hoverlooks _)
      exact ⟨congrArg (fun store => ({ registry with store } : FacilityRegistry)) hstore, hanswer⟩
    · have hsame : registry.createWith search root = registry.createWith registry.truth root :=
        createWith_of_not_contender (fun contender heq => hroot ⟨contender, heq⟩) _ _
      rw [hsame]
      exact ⟨rfl, .inl rfl⟩

/-- From any state of a registry that has a field for the identifiers of facilities, requests are
served one after the other, once with every search answered by the store and once with some of the
searches failing, or answered in a way that counts no match.  Both runs end in the same registry.
Each request gets the same answer in both, or the check refuses it in the one and the store in the
other, which are duplicates alike. -/
theorem failing_open_changes_only_the_kind_of_error
    (hschema : registry.config.schema? facilityType = some schema)
    (hfield : field ∈ schema.identifierFields) (hnamed : field.isNamed facilityIdField = true)
    {requests : List CheckedRequest}
    (hopen : ∀ request ∈ requests, ∀ result ∈ request.substitute, Facility.Overlooks result) :
    (registry.createChecked requests).2 = (registry.createEach (requests.map (·.root))).2 ∧
      (registry.createChecked requests).1.length =
        (registry.createEach (requests.map (·.root))).1.length ∧
      ∀ (index : Nat) (answer other : Except RegistryError String),
        (registry.createEach (requests.map (·.root))).1[index]? = some answer →
        (registry.createChecked requests).1[index]? = some other →
        AgreeUpToKind answer other ∧
          ∀ cause reason, answer = .error cause → other = .error reason →
            cause.status = reason.status := by
  induction requests generalizing registry with
  | nil => exact ⟨rfl, rfl, by simp [createEach]⟩
  | cons request rest ih =>
      have hsearch : registry.searchFor request = registry.truth ∨
          ∀ query, Facility.Overlooks (registry.searchFor request query) := by
        cases hsubstitute : request.substitute with
        | none =>
            left
            funext query
            rw [searchFor, hsubstitute, Option.getD_none]
        | some result =>
            right
            intro query
            rw [searchFor, hsubstitute, Option.getD_some]
            exact hopen request List.mem_cons_self result hsubstitute
      obtain ⟨hnext, hanswer⟩ := createWith_agrees hschema hfield hnamed hsearch request.root
      have hkept : (registry.createWith (registry.searchFor request) request.root).2.config.schema?
          facilityType = some schema := hschema
      obtain ⟨hlast, hlength, hanswers⟩ := ih hkept fun other hother =>
        hopen other (List.mem_cons_of_mem _ hother)
      simp only [createChecked, List.map_cons, createEach]
      rw [← hnext]
      refine ⟨hlast, congrArg (· + 1) hlength, ?_⟩
      rintro index answer other hfirst hsecond
      cases index with
      | zero =>
          rw [List.getElem?_cons_zero, Option.some.injEq] at hfirst hsecond
          subst hfirst hsecond
          refine ⟨hanswer, ?_⟩
          rintro cause reason hcause hreason
          rw [hcause, hreason] at hanswer
          exact hanswer.status_eq
      | succ index =>
          rw [List.getElem?_cons_succ] at hfirst hsecond
          exact hanswers index answer other hfirst hsecond

/-- A response whose count is a text. -/
def wordedResponse : Json :=
  .obj [(facilityType, .obj [("totalCount", .str "none")])]

/-- One well is submitted four times.  From the second time on, its search times out, counts no match
or has no count. -/
def wellRequests : List CheckedRequest :=
  [none, some (.error .timeout), some (.ok (countResponse facilityType 0)),
    some (.ok wordedResponse)].map fun substitute => ⟨wellRequest.root, substitute⟩

/-- Whether an answer comes from the check. -/
def refusedByCheck : Except RegistryError String → Bool
  | .error (.generation _) => true
  | _ => false

/-- The well is stored once in both runs.  Later submissions are refused by the check in the one run,
and by the store in the other. -/
theorem failing_open_changes_only_the_kind_of_error_of_resubmission :
    let registry : FacilityRegistry := ⟨wellConfig, .empty⟩
    let roots := wellRequests.map (·.root)
    (∀ request ∈ wellRequests, ∀ result ∈ request.substitute, Facility.Overlooks result) ∧
      (registry.createChecked wellRequests).2 = (registry.createEach roots).2 ∧
      (registry.createChecked wellRequests).2.store.nextId = 2 ∧
      (registry.createEach roots).1.map refusedByCheck = [false, true, true, true] ∧
      (registry.createChecked wellRequests).1.map refusedByCheck = [false, false, false, false] := by
  intro registry roots
  have hschema : registry.config.schema? facilityType =
      some ⟨facilityType, [⟨"code"⟩, ⟨"wfId"⟩]⟩ := by decide
  have hopen : ∀ request ∈ wellRequests, ∀ result ∈ request.substitute,
      Facility.Overlooks result := by
    simp only [wellRequests, List.map_cons, List.map_nil, List.forall_mem_cons,
      Option.mem_some_iff, forall_eq']
    exact ⟨nofun, .timeout, .unmatched _ rfl, .malformed _ _ rfl, nofun⟩
  have hsame := failing_open_changes_only_the_kind_of_error hschema
    (List.mem_cons_of_mem _ List.mem_cons_self) (by decide) hopen
  exact ⟨hopen, hsame.1, by decide +kernel, by decide +kernel, by decide +kernel⟩

end FacilityRegistry
end WaterRegistry
