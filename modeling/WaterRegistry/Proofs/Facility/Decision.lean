import Mathlib.Algebra.Group.Int.Defs
import WaterRegistry.Proofs.Facility.Duplicate

/-!
# The decision on a facility identifier

Outside the creation of a facility the generator does nothing.  For a facility it makes one search,
whatever fields are asked for, and gives the identifier out unless the search reports a match.  What
counts as a report is narrow: there has to be an entry for facilities, and its count has to be a
positive integer of 64 bits.  A search that fails, or a response of any other form, lets the
identifier pass.  The identifier goes to the first field that is meant for it, under the path as it
is written there.
-/

namespace WaterRegistry

/-- Whether facility identifiers are written at the path of a field. -/
def IdentifierField.TakesFacilityId (field : IdentifierField) : Prop :=
  field.path = "wfId" ∨ field.path = "/wfId"

theorem IdentifierField.isNamed_facilityIdField {field : IdentifierField} :
    field.isNamed facilityIdField = true ↔ field.TakesFacilityId := by
  rw [isNamed, Bool.or_eq_true, decide_eq_true_eq, decide_eq_true_eq]
  exact Iff.rfl

namespace Facility

/-- Whether a search has succeeded with a positive number of facilities. -/
def ReportsMatch (result : SearchResult) : Prop :=
  ∃ response entry, ∃ count : Int, result = .ok response ∧
    response.get? "WaterFacility" = some entry ∧
    entry.get? "totalCount" = some (.num (.int count)) ∧ 0 < count ∧ count < 2 ^ 64

theorem reportsMatch_iff {result : SearchResult} :
    ReportsMatch result ↔
      ∃ response n, result = .ok response ∧ totalCount response facilityType = .ok (n + 1) := by
  constructor
  · rintro ⟨response, entry, count, hresult, hentry, hcount, hpos, hsmall⟩
    obtain ⟨n, rfl⟩ := Int.eq_succ_of_zero_lt hpos
    exact ⟨response, n, hresult,
      totalCount_eq_succ_iff.2 ⟨entry, hentry, hcount, by exact_mod_cast hsmall⟩⟩
  · rintro ⟨response, n, hresult, htotal⟩
    obtain ⟨entry, hentry, hcount, hsmall⟩ := totalCount_eq_succ_iff.1 htotal
    exact ⟨response, entry, (n + 1 : Nat), hresult, hentry, hcount, by omega,
      by exact_mod_cast hsmall⟩

/-- The identifier is refused exactly if a match is reported. -/
theorem decide_eq_error_iff {id : String} {requested : List IdentifierField}
    {result : SearchResult} {error : GenerationError} :
    decide id requested result = .error error ↔
      ReportsMatch result ∧ error = duplicateError id := by
  rw [reportsMatch_iff]
  constructor
  · intro h
    rcases decide_cases id requested result with hissue | ⟨hrefused, hreport⟩
    · rw [hissue] at h
      cases h
    · rw [hrefused, Except.error.injEq] at h
      exact ⟨hreport, h.symm⟩
  · rintro ⟨⟨response, n, rfl, htotal⟩, rfl⟩
    exact decide_of_totalCount htotal id requested

/-- In every other case it is issued. -/
theorem decide_eq_ok {result : SearchResult} (h : ¬ ReportsMatch result) (id : String)
    (requested : List IdentifierField) :
    decide id requested result = .ok (issue id requested) := by
  rcases decide_cases id requested result with hissue | ⟨_, hreport⟩
  · exact hissue
  · exact absurd (reportsMatch_iff.2 hreport) h

/-- Without a field for it, the identifier is issued to nobody. -/
theorem entries_issue_of_forall_not {id : String} {requested : List IdentifierField}
    (h : ∀ field ∈ requested, ¬ field.TakesFacilityId) : (issue id requested).entries = [] := by
  have hnone : requested.find? (·.isNamed facilityIdField) = none :=
    List.find?_eq_none.2 fun field hfield hnamed =>
      h field hfield (IdentifierField.isNamed_facilityIdField.1 hnamed)
  rw [issue, hnone]
  rfl

/-- The first field for the identifier gets it, and no other one. -/
theorem entries_issue_of_first {id : String} {before after : List IdentifierField}
    {field : IdentifierField} (hbefore : ∀ other ∈ before, ¬ other.TakesFacilityId)
    (hfield : field.TakesFacilityId) :
    (issue id (before ++ field :: after)).entries = [(field.path, id)] := by
  have hfirst : (before ++ field :: after).find? (·.isNamed facilityIdField) = some field := by
    refine List.find?_eq_some_iff_append.2
      ⟨IdentifierField.isNamed_facilityIdField.2 hfield, before, after, rfl, fun other hother => ?_⟩
    rw [Bool.not_eq_true', ← Bool.not_eq_true, IdentifierField.isNamed_facilityIdField]
    exact hbefore other hother
  rw [issue, hfirst]
  rfl

end Facility

namespace Generator

/-- Unless a facility is bound, the generator gives nothing out and makes no search. -/
theorem generate_facility_of_ne {relay : Relay} (h : relay.entityType ≠ some facilityType)
    (source : SearchSource) (search : SearchQuery → SearchResult) (fields : List IdentifierField) :
    (Generator.facility source).generate search relay.current fields =
      (some (.ok .empty), .facility source) := by
  have hsettled : Facility.inquire relay.current fields = .settled (.ok .empty) := by
    cases hcurrent : relay.current with
    | none => rfl
    | some binding =>
        have hne : binding.entityType ≠ facilityType := by
          intro htype
          rw [Relay.entityType, hcurrent, Option.map_some, htype] at h
          exact h rfl
        rw [Facility.inquire]
        exact if_neg hne
  rw [generate, hsettled]
  cases source <;> rfl

end Generator

namespace Facility

/-- While a facility is bound, the generator makes the search for its identifier. -/
theorem inquire_of_facility {relay : Relay} {payload : Json}
    (h : relay.current = some ⟨payload, facilityType⟩) (fields : List IdentifierField) :
    inquire relay.current fields =
      .search (duplicateQuery (FacilityKey.ofDocument payload).id)
        (decide (FacilityKey.ofDocument payload).id fields) := by
  rw [h, inquire]
  exact if_pos rfl

/-- In every state of the relay and for all fields: unless a facility is bound, the generator gives
out nothing and makes no search.  If one is bound, it makes one search, which uses up one prepared
result and is the only one received: for a facility with the identifier of the bound document, one
match to the page.  Whatever the search gives, the generator fails exactly if it reports a match,
and then with the error that the identifier is taken.  Otherwise it succeeds; it gives out nothing
if no field takes the identifier, and else the identifier alone, under the path of the first field
that takes it.  A generator that asks a store decides in the same way. -/
theorem generator_decides_by_search (relay : Relay) (fields : List IdentifierField)
    (result : SearchResult) :
    (relay.entityType ≠ some "WaterFacility" → ∀ source search,
      (Generator.facility source).generate search relay.current fields =
        (some (.ok .empty), .facility source)) ∧
    ∀ payload, relay.current = some ⟨payload, "WaterFacility"⟩ →
      let id := (FacilityKey.ofDocument payload).id
      ∃ query generation,
        (query.entityTypes = ["WaterFacility"] ∧
          query.filters.entries = [("wfId", .eq (.str id))] ∧
          query.limit = 1 ∧ query.offset = 0) ∧
        (∀ search remaining received,
          (Generator.facility (.script ⟨result :: remaining, received⟩)).generate search
              relay.current fields =
            (some generation, .facility (.script ⟨remaining, received ++ [query]⟩))) ∧
        (∀ search, search query = result →
          (Generator.facility .store).generate search relay.current fields =
            (some generation, .facility .store)) ∧
        (∀ error, generation = .error error ↔ ReportsMatch result ∧ error = duplicateError id) ∧
        (¬ ReportsMatch result → ∃ generated, generation = .ok generated ∧
          ((∀ field ∈ fields, ¬ field.TakesFacilityId) → generated.entries = []) ∧
          ∀ before field after, fields = before ++ field :: after →
            (∀ other ∈ before, ¬ other.TakesFacilityId) → field.TakesFacilityId →
            generated.entries = [(field.path, id)]) := by
  constructor
  · intro hne source search
    exact Generator.generate_facility_of_ne hne source search fields
  · intro payload hbound id
    have hinquire : inquire relay.current fields = .search (duplicateQuery id) (decide id fields) :=
      inquire_of_facility hbound fields
    refine ⟨duplicateQuery id, decide id fields result, ⟨rfl, rfl, rfl, rfl⟩, ?_, ?_,
      fun error => decide_eq_error_iff, ?_⟩
    · intro search remaining received
      rw [Generator.generate, hinquire]
      rfl
    · intro search hsearch
      rw [Generator.generate, hinquire, ← hsearch]
      rfl
    · intro hnot
      refine ⟨issue id fields, decide_eq_ok hnot id fields, entries_issue_of_forall_not, ?_⟩
      rintro before field after rfl hbefore hfield
      exact entries_issue_of_first hbefore hfield

/-- A response with a number of facilities. -/
def countingResponse (count : Number) : Json :=
  .obj [("WaterFacility", .obj [("totalCount", .num count)])]

/-- The fields of a facility with a code of its own, in which the identifier has two places. -/
def codedFields : List IdentifierField :=
  [⟨"code"⟩, ⟨"/wfId"⟩, ⟨"wfId"⟩]

/-- While a spring is bound, one facility refuses its identifier.  A negative number of facilities
does not, and the identifier goes to the first of its two places.  While a note is bound, nothing is
asked. -/
theorem generator_decides_by_search_for_spring :
    let spring := Json.obj [("geoCode", .str "6CVX"), ("wfId", .str "WF-1")]
    let relay := Relay.capturing (.obj [("WaterFacility", spring)])
    let noted := Relay.capturing (.obj [("Note", spring)])
    let id := (FacilityKey.ofDocument spring).id
    let prepared count := Generator.facility (.script ⟨[.ok (countingResponse count)], []⟩)
    let asked count binding :=
      ((prepared count).generate (fun _ => .error .timeout) binding codedFields).1
    relay.current = some ⟨spring, "WaterFacility"⟩ ∧
      asked (.int 1) relay.current = some (.error (duplicateError id)) ∧
      ¬ ReportsMatch (.ok (countingResponse (.int (-1)))) ∧
      (∃ generated, asked (.int (-1)) relay.current = some (.ok generated) ∧
        generated.entries = [("/wfId", id)]) ∧
      noted.entityType ≠ some "WaterFacility" ∧
      asked (.int 1) noted.current = some (.ok .empty) := by
  intro spring relay noted id prepared asked
  have hbound : relay.current = some ⟨spring, "WaterFacility"⟩ := rfl
  have hnoted : noted.entityType ≠ some "WaterFacility" := by decide
  have hnegative : ¬ ReportsMatch (.ok (countingResponse (.int (-1)))) := by
    rintro ⟨response, entry, count, hresponse, hentry, hcount, hpos, _⟩
    cases hresponse
    cases hentry
    cases hcount
    exact absurd hpos (by decide)
  refine ⟨hbound, ?_, hnegative, ?_, hnoted, ?_⟩
  · obtain ⟨query, generation, _, hasked, _, hfails, _⟩ :=
      (generator_decides_by_search relay codedFields
        (.ok (countingResponse (.int 1)))).2 spring hbound
    have hmatch : ReportsMatch (.ok (countingResponse (.int 1))) :=
      ⟨_, _, 1, rfl, rfl, rfl, by decide, by decide⟩
    rw [← (hfails _).2 ⟨hmatch, rfl⟩]
    exact congrArg Prod.fst (hasked _ [] [])
  · obtain ⟨query, generation, _, hasked, _, _, hissues⟩ :=
      (generator_decides_by_search relay codedFields
        (.ok (countingResponse (.int (-1))))).2 spring hbound
    obtain ⟨generated, hgeneration, _, hfirst⟩ := hissues hnegative
    refine ⟨generated, ?_, ?_⟩
    · rw [← hgeneration]
      exact congrArg Prod.fst (hasked _ [] [])
    · refine hfirst [⟨"code"⟩] ⟨"/wfId"⟩ [⟨"wfId"⟩] rfl ?_ (.inr rfl)
      intro other hother
      rw [List.mem_singleton.1 hother]
      rintro (hpath | hpath) <;> revert hpath <;> decide
  · exact congrArg Prod.fst ((generator_decides_by_search noted codedFields
      (.ok (countingResponse (.int 1)))).1 hnoted _ _)

end Facility
end WaterRegistry
