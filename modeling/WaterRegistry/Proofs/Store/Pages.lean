import Mathlib.Data.List.Induction
import WaterRegistry.Proofs.Document.Frame
import WaterRegistry.Proofs.Store.History
import WaterRegistry.Proofs.Store.Search

/-!
# The pages of a search

A search shows one page of its matches at a time.  What it counts does not depend on the page, and
the pages of one size, put one after the other, are all matches in the order in which they have been
stored.  So whoever turns the pages up to the count sees every match once.  The matches are told
from the requests that have been accepted so far, and from a reading of filters on its own.
-/

namespace WaterRegistry

/-- A document matches a query if it has at the path of every filter the value that is asked for. -/
def SearchQuery.Matches (query : SearchQuery) (document : Json) : Prop :=
  ∀ path expected, query.filters.get? path = some (.eq expected) →
    ∃ value, document.lookupDotted path = some value ∧ value.same expected = true

theorem Store.meets_iff {query : SearchQuery} {document : Json} :
    meets query document = true ↔ query.Matches document := by
  simp only [meets, List.all_eq_true, SearchQuery.Matches, SortedTable.get?_eq_some_iff]
  constructor
  · intro h path expected hmem
    have hfilter := h (path, .eq expected) hmem
    cases hfound : document.lookupDotted path with
    | none => simp [hfound] at hfilter
    | some value =>
        simp only [hfound] at hfilter
        exact ⟨value, rfl, hfilter⟩
  · rintro h ⟨path, ⟨expected⟩⟩ hmem
    obtain ⟨value, hfound, hsame⟩ := h path expected hmem
    simpa only [hfound] using hsame

instance (query : SearchQuery) : DecidablePred query.Matches := fun _ =>
  decidable_of_iff _ Store.meets_iff

/-- The page that a response shows of a type. -/
def shownPage? (response : Json) (entityType : String) : Option (List Json) :=
  match (response.get? entityType).bind (·.get? "data") with
  | some (.arr page) => some page
  | _ => none

/-- The document that an answered request has stored for a type: that of an accepted insertion, with
its id. -/
def StoreRequest.stored? (entityType : String) : StoreRequest → StoreAnswer → Option Json
  | .insert ⟨name, .obj fields, _⟩, .inserted (.ok osid) =>
    if name = entityType then some (.obj (Fields.set osidField (.str osid) fields)) else none
  | _, _ => none

/-- The documents that answered requests have stored for a type, in their order. -/
def storedDocuments (entityType : String) (requests : List StoreRequest)
    (answers : List StoreAnswer) : List Json :=
  (requests.zip answers).filterMap fun step => step.1.stored? entityType step.2

namespace Fields

/-- Fields that are set in turn stand in the order in which their names have first come up. -/
theorem map_fst_ofEntries (entries : List (String × Json)) :
    (ofEntries entries).map (·.1) = (entries.map (·.1)).eraseDups := by
  induction entries using List.reverseRecOn with
  | nil => rfl
  | append_singleton entries entry ih =>
      rw [ofEntries_concat, map_fst_set, ih, List.map_append, List.eraseDups_append]
      by_cases hmem : entry.1 ∈ entries.map (·.1)
      · simp [hmem, List.removeAll]
      · simp [hmem, List.removeAll, List.eraseDups_cons]

end Fields

namespace Store

/-- A request adds to a type the document that it has stored, and nothing else. -/
theorem documentsOf_serve (store : Store) (request : StoreRequest) (entityType : String) :
    (store.serve request).2.documentsOf entityType =
      store.documentsOf entityType ++
        (request.stored? entityType (store.serve request).1).toList := by
  cases request with
  | get name osid => simp [serve, StoreRequest.stored?]
  | search query => simp [serve, StoreRequest.stored?]
  | insert insertion =>
      rcases hinsert : store.insert insertion with ⟨answer, after⟩
      have hserve : store.serve (.insert insertion) = (.inserted answer, after) := by
        rw [serve, hinsert]
        rfl
      rw [hserve]
      cases answer with
      | error error =>
          obtain ⟨rfl, _⟩ := insert_eq_error hinsert
          simp [StoreRequest.stored?]
      | ok osid =>
          obtain ⟨rfl, fields, hdocument, hacc⟩ := insert_eq_ok hinsert
          obtain ⟨name, document, paths⟩ := insertion
          cases hdocument
          by_cases htype : name = entityType
          · subst htype
            simp [StoreRequest.stored?, hacc.documentsOf_self, accepted]
          · simp [StoreRequest.stored?, hacc.documentsOf_of_ne (Ne.symm htype), htype]

/-- A run adds to a type the documents that its requests have stored, in their order. -/
theorem documentsOf_serveAll (requests : List StoreRequest) (store : Store) (entityType : String) :
    (serveAll requests store).2.documentsOf entityType =
      store.documentsOf entityType ++
        storedDocuments entityType requests (serveAll requests store).1 := by
  induction requests generalizing store with
  | nil => simp [serveAll, storedDocuments]
  | cons request rest ih =>
      have hcons : storedDocuments entityType (request :: rest)
          (serveAll (request :: rest) store).1 =
            (request.stored? entityType (store.serve request).1).toList ++
              storedDocuments entityType rest (serveAll rest (store.serve request).2).1 := by
        rw [serveAll_cons, storedDocuments, List.zip_cons_cons, List.filterMap_cons]
        cases request.stored? entityType (store.serve request).1 <;> rfl
      rw [hcons, serveAll_cons, ih, documentsOf_serve, List.append_assoc]

/-- The response names every type that is asked for once, at the place where it first comes up. -/
theorem exists_search_eq_obj (store : Store) (query : SearchQuery) :
    ∃ fields, store.search query = .obj fields ∧
      fields.map (·.1) = query.entityTypes.eraseDups := by
  refine ⟨_, rfl, ?_⟩
  rw [Fields.map_fst_ofEntries, List.map_map]
  simp [Function.comp_def]

/-- A response says nothing about a type that has not been asked for. -/
theorem totalCount_search_of_not_mem {store : Store} {query : SearchQuery} {entityType : String}
    (h : entityType ∉ query.entityTypes) :
    totalCount (store.search query) entityType = .ok 0 := by
  have hnone : (store.search query).get? entityType = none := by
    rw [get?_search, if_neg h]
  rw [totalCount, hnone]

/-- The page that is shown of a type is cut out of its hits. -/
theorem shownPage?_search {store : Store} {query : SearchQuery} {entityType : String}
    (h : entityType ∈ query.entityTypes) :
    shownPage? (store.search query) entityType =
      some (((store.hits query entityType).drop query.offset).take query.limit) := by
  rw [shownPage?, get?_search, if_pos h]
  rfl

/-- The hits do not depend on the page that is asked for. -/
theorem hits_page (store : Store) (query : SearchQuery) (limit offset : Nat) (entityType : String) :
    store.hits ((query.withLimit limit).withOffset offset) entityType =
      (store.documentsOf entityType).filter (query.Matches ·) := by
  rw [hits]
  refine List.filter_congr fun document _ => ?_
  have hsame : meets ((query.withLimit limit).withOffset offset) document = meets query document :=
    rfl
  rw [hsame, Bool.eq_iff_iff, meets_iff, decide_eq_true_iff]

end Store

/-- Pages of one size, put one after the other, are what a list starts with. -/
theorem flatMap_pages {α : Type} (limit count : Nat) (items : List α) :
    ((List.range count).flatMap fun page => (items.drop (page * limit)).take limit) =
      items.take (count * limit) := by
  induction count with
  | zero => simp
  | succ count ih =>
      rw [List.range_succ, List.flatMap_append, ih, Nat.succ_mul, List.take_add]
      simp

namespace Store

/-- After every run from the empty store, and for every query, the response has the types that are
asked for as its keys, each of them once and in the order in which they first come up.  Whatever
page is asked for, the count of a type is the number of the documents that the run has stored for it
and that match the query, and zero if the type is not asked for.  Counts have 64 bits; no list in
memory is longer than that.  With pages of `limit` matches, above zero, no page is longer, each
further page goes on where the last one has ended, and the pages at all multiples of `limit` up to
the count are all matches, in the order in which they have been stored. -/
theorem search_pages_partition_matches (requests : List StoreRequest) (query : SearchQuery) :
    let run := serveAll requests empty
    let response limit offset := run.2.search ((query.withLimit limit).withOffset offset)
    let found entityType := (storedDocuments entityType requests run.1).filter (query.Matches ·)
    (∀ limit offset, ∃ fields, response limit offset = .obj fields ∧
      fields.map (·.1) = query.entityTypes.eraseDups) ∧
    (∀ entityType ∉ query.entityTypes, ∀ limit offset,
      totalCount (response limit offset) entityType = .ok 0) ∧
    ∀ entityType ∈ query.entityTypes,
      ((found entityType).length < 2 ^ 64 → ∀ limit offset,
        totalCount (response limit offset) entityType = .ok (found entityType).length) ∧
      ∀ limit, 1 ≤ limit → ∃ page : Nat → List Json,
        (∀ offset, shownPage? (response limit offset) entityType = some (page offset) ∧
          (page offset).length ≤ limit) ∧
        (∀ count, ((List.range count).flatMap fun k => page (k * limit)) =
          (found entityType).take (count * limit)) ∧
        ((List.range ((found entityType).length / limit + 1)).flatMap fun k => page (k * limit)) =
          found entityType := by
  intro run response found
  have hstored (entityType : String) : run.2.documentsOf entityType =
      storedDocuments entityType requests run.1 := by
    simpa using documentsOf_serveAll requests empty entityType
  have hhits (limit offset : Nat) (entityType : String) :
      run.2.hits ((query.withLimit limit).withOffset offset) entityType = found entityType := by
    rw [hits_page, hstored]
  refine ⟨fun limit offset => exists_search_eq_obj _ _,
    fun entityType hnot limit offset => totalCount_search_of_not_mem hnot, ?_⟩
  intro entityType hmem
  constructor
  · intro hsize limit offset
    have hcount : (run.2.hits ((query.withLimit limit).withOffset offset) entityType).length =
        (found entityType).length := by rw [hhits]
    have htype : entityType ∈ ((query.withLimit limit).withOffset offset).entityTypes := hmem
    exact (totalCount_search_eq_ok htype).2 ⟨hcount, hsize⟩
  · intro limit hlimit
    have hpages := fun count => flatMap_pages limit count (found entityType)
    refine ⟨fun offset => ((found entityType).drop offset).take limit, fun offset => ?_, hpages, ?_⟩
    · have hpage : shownPage? (response limit offset) entityType =
          some (((run.2.hits ((query.withLimit limit).withOffset offset) entityType).drop
            offset).take limit) := shownPage?_search hmem
      rw [hhits] at hpage
      exact ⟨hpage, List.length_take_le _ _⟩
    · have hreached : (found entityType).length ≤
          ((found entityType).length / limit + 1) * limit :=
        Nat.le_of_lt ((Nat.div_lt_iff_lt_mul hlimit).1 (Nat.lt_succ_self _))
      rw [hpages, List.take_of_length_le hreached]

/-- The request to store a note of a county under a code of its own. -/
def countyNote (code county : String) : StoreRequest :=
  .insert ⟨"Note", .obj [("code", .str code), ("county", .str county)], ["code"]⟩

/-- Five notes with a label between them; the fourth note has the code of the first one. -/
def countyRequests : List StoreRequest :=
  [countyNote "a" "Nimba", countyNote "b" "Bong", countyNote "c" "Nimba", countyNote "a" "Nimba",
    .insert ⟨"Label", .obj [("county", .str "Nimba")], []⟩, countyNote "d" "Nimba"]

/-- Asks for the notes and tags of one county, and for the notes once more. -/
def countyQuery : SearchQuery :=
  { (SearchQuery.forEntity "Note").withEq "county" (.str "Nimba") with
    entityTypes := ["Note", "Tag", "Note"] }

/-- Three notes are counted, also on a page behind the last one of them, and the label is not.  Two
pages of two show all three. -/
theorem search_pages_partition_matches_of_notes :
    let run := serveAll countyRequests empty
    let found := (storedDocuments "Note" countyRequests run.1).filter (countyQuery.Matches ·)
    let response limit offset := run.2.search ((countyQuery.withLimit limit).withOffset offset)
    "Note" ∈ countyQuery.entityTypes ∧ found.length < 2 ^ 64 ∧
      totalCount (response 2 4) "Note" = .ok 3 ∧
      "Label" ∉ countyQuery.entityTypes ∧ totalCount (response 2 4) "Label" = .ok 0 ∧
      ∃ page : Nat → List Json,
        (∀ offset, shownPage? (response 2 offset) "Note" = some (page offset) ∧
          (page offset).length ≤ 2) ∧
        (page 0 ++ page 2).map (·.get? "code") =
          ["a", "c", "d"].map fun code => some (.str code) := by
  intro run found response
  obtain ⟨_, hnone, hsome⟩ := search_pages_partition_matches countyRequests countyQuery
  have hnote : "Note" ∈ countyQuery.entityTypes := by decide
  have hlabel : "Label" ∉ countyQuery.entityTypes := by decide
  obtain ⟨hcount, hpages⟩ := hsome "Note" hnote
  obtain ⟨page, hpage, _, hall⟩ := hpages 2 (by decide)
  have hfound : found.map (·.get? "code") =
      ["a", "c", "d"].map fun code => some (.str code) := by decide
  have hlength : found.length = 3 := by
    rw [← List.length_map (f := (·.get? "code")), hfound]
    rfl
  have hsize : found.length < 2 ^ 64 := by
    rw [hlength]
    decide
  refine ⟨hnote, hsize, ?_, hlabel, hnone "Label" hlabel 2 4, page, hpage, ?_⟩
  · rw [hcount hsize 2 4, hlength]
  · have hpair : ((List.range 2).flatMap fun k => page (k * 2)) = page 0 ++ page 2 := by
      simp [List.range_succ]
    dsimp only at hall
    rw [hlength] at hall
    rw [← hpair, ← hfound]
    exact congrArg _ hall

end Store
end WaterRegistry
