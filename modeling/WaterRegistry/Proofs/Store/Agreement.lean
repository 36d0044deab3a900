import WaterRegistry.Proofs.Document.Dotted
import WaterRegistry.Proofs.Store.Insertion
import WaterRegistry.Proofs.Store.Search

/-!
# Search and constraint agree

Whether a value is taken can be asked in two ways.  A search counts the documents that hold it at a
dotted path; an insertion is refused if one of them holds it at the path of a unique field.  Both
compare the value with the same documents, and at plain keys they read the same places in them.  So
the one finds a match exactly when the other one refuses.
-/

namespace WaterRegistry
namespace Store

/-- With a single unique field, an insertion is refused exactly when its value is held already. -/
theorem insert_refused_iff_holds {store : Store} {entityType path : String} {document value : Json}
    (hobject : document.isObject = true) (hvalue : constrainedValue? document path = some value) :
    (∃ field text, (store.insert ⟨entityType, document, [path]⟩).1 =
        .error (.uniqueConstraint field text)) ↔
      holds (store.entitiesOf entityType) path value = true := by
  constructor
  · rintro ⟨field, text, hrefused⟩
    obtain ⟨_, hcause⟩ := insert_eq_error (Prod.ext hrefused rfl)
    rcases hcause with ⟨hnone, _⟩ | ⟨violated, hmem, found, hfound, hheld, _⟩
    · rw [hobject] at hnone
      cases hnone
    · rw [List.mem_singleton.1 hmem] at hfound hheld
      rw [hvalue, Option.some.injEq] at hfound
      rwa [hfound]
  · intro hheld
    have hinsert : ∃ field text, store.insert ⟨entityType, document, [path]⟩ =
        (.error (.uniqueConstraint field text), store) :=
      insert_of_holds hobject List.mem_cons_self hvalue hheld
    obtain ⟨field, text, hrefused⟩ := hinsert
    exact ⟨field, text, by rw [hrefused]⟩

/-- A value is held at plain keys exactly when a search for it there has a hit. -/
theorem holds_iff_hits {store : Store} {entityType path : String} {keys : List String}
    (hne : keys ≠ []) (hkeys : ∀ key ∈ keys, IsPlainKey key)
    (hpath : path = slashedPath keys ∨ path = "/" ++ slashedPath keys) {value : Json}
    {query : SearchQuery} (hfilters : query.filters.entries = [(dottedPath keys, .eq value)]) :
    holds (store.entitiesOf entityType) path value = true ↔
      0 < (store.hits query entityType).length := by
  rw [holds_iff, List.length_pos_iff_exists_mem]
  simp only [pointer?_slashedPath hne hkeys hpath, hits, List.mem_filter, meets_of_filter hfilters,
    Json.lookupDotted_dottedPath hne fun key hkey => (hkeys key hkey).dot_not_mem, documentsOf,
    List.mem_map]
  constructor
  · rintro ⟨entity, hentity, hheld⟩
    exact ⟨entity.document, ⟨entity, hentity, rfl⟩, hheld⟩
  · rintro ⟨_, ⟨entity, hentity, rfl⟩, hheld⟩
    exact ⟨entity, hentity, hheld⟩

/-- In every store, a document that holds a value other than null at some plain keys is refused on
account of the unique field there exactly when a search for the value counts a match, whatever page
the search asks for.  Counts have 64 bits; no list in memory is longer than that. -/
theorem constraint_refuses_iff_search_counts {store : Store} {entityType : String}
    (hsize : (store.documentsOf entityType).length < 2 ^ 64) {keys : List String} (hne : keys ≠ [])
    (hkeys : ∀ key ∈ keys, IsPlainKey key) {path : String}
    (hpath : path = slashedPath keys ∨ path = "/" ++ slashedPath keys) {document value : Json}
    (hvalue : document.getKeys? keys = some value) (hnull : value ≠ .null) (limit offset : Nat) :
    (∃ field text, (store.insert ⟨entityType, document, [path]⟩).1 =
        .error (.uniqueConstraint field text)) ↔
      ∃ count, 0 < count ∧
        totalCount (store.search ((((SearchQuery.forEntity entityType).withEq (dottedPath keys)
          value).withLimit limit).withOffset offset)) entityType = .ok count := by
  obtain ⟨key, rest, rfl⟩ := List.exists_cons_of_ne_nil hne
  have hobject : document.isObject = true := by
    obtain ⟨_, _, rfl, _, _⟩ := Json.getKeys?_cons_eq_some hvalue
    rfl
  have hconstrained : constrainedValue? document path = some value :=
    constrainedValue?_eq_some.2 ⟨by rw [pointer?_slashedPath hne hkeys hpath, hvalue], hnull⟩
  let query : SearchQuery := (((SearchQuery.forEntity entityType).withEq (dottedPath (key :: rest))
    value).withLimit limit).withOffset offset
  have hfilters : query.filters.entries = [(dottedPath (key :: rest), .eq value)] := rfl
  have htype : entityType ∈ query.entityTypes := List.mem_cons_self
  have hhits : (store.hits query entityType).length < 2 ^ 64 :=
    Nat.lt_of_le_of_lt (List.length_filter_le _ _) hsize
  rw [insert_refused_iff_holds hobject hconstrained, holds_iff_hits hne hkeys hpath hfilters]
  constructor
  · intro hpos
    exact ⟨_, hpos, (totalCount_search_eq_ok htype).2 ⟨rfl, hhits⟩⟩
  · rintro ⟨count, hpos, hcount⟩
    rw [((totalCount_search_eq_ok htype).1 hcount).1]
    exact hpos

/-- Labels whose codes are an object, a list and a text. -/
def labelStore : Store :=
  [Json.obj [("main", .obj [("part", .str "A"), ("no", .ofNat 1)])], .arr [.str "A"], .str "A"].foldl
    (fun store code => (store.insert ⟨"Label", .obj [("code", code)], []⟩).2) empty

/-- The code of a further label is that of the first one, with its fields in another order.  The label
is refused, and the search counts the first one, although it shows none. -/
theorem constraint_refuses_iff_search_counts_of_reordered_code :
    let code := Json.obj [("no", .ofNat 1), ("part", .str "A")]
    let label := Json.obj [("code", .obj [("main", code)])]
    let query := (((SearchQuery.forEntity "Label").withEq (dottedPath ["code", "main"])
      code).withLimit 0).withOffset 5
    (labelStore.documentsOf "Label").length < 2 ^ 64 ∧
      (∀ key ∈ ["code", "main"], IsPlainKey key) ∧
      "code/main" = slashedPath ["code", "main"] ∧
      label.getKeys? ["code", "main"] = some code ∧ code ≠ .null ∧
      totalCount (labelStore.search query) "Label" = .ok 1 ∧
      ∃ field text, (labelStore.insert ⟨"Label", label, ["code/main"]⟩).1 =
        .error (.uniqueConstraint field text) := by
  intro code label query
  have hsize : (labelStore.documentsOf "Label").length < 2 ^ 64 := by decide
  have hkeys : ∀ key ∈ ["code", "main"], IsPlainKey key := by
    simp only [List.forall_mem_cons]
    refine ⟨?_, ?_, nofun⟩ <;> constructor <;> decide
  have hpath : "code/main" = slashedPath ["code", "main"] := by decide
  have hvalue : label.getKeys? ["code", "main"] = some code := rfl
  have hnull : code ≠ .null := by decide
  have hcount : totalCount (labelStore.search query) "Label" = .ok 1 := by decide
  have hrefused := (constraint_refuses_iff_search_counts hsize (by decide) hkeys (.inl hpath) hvalue
    hnull 0 5).2 ⟨1, by decide, hcount⟩
  exact ⟨hsize, hkeys, hpath, hvalue, hnull, hcount, hrefused⟩

end Store
end WaterRegistry
