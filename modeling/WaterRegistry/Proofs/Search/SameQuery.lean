import WaterRegistry.Proofs.Store.Pages

/-!
# Queries that ask for the same

Documents are compared without regard to the order of fields, so two queries whose filters ask for
values that are the same as documents match the same entities.  If they also ask for the same types
and the same page, no store tells them apart.
-/

namespace WaterRegistry

namespace Filter

/-- The value that a filter asks for. -/
def value : Filter → Json
  | .eq value => value

/-- Whether two filters ask for values that are the same as documents. -/
def Same (filter other : Filter) : Prop :=
  filter.value.same other.value = true

theorem Same.symm {filter other : Filter} (h : filter.Same other) : other.Same filter := by
  rwa [Same, Json.same_comm]

end Filter

namespace SearchQuery

/-- Whether two queries are the same: they name the same types, ask for the same values at the same
paths and want the same page. -/
structure Same (query other : SearchQuery) : Prop where
  entityTypes_eq : query.entityTypes = other.entityTypes
  filters_same : ∀ path,
    Option.Rel Filter.Same (query.filters.get? path) (other.filters.get? path)
  limit_eq : query.limit = other.limit
  offset_eq : query.offset = other.offset

namespace Same

variable {query other : SearchQuery}

theorem symm (h : query.Same other) : other.Same query where
  entityTypes_eq := h.entityTypes_eq.symm
  filters_same path := by
    have hpath := h.filters_same path
    generalize query.filters.get? path = found at hpath ⊢
    generalize other.filters.get? path = second at hpath ⊢
    cases hpath with
    | none => exact .none
    | some hsame => exact .some hsame.symm
  limit_eq := h.limit_eq.symm
  offset_eq := h.offset_eq.symm

theorem matches_of_matches (h : query.Same other) {document : Json}
    (hmatches : query.Matches document) : other.Matches document := by
  intro path expected hfilter
  have hpath := h.filters_same path
  rw [hfilter] at hpath
  obtain ⟨filter, hfirst, hsame⟩ : ∃ filter, query.filters.get? path = some filter ∧
      filter.Same (.eq expected) := by
    generalize query.filters.get? path = found at hpath ⊢
    cases hpath with
    | @some filter _ hsame => exact ⟨filter, rfl, hsame⟩
  obtain ⟨value, hvalue, hmeets⟩ := hmatches path filter.value hfirst
  exact ⟨value, hvalue, Json.same_trans hmeets hsame⟩

/-- Queries that are the same have the same response, whatever is stored. -/
theorem search_eq (h : query.Same other) (store : Store) :
    store.search query = store.search other := by
  have hmeets : Store.meets query = Store.meets other := by
    funext document
    rw [Bool.eq_iff_iff, Store.meets_iff, Store.meets_iff]
    exact ⟨h.matches_of_matches, h.symm.matches_of_matches⟩
  have hentry : store.entry query = store.entry other := by
    funext entityType
    rw [Store.entry, Store.entry, Store.hits, Store.hits, hmeets, h.limit_eq, h.offset_eq]
  rw [Store.search, Store.search, hentry, h.entityTypes_eq]

end Same
end SearchQuery
end WaterRegistry
