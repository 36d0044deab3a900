import Mathlib.Algebra.Group.Nat.Defs
import WaterRegistry.Store.Basic

/-!
# What a search reports

The response to a search has an entry for every type that is asked for and no other ones.  The count
in the entry is the number of the stored documents that meet every filter, whatever page of them is
shown, as long as it is a count of 64 bits.
-/

namespace WaterRegistry

theorem Number.count?_eq_some {number : Number} {n : Nat} :
    number.count? = some n ↔ number = .int n ∧ n < 2 ^ 64 := by
  cases number with
  | double value => simp [count?]
  | int value =>
      simp only [count?, Option.ite_none_right_eq_some, Option.some.injEq, Number.int.injEq]
      constructor
      · rintro ⟨⟨hnonneg, hsmall⟩, rfl⟩
        exact ⟨(Int.toNat_of_nonneg hnonneg).symm, hsmall⟩
      · rintro ⟨rfl, hsmall⟩
        exact ⟨⟨Int.natCast_nonneg n, hsmall⟩, Int.toNat_natCast n⟩

theorem Json.count?_eq_some {value : Json} {n : Nat} :
    value.count? = some n ↔ value = .num (.int n) ∧ n < 2 ^ 64 := by
  cases value with
  | num number => rw [Json.count?, Number.count?_eq_some, Json.num.injEq]
  | _ => simp [Json.count?]

/-- Among fields that have been named one after the other, a name gives what it stands for. -/
theorem Fields.get?_ofEntries_map (value : String → Json) (names : List String) (key : String) :
    Fields.get? key (Fields.ofEntries (names.map fun name => (name, value name))) =
      if key ∈ names then some (value key) else none := by
  have hfold (fields : Fields) :
      Fields.get? key ((names.map fun name => (name, value name)).foldl
          (fun fields entry => Fields.set entry.1 entry.2 fields) fields) =
        if key ∈ names then some (value key) else Fields.get? key fields := by
    induction names generalizing fields with
    | nil => rfl
    | cons name rest ih =>
        rw [List.map_cons, List.foldl_cons, ih]
        by_cases hrest : key ∈ rest
        · simp [hrest]
        · by_cases hname : key = name
          · subst hname
            simp [hrest]
          · simp [hrest, hname, Fields.get?_set_of_ne hname]
  exact hfold []

/-- A response with a number for a type reports that number, if it is a count. -/
theorem totalCount_eq_ok {response entry : Json} {entityType : String} {count : Number} {n : Nat}
    (hentry : response.get? entityType = some entry)
    (hcount : entry.get? "totalCount" = some (.num count)) :
    totalCount response entityType = .ok n ↔ count.count? = some n := by
  simp only [totalCount, hentry, hcount, Json.count?]
  cases count.count? <;> simp

/-- A response reports matches of a type exactly if its entry for the type has a positive count. -/
theorem totalCount_eq_succ_iff {response : Json} {entityType : String} {n : Nat} :
    totalCount response entityType = .ok (n + 1) ↔
      ∃ entry, response.get? entityType = some entry ∧
        entry.get? "totalCount" = some (.num (.int (n + 1 : Nat))) ∧ n + 1 < 2 ^ 64 := by
  constructor
  · intro h
    unfold totalCount at h
    split at h
    · cases h
    · rename_i entry hentry
      split at h
      · cases h
      · cases h
      · rename_i count hcount
        split at h
        · rename_i m hm
          cases h
          obtain ⟨hint, hsmall⟩ := Json.count?_eq_some.1 hm
          exact ⟨entry, hentry, hcount.trans (congrArg some hint), hsmall⟩
        · cases h
  · rintro ⟨entry, hentry, hcount, hsmall⟩
    exact (totalCount_eq_ok hentry hcount).2 (Number.count?_eq_some.2 ⟨rfl, hsmall⟩)

namespace Store

theorem get?_search (store : Store) (query : SearchQuery) (entityType : String) :
    (store.search query).get? entityType =
      if entityType ∈ query.entityTypes then some (store.entry query entityType) else none :=
  Fields.get?_ofEntries_map (store.entry query) query.entityTypes entityType

/-- The count that is reported for a type is the number of its hits. -/
theorem totalCount_search_eq_ok {store : Store} {query : SearchQuery} {entityType : String}
    (htype : entityType ∈ query.entityTypes) {n : Nat} :
    totalCount (store.search query) entityType = .ok n ↔
      (store.hits query entityType).length = n ∧ n < 2 ^ 64 := by
  have hentry : (store.search query).get? entityType = some (store.entry query entityType) := by
    rw [get?_search, if_pos htype]
  have hcount : (store.entry query entityType).get? "totalCount" =
      some (.num (.int (store.hits query entityType).length)) := rfl
  rw [totalCount_eq_ok hentry hcount, Number.count?_eq_some, Number.int.injEq, Int.natCast_inj]

/-- A query with one filter is met by the documents that hold its value at its path. -/
theorem meets_of_filter {query : SearchQuery} {path : String} {value document : Json}
    (hfilters : query.filters.entries = [(path, .eq value)]) :
    meets query document = true ↔
      ∃ found, document.lookupDotted path = some found ∧ found.same value = true := by
  rw [meets, hfilters, List.all_cons, List.all_nil, Bool.and_true]
  cases hfound : document.lookupDotted path <;> simp [hfound]

end Store
end WaterRegistry
