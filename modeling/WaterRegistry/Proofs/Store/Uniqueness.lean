import WaterRegistry.Proofs.Store.Numbering

/-!
# Uniqueness at a constrained path

A new document is compared with the stored ones before its id is written into it.  `UniqueAt` speaks
of the documents as they are stored.  It is kept nevertheless: the id changes what is read at paths
that start with the id field only, and there the ids themselves differ.
-/

namespace WaterRegistry
namespace Json

/-- Setting a field changes no value that is reached through another one. -/
theorem followTokens_set_of_ne {key token : String} (h : token ≠ key) (value : Json)
    (fields : Fields) (tokens : List String) :
    (Json.obj (Fields.set key value fields)).followTokens (token :: tokens) =
      (Json.obj fields).followTokens (token :: tokens) := by
  simp [followTokens, step?, Fields.get?_set_of_ne h]

theorem followTokens_str_cons (text token : String) (tokens : List String) :
    (Json.str text).followTokens (token :: tokens) = none :=
  rfl

end Json

namespace Store

/-- No two documents of a type hold the same value at a path, null aside. -/
def UniqueAt (store : Store) (entityType path : String) : Prop :=
  (store.documentsOf entityType).Pairwise fun earlier later => ∀ value other,
    earlier.pointer? (pointerOfPath path) = some value →
    later.pointer? (pointerOfPath path) = some other →
    value ≠ .null → value.same other = false

theorem uniqueAt_empty (entityType path : String) : empty.UniqueAt entityType path := by
  simp [UniqueAt]

/-- What the pointer finds in an accepted document is its id, or what it has found before the id was
written. -/
theorem pointer?_accepted {store : Store} {fields : Fields} {path : String} {value : Json}
    (h : (store.accepted fields).document.pointer? (pointerOfPath path) = some value) :
    (tokensOfPath path = [osidField] ∧ value = .str store.nextOsid) ∨
      (Json.obj fields).pointer? (pointerOfPath path) = some value := by
  rw [pointer?_pointerOfPath, accepted] at h
  cases htokens : tokensOfPath path with
  | nil => exact absurd htokens (tokensOfPath_ne_nil path)
  | cons token rest =>
      rw [htokens] at h
      by_cases hosid : token = osidField
      · subst hosid
        have hrest : (Json.str store.nextOsid).followTokens rest = some value := by
          simpa [Json.followTokens, Json.step?] using h
        cases rest with
        | nil =>
            left
            exact ⟨rfl, (Option.some.inj hrest).symm⟩
        | cons next more => rw [Json.followTokens_str_cons] at hrest; cases hrest
      · right
        rw [pointer?_pointerOfPath, htokens]
        rwa [Json.followTokens_set_of_ne hosid] at h

/-- Accepting a document keeps a path unique for a type, if the path is among those it is checked
at whenever it is of that type. -/
theorem UniqueAt.accepts {store after : Store} {count : Nat} {entityType path : String}
    (h : store.UniqueAt entityType path) (hnum : store.Numbered count) {newType : String}
    {fields : Fields} {paths : List String} (hacc : store.Accepts newType fields paths after)
    (hpath : newType = entityType → path ∈ paths) : after.UniqueAt entityType path := by
  unfold UniqueAt
  by_cases htype : entityType = newType
  · subst htype
    rw [hacc.documentsOf_self, List.pairwise_append]
    refine ⟨h, List.pairwise_singleton _ _, ?_⟩
    intro earlier hearlier later hlater value other hvalue hother hnull
    rw [List.mem_singleton.1 hlater] at hother
    obtain ⟨entity, hentity, rfl⟩ := List.mem_map.1 hearlier
    rcases pointer?_accepted hother with ⟨htokens, rfl⟩ | hchecked
    · -- The path is the id field: the stored entity holds its own id there.
      obtain ⟨stored, hdocument, hget⟩ := hnum.carried entityType entity hentity
      rw [pointer?_pointerOfPath, htokens, hdocument] at hvalue
      have hosid : value = .str entity.osid := by
        simpa [Json.followTokens, Json.step?, hget, eq_comm] using hvalue
      rw [hosid, Bool.eq_false_iff, ne_eq, Json.same_str_iff, Json.str.injEq]
      exact hnum.osid_ne_nextOsid hentity
    · -- Any other path has been checked against the stored entity.
      rw [Bool.eq_false_iff]
      intro hsame
      have hother' : other ≠ .null := by
        rintro rfl
        exact hnull (Json.same_null_iff.1 hsame)
      have hfree := hacc.free path (hpath rfl) other
        (constrainedValue?_eq_some.2 ⟨hchecked, hother'⟩)
      rw [Bool.eq_false_iff] at hfree
      exact hfree (holds_iff.2 ⟨entity, hentity, value, hvalue, hsame⟩)
  · rw [hacc.documentsOf_of_ne htype]
    exact h

end Store
end WaterRegistry
