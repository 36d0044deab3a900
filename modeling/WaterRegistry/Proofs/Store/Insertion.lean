import WaterRegistry.Proofs.Document.Notation

/-!
# What an insertion does

A refused insertion leaves the store as it is.  An accepted one puts a single entity behind the
others of its type and moves the counter on by one; `Accepts` says all of this, and every invariant
of the store is derived from it.  A refusal names a constrained value that is stored already.
-/

namespace WaterRegistry
namespace Store

@[simp] theorem entitiesOf_empty (entityType : String) : empty.entitiesOf entityType = [] :=
  rfl

@[simp] theorem documentsOf_empty (entityType : String) : empty.documentsOf entityType = [] :=
  rfl

theorem lookup_addEntity (entityType other : String) (entity : StoredEntity)
    (entities : List (String × List StoredEntity)) :
    ((addEntity entityType entity entities).lookup other).getD [] =
      if other = entityType then (entities.lookup other).getD [] ++ [entity]
      else (entities.lookup other).getD [] := by
  induction entities with
  | nil =>
      rw [addEntity, SortedTable.lookup_cons_eq_ite]
      by_cases h : other = entityType <;> simp [h]
  | cons head rest ih =>
      obtain ⟨name, stored⟩ := head
      unfold addEntity
      by_cases hname : name = entityType
      · subst hname
        rw [if_pos rfl, SortedTable.lookup_cons_eq_ite, SortedTable.lookup_cons_eq_ite]
        by_cases h : other = name <;> simp [h]
      · rw [if_neg hname, SortedTable.lookup_cons_eq_ite, SortedTable.lookup_cons_eq_ite]
        by_cases h : other = name
        · subst h
          simp [hname]
        · simp only [h, if_false]
          exact ih

/-- The entity that an accepted document becomes. -/
def accepted (store : Store) (fields : Fields) : StoredEntity :=
  ⟨store.nextOsid, .obj (Fields.set osidField (.str store.nextOsid) fields)⟩

/-- The value that a path makes unique is the one the pointer finds, unless it is null. -/
theorem constrainedValue?_eq_some {document value : Json} {path : String} :
    constrainedValue? document path = some value ↔
      document.pointer? (pointerOfPath path) = some value ∧ value ≠ .null := by
  unfold constrainedValue?
  cases document.pointer? (pointerOfPath path) with
  | none => simp
  | some found => cases found <;> simp +contextual [eq_comm]

theorem holds_iff {stored : List StoredEntity} {path : String} {value : Json} :
    holds stored path value = true ↔
      ∃ entity ∈ stored, ∃ other,
        entity.document.pointer? (pointerOfPath path) = some other ∧ other.same value = true := by
  rw [holds, List.any_eq_true]
  refine exists_congr fun entity => and_congr_right fun _ => ?_
  cases entity.document.pointer? (pointerOfPath path) <;> simp

theorem firstViolation?_eq_none {stored : List StoredEntity} {document : Json}
    {paths : List String} (h : firstViolation? stored document paths = none) :
    ∀ path ∈ paths, ∀ value, constrainedValue? document path = some value →
      holds stored path value = false := by
  induction paths with
  | nil => simp
  | cons head rest ih =>
      intro path hpath value hvalue
      unfold firstViolation? at h
      cases hhead : constrainedValue? document head with
      | none =>
          rw [hhead] at h
          rcases List.mem_cons.1 hpath with rfl | hpath
          · rw [hhead] at hvalue
            cases hvalue
          · exact ih h path hpath value hvalue
      | some found =>
          rw [hhead] at h
          cases hheld : holds stored head found with
          | true => simp [hheld] at h
          | false =>
              simp only [hheld, Bool.false_eq_true, if_false] at h
              rcases List.mem_cons.1 hpath with rfl | hpath
              · rw [hhead] at hvalue
                cases hvalue
                exact hheld
              · exact ih h path hpath value hvalue

theorem firstViolation?_eq_some {stored : List StoredEntity} {document value : Json}
    {paths : List String} {path : String}
    (h : firstViolation? stored document paths = some (path, value)) :
    path ∈ paths ∧ constrainedValue? document path = some value ∧
      holds stored path value = true := by
  induction paths with
  | nil => simp [firstViolation?] at h
  | cons head rest ih =>
      unfold firstViolation? at h
      cases hhead : constrainedValue? document head with
      | none =>
          rw [hhead] at h
          exact (ih h).imp_left (List.mem_cons_of_mem _)
      | some found =>
          rw [hhead] at h
          cases hheld : holds stored head found with
          | true =>
              simp only [hheld, if_true, Option.some.injEq, Prod.mk.injEq] at h
              obtain ⟨rfl, rfl⟩ := h
              exact ⟨List.mem_cons_self, hhead, hheld⟩
          | false =>
              simp only [hheld, Bool.false_eq_true, if_false] at h
              exact (ih h).imp_left (List.mem_cons_of_mem _)

/-- `after` is `store` once it has accepted the document with the given fields for a type. -/
structure Accepts (store : Store) (entityType : String) (fields : Fields) (paths : List String)
    (after : Store) : Prop where
  free : ∀ path ∈ paths, ∀ value, constrainedValue? (.obj fields) path = some value →
    holds (store.entitiesOf entityType) path value = false
  entitiesOf_eq : ∀ other, after.entitiesOf other =
    if other = entityType then store.entitiesOf other ++ [store.accepted fields]
    else store.entitiesOf other
  nextId_eq : after.nextId = store.nextId + 1

/-- An insertion that gives an id has accepted its document under the next id. -/
theorem insert_eq_ok {store after : Store} {insertion : Insertion} {osid : String}
    (h : store.insert insertion = (.ok osid, after)) :
    osid = store.nextOsid ∧ ∃ fields, insertion.document = .obj fields ∧
      store.Accepts insertion.entityType fields insertion.uniquePaths after := by
  obtain ⟨entityType, document, paths⟩ := insertion
  cases document with
  | obj fields =>
      simp only [insert] at h
      split at h
      · simp at h
      · rename_i hnone
        simp only [Prod.mk.injEq, Except.ok.injEq] at h
        obtain ⟨hosid, rfl⟩ := h
        exact ⟨hosid.symm, fields, rfl,
          { free := firstViolation?_eq_none hnone
            entitiesOf_eq := fun other => lookup_addEntity entityType other _ store.entities
            nextId_eq := rfl }⟩
  | _ => simp [insert] at h

/-- A refused insertion changes nothing.  Its document is no object, or one of its constrained
values is held already. -/
theorem insert_eq_error {store after : Store} {insertion : Insertion} {error : RegistryError}
    (h : store.insert insertion = (.error error, after)) :
    after = store ∧
      (insertion.document.isObject = false ∧ error = notAnObject insertion.entityType ∨
        ∃ path ∈ insertion.uniquePaths, ∃ value,
          constrainedValue? insertion.document path = some value ∧
          holds (store.entitiesOf insertion.entityType) path value = true ∧
          error = .uniqueConstraint (fieldName path) value.displayText) := by
  obtain ⟨entityType, document, paths⟩ := insertion
  cases document with
  | obj fields =>
      simp only [insert] at h
      split at h
      · rename_i path value hsome
        simp only [Prod.mk.injEq, Except.error.injEq] at h
        obtain ⟨rfl, rfl⟩ := h
        obtain ⟨hpath, hvalue, hheld⟩ := firstViolation?_eq_some hsome
        exact ⟨rfl, .inr ⟨path, hpath, value, hvalue, hheld, rfl⟩⟩
      · simp at h
  | _ =>
      simp only [insert, Prod.mk.injEq, Except.error.injEq] at h
      exact ⟨h.2.symm, .inl ⟨rfl, h.1.symm⟩⟩

/-- A value that is held already is refused. -/
theorem insert_of_holds {store : Store} {insertion : Insertion} {path : String} {value : Json}
    (hobject : insertion.document.isObject = true) (hpath : path ∈ insertion.uniquePaths)
    (hvalue : constrainedValue? insertion.document path = some value)
    (hholds : holds (store.entitiesOf insertion.entityType) path value = true) :
    ∃ field text, store.insert insertion = (.error (.uniqueConstraint field text), store) := by
  rcases hinsert : store.insert insertion with ⟨answer, after⟩
  cases answer with
  | ok osid =>
      obtain ⟨_, fields, hdocument, hacc⟩ := insert_eq_ok hinsert
      rw [hdocument] at hvalue
      have hfree := hacc.free path hpath value hvalue
      rw [hholds] at hfree
      cases hfree
  | error error =>
      obtain ⟨rfl, hcause⟩ := insert_eq_error hinsert
      rcases hcause with ⟨hnone, _⟩ | ⟨violated, _, found, _, _, rfl⟩
      · rw [hobject] at hnone
        cases hnone
      · exact ⟨_, _, rfl⟩

/-- An object whose constrained values are held nowhere is accepted. -/
theorem insert_of_free {store : Store} {entityType : String} {fields : Fields}
    {paths : List String}
    (hfree : ∀ path ∈ paths, ∀ value, constrainedValue? (.obj fields) path = some value →
      holds (store.entitiesOf entityType) path value = false) :
    ∃ after, store.insert ⟨entityType, .obj fields, paths⟩ = (.ok store.nextOsid, after) ∧
      store.Accepts entityType fields paths after := by
  rcases hinsert : store.insert ⟨entityType, .obj fields, paths⟩ with ⟨answer, after⟩
  cases answer with
  | ok osid =>
      obtain ⟨rfl, _, hfields, hacc⟩ := insert_eq_ok hinsert
      obtain rfl := Json.obj.inj hfields
      exact ⟨after, rfl, hacc⟩
  | error error =>
      obtain ⟨_, ⟨hobject, _⟩ | ⟨path, hpath, value, hvalue, hheld, _⟩⟩ := insert_eq_error hinsert
      · cases hobject
      · rw [hfree path hpath value hvalue] at hheld
        cases hheld

namespace Accepts

variable {store after : Store} {entityType : String} {fields : Fields} {paths : List String}

theorem documentsOf_self (h : store.Accepts entityType fields paths after) :
    after.documentsOf entityType =
      store.documentsOf entityType ++ [(store.accepted fields).document] := by
  simp [documentsOf, h.entitiesOf_eq]

theorem documentsOf_of_ne (h : store.Accepts entityType fields paths after) {other : String}
    (hne : other ≠ entityType) : after.documentsOf other = store.documentsOf other := by
  simp [documentsOf, h.entitiesOf_eq, hne]

theorem mem_documentsOf (h : store.Accepts entityType fields paths after) {other : String}
    {document : Json} (hmem : document ∈ store.documentsOf other) :
    document ∈ after.documentsOf other := by
  by_cases hother : other = entityType
  · subst hother
    rw [h.documentsOf_self]
    exact List.mem_append_left _ hmem
  · rw [h.documentsOf_of_ne hother]
    exact hmem

end Accepts
end Store
end WaterRegistry
