import WaterRegistry.Proofs.Creation.Uniqueness

/-!
# A failed creation leaves no trace

The store opens the list of a type before it checks a document against that list, and generators
have states of their own.  Here both are taken step by step.  A refused document has met a stored
one of its type, so the list has been open before and no empty type is left behind.  A generator is
asked once, and only for a request that has got as far as its fields; it is then that a creation may
still fail.
-/

namespace WaterRegistry
namespace Store

/-- Opens the list of a type, empty unless there is one already. -/
def openType (entityType : String) :
    List (String × List StoredEntity) → List (String × List StoredEntity)
  | [] => [(entityType, [])]
  | (name, stored) :: rest =>
    if name = entityType then (name, stored) :: rest
    else (name, stored) :: openType entityType rest

theorem lookup_openType (entityType other : String)
    (entities : List (String × List StoredEntity)) :
    ((openType entityType entities).lookup other).getD [] =
      (entities.lookup other).getD [] := by
  induction entities with
  | nil =>
      rw [openType, SortedTable.lookup_cons_eq_ite]
      by_cases h : other = entityType <;> simp [h]
  | cons head rest ih =>
      obtain ⟨name, stored⟩ := head
      unfold openType
      split
      · rfl
      · rw [SortedTable.lookup_cons_eq_ite, SortedTable.lookup_cons_eq_ite]
        by_cases h : other = name <;> simp [h, ih]

/-- A type with entities is open. -/
theorem openType_eq_self {entityType : String} {entities : List (String × List StoredEntity)}
    (h : (entities.lookup entityType).getD [] ≠ []) : openType entityType entities = entities := by
  induction entities with
  | nil => exact absurd rfl h
  | cons head rest ih =>
      obtain ⟨name, stored⟩ := head
      unfold openType
      split
      · rfl
      · rename_i hname
        rw [SortedTable.lookup_cons_eq_ite, if_neg (Ne.symm hname)] at h
        rw [ih h]

theorem addEntity_openType (entityType : String) (entity : StoredEntity)
    (entities : List (String × List StoredEntity)) :
    addEntity entityType entity (openType entityType entities) =
      addEntity entityType entity entities := by
  induction entities with
  | nil => simp [openType, addEntity]
  | cons head rest ih =>
      obtain ⟨name, stored⟩ := head
      by_cases h : name = entityType <;> simp [openType, addEntity, h, ih]

/-- The types that have lists, once an entity has been added. -/
theorem map_fst_addEntity (entityType : String) (entity : StoredEntity)
    (entities : List (String × List StoredEntity)) :
    (addEntity entityType entity entities).map (·.1) =
      if entityType ∈ entities.map (·.1) then entities.map (·.1)
      else entities.map (·.1) ++ [entityType] := by
  induction entities with
  | nil => simp [addEntity]
  | cons head rest ih =>
      obtain ⟨name, stored⟩ := head
      unfold addEntity
      by_cases h : name = entityType
      · simp [h]
      · rw [if_neg h, List.map_cons, ih]
        by_cases hrest : entityType ∈ rest.map (·.1) <;> simp [hrest, Ne.symm h]

/-- An insertion in the order of its steps: the list of the type is opened, the document is checked
against it, and either the store is left as it is then or the document is added. -/
def insertOpening (store : Store) (insertion : Insertion) : Except RegistryError String × Store :=
  match insertion.document with
  | .obj fields =>
    let opened : Store := { store with entities := openType insertion.entityType store.entities }
    match firstViolation? (opened.entitiesOf insertion.entityType) insertion.document
        insertion.uniquePaths with
    | some (path, value) =>
      (.error (.uniqueConstraint (fieldName path) value.displayText), opened)
    | none =>
      (.ok opened.nextOsid,
        { entities := addEntity insertion.entityType (opened.accepted fields) opened.entities
          nextId := opened.nextId + 1 })
  | _ => (.error (notAnObject insertion.entityType), store)

/-- Opening the list first makes no difference: where a document is refused, it has been open. -/
theorem insertOpening_eq_insert (store : Store) (insertion : Insertion) :
    store.insertOpening insertion = store.insert insertion := by
  obtain ⟨entityType, document, paths⟩ := insertion
  cases document with
  | obj fields =>
      have hsame : entitiesOf { store with entities := openType entityType store.entities }
          entityType = store.entitiesOf entityType := lookup_openType entityType entityType _
      simp only [insertOpening, insert, hsame]
      cases hviolation : firstViolation? (store.entitiesOf entityType) (.obj fields) paths with
      | none =>
          simp only [addEntity_openType]
          rfl
      | some violation =>
          -- An entity of the type holds the value, so its list has been open.
          obtain ⟨path, value⟩ := violation
          obtain ⟨_, _, hheld⟩ := firstViolation?_eq_some hviolation
          obtain ⟨entity, hmem, _⟩ := holds_iff.1 hheld
          simp only [openType_eq_self (List.ne_nil_of_mem hmem)]
  | _ => rfl

/-- `after` is `store` with one more entity, the last of its type, and the counter moved on by
one. -/
structure Gains (store : Store) (entityType osid : String) (after : Store) : Prop where
  osid_eq : osid = store.nextOsid
  entitiesOf_self : ∃ document,
    after.entitiesOf entityType = store.entitiesOf entityType ++ [⟨osid, document⟩]
  entitiesOf_of_ne : ∀ other, other ≠ entityType → after.entitiesOf other = store.entitiesOf other
  types_eq : after.entities.map (·.1) =
    if entityType ∈ store.entities.map (·.1) then store.entities.map (·.1)
    else store.entities.map (·.1) ++ [entityType]
  nextId_toNat : after.nextId.toNat = store.nextId.toNat + 1

theorem types_insert {store after : Store} {insertion : Insertion} {osid : String}
    (h : store.insert insertion = (.ok osid, after)) :
    after.entities.map (·.1) =
      if insertion.entityType ∈ store.entities.map (·.1) then store.entities.map (·.1)
      else store.entities.map (·.1) ++ [insertion.entityType] := by
  obtain ⟨entityType, document, paths⟩ := insertion
  cases document with
  | obj fields =>
      simp only [insert] at h
      split at h
      · cases h
      · cases h
        exact map_fst_addEntity _ _ _
  | _ => cases h

/-- An accepted insertion gains one entity, unless the counter comes round. -/
theorem gains_of_insert {store after : Store} {insertion : Insertion} {osid : String}
    (h : store.insert insertion = (.ok osid, after)) (hfew : store.nextId.toNat + 1 < 2 ^ 32) :
    store.Gains insertion.entityType osid after := by
  obtain ⟨hosid, fields, _, hacc⟩ := insert_eq_ok h
  have hone : (1 : UInt32).toNat = 1 := rfl
  refine ⟨hosid, ?_, ?_, types_insert h, ?_⟩
  · have hself := hacc.entitiesOf_eq insertion.entityType
    rw [if_pos rfl, accepted, ← hosid] at hself
    exact ⟨_, hself⟩
  · intro other hother
    rw [hacc.entitiesOf_eq, if_neg hother]
  · rw [hacc.nextId_eq, UInt32.toNat_add, hone]
    exact Nat.mod_eq_of_lt hfew

end Store

/-- What a generator with states of some type does when it is asked for fields. -/
abbrev Behaviour (σ : Type) :=
  List IdentifierField → σ → Generation × σ

/-- A registry at work: its store, the state of its generator, and what the generator has been asked
for so far. -/
structure Service (σ : Type) where
  store : Store
  state : σ
  asked : List (List IdentifierField)

namespace Service

variable {σ : Type}

/-- Asks the generator for fields. -/
def ask (behaviour : Behaviour σ) (fields : List IdentifierField) (service : Service σ) :
    Generation × Service σ :=
  let (generation, state) := behaviour fields service.state
  (generation, { service with state, asked := service.asked ++ [fields] })

/-- The values for the fields of a draft; where there are no fields, the generator is not asked. -/
def generation (behaviour : Behaviour σ) (draft : Draft) (service : Service σ) :
    Generation × Service σ :=
  if draft.fields.isEmpty then (.ok .empty, service) else service.ask behaviour draft.fields

/-- Creates an entity in the order of the steps: the request is checked, the generator is asked, the
document is filled, and the store is asked to insert it. -/
def addEntity (config : Config) (behaviour : Behaviour σ) (service : Service σ) (root : Json) :
    Except RegistryError String × Service σ :=
  match Draft.ofRoot config root with
  | .error error => (.error error, service)
  | .ok draft =>
    let (generation, service) := service.generation behaviour draft
    match draft.complete generation with
    | .error error => (.error error, service)
    | .ok insertion =>
      let (answer, store) := service.store.insertOpening insertion
      (answer, { service with store })

/-- What a request makes the registry ask its generator for. -/
def asks (config : Config) (root : Json) : List (List IdentifierField) :=
  match Draft.ofRoot config root with
  | .error _ => []
  | .ok draft => if draft.fields.isEmpty then [] else [draft.fields]

theorem generation_eq (behaviour : Behaviour σ) (draft : Draft) (service : Service σ) :
    ∃ state, service.generation behaviour draft =
      (draft.generation fun fields => (behaviour fields service.state).1,
        { service with
          state
          asked := service.asked ++ if draft.fields.isEmpty then [] else [draft.fields] }) := by
  unfold generation Draft.generation
  split
  · exact ⟨service.state, by rw [List.append_nil]⟩
  · exact ⟨_, rfl⟩

/-- Step by step a creation ends as the creation in the store does. -/
theorem addEntity_eq (config : Config) (behaviour : Behaviour σ) (service : Service σ)
    (root : Json) :
    ∃ state, service.addEntity config behaviour root =
      ((service.store.create config (fun fields => (behaviour fields service.state).1) root).1,
        ⟨(service.store.create config (fun fields => (behaviour fields service.state).1) root).2,
          state, service.asked ++ asks config root⟩) := by
  unfold addEntity asks Store.create
  cases Draft.ofRoot config root with
  | error error => exact ⟨service.state, by rw [List.append_nil]⟩
  | ok draft =>
      obtain ⟨state, hgeneration⟩ := service.generation_eq behaviour draft
      refine ⟨state, ?_⟩
      simp only [hgeneration]
      cases draft.complete (draft.generation fun fields => (behaviour fields service.state).1) with
      | error error => rfl
      | ok insertion => simp only [Store.insertOpening_eq_insert]

theorem length_asks_le (config : Config) (root : Json) : (asks config root).length ≤ 1 := by
  unfold asks
  split
  · exact Nat.zero_le 1
  · split <;> simp

/-- The generator is asked for the fields of the request's type, if there are any. -/
theorem of_mem_asks {config : Config} {root : Json} {asked : List IdentifierField}
    (h : asked ∈ asks config root) :
    ∃ entityType fields others schema, root = .obj ((entityType, .obj fields) :: others) ∧
      config.schema? entityType = some schema ∧ asked = schema.identifierFields ∧ asked ≠ [] := by
  unfold asks at h
  split at h
  · cases h
  · rename_i draft hdraft
    split at h
    · cases h
    · rename_i hsome
      obtain ⟨fields, others, schema, hroot, hschema, _, hfields⟩ := Draft.ofRoot_eq_ok hdraft
      rw [List.mem_singleton.1 h]
      exact ⟨draft.entityType, fields, others, schema, hroot, hschema, hfields,
        fun hempty => hsome (by rw [hempty]; rfl)⟩

end Service

namespace Store

/-- Whatever a generator does, after any run that has created fewer than `2 ^ 32 - 2` entities, a
creation that fails leaves the store as it is, and one that gives an id adds one entity at the end of
its type's list and moves the counter on by one.  The generator is asked at most once, and only for
the fields of a configured type that has any, with an object as the document. -/
theorem failed_creation_leaves_no_trace {config : Config} {earlier : List CreationRequest}
    (hfew : successes (createAll config earlier empty).1 < 2 ^ 32 - 2) {σ : Type}
    (behaviour : Behaviour σ) (state : σ) (root : Json) :
    let store := (createAll config earlier empty).2
    let created := store.create config (fun fields => (behaviour fields state).1) root
    (∀ error, created.1 = .error error → created.2 = store) ∧
    (∀ osid, created.1 = .ok osid → ∃ entityType document others,
      root = .obj ((entityType, document) :: others) ∧
        store.Gains entityType osid created.2) ∧
    ∃ (last : σ) (asked : List (List IdentifierField)),
      (⟨store, state, []⟩ : Service σ).addEntity config behaviour root =
        (created.1, ⟨created.2, last, asked⟩) ∧
      asked.length ≤ 1 ∧
      ∀ requested ∈ asked, ∃ entityType fields others schema,
        root = .obj ((entityType, .obj fields) :: others) ∧
          config.schema? entityType = some schema ∧ requested = schema.identifierFields ∧
          requested ≠ [] := by
  intro store created
  refine ⟨?_, ?_, ?_⟩
  · intro error herror
    exact create_eq_error (Prod.ext herror rfl)
  · intro osid hosid
    obtain ⟨draft, generated, hdraft, _, hinsert⟩ := create_eq_ok (Prod.ext hosid rfl)
    obtain ⟨fields, others, _, hroot, _⟩ := Draft.ofRoot_eq_ok hdraft
    have hnumbered : store.Numbered (successes (createAll config earlier empty).1) :=
      numbered_createAll (Nat.lt_of_lt_of_le hfew (by decide))
    have hnext : store.nextId.toNat + 1 < 2 ^ 32 := by
      rw [hnumbered.nextId_toNat]
      omega
    exact ⟨draft.entityType, .obj fields, others, hroot, gains_of_insert hinsert hnext⟩
  · obtain ⟨last, hadd⟩ := (⟨store, state, []⟩ : Service σ).addEntity_eq config behaviour root
    exact ⟨last, _, hadd, Service.length_asks_le config root, fun _ => Service.of_mem_asks⟩

/-- A generator that gives the code `a` when it is asked first, and `b` from then on. -/
def codeBehaviour : Behaviour Bool :=
  fun _ first => (.ok (SortedTable.empty.insert "code" (if first then "a" else "b")), false)

/-- A note with the code `a` is stored.  The next one is refused if it gets the same code, and is
stored if it gets the other one. -/
theorem failed_creation_leaves_no_trace_of_repeated_code :
    let earlier := [noteRequest "1-2" "a"]
    let store := (createAll noteConfig earlier empty).2
    let root := Json.obj [("Note", .obj [])]
    let again := store.create noteConfig (fun fields => (codeBehaviour fields true).1) root
    let further := store.create noteConfig (fun fields => (codeBehaviour fields false).1) root
    successes (createAll noteConfig earlier empty).1 < 2 ^ 32 - 2 ∧
      again.1 = .error (.uniqueConstraint "code" "a") ∧ again.2 = store ∧
      further.1 = .ok "1-2" ∧ store.Gains "Note" "1-2" further.2 := by
  intro earlier store root again further
  have hfew : successes (createAll noteConfig earlier empty).1 < 2 ^ 32 - 2 := by decide
  have hagain : again.1 = .error (.uniqueConstraint "code" "a") := rfl
  have hfurther : further.1 = .ok "1-2" := by
    dsimp only [further, store, earlier, root]
    rfl
  obtain ⟨hrefused, _⟩ := failed_creation_leaves_no_trace hfew codeBehaviour true root
  obtain ⟨_, haccepted, _⟩ := failed_creation_leaves_no_trace hfew codeBehaviour false root
  obtain ⟨_, _, _, hroot, hgains⟩ := haccepted "1-2" hfurther
  simp only [root, Json.obj.injEq, List.cons.injEq, Prod.mk.injEq] at hroot
  obtain ⟨⟨rfl, _⟩, _⟩ := hroot
  exact ⟨hfew, hagain, hrefused _ hagain, hfurther, hgains⟩

end Store
end WaterRegistry
