import Mathlib.Data.List.Nodup
import WaterRegistry.Proofs.Store.Numbering
import WaterRegistry.Store.Request

/-!
# The history of the store

The store can be told from the history of the entities that it has accepted, each with its type: a
type's list is what the history holds of that type, and the ids number the history as a whole.  A
request adds at most one entity at the end of the history, and a request that is no insertion adds
none.  So nothing that is stored changes or moves any more, and an id names one entity for good.
-/

namespace WaterRegistry

/-- Entities in the order in which they have been accepted, each with its type. -/
abbrev History := List (String × StoredEntity)

namespace History

/-- The entities of a type. -/
def ofType (history : History) (entityType : String) : List StoredEntity :=
  (history.filter (·.1 = entityType)).map (·.2)

/-- The ids of all entities. -/
def osids (history : History) : List String :=
  history.map (·.2.osid)

theorem ofType_append (history born : History) (entityType : String) :
    (history ++ born).ofType entityType = history.ofType entityType ++ born.ofType entityType := by
  simp [ofType]

theorem mem_ofType {history : History} {entityType : String} {entity : StoredEntity} :
    entity ∈ history.ofType entityType ↔ (entityType, entity) ∈ history := by
  simp [ofType]

/-- The ids of a type's entities are some of all ids, in their order. -/
theorem osids_ofType_sublist (history : History) (entityType : String) :
    ((history.ofType entityType).map (·.osid)).Sublist history.osids := by
  rw [ofType, List.map_map]
  exact (List.filter_sublist (l := history)).map _

end History

/-- The ids that some answers give out, in their order. -/
def givenIds (answers : List StoreAnswer) : List String :=
  answers.filterMap StoreAnswer.osid?

theorem givenIds_append (answers others : List StoreAnswer) :
    givenIds (answers ++ others) = givenIds answers ++ givenIds others :=
  List.filterMap_append

namespace Store

theorem serveAll_cons (request : StoreRequest) (rest : List StoreRequest) (store : Store) :
    serveAll (request :: rest) store =
      ((store.serve request).1 :: (serveAll rest (store.serve request).2).1,
        (serveAll rest (store.serve request).2).2) :=
  rfl

theorem serveAll_append (requests others : List StoreRequest) (store : Store) :
    serveAll (requests ++ others) store =
      ((serveAll requests store).1 ++ (serveAll others (serveAll requests store).2).1,
        (serveAll others (serveAll requests store).2).2) := by
  induction requests generalizing store with
  | nil => rfl
  | cons request rest ih => simp only [List.cons_append, serveAll_cons, ih]

/-- The store holds the entities of a history and no others, and their ids number them in the order
in which they have been accepted. -/
structure Keeps (store : Store) (history : History) : Prop where
  entitiesOf_eq : ∀ entityType, store.entitiesOf entityType = history.ofType entityType
  osids_eq : history.osids = (List.range history.length).map fun n => osidOf (n + 1)
  numbered : store.Numbered history.length

theorem keeps_empty : empty.Keeps [] where
  entitiesOf_eq _ := rfl
  osids_eq := rfl
  numbered := numbered_empty

namespace Keeps

variable {store after : Store} {history : History}

theorem nodup_osids (h : store.Keeps history) : history.osids.Nodup := by
  rw [h.osids_eq]
  refine List.nodup_range.map ?_
  intro m n heq
  have := osidOf_inj.1 heq
  omega

/-- An id in the history names one entity, and one type. -/
theorem eq_of_osid_eq (h : store.Keeps history) {entry other : String × StoredEntity}
    (hentry : entry ∈ history) (hother : other ∈ history) (hosid : entry.2.osid = other.2.osid) :
    entry = other :=
  List.inj_on_of_nodup_map h.nodup_osids hentry hother hosid

/-- No two places in the store hold entities with one id. -/
theorem place_eq (h : store.Keeps history) {entityType other : String} {i j : Nat}
    {entity second : StoredEntity} (hentity : (store.entitiesOf entityType)[i]? = some entity)
    (hsecond : (store.entitiesOf other)[j]? = some second) (hosid : entity.osid = second.osid) :
    entityType = other ∧ i = j := by
  rw [h.entitiesOf_eq] at hentity hsecond
  have hmem := History.mem_ofType.1 (List.mem_of_getElem? hentity)
  have hmem' := History.mem_ofType.1 (List.mem_of_getElem? hsecond)
  obtain ⟨rfl, rfl⟩ := Prod.mk.inj (h.eq_of_osid_eq hmem hmem' hosid)
  have hnodup : (history.ofType entityType).Nodup :=
    List.Nodup.of_map _ (h.nodup_osids.sublist (history.osids_ofType_sublist entityType))
  obtain ⟨hlt, _⟩ := List.getElem?_eq_some_iff.1 hentity
  exact ⟨rfl, (List.getElem?_inj hlt hnodup).1 (hentity.trans hsecond.symm)⟩

/-- An accepted document is the next entity of the history. -/
theorem accepts (h : store.Keeps history) {entityType : String} {fields : Fields}
    {paths : List String} (hacc : store.Accepts entityType fields paths after)
    (hfew : history.length + 1 < 2 ^ 32 - 1) :
    after.Keeps (history ++ [(entityType, store.accepted fields)]) where
  entitiesOf_eq := by
    intro other
    rw [hacc.entitiesOf_eq, History.ofType_append, h.entitiesOf_eq]
    by_cases hother : other = entityType
    · simp [hother, History.ofType]
    · simp [hother, Ne.symm hother, History.ofType]
  osids_eq := by
    have hosids : (history ++ [(entityType, store.accepted fields)]).osids =
        history.osids ++ [store.nextOsid] := by
      simp [History.osids, accepted]
    rw [hosids, h.osids_eq, nextOsid_eq, h.numbered.nextId_toNat]
    simp [List.range_succ]
  numbered := by
    simpa using h.numbered.accepts hacc hfew

/-- An entity of the history is found under its id, in the type that it has been accepted for and in
no other one. -/
theorem get?_eq (h : store.Keeps history) {entityType : String} {entity : StoredEntity}
    (hentity : (entityType, entity) ∈ history) (other : String) :
    store.get? other entity.osid = if other = entityType then some entity.document else none := by
  rw [get?, h.entitiesOf_eq]
  cases hfind : (history.ofType other).find? (·.osid = entity.osid) with
  | none =>
      rw [if_neg, Option.map_none]
      rintro rfl
      have := List.find?_eq_none.1 hfind entity (History.mem_ofType.2 hentity)
      simp at this
  | some found =>
      have hfound : (other, found) ∈ history :=
        History.mem_ofType.1 (List.mem_of_find?_eq_some hfind)
      have hosid : found.osid = entity.osid := by simpa using List.find?_some hfind
      obtain ⟨rfl, rfl⟩ := Prod.mk.inj (h.eq_of_osid_eq hfound hentity hosid)
      rw [if_pos rfl, Option.map_some]

/-- Serving a request keeps a history that goes on with the entity whose id the answer gives out. -/
theorem serve (h : store.Keeps history) (request : StoreRequest)
    (hfew : history.length + (givenIds [(store.serve request).1]).length < 2 ^ 32 - 1) :
    ∃ born, (store.serve request).2.Keeps (history ++ born) ∧
      givenIds [(store.serve request).1] = born.osids := by
  cases request with
  | insert insertion =>
      rcases hinsert : store.insert insertion with ⟨answer, after⟩
      simp only [Store.serve, hinsert, Prod.map] at hfew ⊢
      cases answer with
      | error error =>
          obtain ⟨rfl, _⟩ := insert_eq_error hinsert
          exact ⟨[], by simpa using h, rfl⟩
      | ok osid =>
          obtain ⟨rfl, fields, _, hacc⟩ := insert_eq_ok hinsert
          exact ⟨_, h.accepts hacc hfew, rfl⟩
  | get entityType osid => exact ⟨[], by rwa [List.append_nil], rfl⟩
  | search query => exact ⟨[], by rwa [List.append_nil], rfl⟩

/-- A run keeps a history that goes on with the entities whose ids the answers give out. -/
theorem serveAll (h : store.Keeps history) (requests : List StoreRequest)
    (hfew : history.length + (givenIds (serveAll requests store).1).length < 2 ^ 32 - 1) :
    ∃ born, (Store.serveAll requests store).2.Keeps (history ++ born) ∧
      givenIds (Store.serveAll requests store).1 = born.osids := by
  induction requests generalizing store history with
  | nil => exact ⟨[], by rwa [List.append_nil], rfl⟩
  | cons request rest ih =>
      have hids : givenIds (Store.serveAll (request :: rest) store).1 =
          givenIds [(store.serve request).1] ++
            givenIds (Store.serveAll rest (store.serve request).2).1 := by
        rw [serveAll_cons, ← List.singleton_append, givenIds_append]
      rw [hids, List.length_append] at hfew
      obtain ⟨first, hfirst, hgiven⟩ := h.serve request (by omega)
      have hlength : first.length = (givenIds [(store.serve request).1]).length := by
        rw [hgiven, History.osids, List.length_map]
      obtain ⟨born, hborn, hrest⟩ := ih hfirst (by rw [List.length_append]; omega)
      refine ⟨first ++ born, by rwa [← List.append_assoc], ?_⟩
      rw [hids, hgiven, hrest, History.osids, History.osids, History.osids, List.map_append]

/-- From the moment it is accepted, a document is found under its id, in its own type only. -/
theorem get?_of_inserted (h : store.Keeps history) {insertion : Insertion} {osid : String}
    (hinserted : (store.serve (.insert insertion)).1 = .inserted (.ok osid))
    (between : List StoreRequest)
    (hfew : history.length +
      (givenIds (Store.serveAll (.insert insertion :: between) store).1).length < 2 ^ 32 - 1) :
    ∃ fields, insertion.document = .obj fields ∧
      ∀ entityType, (Store.serveAll (.insert insertion :: between) store).2.get? entityType osid =
        if entityType = insertion.entityType then
          some (.obj (Fields.set osidField (.str osid) fields))
        else none := by
  rcases hinsert : store.insert insertion with ⟨answer, after⟩
  have hserve : store.serve (.insert insertion) = (.inserted answer, after) := by
    rw [Store.serve, hinsert]
    rfl
  rw [hserve] at hinserted
  obtain rfl : answer = .ok osid := by simpa using hinserted
  obtain ⟨rfl, fields, hdocument, hacc⟩ := insert_eq_ok hinsert
  rw [serveAll_cons, hserve] at hfew ⊢
  simp only [givenIds, StoreAnswer.osid?, List.filterMap_cons, List.length_cons] at hfew
  have hnext := h.accepts hacc (by omega)
  obtain ⟨born, hborn, _⟩ := hnext.serveAll between
    (by rw [List.length_append, List.length_singleton, givenIds]; omega)
  have hmem : (insertion.entityType, store.accepted fields) ∈
      history ++ [(insertion.entityType, store.accepted fields)] ++ born := by simp
  exact ⟨fields, hdocument, hborn.get?_eq hmem⟩

end Keeps

/-- Every point of a run has a history, which the rest of the run only adds to. -/
theorem exists_keeps_serveAll (earlier later : List StoreRequest)
    (hfew : (givenIds (serveAll (earlier ++ later) empty).1).length < 2 ^ 32 - 1) :
    ∃ history born, (serveAll earlier empty).2.Keeps history ∧
      givenIds (serveAll earlier empty).1 = history.osids ∧
      (serveAll (earlier ++ later) empty).2.Keeps (history ++ born) := by
  rw [serveAll_append, givenIds_append, List.length_append] at hfew
  obtain ⟨history, hkeeps, hids⟩ := keeps_empty.serveAll earlier
    (by rw [List.length_nil]; omega)
  rw [List.nil_append] at hkeeps
  have hlength : history.length = (givenIds (serveAll earlier empty).1).length := by
    rw [hids, History.osids, List.length_map]
  obtain ⟨born, hborn, _⟩ := hkeeps.serveAll later (by omega)
  exact ⟨history, born, hkeeps, hids, by rwa [serveAll_append]⟩

/-- After every run from the empty store that gives out fewer than `2 ^ 32 - 1` ids, these are
`1-1`, `1-2` and so on, whatever types they are for.  At every point of the run the counter stands
behind the last id that has been given out, no two stored entities share an id, and every stored
document is an object with its own id in the id field.  From there on the lists of all types are
only added to.  A document that is accepted is found from then on under its id, with the type that it
has been submitted for and with no other one.  Reads and searches change nothing. -/
theorem store_only_grows_and_osids_identify {requests : List StoreRequest}
    (hfew : (givenIds (serveAll requests empty).1).length < 2 ^ 32 - 1) :
    givenIds (serveAll requests empty).1 =
        (List.range (givenIds (serveAll requests empty).1).length).map (fun n => osidOf (n + 1)) ∧
      ∀ earlier later, requests = earlier ++ later →
        let store := (serveAll earlier empty).2
        store.nextId.toNat = (givenIds (serveAll earlier empty).1).length + 1 ∧
        (∀ (entityType other : String) (i j : Nat) (entity second : StoredEntity),
          (store.entitiesOf entityType)[i]? = some entity →
          (store.entitiesOf other)[j]? = some second → entity.osid = second.osid →
          entityType = other ∧ i = j) ∧
        (∀ entityType, ∀ entity ∈ store.entitiesOf entityType,
          ∃ fields, entity.document = .obj fields ∧
            Fields.get? osidField fields = some (.str entity.osid)) ∧
        (∀ entityType,
          store.entitiesOf entityType <+: (serveAll requests empty).2.entitiesOf entityType) ∧
        (∀ insertion osid between rest, later = .insert insertion :: (between ++ rest) →
          (store.serve (.insert insertion)).1 = .inserted (.ok osid) →
          ∃ fields, insertion.document = .obj fields ∧
            ∀ entityType,
              ((serveAll (earlier ++ .insert insertion :: between) empty).2.serve
                (.get entityType osid)).1 =
                .found (if entityType = insertion.entityType
                  then some (.obj (Fields.set osidField (.str osid) fields)) else none)) ∧
        (∀ entityType osid, (store.serve (.get entityType osid)).2 = store) ∧
        ∀ query, (store.serve (.search query)).2 = store := by
  constructor
  · obtain ⟨history, _, hkeeps, hids, _⟩ :=
      exists_keeps_serveAll requests [] (by rwa [List.append_nil])
    rw [hids, hkeeps.osids_eq, List.length_map, List.length_range]
  · intro earlier later heq store
    subst heq
    obtain ⟨history, born, hkeeps, hids, hlast⟩ := exists_keeps_serveAll earlier later hfew
    have hcount : (givenIds (serveAll earlier empty).1).length = history.length := by
      rw [hids, History.osids, List.length_map]
    refine ⟨?_, ?_, hkeeps.numbered.carried, ?_, ?_, fun _ _ => rfl, fun _ => rfl⟩
    · rw [hcount]
      exact hkeeps.numbered.nextId_toNat
    · intro entityType other i j entity second hentity hsecond hosid
      exact hkeeps.place_eq hentity hsecond hosid
    · intro entityType
      rw [hkeeps.entitiesOf_eq, hlast.entitiesOf_eq, History.ofType_append]
      exact List.prefix_append _ _
    · intro insertion osid between rest hlater hinserted
      rw [hlater, ← List.cons_append, serveAll_append, serveAll_append, givenIds_append,
        givenIds_append, List.length_append, List.length_append, hcount] at hfew
      obtain ⟨fields, hdocument, hget⟩ :=
        hkeeps.get?_of_inserted hinserted between (by omega)
      refine ⟨fields, hdocument, fun entityType => ?_⟩
      rw [serveAll_append]
      exact congrArg StoreAnswer.found (hget entityType)

/-- A note that is submitted with an id of its own. -/
def noteInsertion : Insertion :=
  ⟨"Note", .obj [("osid", .str "1-2"), ("code", .str "a")], ["code"]⟩

/-- The note is read, submitted again and searched for, and a label with the same code follows. -/
def noteRequests : List StoreRequest :=
  [.get "Note" "1-1", .insert noteInsertion, .search (SearchQuery.forEntity "Note"),
    .insert ⟨"Label", .obj [("code", .str "a")], ["code"]⟩]

/-- The second note is refused and takes no id.  The id that the first one came with is given to the
label, and the first one is found under its own id only. -/
theorem store_only_grows_and_osids_identify_of_notes :
    givenIds (serveAll (.insert noteInsertion :: noteRequests) empty).1 = ["1-1", "1-2"] ∧
      (givenIds (serveAll (.insert noteInsertion :: noteRequests) empty).1).length < 2 ^ 32 - 1 ∧
      ∀ entityType,
        ((serveAll (.insert noteInsertion :: noteRequests) empty).2.serve
          (.get entityType "1-1")).1 =
          .found (if entityType = "Note"
            then some (.obj [("osid", .str "1-1"), ("code", .str "a")]) else none) := by
  have hids : givenIds (serveAll (.insert noteInsertion :: noteRequests) empty).1 =
      ["1-1", "1-2"] := by decide
  have hfew : (givenIds (serveAll (.insert noteInsertion :: noteRequests) empty).1).length <
      2 ^ 32 - 1 := by rw [hids]; decide
  obtain ⟨_, hpoints⟩ := store_only_grows_and_osids_identify hfew
  obtain ⟨_, _, _, _, hfound, _⟩ := hpoints [] _ rfl
  obtain ⟨fields, hdocument, hget⟩ := hfound noteInsertion "1-1" noteRequests [] rfl rfl
  cases hdocument
  exact ⟨hids, hfew, hget⟩

end Store
end WaterRegistry
