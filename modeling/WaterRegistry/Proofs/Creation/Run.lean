import WaterRegistry.Proofs.Store.Numbering
import WaterRegistry.Registry.Basic

/-!
# Runs of creations

A creation that gives an id is an accepted insertion of the document of its request, filled with the
generated identifiers; one that fails leaves the store as it is.  A run serves creation requests one
after the other.  Nothing is assumed of the generator: every request brings what is generated for
it.  `createAll_preserves` carries an invariant from single creations to whole runs.
-/

namespace WaterRegistry
namespace Draft

/-- A request that is turned into a draft starts with the draft's type and document, and the type
is configured. -/
theorem ofRoot_eq_ok {config : Config} {root : Json} {draft : Draft}
    (h : ofRoot config root = .ok draft) :
    ∃ fields others schema,
      root = .obj ((draft.entityType, .obj fields) :: others) ∧
      config.schema? draft.entityType = some schema ∧
      draft.document = .obj fields ∧ draft.fields = schema.identifierFields := by
  unfold ofRoot at h
  split at h
  · cases h
  · rename_i document entityType hroot
    cases document with
    | obj fields =>
        simp only [Json.isObject, if_true] at h
        split at h
        · rename_i schema hschema
          cases h
          refine ⟨fields, ?_⟩
          unfold Binding.ofRoot? at hroot
          split at hroot
          · rename_i others
            cases hroot
            exact ⟨others, schema, rfl, hschema, rfl, rfl⟩
          · cases hroot
        · cases h
    | _ => simp [Json.isObject] at h

/-- A draft asks for every field that is configured for its type. -/
theorem mem_fields {config : Config} {root : Json} {draft : Draft} {entityType : String}
    {schema : Schema} {field : IdentifierField} (hdraft : ofRoot config root = .ok draft)
    (htype : draft.entityType = entityType) (hschema : config.schema? entityType = some schema)
    (hfield : field ∈ schema.identifierFields) : field ∈ draft.fields := by
  obtain ⟨_, _, _, _, hconfigured, _, hfields⟩ := ofRoot_eq_ok hdraft
  rw [htype, hschema, Option.some.injEq] at hconfigured
  rw [hfields, ← hconfigured]
  exact hfield

/-- A generator is asked wherever there is a field. -/
theorem generation_eq {draft : Draft} {field : IdentifierField} (h : field ∈ draft.fields)
    (generate : List IdentifierField → Generation) :
    draft.generation generate = generate draft.fields := by
  have hfields : draft.fields.isEmpty = false :=
    List.isEmpty_eq_false_iff.2 (List.ne_nil_of_mem h)
  rw [generation, hfields]
  rfl

end Draft

namespace Store

/-- A creation that gives an id is an insertion that gives it. -/
theorem create_eq_ok {store after : Store} {config : Config}
    {generate : List IdentifierField → Generation} {root : Json} {osid : String}
    (h : store.create config generate root = (.ok osid, after)) :
    ∃ draft generated, Draft.ofRoot config root = .ok draft ∧
      draft.generation generate = .ok generated ∧
      store.insert ⟨draft.entityType, Draft.fill draft.document generated,
        draft.fields.map (·.path)⟩ = (.ok osid, after) := by
  unfold create at h
  split at h
  · cases h
  · rename_i draft hdraft
    cases hgeneration : draft.generation generate with
    | error error => simp [hgeneration, Draft.complete] at h
    | ok generated =>
        rw [hgeneration] at h
        exact ⟨draft, generated, hdraft, hgeneration, h⟩

theorem create_eq_error {store after : Store} {config : Config}
    {generate : List IdentifierField → Generation} {root : Json} {error : RegistryError}
    (h : store.create config generate root = (.error error, after)) : after = store := by
  unfold create at h
  split at h
  · cases h
    rfl
  · split at h
    · cases h
      rfl
    · exact (insert_eq_error h).1

theorem create_eq_insert {config : Config} {generate : List IdentifierField → Generation}
    {root : Json} {draft : Draft} {generated : GeneratedIdentifier}
    (hdraft : Draft.ofRoot config root = .ok draft)
    (hgenerated : draft.generation generate = .ok generated) (store : Store) :
    store.create config generate root =
      store.insert ⟨draft.entityType, Draft.fill draft.document generated,
        draft.fields.map (·.path)⟩ := by
  simp [create, hdraft, hgenerated, Draft.complete]

/-- A creation depends on its generator only by what is generated for its draft. -/
theorem create_congr {config : Config} {generate other : List IdentifierField → Generation}
    {root : Json} (h : ∀ draft, Draft.ofRoot config root = .ok draft →
      draft.generation generate = draft.generation other) (store : Store) :
    store.create config generate root = store.create config other root := by
  unfold create
  cases hdraft : Draft.ofRoot config root with
  | error error => rfl
  | ok draft => simp only [h draft hdraft]

theorem mem_documentsOf_create {store : Store} {config : Config}
    {generate : List IdentifierField → Generation} {root : Json} {entityType : String}
    {document : Json} (h : document ∈ store.documentsOf entityType) :
    document ∈ (store.create config generate root).2.documentsOf entityType := by
  rcases hcreate : store.create config generate root with ⟨answer, after⟩
  cases answer with
  | error error =>
      rw [create_eq_error hcreate]
      exact h
  | ok osid =>
      obtain ⟨_, _, _, _, hinsert⟩ := create_eq_ok hcreate
      obtain ⟨_, _, _, hacc⟩ := insert_eq_ok hinsert
      exact hacc.mem_documentsOf h

end Store

/-- A creation request, and what is generated for its fields. -/
structure CreationRequest where
  root : Json
  generate : List IdentifierField → Generation

/-- How many of some answers give an id. -/
def successes (answers : List (Except RegistryError String)) : Nat :=
  answers.countP Except.isOk

namespace Store

/-- Serves creation requests one after the other, and gives the answers with the store at the
end. -/
def createAll (config : Config) :
    List CreationRequest → Store → List (Except RegistryError String) × Store
  | [], store => ([], store)
  | request :: rest, store =>
    let (answer, after) := store.create config request.generate request.root
    let (answers, last) := createAll config rest after
    (answer :: answers, last)

theorem createAll_cons (config : Config) (request : CreationRequest)
    (rest : List CreationRequest) (store : Store) :
    createAll config (request :: rest) store =
      let (answer, after) := store.create config request.generate request.root
      (answer :: (createAll config rest after).1, (createAll config rest after).2) :=
  rfl

theorem mem_documentsOf_createAll {config : Config} {requests : List CreationRequest}
    {store : Store} {entityType : String} {document : Json}
    (h : document ∈ store.documentsOf entityType) :
    document ∈ (createAll config requests store).2.documentsOf entityType := by
  induction requests generalizing store with
  | nil => exact h
  | cons request rest ih =>
      rw [createAll_cons]
      exact ih (mem_documentsOf_create h)

/-- An invariant that counts accepted documents holds after a run if every single creation that
gives an id keeps it. -/
theorem createAll_preserves {config : Config} {requests : List CreationRequest}
    (P : Nat → Store → Prop) (limit : Nat)
    (step : ∀ {count store after request osid}, request ∈ requests → count + 1 < limit →
      P count store → store.create config request.generate request.root = (.ok osid, after) →
      P (count + 1) after)
    {count : Nat} {store : Store} (h : P count store)
    (hfew : count + successes (createAll config requests store).1 < limit) :
    P (count + successes (createAll config requests store).1)
      (createAll config requests store).2 := by
  induction requests generalizing count store with
  | nil => exact h
  | cons request rest ih =>
      have hrest : ∀ {count store after other osid}, other ∈ rest → count + 1 < limit →
          P count store → store.create config other.generate other.root = (.ok osid, after) →
          P (count + 1) after :=
        fun hmem => step (List.mem_cons_of_mem _ hmem)
      rcases hanswer : store.create config request.generate request.root with ⟨answer, after⟩
      rw [createAll_cons, hanswer] at hfew ⊢
      cases answer with
      | error error =>
          have hafter : after = store := create_eq_error hanswer
          subst hafter
          have hcount (answers : List (Except RegistryError String)) :
              successes (.error error :: answers) = successes answers := by
            simp [successes, Except.isOk, Except.toBool]
          simp only [hcount] at hfew ⊢
          exact ih hrest h hfew
      | ok osid =>
          have hcount (answers : List (Except RegistryError String)) :
              count + successes (.ok osid :: answers) = (count + 1) + successes answers := by
            simp only [successes, List.countP_cons, Except.isOk, Except.toBool, if_true]
            omega
          simp only [hcount] at hfew ⊢
          exact ih hrest (step List.mem_cons_self (by omega) h hanswer) hfew

/-- A run numbers what it creates, as long as the counter does not come round. -/
theorem numbered_createAll {config : Config} {requests : List CreationRequest}
    (hfew : successes (createAll config requests empty).1 < 2 ^ 32 - 1) :
    (createAll config requests empty).2.Numbered
      (successes (createAll config requests empty).1) := by
  have hrun := createAll_preserves (fun count store => store.Numbered count) (2 ^ 32 - 1)
    (fun _ hcount h hcreate => by
      obtain ⟨_, _, _, _, hinsert⟩ := create_eq_ok hcreate
      obtain ⟨_, _, _, hacc⟩ := insert_eq_ok hinsert
      exact h.accepts hacc hcount)
    numbered_empty (by rwa [Nat.zero_add])
  rwa [Nat.zero_add] at hrun

end Store

namespace Registry

/-- Over a store within reach, a registry whose generator answers creates as the store does with
that answer. -/
theorem createWith_eq_create {registry : Registry} {search : SearchQuery → SearchResult}
    {root : Json} {draft : Draft} {generation : Generation}
    (hlive : registry.client.reach = .live)
    (hdraft : Draft.ofRoot registry.config root = .ok draft)
    (hgeneration : (registry.generate search root draft).1 = some generation) :
    (registry.createWith search root).1 =
        some (registry.client.store.create registry.config (fun _ => generation) root).1 ∧
      (registry.createWith search root).2.client =
        { registry.client with
          store := (registry.client.store.create registry.config (fun _ => generation) root).2 }
    := by
  have hsame : draft.generation (fun _ => generation) = generation := by
    unfold generate at hgeneration
    unfold Draft.generation
    split at hgeneration
    · rename_i hempty
      rw [if_pos hempty]
      exact Option.some.inj hgeneration
    · rename_i hempty
      rw [if_neg hempty]
  have hclient : (registry.generate search root draft).2.client = registry.client := by
    unfold generate
    split <;> rfl
  rcases hnext : registry.generate search root draft with ⟨given, next⟩
  simp only [hnext] at hgeneration hclient
  subst hgeneration
  simp only [createWith, hdraft, hnext, Store.create, hsame]
  cases draft.complete generation with
  | error error => exact ⟨rfl, hclient⟩
  | ok insertion => simp [StoreClient.insert, StoreClient.reply, hclient, hlive]

end Registry
end WaterRegistry
