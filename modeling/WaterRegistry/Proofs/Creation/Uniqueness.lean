import WaterRegistry.Proofs.Creation.Run
import WaterRegistry.Proofs.Store.Uniqueness

/-!
# Identifiers stay unique

Every creation of a type is checked at all identifier paths of its schema.  So, whatever clients
submit and whatever is generated, no run of creations ends with two documents of a type that hold
the same value at one of these paths.
-/

namespace WaterRegistry
namespace Store

/-- A creation keeps the identifier paths of every type unique. -/
theorem UniqueAt.create {store after : Store} {count : Nat} {config : Config}
    {request : CreationRequest} {osid entityType : String} {schema : Schema}
    {field : IdentifierField} (h : store.Numbered count ∧ store.UniqueAt entityType field.path)
    (hfew : count + 1 < 2 ^ 32 - 1) (hschema : config.schema? entityType = some schema)
    (hfield : field ∈ schema.identifierFields)
    (hcreate : store.create config request.generate request.root = (.ok osid, after)) :
    after.Numbered (count + 1) ∧ after.UniqueAt entityType field.path := by
  obtain ⟨draft, generated, hdraft, _, hinsert⟩ := create_eq_ok hcreate
  obtain ⟨_, _, _, hacc⟩ := insert_eq_ok hinsert
  constructor
  · exact h.1.accepts hacc hfew
  · apply h.2.accepts h.1 hacc
    intro htype
    exact List.mem_map_of_mem (Draft.mem_fields hdraft htype hschema hfield)

/-- After every run of creations from the empty store that has created fewer than `2 ^ 32 - 1`
entities, the documents of a configured type hold different values at each of its identifier paths,
the path of the id itself included. -/
theorem identifiers_unique_after_run {config : Config} {requests : List CreationRequest}
    (hfew : successes (createAll config requests empty).1 < 2 ^ 32 - 1) {entityType : String}
    {schema : Schema} (hschema : config.schema? entityType = some schema)
    {field : IdentifierField} (hfield : field ∈ schema.identifierFields) :
    (createAll config requests empty).2.UniqueAt entityType field.path := by
  have hrun := createAll_preserves
    (fun count store => store.Numbered count ∧ store.UniqueAt entityType field.path) (2 ^ 32 - 1)
    (fun _ hcount h hcreate => UniqueAt.create h hcount hschema hfield hcreate)
    ⟨numbered_empty, uniqueAt_empty entityType field.path⟩ (by rwa [Nat.zero_add])
  exact hrun.2

/-- Notes, whose id and whose code have to be unique. -/
def noteSchema : Schema :=
  ⟨"Note", [⟨"/osid"⟩, ⟨"code"⟩]⟩

def noteConfig : Config :=
  { Config.basic with schemas := [noteSchema] }

/-- A note that is submitted with an id of its own and for which a code is generated. -/
def noteRequest (osid code : String) : CreationRequest where
  root := .obj [("Note", .obj [("osid", .str osid)])]
  generate _ := .ok (SortedTable.empty.insert "code" code)

/-- The same id may be submitted twice, since both notes get ids of their own; the code may not be
generated twice. -/
theorem identifiers_unique_after_three_notes :
    let run := createAll noteConfig
      [noteRequest "1-2" "a", noteRequest "1-2" "b", noteRequest "9" "a"] empty
    run.1 = [.ok "1-1", .ok "1-2", .error (.uniqueConstraint "code" "a")] ∧
      successes run.1 < 2 ^ 32 - 1 ∧ noteConfig.schema? "Note" = some noteSchema ∧
      ⟨"/osid"⟩ ∈ noteSchema.identifierFields ∧ run.2.UniqueAt "Note" "/osid" := by
  intro run
  have hfew : successes run.1 < 2 ^ 32 - 1 := by decide
  have hschema : noteConfig.schema? "Note" = some noteSchema := by decide
  have hfield : (⟨"/osid"⟩ : IdentifierField) ∈ noteSchema.identifierFields := by decide
  exact ⟨rfl, hfew, hschema, hfield, identifiers_unique_after_run hfew hschema hfield⟩

end Store
end WaterRegistry
