import WaterRegistry.Proofs.Creation.Run
import WaterRegistry.Proofs.Store.Uniqueness

/-!
# The store backs generators up

A generator may give the same value twice.  The store refuses the second document, provided that it
looks for the value where the value has been written, and that the value is still there.  On plain
paths it looks in the right place.  The value stays there unless another generated value is written
over it, or the store replaces it by the id of the document.
-/

namespace WaterRegistry
namespace Draft

/-- Writes values at paths, one after the other.  A value that cannot be written is left out. -/
def writeAll (document : Json) (entries : List (String × String)) : Json :=
  entries.foldl (fun filled entry => (filled.writePath entry.1 (.str entry.2)).1) document

/-- A generated value is written into the document, and no later one puts something else in its
place or in the place of an object around it. -/
def Lands (document : Json) (generated : GeneratedIdentifier) (path value : String) : Prop :=
  ∃ before after, generated.entries = before ++ (path, value) :: after ∧
    ((writeAll document before).writePath path (.str value)).2 = true ∧
    ∀ later ∈ after, Json.pathKeys later.1 ≠ [] → Json.pathKeys later.1 <+: Json.pathKeys path →
      Json.pathKeys later.1 = Json.pathKeys path ∧ later.2 = value

/-- A text stays where it is while values are written that do not replace it by others. -/
theorem getKeys?_writeAll {document : Json} {entries : List (String × String)}
    {keys : List String} {text : String} (h : document.getKeys? keys = some (.str text))
    (hentries : ∀ entry ∈ entries, Json.pathKeys entry.1 ≠ [] → Json.pathKeys entry.1 <+: keys →
      Json.pathKeys entry.1 = keys ∧ entry.2 = text) :
    (writeAll document entries).getKeys? keys = some (.str text) := by
  induction entries generalizing document with
  | nil => exact h
  | cons entry rest ih =>
      have hkept : (document.writePath entry.1 (.str entry.2)).1.getKeys? keys =
          some (.str text) := by
        rw [Json.writePath]
        cases hwritten : (Json.writeKeys (.str entry.2) (Json.pathKeys entry.1) document).2 with
        | false =>
            rw [Json.writeKeys_of_refused hwritten]
            exact h
        | true =>
            have hkeys : Json.pathKeys entry.1 ≠ [] := by
              intro hnil
              simp [hnil, Json.writeKeys] at hwritten
            by_cases hover : Json.pathKeys entry.1 <+: keys
            · -- The value is replaced by itself.
              obtain ⟨hsame, htext⟩ := hentries entry List.mem_cons_self hkeys hover
              rw [← hsame, ← htext]
              exact Json.getKeys?_writeKeys hwritten
            · exact Json.getKeys?_writeKeys_of_leaf hover h rfl
      exact ih hkept fun later hlater => hentries later (List.mem_cons_of_mem _ hlater)

theorem getKeys?_fill {document : Json} {generated : GeneratedIdentifier} {path value : String}
    (h : Lands document generated path value) :
    (fill document generated).getKeys? (Json.pathKeys path) = some (.str value) := by
  obtain ⟨before, after, hentries, hwritten, hafter⟩ := h
  have hfill : fill document generated =
      writeAll ((writeAll document before).writePath path (.str value)).1 after := by
    simp [fill, writeAll, hentries]
  rw [hfill]
  exact getKeys?_writeAll (Json.getKeys?_writeKeys hwritten) hafter

end Draft

/-- A request for an entity of a type, with a value that is generated for one of the type's fields
and lands there. -/
def CreationRequest.Writes (config : Config) (request : CreationRequest)
    (entityType path value : String) : Prop :=
  ∃ draft generated, Draft.ofRoot config request.root = .ok draft ∧
    draft.entityType = entityType ∧ ⟨path⟩ ∈ draft.fields ∧
    request.generate draft.fields = .ok generated ∧
    Draft.Lands draft.document generated path value

/-- Such a request asks the store to insert a document that holds the value, and to compare it. -/
theorem CreationRequest.Writes.create_eq {config : Config} {request : CreationRequest}
    {entityType path value : String} (h : request.Writes config entityType path value) :
    ∃ document paths, path ∈ paths ∧
      document.getKeys? (Json.pathKeys path) = some (.str value) ∧
      ∀ store : Store, store.create config request.generate request.root =
        store.insert ⟨entityType, document, paths⟩ := by
  obtain ⟨draft, generated, hdraft, rfl, hfield, hgenerated, hlands⟩ := h
  have hgeneration : draft.generation request.generate = .ok generated := by
    rw [Draft.generation_eq hfield]
    exact hgenerated
  exact ⟨Draft.fill draft.document generated, draft.fields.map (·.path),
    List.mem_map_of_mem hfield, Draft.getKeys?_fill hlands,
    Store.create_eq_insert hdraft hgeneration⟩

namespace Store

/-- An accepted document keeps what it has been submitted with, except below its id. -/
theorem getKeys?_accepted {store : Store} {fields : Fields} {value : Json} {key : String}
    {keys : List String} (hkey : key ≠ osidField)
    (h : (Json.obj fields).getKeys? (key :: keys) = some value) :
    (store.accepted fields).document.getKeys? (key :: keys) = some value := by
  rw [accepted, Json.getKeys?_obj_cons, Fields.get?_set_of_ne hkey]
  exact h

/-- On a plain path the store finds exactly what has been written.  So, unless the path leads to the
id of documents or below it, of two requests for which the same value is generated and lands there
at most one is accepted: once one is stored, the other one violates a constraint, whatever has been
created in between. -/
theorem written_identifier_accepted_once {path : String}
    (hplain : IdentifierField.IsPlain ⟨path⟩) :
    (∀ document value : Json, (document.writePath path value).2 = true →
      (document.writePath path value).1.pointer? (pointerOfPath path) = some value) ∧
    ((Json.pathKeys path).head? ≠ some osidField →
      ∀ (config : Config) (entityType value osid : String) (first second : CreationRequest)
        (between : List CreationRequest) (store after : Store),
        first.Writes config entityType path value → second.Writes config entityType path value →
        store.create config first.generate first.root = (.ok osid, after) →
        ∃ field text,
          (createAll config between after).2.create config second.generate second.root =
            (.error (.uniqueConstraint field text), (createAll config between after).2)) := by
  constructor
  · intro document value hwritten
    exact pointer?_of_getKeys? hplain (Json.getKeys?_writeKeys hwritten)
  · intro hosid config entityType value osid first second between store after hfirst hsecond hcreate
    obtain ⟨key, keys, hkeys⟩ : ∃ key keys, Json.pathKeys path = key :: keys := by
      apply List.exists_cons_of_ne_nil
      rw [← tokensOfPath_eq_pathKeys hplain]
      exact tokensOfPath_ne_nil path
    have hkey : key ≠ osidField := by
      rintro rfl
      exact hosid (by rw [hkeys, List.head?_cons])
    -- What the first request writes is found in the store from then on.
    obtain ⟨document, paths, _, hvalue, hinsertion⟩ := hfirst.create_eq
    rw [hinsertion] at hcreate
    obtain ⟨_, fields, rfl, hacc⟩ := insert_eq_ok hcreate
    have hstored : (store.accepted fields).document ∈ after.documentsOf entityType := by
      rw [hacc.documentsOf_self]
      exact List.mem_append_right _ List.mem_cons_self
    have hkept : (store.accepted fields).document.pointer? (pointerOfPath path) =
        some (.str value) := by
      apply pointer?_of_getKeys? hplain
      rw [hkeys] at hvalue ⊢
      exact getKeys?_accepted hkey hvalue
    -- The second request brings the same value to the comparison.
    obtain ⟨other, others, hpath, hother, hinsertion'⟩ := hsecond.create_eq
    have hobject : other.isObject = true := by
      rw [hkeys] at hother
      obtain ⟨_, _, rfl, _, _⟩ := Json.getKeys?_cons_eq_some hother
      rfl
    have hheld : holds ((createAll config between after).2.entitiesOf entityType) path
        (.str value) = true := by
      have hlast : (store.accepted fields).document ∈
          (createAll config between after).2.documentsOf entityType :=
        mem_documentsOf_createAll hstored
      obtain ⟨entity, hentity, hdocument⟩ := List.mem_map.1 hlast
      apply holds_iff.2
      refine ⟨entity, hentity, .str value, ?_, Json.same_refl _⟩
      rw [hdocument]
      exact hkept
    rw [hinsertion']
    exact insert_of_holds hobject hpath
      (constrainedValue?_eq_some.2 ⟨pointer?_of_getKeys? hplain hother, by simp⟩) hheld

/-- A configuration of labels with one field that is generated. -/
def labelConfig (path : String) : Config :=
  { Config.basic with schemas := [⟨"Label", [⟨path⟩]⟩] }

/-- A label that is submitted empty and for which values are generated. -/
def labelRequest (values : List (String × String)) : CreationRequest where
  root := .obj [("Label", .obj [])]
  generate _ := .ok (.ofEntries values)

/-- A value that can be written into an empty label is written there. -/
theorem labelRequest_writes {path value : String}
    (h : ((Json.obj []).writePath path (.str value)).2 = true) :
    (labelRequest [(path, value)]).Writes (labelConfig path) "Label" path value :=
  ⟨⟨"Label", .obj [], [⟨path⟩]⟩, SortedTable.ofEntries [(path, value)], rfl, rfl,
    List.mem_cons_self, rfl, [], [], rfl, h, by simp⟩

/-- The second of two labels with one code is refused, although another label is created in
between. -/
theorem written_identifier_accepted_once_nested :
    let code := labelRequest [("/code/main", "A")]
    let config := labelConfig "/code/main"
    IdentifierField.IsPlain ⟨"/code/main"⟩ ∧
      (Json.pathKeys "/code/main").head? ≠ some osidField ∧
      code.Writes config "Label" "/code/main" "A" ∧
      empty.create config code.generate code.root =
        (.ok "1-1", (empty.create config code.generate code.root).2) ∧
      ∃ field text,
        ((createAll config [labelRequest [("/code/main", "B")]]
          (empty.create config code.generate code.root).2).2.create config code.generate
            code.root).1 = .error (.uniqueConstraint field text) := by
  intro code config
  have hplain : IdentifierField.IsPlain ⟨"/code/main"⟩ := by
    unfold IdentifierField.IsPlain
    decide +kernel
  have hosid : (Json.pathKeys "/code/main").head? ≠ some osidField := by decide
  have hwrites : code.Writes config "Label" "/code/main" "A" := labelRequest_writes (by decide)
  have hcreate : empty.create config code.generate code.root =
      (.ok "1-1", (empty.create config code.generate code.root).2) := rfl
  obtain ⟨field, text, hrefused⟩ := (written_identifier_accepted_once hplain).2 hosid config
    "Label" "A" "1-1" code code [labelRequest [("/code/main", "B")]] empty _ hwrites hwrites hcreate
  exact ⟨hplain, hosid, hwrites, hcreate, field, text, by rw [hrefused]⟩

/-- Where the notations part the store does not find what has been written, and two labels with one
value are stored.  The same happens where the id replaces the value, and where a second path leads to
the same place. -/
theorem written_identifier_accepted_twice :
    (∀ path ∈ ["//code", "code/", "code~0", "code~1"],
      ((Json.obj []).writePath path (.str "A")).2 = true ∧
      ((Json.obj []).writePath path (.str "A")).1.pointer? (pointerOfPath path) = none ∧
      (labelRequest [(path, "A")]).Writes (labelConfig path) "Label" path "A" ∧
      (createAll (labelConfig path) [labelRequest [(path, "A")], labelRequest [(path, "A")]]
        empty).1 = [.ok "1-1", .ok "1-2"]) ∧
    (∀ path ∈ ["osid", "/osid/old"],
      ((Json.obj []).writePath path (.str "A")).2 = true ∧
      (labelRequest [(path, "A")]).Writes (labelConfig path) "Label" path "A" ∧
      (createAll (labelConfig path) [labelRequest [(path, "A")], labelRequest [(path, "A")]]
        empty).1 = [.ok "1-1", .ok "1-2"]) ∧
    ((Json.obj []).writePath "/code" (.str "A")).2 = true ∧
    (createAll (labelConfig "/code") [labelRequest [("/code", "A"), ("code", "B")],
      labelRequest [("/code", "A"), ("code", "C")]] empty).1 = [.ok "1-1", .ok "1-2"] := by
  refine ⟨?_, ?_, rfl, rfl⟩
  · intro path hpath
    simp only [List.mem_cons, List.not_mem_nil, or_false] at hpath
    rcases hpath with rfl | rfl | rfl | rfl <;> exact ⟨rfl, rfl, labelRequest_writes rfl, rfl⟩
  · intro path hpath
    simp only [List.mem_cons, List.not_mem_nil, or_false] at hpath
    rcases hpath with rfl | rfl <;> exact ⟨rfl, labelRequest_writes rfl, rfl⟩

end Store
end WaterRegistry
