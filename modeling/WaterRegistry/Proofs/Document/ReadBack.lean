import WaterRegistry.Json.Reader
import WaterRegistry.Proofs.Document.DistinctKeys

/-!
# Reading documents back

A document has an outline without faults, so nothing in it stops a reader.  Values are read back from
the documents that they are written to, one part at a time: lists item by item, tables entry by entry,
and documents within documents as they are, as long as they name every key once.

A structure is read from the fields of an object in any order.  What is known of the value that comes
out is told for one field at a time: assigning a field gives it its value and leaves the values of the
others alone.
-/

namespace WaterRegistry

mutual

/-- Skipping a document finds no fault. -/
theorem Outline.skipFault_ofJson (document : Json) :
    (Outline.ofJson document).skipFault = none := by
  cases document with
  | arr items => rw [Outline.ofJson, Outline.skipFault, Outline.skipItems_ofItems items]; rfl
  | obj fields => rw [Outline.ofJson, Outline.skipFault, Outline.skipEntries_ofFields fields]; rfl
  | _ => rfl

theorem Outline.skipItems_ofItems (items : List Json) :
    Outline.skipItems (Outline.ofItems items) = none := by
  cases items with
  | nil => rfl
  | cons item rest =>
      rw [Outline.ofItems, Outline.skipItems, Outline.skipFault_ofJson item,
        Outline.skipItems_ofItems rest]
      rfl

theorem Outline.skipEntries_ofFields (fields : Fields) :
    Outline.skipEntries (Outline.ofFields fields) = none := by
  cases fields with
  | nil => rfl
  | cons field rest =>
      rw [Outline.ofFields, Outline.skipEntries, Outline.skipFault_ofJson field.2,
        Outline.skipEntries_ofFields rest]
      rfl

end

namespace Reader

mutual

/-- A document that names every key once is read back as it is. -/
theorem json_ofJson (document : Json) (h : document.distinctKeys = true) :
    Reader.json (Outline.ofJson document) = .ok document := by
  cases document with
  | arr items =>
      rw [Json.distinctKeys] at h
      rw [Outline.ofJson, Reader.json, jsonItems_ofItems items h]
      rfl
  | obj fields =>
      rw [Json.distinctKeys, Bool.and_eq_true, decide_eq_true_eq] at h
      rw [Outline.ofJson, Reader.json, jsonEntries_ofFields fields h.2]
      exact congrArg (fun found => Except.ok (Json.obj found)) (Fields.ofEntries_eq_self h.1)
  | _ => rfl

theorem jsonItems_ofItems (items : List Json) (h : Json.distinctKeysItems items = true) :
    Reader.jsonItems (Outline.ofItems items) = .ok items := by
  cases items with
  | nil => rfl
  | cons item rest =>
      rw [Json.distinctKeysItems, Bool.and_eq_true] at h
      rw [Outline.ofItems, Reader.jsonItems, json_ofJson item h.1, jsonItems_ofItems rest h.2]
      rfl

theorem jsonEntries_ofFields (fields : Fields) (h : Json.distinctKeysFields fields = true) :
    Reader.jsonEntries (Outline.ofFields fields) = .ok fields := by
  cases fields with
  | nil => rfl
  | cons field rest =>
      rw [Json.distinctKeysFields, Bool.and_eq_true] at h
      rw [Outline.ofFields, Reader.jsonEntries, json_ofJson field.2 h.1,
        jsonEntries_ofFields rest h.2]
      rfl

end

variable {α : Type} {read : Reader α} {write : α → Json}

/-- A list is read back if each of its items is. -/
theorem list_ofJson {values : List α}
    (h : ∀ value ∈ values, read (Outline.ofJson (write value)) = .ok value) :
    Reader.list read (Outline.ofJson (.arr (values.map write))) = .ok values := by
  have heach : Reader.each read (Outline.ofItems (values.map write)) = .ok values := by
    induction values with
    | nil => rfl
    | cons value rest ih =>
        obtain ⟨hvalue, hrest⟩ := List.forall_mem_cons.1 h
        rw [List.map_cons, Outline.ofItems, Reader.each, hvalue, ih hrest]
        rfl
  rw [Outline.ofJson, Reader.list, heach]
  rfl

/-- The entries of a table are read back if the value of each is. -/
theorem table_ofJson {entries : List (String × α)}
    (h : ∀ entry ∈ entries, read (Outline.ofJson (write entry.2)) = .ok entry.2) :
    Reader.table read (Outline.ofJson (.obj (entries.map fun entry => (entry.1, write entry.2)))) =
      .ok entries := by
  have heach : Reader.eachEntry read (Outline.ofFields
      (entries.map fun entry => (entry.1, write entry.2))) = .ok entries := by
    induction entries with
    | nil => rfl
    | cons entry rest ih =>
        obtain ⟨hentry, hrest⟩ := List.forall_mem_cons.1 h
        rw [List.map_cons, Outline.ofFields, Reader.eachEntry, hentry, ih hrest]
        rfl
  rw [Outline.ofJson, Reader.table, heach]
  rfl

theorem natural_ofJson (expected : String) (n : Nat) :
    Reader.natural expected (Outline.ofJson (.ofNat n)) = .ok n := by
  have hnonneg : ¬ (n : Int) < 0 := Int.not_lt.2 (Int.natCast_nonneg n)
  rw [Json.ofNat, Outline.ofJson, Reader.natural, if_neg hnonneg, Int.toNat_natCast]

end Reader

namespace RecordShape

variable {α : Type} {shape : RecordShape α}

/-- What assigning a field does: it can be read from the document, afterwards the property of the
field holds, and the properties of other fields are kept. -/
def Assigns (holds : String → α → Prop) (field : FieldShape α) (document : Json) : Prop :=
  ∀ value, ∃ next, field.assign value (Outline.ofJson document) = .ok next ∧ holds field.name next ∧
    ∀ name, name ≠ field.name → holds name value → holds name next

/-- Most fields are assigned by reading a value and putting it into the structure. -/
theorem assigns_of_read {β : Type} {read : Reader β} {holds : String → α → Prop}
    {field : FieldShape α} {document : Json} {found : β} (put : α → β → α)
    (hassign : ∀ value outline, field.assign value outline = (read outline).map (put value))
    (hread : read (Outline.ofJson document) = .ok found)
    (hown : ∀ value, holds field.name (put value found))
    (hothers : ∀ value name, name ≠ field.name → holds name value → holds name (put value found)) :
    Assigns holds field document := by
  intro value
  refine ⟨put value found, ?_, hown value, hothers value⟩
  rw [hassign, hread]
  rfl

theorem assignEntries_of_unknown {key : String} (h : shape.fields.find? (·.name = key) = none)
    (seen : List String) (value : α) (document : Json) (rest : Fields) :
    shape.assignEntries seen value (Outline.ofFields ((key, document) :: rest)) =
      shape.assignEntries seen value (Outline.ofFields rest) := by
  have hkey : Reader.orFault (Outline.keyText (.text (.ok key) none)) = .ok key := rfl
  simp only [Outline.ofFields, assignEntries, hkey, bind, Except.bind, h,
    Outline.skipFault_ofJson, Reader.unlessFault]

theorem assignEntries_of_known {key : String} {field : FieldShape α} {seen : List String}
    {value next : α} {document : Json} (h : shape.fields.find? (·.name = key) = some field)
    (hseen : key ∉ seen) (hnext : field.assign value (Outline.ofJson document) = .ok next)
    (rest : Fields) :
    shape.assignEntries seen value (Outline.ofFields ((key, document) :: rest)) =
      shape.assignEntries (key :: seen) next (Outline.ofFields rest) := by
  have hkey : Reader.orFault (Outline.keyText (.text (.ok key) none)) = .ok key := rfl
  simp only [Outline.ofFields, assignEntries, hkey, bind, Except.bind, h, if_neg hseen, hnext]

/-- Fields that can be assigned are all assigned, in whatever order they come. -/
theorem exists_assignEntries {holds : String → α → Prop} {fields : Fields}
    (hkeys : (fields.map (·.1)).Nodup)
    (hassigns : ∀ field ∈ shape.fields, ∀ document, (field.name, document) ∈ fields →
      Assigns holds field document)
    {seen : List String} (hseen : ∀ key ∈ fields.map (·.1), key ∉ seen) (value : α) :
    ∃ names next, shape.assignEntries seen value (Outline.ofFields fields) = .ok (names, next) ∧
      (∀ field ∈ shape.fields, field.name ∈ fields.map (·.1) →
        field.name ∈ names ∧ holds field.name next) ∧
      ∀ name, (name ∈ seen → name ∈ names) ∧ (holds name value → holds name next) := by
  induction fields generalizing seen value with
  | nil => exact ⟨seen, value, rfl, by simp, fun name => ⟨id, id⟩⟩
  | cons entry rest ih =>
      obtain ⟨key, document⟩ := entry
      obtain ⟨hkey, hrest⟩ := List.nodup_cons.1 hkeys
      obtain ⟨hfresh, hseenRest⟩ := List.forall_mem_cons.1 hseen
      have hassignsRest : ∀ field ∈ shape.fields, ∀ document, (field.name, document) ∈ rest →
          Assigns holds field document := fun field hfield document hdocument =>
        hassigns field hfield document (List.mem_cons_of_mem _ hdocument)
      cases hfind : shape.fields.find? (·.name = key) with
      | none =>
          obtain ⟨names, next, hread, hgiven, hkept⟩ := ih hrest hassignsRest hseenRest value
          refine ⟨names, next, ?_, fun field hfield hname => ?_, hkept⟩
          · rw [assignEntries_of_unknown hfind, hread]
          · have hne : field.name ≠ key := by
              simpa using List.find?_eq_none.1 hfind field hfield
            exact hgiven field hfield ((List.mem_cons.1 hname).resolve_left hne)
      | some field =>
          have hname : field.name = key := by simpa using List.find?_some hfind
          subst hname
          obtain ⟨between, hassign, hown, hothers⟩ :=
            hassigns field (List.mem_of_find?_eq_some hfind) document List.mem_cons_self value
          have hseenNext : ∀ name ∈ rest.map (·.1), name ∉ field.name :: seen := by
            intro name hmem hcons
            rcases List.mem_cons.1 hcons with rfl | hold
            · exact hkey hmem
            · exact hseenRest name hmem hold
          obtain ⟨names, next, hread, hgiven, hkept⟩ := ih hrest hassignsRest hseenNext between
          refine ⟨names, next, ?_, fun other hother hmem => ?_, fun name => ⟨fun hold => ?_, ?_⟩⟩
          · rw [assignEntries_of_known hfind hfresh hassign, hread]
          · rcases List.mem_cons.1 hmem with heq | hlater
            · have heq : other.name = field.name := heq
              rw [heq]
              exact ⟨(hkept field.name).1 List.mem_cons_self, (hkept field.name).2 hown⟩
            · exact hgiven other hother hlater
          · exact (hkept name).1 (List.mem_cons_of_mem _ hold)
          · intro hholds
            apply (hkept name).2
            by_cases hsame : name = field.name
            · rw [hsame]
              exact hown
            · exact hothers name hsame hholds

/-- A structure is read from an object that names no key twice, if the fields in it can be assigned
and those that are left out need not be given. -/
theorem exists_read {holds : String → α → Prop} {fields : Fields}
    (hkeys : (fields.map (·.1)).Nodup)
    (hassigns : ∀ field ∈ shape.fields, ∀ document, Fields.get? field.name fields = some document →
      Assigns holds field document)
    (hblank : ∀ field ∈ shape.fields, Fields.get? field.name fields = none →
      field.required = false ∧ holds field.name shape.blank) :
    ∃ value, shape.read (Outline.ofJson (.obj fields)) = .ok value ∧
      ∀ field ∈ shape.fields, holds field.name value := by
  have hfresh : ∀ key ∈ fields.map (·.1), key ∉ [] := fun _ _ => List.not_mem_nil
  obtain ⟨names, value, hread, hgiven, hkept⟩ := exists_assignEntries hkeys
    (fun field hfield document hmem =>
      hassigns field hfield document ((Fields.get?_eq_some_iff hkeys).2 hmem))
    hfresh shape.blank
  refine ⟨value, ?_, fun field hfield => ?_⟩
  · have hnone : (shape.fields.find? fun field => field.required && field.name ∉ names) = none := by
      rw [List.find?_eq_none]
      intro field hfield hmissing
      rw [Bool.and_eq_true, decide_eq_true_eq] at hmissing
      -- A field that has not been seen is not in the object, so it need not be given.
      have hleft : field.name ∉ fields.map (·.1) := fun hmem =>
        hmissing.2 (hgiven field hfield hmem).1
      obtain ⟨hoptional, _⟩ := hblank field hfield (Fields.get?_eq_none_iff.2 hleft)
      rw [hoptional] at hmissing
      cases hmissing.1
    simp only [Outline.ofJson, read, hread, bind, Except.bind, Reader.unlessFault, hnone, pure,
      Except.pure]
  · by_cases hmem : field.name ∈ fields.map (·.1)
    · exact (hgiven field hfield hmem).2
    · exact (hkept field.name).2 (hblank field hfield (Fields.get?_eq_none_iff.2 hmem)).2

end RecordShape
end WaterRegistry
