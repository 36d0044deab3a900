import WaterRegistry.Generator.Basic
import WaterRegistry.Proofs.Document.Notation
import WaterRegistry.Proofs.Document.Outcome
import WaterRegistry.Registry.Creation

/-!
# The formats that a sequence accepts

A sequence looks at the paths of identifier fields before it numbers any, and refuses those without
a name.  What it takes for a name is the path behind one leading slash; writing looks for a key
between any two slashes.  The two agree on every path, except for those that consist of two slashes
or more: they are accepted, and nothing can be written at them.
-/

namespace WaterRegistry

/-- All pieces are empty exactly if there is nothing but separators. -/
theorem forall_mem_pieces_eq_nil_iff {sep : Char} {cs : List Char} :
    (∀ piece ∈ pieces sep cs, piece = []) ↔ ∀ c ∈ cs, c = sep := by
  induction cs with
  | nil => simp [pieces]
  | cons c rest ih =>
      unfold pieces
      split
      · rename_i hc
        simp [hc, ih]
      · rename_i hc
        split <;> simp [hc]

/-- A path has no key exactly if it consists of slashes. -/
theorem Json.pathKeys_eq_nil_iff {path : String} :
    pathKeys path = [] ↔ ∀ c ∈ path.toList, c = '/' := by
  rw [pathKeys, List.filter_eq_nil_iff, splitOnChar, ← forall_mem_pieces_eq_nil_iff]
  simp

/-- A field has no name exactly if its path is empty, or a single slash. -/
theorem IdentifierField.bareName_eq_empty_iff {field : IdentifierField} :
    field.bareName = "" ↔ Json.pathKeys field.path = [] ∧ field.path.length ≤ 1 := by
  rw [Json.pathKeys_eq_nil_iff, ← String.length_toList]
  -- A slash in front is no part of the name, and without one the path is the name.
  rcases field.path_eq_or with hslash | ⟨hhead, hbare⟩
  · rw [hslash, ← String.toList_inj]
    cases field.bareName.toList <;> simp
  · rw [hbare, ← String.toList_inj]
    cases hpath : field.path.toList with
    | nil => simp
    | cons c rest =>
        have hc : c ≠ '/' := by simpa [hpath] using hhead
        simp [hc]

/-- Into an empty document a value is written exactly at the paths that have a key. -/
theorem Json.writePath_emptyObject_refused_iff {path : String} {value : Json} :
    ((Json.obj []).writePath path value).2 = false ↔ pathKeys path = [] := by
  rw [writePath, ← Bool.not_eq_true, writeKeys_accepted_iff]
  simp [isOpenAlong_emptyObject]

namespace Generator

theorem saveFormat_nil (generator : Generator) : generator.saveFormat [] = .ok () := by
  cases generator <;> rfl

section Sequence

variable {label : String} {next : UInt64}

theorem saveFormat_singleton (field : IdentifierField) :
    (sequence label next).saveFormat [field] =
      if field.bareName = "" then
        .error (.configuration ("empty identifier field path '" ++ field.path ++ "'"))
      else .ok () := by
  rw [saveFormat]
  by_cases h : field.bareName = "" <;> simp [h]

theorem saveFormat_cons (field : IdentifierField) (rest : List IdentifierField) :
    (sequence label next).saveFormat (field :: rest) =
      ((sequence label next).saveFormat [field]).bind fun _ =>
        (sequence label next).saveFormat rest := by
  simp only [saveFormat, List.find?_cons]
  by_cases h : field.bareName = "" <;> simp [h] <;> rfl

/-- Fields are accepted if each of them is accepted. -/
theorem saveFormat_eq_ok_iff {fields : List IdentifierField} :
    (sequence label next).saveFormat fields = .ok () ↔
      ∀ field ∈ fields, (sequence label next).saveFormat [field] = .ok () := by
  induction fields with
  | nil => simp [saveFormat_nil]
  | cons field rest ih =>
      rw [saveFormat_cons, List.forall_mem_cons, ← ih]
      cases (sequence label next).saveFormat [field] <;> simp [Except.bind]

/-- Fields are refused on account of the first one that is refused. -/
theorem saveFormat_eq_error_iff {fields : List IdentifierField} {error : GenerationError} :
    (sequence label next).saveFormat fields = .error error ↔
      ∃ before field after, fields = before ++ field :: after ∧
        (∀ earlier ∈ before, (sequence label next).saveFormat [earlier] = .ok ()) ∧
        (sequence label next).saveFormat [field] = .error error := by
  induction fields with
  | nil => simp [saveFormat_nil]
  | cons head rest ih =>
      rw [saveFormat_cons]
      cases hhead : (sequence label next).saveFormat [head] with
      | error cause =>
          constructor
          · intro h
            exact ⟨[], head, rest, rfl, by simp, hhead.trans h⟩
          · rintro ⟨before, field, after, hfields, hbefore, hfield⟩
            cases before with
            | nil =>
                cases hfields
                exact hhead.symm.trans hfield
            | cons first before =>
                cases hfields
                rw [hbefore head List.mem_cons_self] at hhead
                cases hhead
      | ok =>
          rw [Except.bind, ih]
          constructor
          · rintro ⟨before, field, after, rfl, hbefore, hfield⟩
            refine ⟨head :: before, field, after, rfl, ?_, hfield⟩
            exact List.forall_mem_cons.2 ⟨hhead, hbefore⟩
          · rintro ⟨before, field, after, hfields, hbefore, hfield⟩
            cases before with
            | nil =>
                cases hfields
                rw [hhead] at hfield
                cases hfield
            | cons first before =>
                cases hfields
                exact ⟨before, field, after, rfl, (List.forall_mem_cons.1 hbefore).2, hfield⟩

end Sequence

/-- The formats of a configuration are accepted if those of each of its schemas are. -/
theorem saveFormats_eq_ok_iff {generator : Generator} {config : Config} :
    generator.saveFormats config = .ok () ↔
      ∀ schema ∈ config.schemas, generator.saveFormat schema.identifierFields = .ok () := by
  unfold saveFormats
  induction config.schemas with
  | nil => simp [List.forM, pure, Except.pure]
  | cons schema rest ih =>
      rw [List.forall_mem_cons, ← ih, List.forM]
      cases schema.identifierFields with
      | nil => simp [saveFormat_nil, bind, Except.bind]
      | cons field fields =>
          cases generator.saveFormat (field :: fields) <;>
            simp [Except.mapError, bind, Except.bind]

/-- A sequence refuses fields on account of the first one that it refuses, and its answer names the
path.  It refuses a field exactly if nothing can be written at its path into an empty document, and
the path has at most one character.  So once the formats of a configuration are accepted, a value
for one of its fields is written into every document in which the way is open, unless the path of
the field consists of two slashes or more. -/
theorem sequence_refuses_short_unwritable_paths (label : String) (next : UInt64) :
    (∀ fields error, (sequence label next).saveFormat fields = .error error ↔
      ∃ before field after, fields = before ++ field :: after ∧
        (∀ earlier ∈ before, (sequence label next).saveFormat [earlier] = .ok ()) ∧
        (sequence label next).saveFormat [field] = .error error) ∧
    (∀ field value, (sequence label next).saveFormat [field] =
      if ((Json.obj []).writePath field.path value).2 = false ∧ field.path.length ≤ 1 then
        .error (.configuration ("empty identifier field path '" ++ field.path ++ "'"))
      else .ok ()) ∧
    (∀ config, (sequence label next).saveFormats config = .ok () →
      ∀ schema ∈ config.schemas, ∀ field ∈ schema.identifierFields,
        (2 ≤ field.path.length ∧ ∀ c ∈ field.path.toList, c = '/') ∨
          ∀ document value : Json, document.IsOpenAlong (Json.pathKeys field.path) →
            (document.writePath field.path value).2 = true) := by
  refine ⟨fun fields error => saveFormat_eq_error_iff, ?_, ?_⟩
  · intro field value
    rw [saveFormat_singleton]
    simp only [Json.writePath_emptyObject_refused_iff, IdentifierField.bareName_eq_empty_iff]
  · intro config hconfig schema hschema field hfield
    have hsaved : (sequence label next).saveFormat [field] = .ok () :=
      saveFormat_eq_ok_iff.1 (saveFormats_eq_ok_iff.1 hconfig schema hschema) field hfield
    have hname : ¬ (Json.pathKeys field.path = [] ∧ field.path.length ≤ 1) := by
      rw [← IdentifierField.bareName_eq_empty_iff]
      intro hempty
      rw [saveFormat_singleton, if_pos hempty] at hsaved
      cases hsaved
    by_cases hkeys : Json.pathKeys field.path = []
    · left
      refine ⟨?_, Json.pathKeys_eq_nil_iff.1 hkeys⟩
      by_contra hshort
      exact hname ⟨hkeys, by omega⟩
    · right
      intro document value hopen
      exact Json.writeKeys_accepted_iff.2 ⟨hkeys, hopen⟩

/-- Two slashes are accepted as the path of a field, although nothing can be written there.  The
text that the field is given is lost. -/
theorem sequence_accepts_bare_slashes :
    (newSequence "org").saveFormat [⟨"//"⟩] = .ok () ∧
      (∀ value, ((Json.obj []).writePath "//" value).2 = false) ∧
      (numberFields "org" 1 .empty [⟨"//"⟩]).1.get? "//" = some "org-1" ∧
      Draft.fill (.obj []) (numberFields "org" 1 .empty [⟨"//"⟩]).1 = .obj [] :=
  ⟨rfl, fun _ => rfl, rfl, rfl⟩

end Generator
end WaterRegistry
