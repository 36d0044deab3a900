import WaterRegistry.Proofs.Document.Dotted
import WaterRegistry.Registry.Creation

/-!
# Identifiers in fields of the document itself

Where the path of an identifier field is a single key, with one slash in front or without, filling an
object sets some of its fields.  Two paths may name one field, and then the text that is written last
stays.
-/

namespace WaterRegistry
namespace IdentifierField

/-- A path that names a field of the document itself, other than the id: a single key, one slash in
front left aside, that has no escapes. -/
structure IsRootKey (field : IdentifierField) : Prop where
  ne_empty : field.bareName ≠ ""
  slash_not_mem : '/' ∉ field.bareName.toList
  tilde_not_mem : '~' ∉ field.bareName.toList
  ne_osid : field.bareName ≠ osidField

namespace IsRootKey

variable {field : IdentifierField}

instance : Decidable field.IsRootKey :=
  decidable_of_iff (field.bareName ≠ "" ∧ '/' ∉ field.bareName.toList ∧
      '~' ∉ field.bareName.toList ∧ field.bareName ≠ osidField)
    ⟨fun ⟨hempty, hslash, htilde, hosid⟩ => ⟨hempty, hslash, htilde, hosid⟩,
      fun ⟨hempty, hslash, htilde, hosid⟩ => ⟨hempty, hslash, htilde, hosid⟩⟩

theorem segments_eq (h : field.IsRootKey) : field.segments = [field.bareName] := by
  have hsplit : splitOnChar '/' ("/".intercalate [field.bareName]) = [field.bareName] :=
    splitOnChar_intercalate (List.cons_ne_nil _ _) (by simpa using h.slash_not_mem)
  rwa [String.intercalate_singleton] at hsplit

theorem pathKeys_eq (h : field.IsRootKey) : Json.pathKeys field.path = [field.bareName] := by
  rw [Json.pathKeys_eq_filter_segments, h.segments_eq]
  simp [h.ne_empty]

/-- Writing sets the field. -/
theorem writePath_eq (h : field.IsRootKey) (fields : Fields) (value : Json) :
    (Json.obj fields).writePath field.path value =
      (.obj (Fields.set field.bareName value fields), true) := by
  rw [Json.writePath, h.pathKeys_eq]
  rfl

/-- The store reads the field. -/
theorem pointer?_eq (h : field.IsRootKey) (fields : Fields) :
    (Json.obj fields).pointer? (Store.pointerOfPath field.path) =
      Fields.get? field.bareName fields := by
  have htokens : Store.tokensOfPath field.path = [field.bareName] := by
    rw [Store.tokensOfPath, h.segments_eq, List.map_singleton,
      Json.unescapeToken_of_tilde_not_mem h.tilde_not_mem, String.ofList_toList]
  rw [Store.pointer?_pointerOfPath, htokens]
  cases hget : Fields.get? field.bareName fields <;> simp [Json.followTokens, Json.step?, hget]

end IsRootKey
end IdentifierField

namespace Draft

/-- The key that a generated text is written under. -/
def keyOf (entry : String × String) : String :=
  IdentifierField.bareName ⟨entry.1⟩

/-- A filled object holds the last of the texts that are written under a key.  A key that none is
written under is as it has been. -/
theorem fill_of_isRootKey {generated : GeneratedIdentifier}
    (hkeys : ∀ entry ∈ generated.entries, IdentifierField.IsRootKey ⟨entry.1⟩) (fields : Fields) :
    ∃ filled, fill (.obj fields) generated = .obj filled ∧ ∀ key,
      (∃ last ∈ generated.entries, keyOf last = key ∧
        Fields.get? key filled = some (.str last.2)) ∨
      (∀ entry ∈ generated.entries, keyOf entry ≠ key) ∧
        Fields.get? key filled = Fields.get? key fields := by
  unfold fill
  generalize generated.entries = entries at hkeys ⊢
  induction entries generalizing fields with
  | nil => exact ⟨fields, rfl, fun key => .inr ⟨nofun, rfl⟩⟩
  | cons entry rest ih =>
      obtain ⟨filled, hfilled, hall⟩ :=
        ih (Fields.set (keyOf entry) (.str entry.2) fields)
          fun other hother => hkeys other (List.mem_cons_of_mem _ hother)
      refine ⟨filled, ?_, fun key => ?_⟩
      · rw [List.foldl_cons, (hkeys entry List.mem_cons_self).writePath_eq]
        exact hfilled
      · rcases hall key with ⟨last, hlast, hkey, hget⟩ | ⟨hnone, hget⟩
        · exact .inl ⟨last, List.mem_cons_of_mem _ hlast, hkey, hget⟩
        · -- No later text is written under this key.
          by_cases hown : keyOf entry = key
          · left
            rw [hown, Fields.get?_set_self] at hget
            exact ⟨entry, List.mem_cons_self, hown, hget⟩
          · right
            rw [Fields.get?_set_of_ne (Ne.symm hown)] at hget
            refine ⟨fun other hother => ?_, hget⟩
            rcases List.mem_cons.1 hother with rfl | hrest
            · exact hown
            · exact hnone other hrest

end Draft
end WaterRegistry
