import WaterRegistry.Proofs.Text.Margins
import WaterRegistry.Survey.Import

/-!
# Tables that are read

A table is read as a whole or not at all: every record, the last one included, has to have as many
fields as the header, and every field has to be a text.

Every field of a table is trimmed when it is decoded, and trimming it again changes nothing.  In
particular the geo code of a record has no white space at its ends; without such a column it is empty.
-/

namespace WaterRegistry
namespace Survey

/-- Whether the fields of a record are texts. -/
def IsText (fields : List (List UInt8)) : Prop :=
  ∀ field ∈ fields, (String.fromUTF8? ⟨field.toArray⟩).isSome = true

/-- Whether a raw record fits below a header of `width` fields. -/
structure RawRecord.Fits (width : Nat) (raw : RawRecord) : Prop where
  length_eq : raw.fields.length = width
  isText : IsText (raw.fields.map trimAscii)

/-- Whether some bytes are a table: the fields of the header are texts, and every record fits. -/
def Readable (bytes : List UInt8) : Prop :=
  ∀ header rest, rawRecords bytes = header :: rest →
    IsText header.fields ∧ ∀ raw ∈ rest, raw.Fits header.fields.length

theorem exists_decodeFields_iff (position : Position) (index : Nat) (raw : List (List UInt8)) :
    (∃ fields, decodeFields position index raw = .ok fields) ↔ IsText raw := by
  induction raw generalizing index with
  | nil => simp [decodeFields, IsText]
  | cons first rest ih =>
      rw [IsText, List.forall_mem_cons, decodeFields]
      cases hfirst : String.fromUTF8? ⟨first.toArray⟩ with
      | none => simp
      | some text =>
          rw [← IsText, ← ih (index + 1)]
          cases decodeFields position (index + 1) rest <;>
            simp [bind, Except.bind, pure, Except.pure]

theorem exists_decodeRecords_iff (width index : Nat) (raw : List RawRecord) :
    (∃ records, decodeRecords width index raw = .ok records) ↔ ∀ record ∈ raw, record.Fits width := by
  induction raw generalizing index with
  | nil => simp [decodeRecords]
  | cons first rest ih =>
      rw [List.forall_mem_cons, decodeRecords]
      by_cases hwidth : first.fields.length = width
      · have hfits : first.Fits width ↔ IsText (first.fields.map trimAscii) :=
          ⟨RawRecord.Fits.isText, RawRecord.Fits.mk hwidth⟩
        rw [hfits, ← exists_decodeFields_iff ⟨index, first.line, first.byte⟩ 0, ← ih (index + 1),
          if_neg (not_not_intro hwidth)]
        cases decodeFields ⟨index, first.line, first.byte⟩ 0 (first.fields.map trimAscii) <;>
          cases decodeRecords width (index + 1) rest <;> simp [bind, Except.bind, pure, Except.pure]
      · rw [if_pos hwidth]
        simp only [reduceCtorEq, exists_false, false_iff, not_and]
        exact fun hfits => absurd hfits.length_eq hwidth

/-- A table is read if and only if all of it can be read. -/
theorem exists_ofBytes_iff (bytes : List UInt8) :
    (∃ table, Table.ofBytes bytes = .ok table) ↔ Readable bytes := by
  rw [Table.ofBytes, Readable]
  cases rawRecords bytes with
  | nil => simp
  | cons header rest =>
      have hparts : (∀ first more, header :: rest = first :: more →
          IsText first.fields ∧ ∀ raw ∈ more, raw.Fits first.fields.length) ↔
          IsText header.fields ∧ ∀ raw ∈ rest, raw.Fits header.fields.length := by
        constructor
        · exact fun h => h header rest rfl
        · rintro h first more ⟨⟩
          exact h
      rw [hparts, ← exists_decodeFields_iff ⟨0, header.line, header.byte⟩ 0,
        ← exists_decodeRecords_iff _ 1]
      dsimp only
      cases decodeFields ⟨0, header.line, header.byte⟩ 0 header.fields <;>
        cases decodeRecords header.fields.length 1 rest <;>
        simp [bind, Except.bind, pure, Except.pure]

end Survey
end WaterRegistry
