import WaterRegistry.Facility.Key
import WaterRegistry.Proofs.Text.Alphanumeric

/-!
# The parts of an identifier

An identifier has five parts with dashes between them.  Each of them is made of ASCII letters and
digits, so an identifier can be cut into its parts again: two identifiers are the same exactly when
all their parts are.
-/

namespace WaterRegistry

/-- Digits and capitals are letters and digits. -/
theorem isAlphanum_of_digit_or_capital {c : Char}
    (h : '0' ≤ c ∧ c ≤ '9' ∨ 'A' ≤ c ∧ c ≤ 'Z') : c.isAlphanum = true := by
  simp only [Char.isAlphanum, Char.isAlpha, Char.isUpper, Char.isDigit, Bool.or_eq_true,
    Bool.and_eq_true, decide_eq_true_eq]
  rcases h with hdigit | hcapital
  · exact .inr hdigit
  · exact .inl (.inl hcapital)

/-- One to three digits and capitals. -/
structure IsAbbreviation (code : String) : Prop where
  length_pos : 1 ≤ code.length
  length_le : code.length ≤ 3
  digit_or_capital : ∀ c ∈ code.toList, '0' ≤ c ∧ c ≤ '9' ∨ 'A' ≤ c ∧ c ≤ 'Z'

theorem isAbbreviation_unknownCode : IsAbbreviation unknownCode where
  length_pos := by decide
  length_le := by decide
  digit_or_capital := by
    have hletters : unknownCode.toList = ['U', 'N', 'K'] := rfl
    simp only [hletters, List.mem_cons, List.not_mem_nil, or_false]
    rintro c (rfl | rfl | rfl) <;> decide

/-- Whatever a place is called, its abbreviation is a short code. -/
theorem isAbbreviation_abbreviate (name : String) : IsAbbreviation (abbreviate name) := by
  have hcapital : ∀ c : Char, c.isAlphanum = true →
      '0' ≤ c.toUpper ∧ c.toUpper ≤ '9' ∨ 'A' ≤ c.toUpper ∧ c.toUpper ≤ 'Z' := fun c hc =>
    ascii_forall (p := fun c => c.isAlphanum = true →
      '0' ≤ c.toUpper ∧ c.toUpper ≤ '9' ∨ 'A' ≤ c.toUpper ∧ c.toUpper ≤ 'Z')
      (by decide +kernel) (toNat_lt_of_isAlphanum hc) hc
  unfold abbreviate
  split
  · exact isAbbreviation_unknownCode
  · rename_i hsome
    have hpos : 0 < (initials name).length := List.length_pos_iff.2 (by simpa using hsome)
    refine ⟨?_, ?_, ?_⟩
    · rwa [String.length_ofList]
    · rw [String.length_ofList, initials, List.length_map]
      exact List.length_take_le 3 _
    · rw [String.toList_ofList, initials, List.forall_mem_map]
      intro c hc
      exact hcapital c (List.mem_filter.1 (List.mem_of_mem_take hc)).2

theorem IsAbbreviation.isAlphanum {code : String} (h : IsAbbreviation code) :
    ∀ c ∈ code.toList, c.isAlphanum = true := fun c hc =>
  isAlphanum_of_digit_or_capital (h.digit_or_capital c hc)

/-- The code of a type that is listed, or the placeholder. -/
theorem typeCode_cases (waterPointType : String) :
    (waterPointType, typeCode waterPointType) ∈ typeCodes ∨
      waterPointType ∉ typeCodes.map (·.1) ∧ typeCode waterPointType = unknownCode := by
  unfold typeCode
  cases hlookup : typeCodes.lookup waterPointType with
  | some code =>
      left
      obtain ⟨before, after, heq, _⟩ := List.lookup_eq_some_iff.1 hlookup
      rw [heq]
      exact List.mem_append_right _ List.mem_cons_self
  | none =>
      right
      refine ⟨?_, rfl⟩
      intro hlisted
      obtain ⟨entry, hentry, rfl⟩ := List.mem_map.1 hlisted
      exact absurd (List.lookup_eq_none_iff.1 hlookup entry hentry) (by simp)

/-- Types have one code if they are spelled the same way, or none of them is listed. -/
theorem typeCode_eq_iff {waterPointType other : String} :
    typeCode waterPointType = typeCode other ↔
      waterPointType = other ∨
        waterPointType ∉ typeCodes.map (·.1) ∧ other ∉ typeCodes.map (·.1) := by
  have hdistinct : ∀ entry ∈ typeCodes, ∀ second ∈ typeCodes, entry.2 = second.2 →
      entry.1 = second.1 := by decide
  have hknown : ∀ entry ∈ typeCodes, entry.2 ≠ unknownCode := by decide
  constructor
  · intro hcodes
    rcases typeCode_cases waterPointType with hlisted | ⟨hunlisted, hcode⟩
    · rcases typeCode_cases other with hother | ⟨_, hcode⟩
      · exact .inl (hdistinct _ hlisted _ hother hcodes)
      · exact absurd (hcodes.trans hcode) (hknown _ hlisted)
    · rcases typeCode_cases other with hother | ⟨hunlisted', _⟩
      · exact absurd (hcodes.symm.trans hcode) (hknown _ hother)
      · exact .inr ⟨hunlisted, hunlisted'⟩
  · rintro (rfl | ⟨hunlisted, hunlisted'⟩)
    · rfl
    · rcases typeCode_cases waterPointType with hlisted | ⟨_, hcode⟩
      · exact absurd (List.mem_map_of_mem (f := (·.1)) hlisted) hunlisted
      · rcases typeCode_cases other with hother | ⟨_, hcode'⟩
        · exact absurd (List.mem_map_of_mem (f := (·.1)) hother) hunlisted'
        · exact hcode.trans hcode'.symm

theorem isAlphanum_typeCode (waterPointType : String) :
    ∀ c ∈ (typeCode waterPointType).toList, c.isAlphanum = true := by
  have hcodes : ∀ entry ∈ typeCodes, entry.2.toList.all Char.isAlphanum = true := by decide
  rcases typeCode_cases waterPointType with hlisted | ⟨_, hcode⟩
  · exact List.all_eq_true.1 (hcodes _ hlisted)
  · rw [hcode]
    exact isAbbreviation_unknownCode.isAlphanum

theorem hexDigit_of_mem_hashSuffix {values : List String} {c : Char}
    (hc : c ∈ (hashSuffix values).toList) : '0' ≤ c ∧ c ≤ '9' ∨ 'A' ≤ c ∧ c ≤ 'F' := by
  have hdigit : ∀ n < 16, '0' ≤ capitalHexDigit n ∧ capitalHexDigit n ≤ '9' ∨
      'A' ≤ capitalHexDigit n ∧ capitalHexDigit n ≤ 'F' := by decide
  rw [hashSuffix, String.toList_ofList] at hc
  obtain ⟨byte, _, hbyte⟩ := List.mem_flatMap.1 hc
  have hlt := byte.toNat_lt
  rcases List.mem_cons.1 hbyte with rfl | hlow
  · exact hdigit _ (by omega)
  · rw [List.mem_singleton.1 hlow]
    exact hdigit _ (by omega)

theorem isAlphanum_hashSuffix (values : List String) :
    ∀ c ∈ (hashSuffix values).toList, c.isAlphanum = true := fun c hc =>
  isAlphanum_of_digit_or_capital
    ((hexDigit_of_mem_hashSuffix hc).imp_right fun h => ⟨h.1, Char.le_trans h.2 (by decide)⟩)

/-- What stands in a joined list is part of a separator or of a piece. -/
theorem of_mem_intercalate {α : Type} {a : α} {separator : List α} {pieces : List (List α)}
    (h : a ∈ separator.intercalate pieces) : a ∈ separator ∨ ∃ piece ∈ pieces, a ∈ piece := by
  induction pieces with
  | nil => simp [List.intercalate] at h
  | cons piece rest ih =>
      cases rest with
      | nil =>
          rw [List.intercalate_singleton] at h
          exact .inr ⟨piece, List.mem_cons_self, h⟩
      | cons second more =>
          rw [List.intercalate_cons_cons, List.mem_append, List.mem_append] at h
          rcases h with (hpiece | hseparator) | hrest
          · exact .inr ⟨piece, List.mem_cons_self, hpiece⟩
          · exact .inl hseparator
          · exact (ih hrest).imp_right fun ⟨other, hother, ha⟩ =>
              ⟨other, List.mem_cons_of_mem _ hother, ha⟩

namespace FacilityKey

/-- What an identifier is made of. -/
def parts (key : FacilityKey) : List String :=
  ["WF", abbreviate key.county, abbreviate key.district, typeCode key.waterPointType,
    hashSuffix key.values]

theorem isAlphanum_parts (key : FacilityKey) :
    ∀ part ∈ key.parts.map String.toList, ∀ c ∈ part, c.isAlphanum = true := by
  simp only [parts, List.map_cons, List.map_nil, List.forall_mem_cons]
  exact ⟨List.all_eq_true.1 (by decide), (isAbbreviation_abbreviate _).isAlphanum,
    (isAbbreviation_abbreviate _).isAlphanum, isAlphanum_typeCode _, isAlphanum_hashSuffix _, nofun⟩

theorem toList_id (key : FacilityKey) :
    key.id.toList = ['-'].intercalate (key.parts.map String.toList) :=
  String.toList_intercalate

/-- Cutting an identifier at its dashes gives its parts. -/
theorem splitOn_id (key : FacilityKey) :
    key.id.toList.splitOn '-' = key.parts.map String.toList := by
  rw [toList_id]
  apply List.splitOn_intercalate _ _ (by simp [parts])
  intro part hpart hdash
  exact absurd (key.isAlphanum_parts part hpart '-' hdash) (by decide)

/-- An identifier has only letters, digits and dashes. -/
theorem of_mem_id {key : FacilityKey} {c : Char} (h : c ∈ key.id.toList) :
    c.isAlphanum = true ∨ c = '-' := by
  rw [toList_id] at h
  rcases of_mem_intercalate h with hdash | ⟨part, hpart, hc⟩
  · exact .inr (List.mem_singleton.1 hdash)
  · exact .inl (key.isAlphanum_parts part hpart c hc)

theorem id_eq_iff {key other : FacilityKey} :
    key.id = other.id ↔
      abbreviate key.county = abbreviate other.county ∧
        abbreviate key.district = abbreviate other.district ∧
        typeCode key.waterPointType = typeCode other.waterPointType ∧
        hashSuffix key.values = hashSuffix other.values := by
  constructor
  · intro h
    have hparts : key.parts.map String.toList = other.parts.map String.toList := by
      rw [← splitOn_id, ← splitOn_id, h]
    simpa [parts, String.toList_inj] using hparts
  · rintro ⟨hcounty, hdistrict, htype, hhash⟩
    rw [id, hcounty, hdistrict, htype, hhash]
    rfl

end FacilityKey
end WaterRegistry
