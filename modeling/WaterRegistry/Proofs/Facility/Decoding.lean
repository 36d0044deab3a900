import WaterRegistry.Proofs.Facility.Canonical
import WaterRegistry.Proofs.Facility.Parts

/-!
# What an identifier tells

None of the five parts of an identifier is empty or has a dash, so the parts can be read off whatever
text the facility was described with: two short codes for its places, the code of its type, and the
first three bytes of the digest, which are written in full.  Nothing else goes into an identifier, so
identifiers are equal exactly if these are; and they have no character that could end a field or a
line.
-/

namespace WaterRegistry

theorem length_digest (message : List UInt8) : (Sha256.digest message).length = 32 := by
  simp [Sha256.digest, Sha256.bytes]

/-- Three bytes make six hexadecimal digits. -/
theorem length_hashSuffix (values : List String) : (hashSuffix values).length = 6 := by
  have hbyte : ∀ bytes : List UInt8, (bytes.flatMap hexByte).length = 2 * bytes.length := by
    intro bytes
    induction bytes with
    | nil => rfl
    | cons byte rest ih => simp [hexByte, ih, Nat.mul_succ]
  have hbytes : (digestBytes values).length = 3 := by
    rw [digestBytes, List.length_take, length_digest]
    rfl
  rw [hashSuffix, String.length_ofList, hbyte, hbytes]

namespace FacilityKey

/-- The first three bytes of the digest of the values. -/
def keptBytes (key : FacilityKey) : List UInt8 :=
  (Sha256.digest (utf8Bytes (canonicalText
    [key.geoCode, key.waterPointType, key.county, key.district, key.community]))).take 3

theorem splitOnChar_id (key : FacilityKey) : splitOnChar '-' key.id = key.parts := by
  rw [splitOnChar, pieces_eq_splitOn, splitOn_id, List.map_map]
  simp

/-- An identifier has neither bars nor white space. -/
theorem separates_of_mem_id {key : FacilityKey} {c : Char} (hc : c ∈ key.id.toList) :
    c ≠ '|' ∧ isBlank c = false := by
  rcases of_mem_id hc with halnum | rfl
  · exact ascii_forall (p := fun c => c.isAlphanum = true → c ≠ '|' ∧ isBlank c = false)
      (by decide +kernel) (toNat_lt_of_isAlphanum halnum) halnum
  · decide

/-- An identifier can be cut into its five parts, which have their forms whatever the values are, and
from the last of which the bytes of the digest can be read.  So two facilities share an identifier
exactly if their short codes, their type codes and their bytes are equal.  No identifier has a bar,
white space or a line break. -/
theorem id_decodable (key : FacilityKey) :
    (∃ county district type suffix : String,
      splitOnChar '-' key.id = ["WF", county, district, type, suffix] ∧
      (county = abbreviate key.county ∧ IsAbbreviation county) ∧
      (district = abbreviate key.district ∧ IsAbbreviation district) ∧
      (type = typeCode key.waterPointType ∧ (type = "UNK" ∨ type ∈ typeCodes.map (·.2))) ∧
      suffix.length = 6 ∧
      (∀ c ∈ suffix.toList, '0' ≤ c ∧ c ≤ '9' ∨ 'A' ≤ c ∧ c ≤ 'F') ∧
      bytesOfHex? suffix.toList = some key.keptBytes) ∧
    (∀ other : FacilityKey, key.id = other.id ↔
      abbreviate key.county = abbreviate other.county ∧
        abbreviate key.district = abbreviate other.district ∧
        typeCode key.waterPointType = typeCode other.waterPointType ∧
        key.keptBytes = other.keptBytes) ∧
    ∀ c ∈ key.id.toList, c ≠ '|' ∧ isBlank c = false ∧ c ≠ '\r' ∧ c ≠ '\n' := by
  refine ⟨⟨_, _, _, _, key.splitOnChar_id, ⟨rfl, isAbbreviation_abbreviate _⟩,
    ⟨rfl, isAbbreviation_abbreviate _⟩, ⟨rfl, ?_⟩, length_hashSuffix _,
    fun c => hexDigit_of_mem_hashSuffix, ?_⟩, fun other => ?_, fun c hc => ?_⟩
  · rcases typeCode_cases key.waterPointType with hlisted | ⟨_, hunknown⟩
    · exact .inr (List.mem_map_of_mem hlisted)
    · exact .inl hunknown
  · rw [hashSuffix, String.toList_ofList, bytesOfHex?_flatMap_hexByte]
    rfl
  · rw [id_eq_iff, hashSuffix_eq_iff]
    rfl
  · obtain ⟨hbar, hblank⟩ := separates_of_mem_id hc
    refine ⟨hbar, hblank, ?_, ?_⟩ <;> rintro rfl <;> exact absurd hblank (by decide)

/-- A facility whose county has no letters, in two spellings that change none of the parts. -/
theorem id_decodable_of_spring :
    let key : FacilityKey := ⟨"6CVX", "Protected spring", "--", "St. 2nd", "Town"⟩
    let other : FacilityKey := ⟨" 6cvx", "Protected spring", "\t--", "ST. 2ND", "town"⟩
    (∃ suffix, splitOnChar '-' key.id = ["WF", "UNK", "ST2", "PS", suffix] ∧ suffix.length = 6) ∧
      key.id = other.id ∧ 'W' ∈ key.id.toList ∧ 'W' ≠ '|' ∧ isBlank 'W' = false := by
  intro key other
  -- The digested texts are the same, so their digests need not be computed.
  have htext : canonicalText key.values = canonicalText other.values := by decide +kernel
  have hbytes : key.keptBytes = other.keptBytes :=
    congrArg (fun text => (Sha256.digest (utf8Bytes text)).take 3) htext
  obtain ⟨⟨county, district, type, suffix, hsplit, ⟨hcounty, _⟩, ⟨hdistrict, _⟩, ⟨htype, _⟩,
    hlength, _⟩, hequal, hplain⟩ := key.id_decodable
  have hcodes : abbreviate key.county = "UNK" ∧ abbreviate key.district = "ST2" ∧
      typeCode key.waterPointType = "PS" := by decide
  rw [hcounty, hdistrict, htype, hcodes.1, hcodes.2.1, hcodes.2.2] at hsplit
  have hmem : 'W' ∈ key.id.toList := by
    rw [toList_id]
    simp [parts, List.intercalate_cons_cons]
  obtain ⟨hbar, hblank, _⟩ := hplain 'W' hmem
  exact ⟨⟨suffix, hsplit, hlength⟩, (hequal other).2 ⟨by decide, by decide, rfl, hbytes⟩, hmem, hbar,
    hblank⟩

end FacilityKey
end WaterRegistry
